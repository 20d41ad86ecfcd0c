import Mathlib.Data.Nat.Digits.Defs
import EditionCheck.Json.Reader
import EditionCheck.Json.Writer

/-!
  Single tokens of JSON, written and read back.

  The digits of a whole number are read as that number as long as it fits 64 bits and no more of a
  number follows (`numeral_toDigits`); a string between its quotes is read as that string whatever
  characters it has (`string_escaped`).
-/

namespace EditionCheck.Json

/-! ## Digits -/

/-- The digits of a number that is not zero do not start with a zero. -/
theorem toDigits_head {n : Nat} (hn : 0 < n) :
    ∃ c cs, Nat.toDigits 10 n = c :: cs ∧ c ≠ '0' := by
  induction n using Nat.strong_induction_on with
  | _ n ih =>
    by_cases h : n < 10
    · refine ⟨n.digitChar, [], Nat.toDigits_of_lt_base h, ?_⟩
      intro hc
      have hzero : n = 0 := Nat.digitChar_eq_zero.1 hc
      omega
    · have hdiv : 0 < n / 10 := by omega
      obtain ⟨c, cs, hcs, hc⟩ := ih (n / 10) (by omega) hdiv
      refine ⟨c, cs ++ [(n % 10).digitChar], ?_, hc⟩
      rw [Nat.toDigits_of_base_le (by decide) (by omega), hcs, List.cons_append]

theorem isDigit_of_mem_toDigits {n : Nat} {c : Char} (h : c ∈ Nat.toDigits 10 n) :
    c.isDigit = true :=
  Nat.isDigit_of_mem_toDigits (by decide) (by decide) h

theorem toDigits_cons (n : Nat) : ∃ c cs, Nat.toDigits 10 n = c :: cs ∧ c.isDigit = true := by
  obtain ⟨c, cs, hcs⟩ := List.exists_cons_of_ne_nil (Nat.toDigits_ne_nil (b := 10) (n := n))
  exact ⟨c, cs, hcs, isDigit_of_mem_toDigits (hcs ▸ List.mem_cons_self)⟩

theorem le_ofDigitChars (ds : List Char) (n : Nat) : n ≤ Nat.ofDigitChars 10 ds n := by
  rw [Nat.ofDigitChars_eq_ofDigitChars_zero]
  have hpow : 1 ≤ 10 ^ ds.length := Nat.one_le_pow _ _ (by decide)
  have hmul : 1 * n ≤ 10 ^ ds.length * n := Nat.mul_le_mul_right n hpow
  omega

/-- All digits are taken as long as the number stays within the limit. -/
theorem gather_digits {limit n count : Nat} {ds rest : List Char} (hds : ∀ c ∈ ds, c.isDigit = true)
    (hlimit : Nat.ofDigitChars 10 ds n ≤ limit) (hrest : startsWithDigit rest = false) :
    gather limit n count (ds ++ rest) = (Nat.ofDigitChars 10 ds n, count + ds.length, rest) := by
  induction ds generalizing n count with
  | nil =>
    cases rest with
    | nil => rfl
    | cons c cs =>
      have hc : c.isDigit = false := hrest
      rw [List.nil_append, gather, hc]
      rfl
  | cons c ds ih =>
    have hc : c.isDigit = true := hds c List.mem_cons_self
    have hvalue : n * 10 + digitValue c = 10 * n + (c.toNat - '0'.toNat) := by
      rw [Nat.mul_comm]
      rfl
    rw [Nat.ofDigitChars_cons, ← hvalue] at hlimit
    have hle : n * 10 + digitValue c ≤ limit := Nat.le_trans (le_ofDigitChars ds _) hlimit
    have hgo : gather limit (n * 10 + digitValue c) (count + 1) (ds ++ rest) =
        (Nat.ofDigitChars 10 ds (n * 10 + digitValue c), count + 1 + ds.length, rest) :=
      ih (fun x hx => hds x (List.mem_cons_of_mem c hx)) hlimit
    rw [List.cons_append, gather, hc, if_pos (by simpa using hle), hgo, Nat.ofDigitChars_cons,
      ← hvalue, List.length_cons]
    congr 2
    omega

/-- What follows is not part of a number. -/
def EndsNumber (rest : List Char) : Prop :=
  ∀ c cs, rest = c :: cs → c.isDigit = false ∧ c ≠ '.' ∧ c ≠ 'e' ∧ c ≠ 'E'

theorem EndsNumber.startsWithDigit {rest : List Char} (h : EndsNumber rest) :
    startsWithDigit rest = false := by
  cases rest with
  | nil => rfl
  | cons c cs => exact (h c cs rfl).1

theorem EndsNumber.dropWhile {rest : List Char} (h : EndsNumber rest) :
    rest.dropWhile Char.isDigit = rest := by
  cases rest with
  | nil => rfl
  | cons c cs => rw [List.dropWhile_cons_of_neg (by rw [(h c cs rfl).1]; decide)]

/-- The digits of a whole number of 64 bits are read as that number. -/
theorem numeral_toDigits {n : Nat} (hn : n ≤ maxSignificand) {rest : List Char}
    (hrest : EndsNumber rest) :
    numeral false (Nat.toDigits 10 n ++ rest) = .ok ⟨.ok (.integer n), rest⟩ := by
  have hgather : gather maxSignificand 0 0 (Nat.toDigits 10 n ++ rest) =
      (n, 0 + (Nat.toDigits 10 n).length, rest) := by
    have hlimit : Nat.ofDigitChars 10 (Nat.toDigits 10 n) 0 ≤ maxSignificand := by
      rw [Nat.ofDigitChars_ten_toDigits]
      exact hn
    rw [gather_digits (fun c hc => isDigit_of_mem_toDigits hc) hlimit hrest.startsWithDigit,
      Nat.ofDigitChars_ten_toDigits]
  obtain ⟨c, cs, hcs, hc⟩ := toDigits_cons n
  have hzero : (c == '0' && startsWithDigit (cs ++ rest)) = false := by
    by_cases h0 : n = 0
    · have hone : Nat.toDigits 10 n = ['0'] := by rw [h0]; exact Nat.toDigits_zero 10
      rw [hone, List.cons.injEq] at hcs
      rw [← hcs.2, List.nil_append, hrest.startsWithDigit, Bool.and_false]
    · obtain ⟨c', cs', hcs', hc'⟩ := toDigits_head (Nat.pos_of_ne_zero h0)
      rw [hcs, List.cons.injEq] at hcs'
      have hne : (c == '0') = false := by rw [hcs'.1]; exact beq_false_of_ne hc'
      rw [hne, Bool.false_and]
  rw [hcs, List.cons_append] at hgather ⊢
  unfold numeral
  simp only [hc, hzero, hgather, hrest.dropWhile, Nat.sub_self]
  cases rest with
  | nil => rfl
  | cons r rs =>
    obtain ⟨-, hpoint, he, hE⟩ := hrest r rs rfl
    simp only [Bool.not_true, Bool.false_eq_true, if_false]
    split
    · next places h => exact absurd (List.cons.inj h).1 hpoint
    · next tail h => exact absurd (List.cons.inj h).1 he
    · next tail h => exact absurd (List.cons.inj h).1 hE
    · rfl

/-! ## Strings -/

/-- Two hexadecimal digits of a control character are read as its number. -/
theorem codeUnit_control {n : Nat} (hn : n < 32) (rest : List Char) :
    codeUnit ('0' :: '0' :: hexDigit (n / 16) :: hexDigit (n % 16) :: rest) = .ok (n, rest) := by
  have hall : ∀ m < 32, Text.hexNumber? ['0', '0', hexDigit (m / 16), hexDigit (m % 16)] = some m := by
    decide
  simp only [codeUnit, hall n hn]

theorem unicodeEscape_control (skim : Bool) {c : Char} (hc : c.toNat < 32) (rest : List Char) :
    unicodeEscape skim ('0' :: '0' :: hexDigit (c.toNat / 16) :: hexDigit (c.toNat % 16) :: rest) =
      .ok (c, rest) := by
  have hlow : isLow c.toNat = false := by
    simp only [isLow, Bool.and_eq_false_iff, decide_eq_false_iff_not]
    omega
  have hhigh : isHigh c.toNat = false := by
    simp only [isHigh, Bool.and_eq_false_iff, decide_eq_false_iff_not]
    omega
  simp only [unicodeEscape, codeUnit_control hc, hlow, hhigh, Char.ofNat_toNat]
  cases skim <;> rfl

/-- One character is read back from its written form. -/
theorem stringBody_escape (skim : Bool) (fuel : Nat) (c : Char) (rest : List Char) :
    stringBody skim (fuel + 1) (escape c ++ rest) =
      (stringBody skim fuel rest).map fun p => (c :: p.1, p.2) := by
  have hbackslash : ∀ {d : Char} {cs : List Char}, escapeSequence skim cs = .ok (d, rest) →
      stringBody skim (fuel + 1) ('\\' :: cs) =
        (stringBody skim fuel rest).map fun p => (d :: p.1, p.2) := by
    intro d cs h
    rw [stringBody]
    simp only [h]
    cases stringBody skim fuel rest <;> rfl
  by_cases hnamed : c ∈ ['"', '\\', '\n', '\r', '\t', '\x08', '\x0c']
  · simp only [List.mem_cons, List.not_mem_nil, or_false] at hnamed
    rcases hnamed with rfl | rfl | rfl | rfl | rfl | rfl | rfl <;> exact hbackslash rfl
  simp only [List.mem_cons, List.not_mem_nil, or_false, not_or] at hnamed
  obtain ⟨hquote, hslash, hn, hr, ht, hb, hf⟩ := hnamed
  have hescape : escape c = if c.toNat < 32 then
      ['\\', 'u', '0', '0', hexDigit (c.toNat / 16), hexDigit (c.toNat % 16)] else [c] := by
    simp [escape, hquote, hslash, hn, hr, ht, hb, hf]
  rw [hescape]
  by_cases hcontrol : c.toNat < 32
  · rw [if_pos hcontrol]
    exact hbackslash (unicodeEscape_control skim hcontrol rest)
  · rw [if_neg hcontrol, List.singleton_append, stringBody]
    simp only [hquote, hslash, hcontrol, beq_iff_eq, if_false]
    cases stringBody skim fuel rest <;> rfl

theorem length_le_escaped (cs : List Char) : cs.length ≤ (escaped cs).length := by
  induction cs with
  | nil => exact Nat.le_refl 0
  | cons c cs ih =>
    have hc : 1 ≤ (escape c).length := by
      unfold escape
      split_ifs <;> simp
    rw [escaped, List.length_append, List.length_cons]
    omega

theorem stringBody_escaped (skim : Bool) {fuel : Nat} {cs : List Char} (h : cs.length < fuel)
    (rest : List Char) : stringBody skim fuel (escaped cs ++ '"' :: rest) = .ok (cs, rest) := by
  induction cs generalizing fuel with
  | nil =>
    obtain ⟨n, rfl⟩ := Nat.exists_eq_succ_of_ne_zero (Nat.ne_of_gt h)
    rfl
  | cons c cs ih =>
    rw [List.length_cons] at h
    obtain ⟨n, rfl⟩ := Nat.exists_eq_succ_of_ne_zero (Nat.ne_of_gt (Nat.zero_lt_of_lt h))
    have hrest : stringBody skim n (escaped cs ++ '"' :: rest) = .ok (cs, rest) := ih (by omega)
    rw [escaped, List.append_assoc, stringBody_escape, hrest]
    rfl

/-- A string is read back from its written form, whatever characters it has. -/
theorem string_escaped (skim : Bool) (cs rest : List Char) :
    string skim (escaped cs ++ '"' :: rest) = .ok (cs, rest) := by
  have hlength := length_le_escaped cs
  apply stringBody_escaped
  rw [List.length_append]
  omega

end EditionCheck.Json
