import EditionCheck.Proofs.Text.Utf8
import EditionCheck.Script.Use

/-!
  Escapes of code points in a name or a string.

  A backslash counts as an escape when an even number of backslashes stands right in front of it;
  after an odd number it is itself escaped. The scan finds an escape `\u{` exactly if there is one
  that counts (`hasCodePointEscape_iff`): the backslashes that it stops at have an even number in
  front of them, and those that it passes over have not. The same scan over bytes may stop in the
  middle of a character, but no byte there is a backslash (`codePointEscapeInBytes_encode`).
-/

namespace EditionCheck.Script

open Text.Utf8 (encode exists_starts isPrefixOf_encode ne_of_high)

/-- How many backslashes a text ends with. -/
def trailingBackslashes (cs : List Char) : Nat := (cs.reverse.takeWhile (· = '\\')).length

/-- Somewhere in the text an escape `\u{` begins whose backslash is not escaped itself. -/
def OpensCodePoint (raw : List Char) : Prop :=
  ∃ before after, raw = before ++ '\\' :: 'u' :: '{' :: after ∧
    trailingBackslashes before % 2 = 0

/-- The same by position, which can be looked up. -/
theorem opensCodePoint_iff {raw : List Char} :
    OpensCodePoint raw ↔ ∃ n < raw.length, ['\\', 'u', '{'] <+: raw.drop n ∧
      trailingBackslashes (raw.take n) % 2 = 0 := by
  constructor
  · rintro ⟨before, after, rfl, heven⟩
    refine ⟨before.length, by simp, ?_, by rwa [List.take_left]⟩
    rw [List.drop_left]
    exact ⟨after, rfl⟩
  · rintro ⟨n, -, ⟨after, hafter⟩, heven⟩
    refine ⟨raw.take n, after, ?_, heven⟩
    calc
      raw = raw.take n ++ raw.drop n := (List.take_append_drop n raw).symm
      _ = raw.take n ++ '\\' :: 'u' :: '{' :: after := by rw [← hafter]; rfl

instance (raw : List Char) : Decidable (OpensCodePoint raw) :=
  decidable_of_iff _ opensCodePoint_iff.symm

theorem trailingBackslashes_concat (cs : List Char) :
    trailingBackslashes (cs ++ ['\\']) = trailingBackslashes cs + 1 := by
  simp [trailingBackslashes]

theorem trailingBackslashes_concat_of_ne {c : Char} (h : c ≠ '\\') (cs : List Char) :
    trailingBackslashes (cs ++ [c]) = 0 := by
  simp [trailingBackslashes, h]

/-- A backslash and the character that it takes along leave the number even. -/
theorem even_trailing_escape {cs : List Char} (h : trailingBackslashes cs % 2 = 0) (c : Char) :
    trailingBackslashes (cs ++ ['\\', c]) % 2 = 0 := by
  have hsplit : cs ++ ['\\', c] = cs ++ ['\\'] ++ [c] := by simp
  rw [hsplit]
  by_cases hc : c = '\\'
  · subst hc
    rw [trailingBackslashes_concat, trailingBackslashes_concat]
    omega
  · rw [trailingBackslashes_concat_of_ne hc]

/-- An escape that is found behind an even number of backslashes. -/
theorem opensCodePoint_append {cs before : List Char} (h : hasCodePointEscape cs = true)
    (hb : trailingBackslashes before % 2 = 0) : OpensCodePoint (before ++ cs) := by
  fun_induction hasCodePointEscape cs generalizing before with
  | case1 after => exact ⟨before, after, rfl, hb⟩
  | case2 c cs _ ih =>
    have hmore := ih h (even_trailing_escape hb c)
    rwa [List.append_assoc] at hmore
  | case3 c cs _ hpair ih =>
    cases cs with
    | nil => cases h
    | cons d cs =>
      have hc : c ≠ '\\' := fun e => hpair d cs e rfl
      have hnone : trailingBackslashes (before ++ [c]) % 2 = 0 := by
        rw [trailingBackslashes_concat_of_ne hc]
      have hmore := ih h hnone
      rwa [List.append_assoc] at hmore
  | case4 => cases h

/-- An escape that is found is one that counts. -/
theorem opensCodePoint_of_has {raw : List Char} (h : hasCodePointEscape raw = true) :
    OpensCodePoint raw := by
  have hstart : trailingBackslashes [] % 2 = 0 := rfl
  exact opensCodePoint_append h hstart

/-! ## Escapes that count are found -/

theorem trailingBackslashes_append (xs ys : List Char) :
    trailingBackslashes (xs ++ ys) =
      if trailingBackslashes ys = ys.length then trailingBackslashes xs + ys.length
      else trailingBackslashes ys := by
  have hlength : ys.reverse.length = ys.length := List.length_reverse
  unfold trailingBackslashes
  rw [List.reverse_append, List.takeWhile_append, ← hlength]
  split
  · rw [List.length_append, Nat.add_comm]
  · rfl

/-- A backslash and the character that it takes along may be left out in front. -/
theorem trailingBackslashes_escape (c : Char) (cs : List Char) :
    trailingBackslashes ('\\' :: c :: cs) % 2 = trailingBackslashes cs % 2 := by
  have hpair : trailingBackslashes ['\\', c] % 2 = 0 := @even_trailing_escape [] rfl c
  have hsplit : '\\' :: c :: cs = ['\\', c] ++ cs := rfl
  rw [hsplit, trailingBackslashes_append]
  split
  · next hall =>
    rw [hall]
    omega
  · rfl

theorem trailingBackslashes_cons_of_ne {c : Char} (h : c ≠ '\\') (cs : List Char) :
    trailingBackslashes (c :: cs) = trailingBackslashes cs := by
  have hone : trailingBackslashes [c] = 0 := trailingBackslashes_concat_of_ne h []
  have hsplit : c :: cs = [c] ++ cs := rfl
  rw [hsplit, trailingBackslashes_append]
  split
  · next hall => rw [hall, hone, Nat.zero_add]
  · rfl

/-- An escape that counts is found. -/
theorem has_of_opensCodePoint {raw : List Char} (h : OpensCodePoint raw) :
    hasCodePointEscape raw = true := by
  obtain ⟨before, after, hraw, heven⟩ := h
  fun_induction hasCodePointEscape raw generalizing before with
  | case1 => rfl
  | case2 c cs hnot ih =>
    -- the scan takes two characters: the escape starts with them, between them or behind them
    match before with
    | [] =>
      cases hraw
      exact absurd rfl (hnot after rfl)
    | [_] =>
      cases hraw
      cases heven
    | _ :: _ :: before =>
      cases hraw
      exact ih before rfl (by rwa [trailingBackslashes_escape] at heven)
  | case3 c cs hnot hpair ih =>
    cases before with
    | nil =>
      cases hraw
      exact absurd rfl (hnot after rfl)
    | cons c before =>
      cases hraw
      obtain ⟨d, cs, hcs⟩ := List.exists_cons_of_ne_nil
        (l := before ++ '\\' :: 'u' :: '{' :: after) (by simp)
      have hc : c ≠ '\\' := fun e => hpair d cs e hcs
      exact ih before rfl (by rwa [trailingBackslashes_cons_of_ne hc] at heven)
  | case4 => cases before <;> cases hraw

/-! ## The scan over bytes -/

/-- The bytes hold an escape `\u{`. Behind a backslash the scan goes on two bytes further, be it in
the middle of a character or beyond the end. -/
def codePointEscapeInBytes : List UInt8 → Bool
  | 0x5C :: 0x75 :: 0x7B :: _ => true
  | 0x5C :: _ :: bytes => codePointEscapeInBytes bytes
  | _ :: bytes => codePointEscapeInBytes bytes
  | [] => false

theorem codePointEscapeInBytes_cons {b : UInt8} (h : b ≠ 0x5C) (bytes : List UInt8) :
    codePointEscapeInBytes (b :: bytes) = codePointEscapeInBytes bytes := by
  rw [codePointEscapeInBytes]
  · exact fun _ e _ => h e
  · exact fun _ _ e _ => h e

/-- What is left of a longer character is passed over. -/
theorem codePointEscapeInBytes_high {high : List UInt8} (h : ∀ b ∈ high, 0x80 ≤ b.toNat)
    (bytes : List UInt8) :
    codePointEscapeInBytes (high ++ bytes) = codePointEscapeInBytes bytes := by
  induction high with
  | nil => rfl
  | cons b high ih =>
    obtain ⟨hb, hhigh⟩ := List.forall_mem_cons.1 h
    rw [List.cons_append, codePointEscapeInBytes_cons (ne_of_high hb (by decide)), ih hhigh]

/-- The scan over the bytes of a text finds what the scan over its characters does. -/
theorem codePointEscapeInBytes_encode (raw : List Char) :
    codePointEscapeInBytes (encode raw) = hasCodePointEscape raw := by
  fun_induction hasCodePointEscape raw with
  | case1 => rfl
  | case2 c cs hnot ih =>
    obtain ⟨first, more, hc⟩ := exists_starts c
    rw [hc.encode_escape, codePointEscapeInBytes, codePointEscapeInBytes_high hc.more_high, ih]
    -- the bytes are not those of the escape, since the characters are not
    intro tail hfirst hmore
    have hu : c = 'u' := (hc.first_eq (by decide)).1 hfirst
    subst hu
    rw [hc.more_eq_nil rfl, List.nil_append] at hmore
    have hbrace : ['{'].isPrefixOf cs = true := by
      rw [← isPrefixOf_encode (by simp) cs, hmore]
      rfl
    obtain ⟨cs', rfl⟩ := List.isPrefixOf_iff_prefix.1 hbrace
    exact hnot cs' rfl rfl
  | case3 c cs hnot hpair ih =>
    obtain ⟨first, more, hc⟩ := exists_starts c
    have hbackslash : first = 0x5C ↔ c = '\\' := hc.first_eq (d := '\\') (by decide)
    rw [hc.encode_cons]
    by_cases he : c = '\\'
    · cases cs with
      | nil =>
        subst he
        rw [hc.more_eq_nil rfl, hbackslash.2 rfl]
        rfl
      | cons d cs => exact absurd rfl (hpair d cs he)
    · have hne : first ≠ 0x5C := fun e => he (hbackslash.1 e)
      rw [codePointEscapeInBytes_cons hne, codePointEscapeInBytes_high hc.more_high, ih]
  | case4 => rfl

/-- In every text, scanned by characters or by bytes, an escape is found exactly if one begins there
behind an even number of backslashes. -/
theorem hasCodePointEscape_iff (raw : List Char) :
    (hasCodePointEscape raw = true ↔ OpensCodePoint raw) ∧
      codePointEscapeInBytes (encode raw) = hasCodePointEscape raw :=
  ⟨⟨opensCodePoint_of_has, has_of_opensCodePoint⟩, codePointEscapeInBytes_encode raw⟩

end EditionCheck.Script
