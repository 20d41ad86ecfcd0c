import Mathlib.Data.List.Basic
import EditionCheck.Text.Utf8

/-!
  Texts and their bytes.

  Reading the bytes of a text gives its characters back, and no fault (`pieces_encode`), so neither
  way to decode changes a text that was written as UTF-8. A scan of the bytes that looks for ASCII
  characters meets them where the characters are and nowhere else (`Starts`), also when it comes in
  the middle of a character.
-/

namespace EditionCheck.Text.Utf8

/-! ## One character -/

/-- What the first byte of a character says, by the number of bytes that follow it. -/
theorem lead?_eq_some {b : UInt8} {n : Nat} (hb : b.toNat = n) :
    (n < 0x80 → lead? b = some ⟨0, 0x80, 0xBF, n⟩) ∧
      (0xC2 ≤ n → n < 0xE0 → lead? b = some ⟨1, 0x80, 0xBF, n - 0xC0⟩) ∧
      (0xE0 ≤ n → n < 0xF0 → lead? b =
        some ⟨2, if n = 0xE0 then 0xA0 else 0x80, if n = 0xED then 0x9F else 0xBF, n - 0xE0⟩) ∧
      (0xF0 ≤ n → n < 0xF5 → lead? b =
        some ⟨3, if n = 0xF0 then 0x90 else 0x80, if n = 0xF4 then 0x8F else 0xBF, n - 0xF0⟩) := by
  unfold lead?
  simp only [hb]
  refine ⟨fun h => ?_, fun h h' => ?_, fun h h' => ?_, fun h h' => ?_⟩
  · rw [if_pos h]
  · rw [if_neg (by omega), if_neg (by omega), if_pos h']
  · rw [if_neg (by omega), if_neg (by omega), if_neg (by omega), if_pos h']
  · rw [if_neg (by omega), if_neg (by omega), if_neg (by omega), if_neg (by omega), if_pos h']

/-- A byte that fits adds its six bits. -/
theorem complete_cons {more low high point n : Nat} {b : UInt8} (hb : b.toNat = 0x80 + n)
    (hlow : low ≤ 0x80 + n) (hhigh : 0x80 + n ≤ high) (bytes : List UInt8) :
    complete (more + 1) low high point (b :: bytes) =
      complete more 0x80 0xBF (point * 64 + n) bytes := by
  rw [complete, hb, if_pos (by simp [hlow, hhigh]), Nat.add_sub_cancel_left]

/-- A character that its lead and further bytes make up is read as one. -/
theorem scan_lead (more : List UInt8) {b : UInt8} {l : Lead} {c : Char} {bytes : List UInt8}
    (hlead : lead? b = some l)
    (hmore : complete l.more l.low l.high l.bits (more ++ bytes) = (some c.toNat, bytes))
    (fuel : Nat) : scan (fuel + 1) (b :: (more ++ bytes)) = some c :: scan fuel bytes := by
  rw [scan, hlead]
  simp only [hmore, Option.map_some, Char.ofNat_toNat]

theorem toNat_ofNat {n : Nat} (h : n < 256) : (UInt8.ofNat n).toNat = n :=
  UInt8.toNat_ofNat_of_lt h

/-- The byte that carries the lowest six bits of a number. -/
theorem toNat_lowBits (n : Nat) : (UInt8.ofNat (n % 64 + 128)).toNat = 0x80 + n % 64 := by
  rw [toNat_ofNat (by omega), Nat.add_comm]

theorem scan_encodeChar (c : Char) (fuel : Nat) (bytes : List UInt8) :
    scan (fuel + 1) (String.utf8EncodeChar c ++ bytes) = some c :: scan fuel bytes := by
  obtain ⟨v, hv⟩ : ∃ v, c.toNat = v := ⟨_, rfl⟩
  have hval : c.val.toNat = v := hv
  have hvalid : v < 0xD800 ∨ 0xDFFF < v ∧ v < 0x110000 := hv ▸ c.valid
  unfold String.utf8EncodeChar
  simp only [hval]
  -- the four widths; the lead byte holds the highest bits
  split
  · next h =>
    refine scan_lead [] ((lead?_eq_some (toNat_ofNat (by omega))).1 (by omega)) ?_ fuel
    simp [complete, hv]
  split
  · next h =>
    have hlead : (UInt8.ofNat (v / 64 % 32 + 192)).toNat = 0xC0 + v / 64 := by
      rw [toNat_ofNat (by omega)]
      omega
    refine scan_lead [_] ((lead?_eq_some hlead).2.1 (by omega) (by omega)) ?_ fuel
    dsimp only
    rw [List.cons_append, complete_cons (toNat_lowBits v) (by omega) (by omega), complete, hv]
    congr 2
    omega
  split
  · next h =>
    have hlead : (UInt8.ofNat (v / 4096 % 16 + 224)).toNat = 0xE0 + v / 4096 := by
      rw [toNat_ofNat (by omega)]
      omega
    refine scan_lead [_, _] ((lead?_eq_some hlead).2.2.1 (by omega) (by omega)) ?_ fuel
    dsimp only
    rw [List.cons_append, List.cons_append, complete_cons (toNat_lowBits (v / 64))]
    rotate_left
    · split <;> omega
    · split <;> omega
    rw [complete_cons (toNat_lowBits v) (by omega) (by omega), complete, hv]
    congr 2
    omega
  · next h =>
    have hlead : (UInt8.ofNat (v / 262144 % 8 + 240)).toNat = 0xF0 + v / 262144 := by
      rw [toNat_ofNat (by omega)]
      omega
    refine scan_lead [_, _, _] ((lead?_eq_some hlead).2.2.2 (by omega) (by omega)) ?_ fuel
    dsimp only
    rw [List.cons_append, List.cons_append, List.cons_append,
      complete_cons (toNat_lowBits (v / 4096))]
    rotate_left
    · split <;> omega
    · split <;> omega
    rw [complete_cons (toNat_lowBits (v / 64)) (by omega) (by omega),
      complete_cons (toNat_lowBits v) (by omega) (by omega), complete, hv]
    congr 2
    omega

/-! ## Whole texts -/

@[simp] theorem encode_cons (c : Char) (cs : List Char) :
    encode (c :: cs) = String.utf8EncodeChar c ++ encode cs := List.flatMap_cons

theorem scan_encode {cs : List Char} {fuel : Nat} (h : (encode cs).length ≤ fuel) :
    scan fuel (encode cs) = cs.map some := by
  induction cs generalizing fuel with
  | nil => cases fuel <;> rfl
  | cons c cs ih =>
    have hc := c.utf8Size_pos
    rw [encode_cons, List.length_append, String.length_utf8EncodeChar] at h
    obtain ⟨fuel, rfl⟩ : ∃ k, fuel = k + 1 := ⟨fuel - 1, by omega⟩
    rw [encode_cons, scan_encodeChar, ih (by omega), List.map_cons]

/-- The bytes of a text are its characters, without faults. -/
theorem pieces_encode (cs : List Char) : pieces (encode cs) = cs.map some :=
  scan_encode (Nat.le_refl _)

theorem decode?_encode (cs : List Char) : decode? (encode cs) = some cs := by
  have hsome : cs.mapM (some : Char → Option Char) = some (cs.map id) := List.mapM_pure
  rw [decode?, pieces_encode, List.mapM_map]
  exact hsome.trans (congrArg some (List.map_id cs))

theorem decodeLossy_encode (cs : List Char) : decodeLossy (encode cs) = cs := by
  rw [decodeLossy, pieces_encode, List.map_map]
  exact List.map_id cs

/-! ## Scans of the bytes -/

theorem encodeChar_of_lt {c : Char} (h : c.toNat < 0x80) :
    String.utf8EncodeChar c = [c.toUInt8] := by
  have hval : c.val.toNat ≤ 0x7f := Nat.le_of_lt_succ h
  unfold String.utf8EncodeChar
  simp only [hval, if_true]
  rfl

theorem toNat_toUInt8 {c : Char} (h : c.toNat < 0x80) : c.toUInt8.toNat = c.toNat :=
  UInt8.toNat_ofNat_of_lt (Nat.lt_trans h (by decide))

/-- Every byte of a longer character has its highest bit set. -/
theorem le_of_mem_encodeChar {c : Char} (h : 0x80 ≤ c.toNat) :
    ∀ b ∈ String.utf8EncodeChar c, 0x80 ≤ b.toNat := by
  have hval : ¬c.val.toNat ≤ 0x7f := Nat.not_le.2 h
  unfold String.utf8EncodeChar
  simp only [hval, if_false]
  split
  · simp
    omega
  split
  · simp
    omega
  · simp
    omega

/-- Such a byte is no ASCII character. -/
theorem ne_of_high {b d : UInt8} (hb : 0x80 ≤ b.toNat) (hd : d.toNat < 0x80) : b ≠ d := by
  rintro rfl
  omega

/-- The bytes of a character, as a scan for ASCII characters meets them: the first is one of these
only if the character is, and the others are none. -/
structure Starts (c : Char) (first : UInt8) (more : List UInt8) : Prop where
  bytes : String.utf8EncodeChar c = first :: more
  first_eq {d : Char} (hd : d.toNat < 0x80) : first = d.toUInt8 ↔ c = d
  more_high : ∀ b ∈ more, 0x80 ≤ b.toNat

theorem exists_starts (c : Char) : ∃ first more, Starts c first more := by
  rcases Nat.lt_or_ge c.toNat 0x80 with hc | hc
  · refine ⟨c.toUInt8, [], encodeChar_of_lt hc, fun {d} hd => ⟨fun h => ?_, congrArg _⟩, by simp⟩
    have hnat : c.toNat = d.toNat := by rw [← toNat_toUInt8 hc, h, toNat_toUInt8 hd]
    exact Char.toNat_inj.1 hnat
  · have hhigh := le_of_mem_encodeChar hc
    cases hbytes : String.utf8EncodeChar c with
    | nil =>
      have hlength := String.length_utf8EncodeChar c
      have hpos := c.utf8Size_pos
      rw [hbytes, List.length_nil] at hlength
      omega
    | cons first more =>
      rw [hbytes] at hhigh
      obtain ⟨hfirst, hmore⟩ := List.forall_mem_cons.1 hhigh
      refine ⟨first, more, hbytes, fun {d} hd => ⟨fun h => ?_, ?_⟩, hmore⟩
      · rw [h, toNat_toUInt8 hd] at hfirst
        omega
      · rintro rfl
        omega

namespace Starts

variable {c : Char} {first : UInt8} {more : List UInt8}

theorem length (h : Starts c first more) : 1 + more.length = c.utf8Size := by
  rw [← String.length_utf8EncodeChar, h.bytes, List.length_cons, Nat.add_comm]

/-- A character of one byte has no others. -/
theorem more_eq_nil (h : Starts c first more) (hc : c.utf8Size = 1) : more = [] := by
  have hlength := h.length
  exact List.length_eq_zero_iff.1 (by omega)

theorem encode_cons (h : Starts c first more) (cs : List Char) :
    encode (c :: cs) = first :: (more ++ encode cs) := by
  rw [Utf8.encode_cons, h.bytes, List.cons_append]

/-- A character behind a backslash. -/
theorem encode_escape (h : Starts c first more) (cs : List Char) :
    encode ('\\' :: c :: cs) = 0x5C :: first :: (more ++ encode cs) := by
  rw [← h.encode_cons]
  rfl

end Starts

/-- A text starts with ASCII characters exactly if its bytes start with theirs. -/
theorem isPrefixOf_encode {pre : List Char} (hpre : ∀ d ∈ pre, d.toNat < 0x80) (cs : List Char) :
    (pre.map Char.toUInt8).isPrefixOf (encode cs) = pre.isPrefixOf cs := by
  induction pre generalizing cs with
  | nil => rfl
  | cons d pre ih =>
    obtain ⟨hd, hpre'⟩ := List.forall_mem_cons.1 hpre
    cases cs with
    | nil => rfl
    | cons c cs =>
      obtain ⟨first, more, hc⟩ := exists_starts c
      rw [hc.encode_cons, List.map_cons, List.isPrefixOf_cons_cons, List.isPrefixOf_cons_cons]
      by_cases hdc : d = c
      · subst hdc
        have hone : d.utf8Size = 1 := if_pos (Nat.le_of_lt_succ hd)
        rw [hc.more_eq_nil hone, (hc.first_eq hd).2 rfl, List.nil_append, ih hpre',
          beq_self_eq_true, beq_self_eq_true]
      · have hne : d.toUInt8 ≠ first := fun e => hdc ((hc.first_eq hd).1 e.symm).symm
        rw [beq_false_of_ne hdc, beq_false_of_ne hne, Bool.false_and, Bool.false_and]

end EditionCheck.Text.Utf8
