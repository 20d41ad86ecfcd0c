import Mathlib.Data.List.TakeWhile
import EditionCheck.Text.Blank

/-!
  White space around a text.

  Trimming takes blanks away and stops at the first other character (`exists_trimStart`), so what
  blanks stand around a text makes no difference to what is left of it (`trim_padded`). No letter is
  a blank, whatever its case, so it is all one whether a text is trimmed before or after its letters
  are lowered (`trim_map_toLower`).
-/

namespace EditionCheck.Text

/-- The text is made of white space. -/
def Blank (cs : List Char) : Prop := ∀ c ∈ cs, isBlank c = true

instance (cs : List Char) : Decidable (Blank cs) :=
  decidable_of_iff (cs.all isBlank = true) List.all_eq_true

theorem Blank.reverse {cs : List Char} (h : Blank cs) : Blank cs.reverse :=
  fun c hc => h c (List.mem_reverse.1 hc)

/-- What is trimmed from the start of a text is white space, and what is left starts with none. -/
theorem exists_trimStart (cs : List Char) :
    ∃ gap, Blank gap ∧ cs = gap ++ trimStart cs ∧
      ∀ c rest, trimStart cs = c :: rest → isBlank c = false := by
  refine ⟨cs.takeWhile isBlank, fun c hc => List.mem_takeWhile_imp hc,
    List.takeWhile_append_dropWhile.symm, fun c rest h => ?_⟩
  have hhead := List.head?_dropWhile_not isBlank cs
  rw [show cs.dropWhile isBlank = c :: rest from h] at hhead
  exact hhead

section Padding

variable {before after : List Char}

theorem trimStart_append_left (h : Blank before) (cs : List Char) :
    trimStart (before ++ cs) = trimStart cs :=
  List.dropWhile_append_of_pos h

theorem trimEnd_append_right (h : Blank after) (cs : List Char) :
    trimEnd (cs ++ after) = trimEnd cs := by
  rw [trimEnd, List.reverse_append, List.dropWhile_append_of_pos h.reverse, trimEnd]

/-- White space around a text makes no difference to what trimming leaves of it. -/
theorem trim_padded (hbefore : Blank before) (hafter : Blank after) (cs : List Char) :
    trim (before ++ cs ++ after) = trim cs := by
  rw [trim, List.append_assoc, trimStart_append_left hbefore, trim, trimStart,
    List.dropWhile_append]
  split
  · next hnone =>
    -- nothing but white space, some of it behind the text
    have hcs : trimStart cs = [] := List.isEmpty_iff.1 hnone
    rw [List.dropWhile_eq_nil_iff.2 hafter, hcs]
  · exact trimEnd_append_right hafter _

end Padding

/-! ## Case -/

theorem isBlank_of_visible {c : Char} (hlow : 0x20 < c.toNat) (hhigh : c.toNat < 0x85) :
    isBlank c = false := by
  simp only [isBlank, blankRanges, List.any_cons, List.any_nil, Bool.or_false,
    Bool.or_eq_false_iff, Bool.and_eq_false_iff, decide_eq_false_iff_not]
  omega

/-- A letter is no blank, whatever its case. -/
theorem isBlank_toLower (c : Char) : isBlank c.toLower = isBlank c := by
  unfold Char.toLower
  split
  · next hc =>
    have hlow : 65 ≤ c.toNat := UInt32.le_iff_toNat_le.1 hc.1
    have hhigh : c.toNat ≤ 90 := UInt32.le_iff_toNat_le.1 hc.2
    have hshift : (c.val + ('a'.val - 'A'.val)).toNat = c.toNat + 32 := by
      rw [UInt32.toNat_add]
      exact Nat.mod_eq_of_lt (show c.toNat + 32 < 2 ^ 32 by omega)
    have hupper : isBlank c = false := isBlank_of_visible (by omega) (by omega)
    rw [hupper]
    exact isBlank_of_visible (Nat.lt_of_lt_of_eq (by omega) hshift.symm)
      (Nat.lt_of_le_of_lt (Nat.le_of_eq hshift) (by omega))
  · rfl

theorem trim_map_toLower (cs : List Char) :
    trim (cs.map Char.toLower) = (trim cs).map Char.toLower := by
  have hblank : isBlank ∘ Char.toLower = isBlank := funext isBlank_toLower
  simp only [trim, trimStart, trimEnd, List.dropWhile_map, hblank, ← List.map_reverse]

end EditionCheck.Text
