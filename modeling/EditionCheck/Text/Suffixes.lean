import EditionCheck.Text.Place

/-!
  The suffixes of a text, ready for many questions.

  `Suffixes.ofText` walks over a text once; after that the text from any byte offset on is at hand.
  `suffix_ofText` says that it is what `dropBytes` finds, and `slice_ofText` does so for slices.
-/

namespace EditionCheck.Text

/-- For each byte of a text, the text from there on; empty inside a character. -/
def suffixList : List Char → List (List Char)
  | [] => []
  | c :: cs => (c :: cs) :: (List.replicate (c.utf8Size - 1) [] ++ suffixList cs)

/-- A text with its suffixes by byte offset. -/
structure Suffixes where
  table : Array (List Char)

namespace Suffixes

/-- The suffixes of a text. -/
def ofText (cs : List Char) : Suffixes := ⟨(suffixList cs).toArray⟩

/-- The text from a byte offset on. -/
def suffix (s : Suffixes) (n : Nat) : List Char := s.table.getD n []

/-- The text between two byte offsets. -/
def slice (s : Suffixes) (start stop : Nat) : List Char := takeBytes (stop - start) (s.suffix start)

theorem suffixList_getD (cs : List Char) (n : Nat) :
    (suffixList cs)[n]?.getD [] = dropBytes n cs := by
  induction cs generalizing n with
  | nil => cases n <;> simp [suffixList, dropBytes]
  | cons c cs ih =>
    have hc : 0 < c.utf8Size := Char.utf8Size_pos c
    cases n with
    | zero => simp [suffixList, dropBytes]
    | succ n =>
      simp only [suffixList, dropBytes, List.getElem?_cons_succ]
      by_cases h : c.utf8Size ≤ n + 1
      · rw [if_pos h, List.getElem?_append_right (by simp; omega)]
        have hn : n - (c.utf8Size - 1) = n + 1 - c.utf8Size := by omega
        simp [hn, ih]
      · rw [if_neg h, List.getElem?_append_left (by simp; omega)]
        rw [List.getElem?_replicate]
        split <;> rfl

@[simp] theorem suffix_ofText (cs : List Char) (n : Nat) :
    (ofText cs).suffix n = dropBytes n cs := by
  rw [← suffixList_getD]
  simp [suffix, ofText, Array.getD_eq_getD_getElem?]

@[simp] theorem slice_ofText (cs : List Char) (start stop : Nat) :
    (ofText cs).slice start stop = Text.slice start stop cs := by
  simp [slice, Text.slice]

end Suffixes
end EditionCheck.Text
