import EditionCheck.Proofs.Text.Boundary

/-!
  Lines and columns name offsets.

  A line and a column lead back to an offset: past the lines above, each with its line feed, and
  then past the characters in front (`offsetOf`). From a character boundary to its place and back is
  the identity, places grow strictly with the boundaries, and beyond the end every offset has the
  place of the end (`lineColumn_names`).
-/

namespace EditionCheck.Text

/-- What is left of a text behind its first `k` lines, each of which ends in a line feed. -/
def dropLines : Nat → List Char → List Char
  | 0, cs => cs
  | _ + 1, [] => []
  | k + 1, c :: cs => dropLines (if c = '\n' then k else k + 1) cs

/-- The byte offset of a line and column: so much of the text is skipped with `line - 1` lines and
then `column - 1` characters. -/
def offsetOf (cs : List Char) (place : Nat × Nat) : Nat :=
  byteLength cs - byteLength ((dropLines (place.1 - 1) cs).drop (place.2 - 1))

/-! ## The last line -/

theorem lastLine_of_not_mem {cs : List Char} (h : '\n' ∉ cs) : lastLine cs = cs :=
  lastLine_append_of_not_mem [] cs h

/-- What stands in front of a line feed does not belong to the last line. -/
theorem lastLine_append_of_mem (xs : List Char) {ys : List Char} (h : '\n' ∈ ys) :
    lastLine (xs ++ ys) = lastLine ys := by
  obtain ⟨above, below, rfl⟩ := List.append_of_mem h
  rw [← List.append_assoc, lastLine_append_newLine, lastLine_append_newLine]

@[simp] theorem dropLines_zero (cs : List Char) : dropLines 0 cs = cs := by
  rw [dropLines]

/-- Behind all the lines that end in a text its last line is left. -/
theorem dropLines_count_append (xs ys : List Char) :
    dropLines (xs.count '\n') (xs ++ ys) = lastLine xs ++ ys := by
  induction xs with
  | nil => exact dropLines_zero ys
  | cons c cs ih =>
    by_cases hc : c = '\n'
    · have hlast : lastLine ('\n' :: cs) = lastLine cs := lastLine_append_newLine [] cs
      rw [hc, List.count_cons_self, List.cons_append, dropLines, if_pos rfl, ih, hlast]
    rw [List.count_cons_of_ne hc]
    -- the character goes with a line that ends later, or belongs to the last one
    by_cases hmem : '\n' ∈ cs
    · obtain ⟨k, hk⟩ := Nat.exists_eq_succ_of_ne_zero (Nat.ne_of_gt (List.count_pos_iff.2 hmem))
      have hlast : lastLine (c :: cs) = lastLine cs := lastLine_append_of_mem [c] hmem
      rw [hlast, ← ih, hk, List.cons_append, dropLines, if_neg hc]
    · have hnone : '\n' ∉ c :: cs := by simp [hmem, Ne.symm hc]
      rw [List.count_eq_zero.2 hmem, dropLines_zero, lastLine_of_not_mem hnone]

/-! ## Back to the offset -/

theorem offsetOf_endPlace (xs ys : List Char) :
    offsetOf (xs ++ ys) (endPlace xs) = byteLength xs := by
  unfold offsetOf endPlace
  rw [Nat.add_sub_cancel, Nat.add_sub_cancel, dropLines_count_append, List.drop_left,
    byteLength_append, Nat.add_sub_cancel]

theorem offsetOf_lineColumn {cs : List Char} {n : Nat} (h : IsBoundary cs n) :
    offsetOf cs (lineColumn cs n) = n := by
  obtain ⟨ys, xs, rfl, rfl⟩ := h
  rw [lineColumn_append, offsetOf_endPlace]

/-! ## Beyond the end -/

theorem splitAt?_of_lt {cs : List Char} {n : Nat} (h : byteLength cs < n) :
    splitAt? n cs = none := by
  induction cs generalizing n with
  | nil =>
    cases n with
    | zero => cases h
    | succ n => rfl
  | cons c cs ih =>
    cases n with
    | zero => cases h
    | succ n =>
      rw [byteLength_cons] at h
      rw [splitAt?, if_pos (by omega), ih (by omega)]
      rfl

/-- From the end on, every offset is at the place of the end. -/
theorem lineColumn_of_le {cs : List Char} {n : Nat} (h : byteLength cs ≤ n) :
    lineColumn cs n = endPlace cs := by
  rcases Nat.lt_or_eq_of_le h with h | rfl
  · unfold lineColumn upTo
    rw [splitAt?_of_lt h]
  · have hend := lineColumn_append cs []
    rwa [List.append_nil] at hend

/-- In every text, line and column grow strictly from one character boundary to a later one, each
boundary is found again from its line and column, and an offset beyond the end has those of the
end. -/
theorem lineColumn_names (cs : List Char) :
    (∀ m n, IsBoundary cs m → IsBoundary cs n → m < n →
      toLex (lineColumn cs m) < toLex (lineColumn cs n)) ∧
    (∀ n, IsBoundary cs n → offsetOf cs (lineColumn cs n) = n) ∧
    ∀ n, byteLength cs ≤ n → lineColumn cs n = lineColumn cs (byteLength cs) := by
  refine ⟨fun m n hm hn h => lineColumn_lt hm hn h, fun n hn => offsetOf_lineColumn hn, ?_⟩
  intro n h
  rw [lineColumn_of_le h, lineColumn_of_le (Nat.le_refl _)]

/-- A text with a longer character, an empty line and an end far in front of the offset asked for. -/
theorem lineColumn_names_short :
    let text := "é\n\nx".toList
    (IsBoundary text 2 ∧ IsBoundary text 4 ∧ byteLength text ≤ 9) ∧
      toLex (lineColumn text 2) < toLex (lineColumn text 4) ∧
      lineColumn text 4 = (3, 1) ∧ offsetOf text (3, 1) = 4 ∧ lineColumn text 9 = (3, 2) := by
  intro text
  have htwo : IsBoundary text 2 := ⟨"\n\nx".toList, ['é'], rfl, rfl⟩
  have hfour : IsBoundary text 4 := ⟨['x'], "é\n\n".toList, rfl, rfl⟩
  have hend : byteLength text ≤ 9 := by decide
  have hplace : lineColumn text 4 = (3, 1) := by decide
  obtain ⟨hlt, hback, hbeyond⟩ := lineColumn_names text
  exact ⟨⟨htwo, hfour, hend⟩, hlt 2 4 htwo hfour (by decide), hplace,
    hplace ▸ hback 4 hfour, hbeyond 9 hend⟩

end EditionCheck.Text
