/-!
  Texts cut at a mark.

  `pieces` gives what stands between the marks, at least one piece, and `joinPieces` puts pieces
  together again; `joinPieces_pieces` says that nothing is lost, and `pieces_joinPieces` that pieces
  without the mark are found again.
-/

namespace EditionCheck.Text

/-- The pieces of a text between the places of a mark. -/
def pieces (mark : Char) : List Char → List (List Char)
  | [] => [[]]
  | c :: cs =>
    if c = mark then [] :: pieces mark cs
    else
      match pieces mark cs with
      | p :: rest => (c :: p) :: rest
      | [] => [[c]]

/-- The text with the given pieces and the mark between them. -/
def joinPieces (mark : Char) : List (List Char) → List Char
  | [] => []
  | [p] => p
  | p :: rest => p ++ mark :: joinPieces mark rest

theorem pieces_ne_nil (mark : Char) (cs : List Char) : pieces mark cs ≠ [] := by
  cases cs with
  | nil => simp [pieces]
  | cons c cs =>
    simp only [pieces]
    split
    · simp
    · split <;> simp

theorem joinPieces_pieces (mark : Char) (cs : List Char) :
    joinPieces mark (pieces mark cs) = cs := by
  induction cs with
  | nil => rfl
  | cons c cs ih =>
    obtain ⟨p, rest, h⟩ := List.exists_cons_of_ne_nil (pieces_ne_nil mark cs)
    rw [h] at ih
    by_cases hc : c = mark
    · subst hc
      simp [pieces, joinPieces, h, ih]
    · cases rest with
      | nil => simp_all [pieces, joinPieces]
      | cons q rest => simp_all [pieces, joinPieces]

theorem pieces_of_not_mem {mark : Char} {cs : List Char} (h : mark ∉ cs) :
    pieces mark cs = [cs] := by
  induction cs with
  | nil => rfl
  | cons c cs ih =>
    have hc : c ≠ mark := fun e => h (e ▸ List.mem_cons_self)
    have hcs : pieces mark cs = [cs] := ih fun hm => h (List.mem_cons_of_mem c hm)
    rw [pieces, if_neg hc, hcs]

theorem pieces_append_cons (mark : Char) (cs ds : List Char) :
    pieces mark (cs ++ mark :: ds) = pieces mark cs ++ pieces mark ds := by
  induction cs with
  | nil => simp [pieces]
  | cons c cs ih =>
    rw [List.cons_append, pieces, pieces, ih]
    by_cases hc : c = mark
    · rw [if_pos hc, if_pos hc, List.cons_append]
    · obtain ⟨p, rest, h⟩ := List.exists_cons_of_ne_nil (pieces_ne_nil mark cs)
      rw [if_neg hc, if_neg hc, h]
      rfl

theorem not_mem_of_mem_pieces {mark : Char} {p cs : List Char} (h : p ∈ pieces mark cs) :
    mark ∉ p := by
  induction cs generalizing p with
  | nil =>
    rw [List.mem_singleton.1 h]
    exact List.not_mem_nil
  | cons c cs ih =>
    obtain ⟨q, rest, hq⟩ := List.exists_cons_of_ne_nil (pieces_ne_nil mark cs)
    rw [hq] at ih
    rw [pieces, hq] at h
    split at h
    · rcases List.mem_cons.1 h with rfl | h
      · exact List.not_mem_nil
      · exact ih h
    · next hc =>
      rcases List.mem_cons.1 h with rfl | h
      · intro hm
        rcases List.mem_cons.1 hm with e | hm
        · exact hc e.symm
        · exact ih List.mem_cons_self hm
      · exact ih (List.mem_cons_of_mem q h)

theorem joinPieces_concat {mark : Char} {ps : List (List Char)} (hne : ps ≠ []) (q : List Char) :
    joinPieces mark (ps ++ [q]) = joinPieces mark ps ++ mark :: q := by
  induction ps with
  | nil => exact absurd rfl hne
  | cons p rest ih =>
    cases rest with
    | nil => rfl
    | cons r rest =>
      have hrest : joinPieces mark (r :: rest ++ [q]) = joinPieces mark (r :: rest) ++ mark :: q :=
        ih (List.cons_ne_nil r rest)
      change p ++ mark :: joinPieces mark (r :: rest ++ [q]) =
        (p ++ mark :: joinPieces mark (r :: rest)) ++ mark :: q
      rw [hrest, List.append_assoc, List.cons_append]

/-- Pieces without the mark are found again. -/
theorem pieces_joinPieces {mark : Char} {ps : List (List Char)} (hne : ps ≠ [])
    (h : ∀ p ∈ ps, mark ∉ p) : pieces mark (joinPieces mark ps) = ps := by
  induction ps with
  | nil => exact absurd rfl hne
  | cons p rest ih =>
    have hp : pieces mark p = [p] := pieces_of_not_mem (h p List.mem_cons_self)
    cases rest with
    | nil => exact hp
    | cons q rest =>
      have hrest : pieces mark (joinPieces mark (q :: rest)) = q :: rest :=
        ih (List.cons_ne_nil q rest) fun x hx => h x (List.mem_cons_of_mem p hx)
      rw [joinPieces, pieces_append_cons, hp, hrest]
      · rfl
      · exact List.cons_ne_nil q rest

end EditionCheck.Text
