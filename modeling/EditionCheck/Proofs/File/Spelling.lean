import EditionCheck.Proofs.File.Joining

/-!
  How a path is written.

  A path can be written in many ways: with slashes repeated, with dots, with a slash at its end. What
  is joined to it keeps the way in which it is written. Where texts lead to the same components
  (`Same`), they lead to the same text as well if the path is tidy (`Tidy.joined_eq`); and texts that
  fold to the same on their own do so if nothing stands behind the last component of the path
  (`Trimmed.joined_eq`), since a step up over a name that was appended then takes back what was
  appended and nothing else (`pop_push`).
-/

namespace EditionCheck.Path

open Text (pieces)

/-- Two paths have the same components, however they are written. -/
def Same (p q : Path) : Prop := p.parts = q.parts

/-- Nothing that stands for nothing is written behind the last component. -/
def Trimmed (p : Path) : Prop :=
  p = ofPieces p.isAbsolute (trimPieces (!p.isAbsolute) p.body)

/-- The path is written as its components are, with one slash between them. -/
def Tidy (p : Path) : Prop := p = ofPieces p.isAbsolute (p.inner.map Part.text)

instance (p q : Path) : Decidable (Same p q) := inferInstanceAs (Decidable (_ = _))

instance (p : Path) : Decidable p.Trimmed := inferInstanceAs (Decidable (_ = _))

instance (p : Path) : Decidable p.Tidy := inferInstanceAs (Decidable (_ = _))

/-! ## Pieces at the end -/

theorem trimPieces_trimPieces (leading : Bool) (ps : List (List Char)) :
    trimPieces leading (trimPieces leading ps) = trimPieces leading ps := by
  induction ps generalizing leading with
  | nil => rfl
  | cons s rest ih =>
    rw [trimPieces_cons]
    split
    · split
      · next hs => rw [trimPieces_cons, trimPieces, if_pos rfl, if_pos hs]
      · rfl
    · next hne => rw [trimPieces_cons, ih false, if_neg hne]

/-- A piece at the end that stands for something wherever it stands is not trimmed. -/
theorem trimPieces_concat {s : List Char} (hs : ∀ b, (part? b s).isSome = true) (leading : Bool)
    (ps : List (List Char)) : trimPieces leading (ps ++ [s]) = ps ++ [s] := by
  induction ps generalizing leading with
  | nil => rw [List.nil_append, trimPieces_cons, trimPieces, if_pos rfl, if_pos (hs leading)]
  | cons p rest ih => rw [List.cons_append, trimPieces_cons, ih false, if_neg (by simp)]

theorem trimPieces_concat_nil (leading : Bool) (ps : List (List Char)) :
    trimPieces leading (ps ++ [[]]) = trimPieces leading ps := by
  induction ps generalizing leading with
  | nil => rfl
  | cons p rest ih => rw [List.cons_append, trimPieces_cons, ih false, trimPieces_cons]

theorem length_partsOf_le (leading : Bool) (ps : List (List Char)) :
    (partsOf leading ps).length ≤ ps.length := by
  induction ps generalizing leading with
  | nil => exact Nat.le_refl 0
  | cons s rest ih =>
    have hrest := ih false
    rw [partsOf_cons, List.length_append, List.length_cons]
    cases part? leading s <;> simp only [Option.toList, List.length_nil, List.length_singleton] <;>
      omega

/-- Pieces each of which stands for something are all left. -/
theorem trimPieces_of_length {leading : Bool} {ps : List (List Char)}
    (h : (partsOf leading ps).length = ps.length) : trimPieces leading ps = ps := by
  induction ps generalizing leading with
  | nil => rfl
  | cons s rest ih =>
    have hrest := length_partsOf_le false rest
    rw [partsOf_cons, List.length_append, List.length_cons] at h
    cases hs : part? leading s with
    | none =>
      rw [hs, Option.toList_none, List.length_nil] at h
      omega
    | some c =>
      rw [hs, Option.toList_some, List.length_singleton] at h
      rw [trimPieces_cons, ih (by omega), hs]
      split
      · next hnil => rw [hnil]; rfl
      · rfl

/-! ## Trimmed paths -/

theorem trimmed_ofPieces {absolute : Bool} {ps : List (List Char)} (hslash : ∀ s ∈ ps, '/' ∉ s)
    (hhead : absolute = false → ps.head? ≠ some [])
    (htrim : trimPieces (!absolute) ps = ps) : (ofPieces absolute ps).Trimmed := by
  unfold Trimmed
  rw [isAbsolute_ofPieces hslash hhead]
  by_cases hnil : ps = []
  · subst hnil
    cases absolute <;> rfl
  · rw [body_ofPieces hnil hslash hhead, htrim]

theorem Trimmed.pop {p : Path} (h : p.Trimmed) : p.pop.Trimmed := by
  obtain ⟨-, hpop⟩ | ⟨-, ps, hps, hpop, hslash, hhead⟩ := pop_cases p
  · rwa [hpop]
  · rw [hpop]
    exact trimmed_ofPieces hslash hhead (by rw [hps, trimPieces_trimPieces])

section Name

variable {n : List Char} (hslash : '/' ∉ n) (hn : ∀ b, part? b n = some (.name n))
include hslash hn

theorem trimPieces_push (p : Path) (leading : Bool) :
    trimPieces leading (p.push ⟨n⟩).body = (p.push ⟨n⟩).body := by
  rw [(body_push hslash p).2]
  exact trimPieces_concat (fun b => by rw [hn b]; rfl) leading _

/-- A path that a name is appended to ends in it. -/
theorem trimmed_push (p : Path) : (p.push ⟨n⟩).Trimmed := by
  unfold Trimmed
  rw [trimPieces_push hslash hn, ofPieces_body]

/-- A step up takes back the name that was appended, and nothing else. -/
theorem pop_push {p : Path} (h : p.Trimmed) : (p.push ⟨n⟩).pop = p := by
  obtain ⟨habs, hbody⟩ := body_push hslash p
  have hne : (p.push ⟨n⟩).body ≠ [] := body_ne_nil _
  have hrest : trimPieces (!p.isAbsolute) (p.push ⟨n⟩).body.dropLast =
      trimPieces (!p.isAbsolute) p.body := by
    rw [hbody, List.dropLast_concat]
    split
    · next hlast =>
      obtain ⟨ps, hps⟩ := List.getLast?_eq_some_iff.1 hlast
      rw [hps, List.dropLast_concat, trimPieces_concat_nil]
    · rfl
  rw [pop, parent?_eq, trimPieces_push hslash hn, if_neg hne, Option.getD_some, habs, hrest]
  exact h.symm

end Name

/-! ## Texts that fold to the same -/

/-- Components with one more, where a step up takes away a name that stands before it. -/
def foldPart (cs : List Part) (c : Part) : List Part :=
  match c, cs.getLast? with
  | .up, some (.name _) => cs.dropLast
  | _, _ => cs ++ [c]

/-- Components folded on their own: the names that are stepped back over disappear. -/
def foldParts (cs : List Part) : List Part := cs.foldl foldPart []

/-- All names among components can stand in a path. -/
def Named (cs : List Part) : Prop :=
  ∀ n, .name n ∈ cs → '/' ∉ n ∧ ∀ b, part? b n = some (.name n)

theorem named_steps (relative : String) : Named (steps relative) := fun _ h =>
  have hname := mem_partsOf_name h
  ⟨Text.not_mem_of_mem_pieces hname.1, hname.2⟩

theorem mem_foldPart {cs : List Part} {c d : Part} (h : d ∈ foldPart cs c) : d ∈ cs ∨ d = c := by
  unfold foldPart at h
  split at h
  · exact .inl (List.mem_of_mem_dropLast h)
  · exact (List.mem_append.1 h).imp_right List.mem_singleton.1

theorem Trimmed.foldl_extend {p : Path} (h : p.Trimmed) {cs : List Part} (hcs : Named cs) :
    (cs.foldl extend p).Trimmed :=
  foldl_extend_induction h (fun _ => Trimmed.pop) fun q n hn _ =>
    trimmed_push (hcs n hn).1 (hcs n hn).2 q

/-- From a trimmed path a fold of components leads where the components lead. -/
theorem Trimmed.foldl_foldPart {p : Path} (h : p.Trimmed) {cs : List Part} (hcs : Named cs)
    (c : Part) : (foldPart cs c).foldl extend p = extend (cs.foldl extend p) c := by
  unfold foldPart
  split
  · next n hlast =>
    obtain ⟨init, rfl⟩ := List.getLast?_eq_some_iff.1 hlast
    obtain ⟨hslash, hn⟩ := hcs n (List.mem_append_right _ (List.mem_singleton_self _))
    have hinit : Named init := fun m hm => hcs m (List.mem_append_left _ hm)
    rw [List.dropLast_concat, List.foldl_append]
    exact (pop_push hslash hn (h.foldl_extend hinit)).symm
  · rw [List.foldl_append]
    rfl

theorem Trimmed.foldl_foldParts {p : Path} (h : p.Trimmed) {cs : List Part} (hcs : Named cs) :
    (foldParts cs).foldl extend p = cs.foldl extend p := by
  suffices hall : ∀ acc, Named acc →
      (cs.foldl foldPart acc).foldl extend p = cs.foldl extend (acc.foldl extend p) from
    hall [] fun _ hn => absurd hn List.not_mem_nil
  induction cs with
  | nil => exact fun _ _ => rfl
  | cons c cs ih =>
    intro acc hacc
    have hrest : Named cs := fun n hn => hcs n (List.mem_cons_of_mem c hn)
    have hnext : Named (foldPart acc c) := by
      intro n hn
      rcases mem_foldPart hn with hn | rfl
      · exact hacc n hn
      · exact hcs n List.mem_cons_self
    rw [List.foldl_cons, List.foldl_cons, ih hrest _ hnext, h.foldl_foldPart hacc]

/-- Texts that fold to the same are joined alike to a trimmed path. -/
theorem Trimmed.joined_eq {base : Path} (h : base.Trimmed) {a b : String}
    (hab : foldParts (steps a) = foldParts (steps b)) : base.joined a = base.joined b := by
  rw [Path.joined_eq, Path.joined_eq, ← h.foldl_foldParts (named_steps a), hab,
    h.foldl_foldParts (named_steps b)]

/-! ## Tidy paths -/

theorem mem_partsOf_text {leading : Bool} {ps : List (List Char)} {c : Part}
    (h : c ∈ partsOf leading ps) : c.text ∈ ps ∧ c.text ≠ [] := by
  induction ps generalizing leading with
  | nil => cases h
  | cons s rest ih =>
    rw [partsOf_cons, List.mem_append, Option.mem_toList] at h
    rcases h with h | h
    · have hs : c.text = s ∧ s ≠ [] := by
        unfold part? at h
        split at h
        · cases h
        · next hnil =>
          refine ⟨?_, hnil⟩
          split at h
          · next hdot => split at h <;> cases h; exact hdot.symm
          · split at h
            · next hup => cases h; exact hup.symm
            · cases h; rfl
      rw [hs.1]
      exact ⟨List.mem_cons_self, hs.2⟩
    · exact ⟨List.mem_cons_of_mem s (ih h).1, (ih h).2⟩

namespace Tidy

variable {p q : Path}

/-- Tidy paths are told apart by their components. -/
theorem ext (hp : p.Tidy) (hq : q.Tidy) (h : Same p q) : p = q := by
  have hinner : p.isAbsolute = q.isAbsolute ∧ p.inner = q.inner :=
    inner_of_parts (h.trans (parts_eq q)) (root_not_mem_partsOf _ _)
  rw [hp, hq, hinner.1, hinner.2]

theorem eq_of_inner (h : p.Tidy) (hnil : p.inner = []) : p = ofPieces p.isAbsolute [] := by
  have hp : p = ofPieces p.isAbsolute (p.inner.map Part.text) := h
  rwa [hnil] at hp

/-- A tidy path with components besides the root has their texts as its pieces. -/
theorem body_eq (h : p.Tidy) (hne : p.inner ≠ []) : p.body = p.inner.map Part.text := by
  have htext : ∀ s ∈ p.inner.map Part.text, '/' ∉ s ∧ s ≠ [] := by
    intro s hs
    obtain ⟨c, hc, rfl⟩ := List.mem_map.1 hs
    exact ⟨slash_not_mem_of_mem_body (mem_partsOf_text hc).1, (mem_partsOf_text hc).2⟩
  have hhead : p.isAbsolute = false → (p.inner.map Part.text).head? ≠ some [] := fun _ hnil =>
    (htext [] (List.mem_of_head? hnil)).2 rfl
  have hne' : p.inner.map Part.text ≠ [] := by simpa using hne
  exact (congrArg body h).trans (body_ofPieces hne' (fun s hs => (htext s hs).1) hhead)

theorem push {n : List Char} (hslash : '/' ∉ n) (hn : part? true n = some (.name n))
    (h : p.Tidy) : (p.push ⟨n⟩).Tidy := by
  obtain ⟨hrel, hname⟩ := parts_of_piece hslash hn
  obtain ⟨habs, hbody⟩ := body_push hslash p
  have hparts : (p.push ⟨n⟩).parts = rootOf p.isAbsolute ++ (p.inner ++ [.name n]) := by
    rw [parts_push hrel (by rw [hname]; simp), parts_eq, hname, List.append_assoc]
  have hroot : .root ∉ p.inner ++ [.name n] := by
    simp [inner, root_not_mem_partsOf]
  have hinner := (inner_of_parts hparts hroot).2
  -- in front of the name stand the texts of the components, and nothing else
  have hfront : (if p.body.getLast? = some [] then p.body.dropLast else p.body) =
      p.inner.map Part.text := by
    by_cases hnil : p.inner = []
    · have hempty : p.body = [[]] := by
        rw [h.eq_of_inner hnil]
        cases p.isAbsolute <;> rfl
      rw [hempty, hnil]
      rfl
    · rw [h.body_eq hnil, if_neg]
      intro hlast
      obtain ⟨c, hc, hempty⟩ := List.mem_map.1 (List.mem_of_getLast? hlast)
      exact (mem_partsOf_text hc).2 hempty
  have hself := ofPieces_body (p.push ⟨n⟩)
  rw [hbody, hfront] at hself
  unfold Tidy
  rw [hinner, List.map_append]
  exact hself.symm

theorem pop (h : p.Tidy) : p.pop.Tidy := by
  obtain ⟨-, hpop⟩ | ⟨hne, ps, hps, hpop, hslash, hhead⟩ := pop_cases p
  · rwa [hpop]
  · have hbody := h.body_eq hne
    have hlength : p.inner.length = p.body.length := by rw [hbody, List.length_map]
    have htrim : trimPieces (!p.isAbsolute) p.body = p.body := trimPieces_of_length hlength
    have hdrop : partsOf (!p.isAbsolute) p.body.dropLast = p.inner.dropLast := by
      have hlast := partsOf_dropLast_trimPieces (!p.isAbsolute) p.body
      rwa [htrim] at hlast
    have hps' : ps = p.inner.dropLast.map Part.text := by
      have hlength' : (partsOf (!p.isAbsolute) p.body.dropLast).length = p.body.dropLast.length := by
        rw [hdrop, List.length_dropLast, List.length_dropLast, hlength]
      rw [hps, htrim, trimPieces_of_length hlength', hbody, List.map_dropLast]
    have hroot : .root ∉ p.inner.dropLast := fun hmem =>
      root_not_mem_partsOf _ _ (List.mem_of_mem_dropLast hmem)
    obtain ⟨habs, hinner⟩ := inner_of_parts (pop_parts p) hroot
    unfold Tidy
    rw [habs, hinner, ← hps']
    exact hpop

/-- Texts that lead from a tidy path to the same components lead to the same text. -/
theorem joined_eq {base : Path} (h : base.Tidy) {a b : String}
    (hab : Same (base.joined a) (base.joined b)) : base.joined a = base.joined b := by
  have hjoined : ∀ r, (base.joined r).Tidy := by
    intro r
    rw [Path.joined_eq]
    refine foldl_extend_induction h (fun _ => pop) fun q n hn hq => ?_
    obtain ⟨hslash, hpart⟩ := named_steps r n hn
    exact hq.push hslash (hpart true)
  exact (hjoined a).ext (hjoined b) hab

end Tidy

/-! ## Spellings -/

theorem Same.push {p q r : Path} (h : Same p q) (hr : r.isAbsolute = false)
    (hhere : .here ∉ r.parts) : Same (p.push r) (q.push r) := by
  unfold Same
  rw [parts_push hr hhere, parts_push hr hhere, h]

/-- Two texts are spellings of one as far as joining them to a path goes. -/
inductive SpelledAlike (base : Path) (a b : String) : Prop
  /-- They differ in slashes and dots that stand for nothing. -/
  | steps (h : steps a = steps b)
  /-- They fold to the same on their own. -/
  | folding (hbase : base.Trimmed) (h : foldParts (Path.steps a) = foldParts (Path.steps b))
  /-- They lead to the same components. -/
  | leading (hbase : base.Tidy) (h : Same (base.joined a) (base.joined b))

theorem SpelledAlike.joined_eq {base : Path} {a b : String} (h : SpelledAlike base a b) :
    base.joined a = base.joined b := by
  cases h with
  | steps h => rw [Path.joined_eq, h, ← Path.joined_eq]
  | folding hbase h => exact hbase.joined_eq h
  | leading hbase h => exact hbase.joined_eq h

end EditionCheck.Path
