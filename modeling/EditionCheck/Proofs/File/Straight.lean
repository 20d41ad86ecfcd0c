import EditionCheck.Proofs.File.Joining

/-!
  Paths from the root without steps up.

  Such a path (`Straight`) is the same whether it is walked or folded: its components are the root
  and the names of its normal form. A check builds no other paths out of a project directory seen
  from the working directory, since what is pushed has no steps up and what is joined is folded on
  the way (`straight_absoluteFrom`, `Straight.push`, `Straight.joined`).

  Whether a slash or a dot stands behind the last name (`EndsInName`) makes a difference to a walk
  and none to a normal form. `endsInName_joined` says where one may stand in what is joined.
-/

namespace EditionCheck.Path

open Text (pieces joinPieces)

/-- The path starts at the root and takes no step up. -/
structure Straight (p : Path) : Prop where
  absolute : p.isAbsolute = true
  noUp : .up ∉ p.parts

theorem part?_eq_up {leading : Bool} {s : List Char} :
    part? leading s = some .up ↔ s = ['.', '.'] := by
  unfold part?
  by_cases hnil : s = []
  · simp [hnil]
  by_cases hdot : s = ['.']
  · cases leading <;> simp [hdot]
  by_cases hup : s = ['.', '.'] <;> simp [hnil, hdot, hup]

theorem part?_eq_none {s : List Char} : part? false s = none ↔ s = [] ∨ s = ['.'] := by
  unfold part?
  by_cases hnil : s = []
  · simp [hnil]
  by_cases hdot : s = ['.']
  · simp [hdot]
  by_cases hup : s = ['.', '.'] <;> simp [hnil, hdot, hup]

theorem part?_eq_self {s : List Char} :
    part? false s = some (.name s) ↔ s ≠ [] ∧ s ≠ ['.'] ∧ s ≠ ['.', '.'] := by
  unfold part?
  by_cases hnil : s = []
  · simp [hnil]
  by_cases hdot : s = ['.']
  · simp [hdot]
  by_cases hup : s = ['.', '.'] <;> simp [hnil, hdot, hup]

/-- Behind a start a piece stands for nothing, for a step up, or for itself. -/
theorem part?_false_cases (s : List Char) :
    part? false s = none ∨ part? false s = some .up ∨ part? false s = some (.name s) := by
  rw [part?_eq_none, part?_eq_up, part?_eq_self]
  by_cases hnil : s = []
  · exact .inl (.inl hnil)
  by_cases hdot : s = ['.']
  · exact .inl (.inr hdot)
  by_cases hup : s = ['.', '.']
  · exact .inr (.inl hup)
  · exact .inr (.inr ⟨hnil, hdot, hup⟩)

theorem partsOf_false_eq (ps : List (List Char)) :
    partsOf false ps = ps.filterMap (part? false) := by
  induction ps with
  | nil => rfl
  | cons s rest ih =>
    rw [partsOf_cons, ih, List.filterMap_cons]
    cases part? false s <;> rfl

/-- Where a path starts decides about no step up. -/
theorem up_mem_partsOf {leading : Bool} {ps : List (List Char)} :
    .up ∈ partsOf leading ps ↔ ['.', '.'] ∈ ps := by
  induction ps generalizing leading with
  | nil => simp [partsOf]
  | cons s rest ih =>
    rw [partsOf_cons, List.mem_append, Option.mem_toList, ih, List.mem_cons]
    refine or_congr_left ?_
    rw [part?_eq_up, eq_comm]

theorem up_mem_parts {p : Path} : .up ∈ p.parts ↔ ['.', '.'] ∈ p.body := by
  rw [parts_eq, List.mem_append, inner, up_mem_partsOf, rootOf]
  split <;> simp

/-- Behind a start no piece stands for a dot. -/
theorem here_not_mem_partsOf (ps : List (List Char)) : .here ∉ partsOf false ps := by
  rw [partsOf_false_eq, List.mem_filterMap]
  rintro ⟨s, -, hs⟩
  rcases part?_false_cases s with h | h | h <;> cases h.symm.trans hs

/-- The normal form of a path from the root has its names. -/
theorem normal_of_parts {p : Path} {names : List (List Char)}
    (h : p.parts = .root :: names.map .name) : p.normal = ⟨true, names⟩ :=
  have hparts : p.parts = rootOf true ++ names.map .name := h
  (folded_of_parts hparts).2

theorem straight_of_parts {p : Path} (names : List (List Char))
    (h : p.parts = .root :: names.map .name) : p.Straight :=
  have hparts : p.parts = rootOf true ++ names.map .name := h
  ⟨(inner_of_parts hparts (by simp)).1, (folded_of_parts hparts).1.noUp⟩

namespace Straight

variable {p q : Path}

theorem folded (h : p.Straight) : p.Folded where
  noHere := by
    rw [Path.parts_eq, inner, h.absolute]
    simp [rootOf, here_not_mem_partsOf]
  noUp := h.noUp

theorem inner_eq (h : p.Straight) : p.inner = p.normal.names.map .name := h.folded.inner_eq

theorem parts_eq (h : p.Straight) : p.parts = .root :: p.normal.names.map .name := by
  rw [h.folded.parts_eq, h.absolute]
  rfl

theorem normal_eq (h : p.Straight) : p.normal = ⟨true, p.normal.names⟩ := normal_of_parts h.parts_eq

theorem text_ne_nil (h : p.Straight) : p.text ≠ [] := by
  intro hnil
  have habs := h.absolute
  rw [isAbsolute, hnil] at habs
  cases habs

theorem push (h : p.Straight) (hq : .up ∉ q.parts) : (p.push q).Straight := by
  cases hrel : q.isAbsolute with
  | true =>
    have hpush : p.push q = q := by rw [Path.push, if_pos hrel]
    rw [hpush]
    exact ⟨hrel, hq⟩
  | false =>
    have hup : .up ∉ partsOf false q.body := fun hmem => hq (up_mem_parts.2 (up_mem_partsOf.1 hmem))
    obtain ⟨names, hnames⟩ := exists_names (here_not_mem_partsOf q.body) hup
    refine straight_of_parts (p.normal.names ++ names) ?_
    rw [parts_push_body h.text_ne_nil hrel, h.parts_eq, hnames, List.map_append]
    rfl

/-- A name that is appended comes last. -/
theorem names_push (h : p.Straight) {n : List Char} (hslash : '/' ∉ n)
    (hn : part? false n = some (.name n)) :
    (p.push ⟨n⟩).Straight ∧ (p.push ⟨n⟩).normal.names = p.normal.names ++ [n] := by
  have hname := parts_of_piece hslash ((part?_eq_name hn).2 true)
  exact ⟨h.push (by rw [hname.2]; simp), by rw [(h.folded.push_name hname).2]; rfl⟩

theorem pop (h : p.Straight) : p.pop.Straight := by
  refine straight_of_parts p.normal.names.dropLast ?_
  rw [pop_parts, h.absolute, h.inner_eq, List.map_dropLast]
  rfl

/-- A component that is no step up may be appended. -/
theorem push_part {c : Part} (h : p.Straight) (hc : c ∈ q.parts) (hup : c ≠ .up) :
    (p.push ⟨c.text⟩).Straight := by
  apply h.push
  cases c with
  | root => decide
  | here => decide
  | up => exact absurd rfl hup
  | name n =>
    change .up ∉ parts ⟨n⟩
    rw [(parts_of_name hc).2]
    simp

theorem pushAll {cs : List Part} (h : p.Straight) (hcs : cs ⊆ q.parts) (hup : .up ∉ cs) :
    (p.pushAll cs).Straight := by
  unfold Path.pushAll
  induction cs generalizing p with
  | nil => exact h
  | cons c cs ih =>
    obtain ⟨hc, hcs⟩ := List.cons_subset.1 hcs
    rw [List.mem_cons, not_or] at hup
    exact ih (h.push_part hc (Ne.symm hup.1)) hcs hup.2

/-- A slash may be put behind it. -/
theorem slashIf (c : Prop) [Decidable c] (h : p.Straight) :
    (if c then p.push ⟨[]⟩ else p).Straight := by
  split
  · exact h.push (by decide)
  · exact h

/-- What is joined to a path from the root does not leave the root. -/
theorem joined (h : p.Straight) (relative : String) : (p.joined relative).Straight := by
  refine foldl_extend_induction h (fun q hq => hq.pop) fun q n hn hq => hq.push ?_
  rw [(parts_of_name hn).2]
  simp

end Straight

/-- Seen from a directory, a path without steps up is one from the root. -/
theorem straight_absoluteFrom {p cwd : Path} (hne : p.text ≠ []) (hp : .up ∉ p.parts)
    (hcwd : cwd.Straight) : (p.absoluteFrom cwd).Straight := by
  have htail : .up ∉ p.parts.tail := fun h => hp (List.mem_of_mem_tail h)
  have hslashes : (⟨['/', '/']⟩ : Path).Straight := ⟨rfl, by decide⟩
  have hroot : (⟨['/']⟩ : Path).Straight := ⟨rfl, by decide⟩
  unfold absoluteFrom
  rw [if_neg hne]
  refine Straight.slashIf _ ?_
  split
  · exact hslashes.pushAll (List.tail_subset _) htail
  split
  · next habs =>
    obtain ⟨cs, hcs⟩ : ∃ cs, p.parts = .root :: cs := ⟨_, by rw [parts, if_pos habs]⟩
    rw [hcs] at htail ⊢
    have hsub : cs ⊆ p.parts := hcs ▸ List.subset_cons_self _ _
    exact hroot.pushAll hsub htail
  · split
    · next rest hparts =>
      rw [hparts] at htail
      have hsub : rest ⊆ p.parts := hparts ▸ List.subset_cons_self _ _
      exact hcwd.pushAll hsub htail
    · exact hcwd.pushAll (List.Subset.refl _) hp

/-! ## The last piece -/

/-- The path ends in a name, without a slash or a dot behind it. -/
def EndsInName (p : Path) : Prop := ∃ n, p.body.getLast? = some n ∧ part? false n = some (.name n)

/-- A path that a name is appended to ends in it. -/
theorem endsInName_push {n : List Char} (hslash : '/' ∉ n) (hn : part? false n = some (.name n))
    (p : Path) : (p.push ⟨n⟩).EndsInName :=
  ⟨n, by rw [(body_push hslash p).2, List.getLast?_concat], hn⟩

/-- What is left of pieces after trimming ends in one that stands for something. -/
theorem getLast?_trimPieces {ps : List (List Char)} (h : trimPieces false ps ≠ []) :
    ∃ s, (trimPieces false ps).getLast? = some s ∧ (part? false s).isSome = true := by
  induction ps with
  | nil => exact absurd rfl h
  | cons s rest ih =>
    rw [trimPieces_cons] at h ⊢
    split at h
    · next hnil =>
      rw [if_pos hnil]
      split at h
      · next hs => exact ⟨s, by rw [if_pos hs]; rfl, hs⟩
      · exact absurd rfl h
    · next hne =>
      rw [if_neg hne, List.getLast?_cons_of_ne_nil hne]
      exact ih hne

namespace Straight

variable {p : Path}

theorem names_ne_nil (h : p.Straight) (hends : p.EndsInName) : p.normal.names ≠ [] := by
  obtain ⟨n, hlast, hn⟩ := hends
  intro hnil
  have hinner := h.inner_eq
  rw [hnil, inner, h.absolute, Bool.not_true, partsOf_false_eq] at hinner
  exact List.not_mem_nil (hinner ▸ List.mem_filterMap.2 ⟨n, List.mem_of_getLast? hlast, hn⟩)

/-- A path from the root that loses its last component ends in a name after that, unless only the
root is left. -/
theorem endsInName_pop (h : p.Straight) :
    p.pop = p ∨ p.pop.EndsInName ∨ p.pop.normal.names = [] := by
  rw [Path.pop, parent?_eq, h.absolute]
  split
  · exact .inl rfl
  right
  rw [Option.getD_some, Bool.not_true]
  have hsub : trimPieces false (trimPieces false p.body).dropLast ⊆ p.body :=
    ((trimPieces_isPrefix _ _).trans
      ((List.dropLast_prefix _).trans (trimPieces_isPrefix _ _))).subset
  by_cases hnil : trimPieces false (trimPieces false p.body).dropLast = []
  · rw [hnil]
    exact .inr rfl
  · left
    obtain ⟨s, hlast, hs⟩ := getLast?_trimPieces hnil
    refine ⟨s, ?_, ?_⟩
    · have hslash : ∀ s ∈ trimPieces false (trimPieces false p.body).dropLast, '/' ∉ s :=
        fun s hs => slash_not_mem_of_mem_body (hsub hs)
      rw [← hlast]
      exact congrArg List.getLast? (Text.pieces_joinPieces hnil hslash)
    · rcases part?_false_cases s with hpart | hpart | hpart
      · rw [hpart] at hs
        cases hs
      · have hmem : s ∈ p.body := hsub (List.mem_of_getLast? hlast)
        rw [part?_eq_up.1 hpart] at hmem
        exact absurd (up_mem_parts.2 hmem) h.noUp
      · exact hpart

/-- What is joined to a path from the root is that path, ends in a name, or is the root. -/
theorem endsInName_joined (h : p.Straight) (relative : String) :
    p.joined relative = p ∨ (p.joined relative).EndsInName ∨
      (p.joined relative).normal.names = [] := by
  suffices hboth : (p.joined relative).Straight ∧ (p.joined relative = p ∨
      (p.joined relative).EndsInName ∨ (p.joined relative).normal.names = []) from hboth.2
  refine foldl_extend_induction
    (P := fun q => q.Straight ∧ (q = p ∨ q.EndsInName ∨ q.normal.names = [])) ⟨h, .inl rfl⟩ ?_ ?_
  · rintro q ⟨hq, hends⟩
    refine ⟨hq.pop, ?_⟩
    rcases hq.endsInName_pop with heq | hpop
    · rwa [heq]
    · exact .inr hpop
  · rintro q n hn ⟨hq, -⟩
    obtain ⟨hmem, hpart⟩ := mem_partsOf_name (mem_parts_name hn)
    have hslash := slash_not_mem_of_mem_body hmem
    refine ⟨hq.push ?_, .inr (.inl (endsInName_push hslash (hpart false) q))⟩
    rw [(parts_of_name hn).2]
    simp

end Straight

end EditionCheck.Path
