import Mathlib.Data.Set.List
import EditionCheck.Proofs.File.Path

/-!
  What is joined to a path.

  Of a text that is joined to a path, only the names and the steps up count (`joined_eq`), so one
  text joined after another is both joined with a slash between them (`joined_joined`). On a path
  without `.` and `..` (`Folded`) it makes no difference whether a text is folded while it is joined
  or appended as it is and folded with all the rest (`Folded.normal_joined`), and what comes out has
  no `.` and no `..` either.
-/

namespace EditionCheck.Path

open Text (pieces)

/-! ## What counts of a text -/

/-- The components of a text that count when it is joined: its names and its steps up. -/
def steps (relative : String) : List Part := partsOf false (pieces '/' relative.toList)

/-- The path written as `relative`, without the slashes at its start. -/
def unrooted (relative : String) : Path := ⟨relative.toList.dropWhile (· = '/')⟩

theorem partsOf_pieces_slash (cs : List Char) :
    partsOf false (pieces '/' ('/' :: cs)) = partsOf false (pieces '/' cs) := rfl

theorem steps_append (a b : String) : steps (a ++ "/" ++ b) = steps a ++ steps b := by
  have htext : (a ++ "/" ++ b).toList = a.toList ++ '/' :: b.toList := by simp
  rw [steps, htext, Text.pieces_append_cons, partsOf_append (Text.pieces_ne_nil _ _)]
  rfl

/-- A name among the steps of a text is a path of one component. -/
theorem parts_of_mem_steps {relative : String} {n : List Char} (h : Part.name n ∈ steps relative) :
    (⟨n⟩ : Path).isAbsolute = false ∧ (⟨n⟩ : Path).parts = [.name n] :=
  have hname := mem_partsOf_name h
  parts_of_piece (Text.not_mem_of_mem_pieces hname.1) (hname.2 true)

section Folding

variable {α : Type} {f : α → Part → α}

/-- A dot at the start is passed over by whatever passes over dots. -/
theorem foldl_partsOf (hhere : ∀ a, f a .here = a) (leading : Bool) (ps : List (List Char)) (a : α) :
    (partsOf leading ps).foldl f a = (partsOf false ps).foldl f a := by
  cases leading with
  | false => rfl
  | true =>
    cases ps with
    | nil => rfl
    | cons s rest =>
      rw [partsOf_cons, partsOf_cons, List.foldl_append, List.foldl_append]
      by_cases hs : part? true s = some .here
      · have hdot : part? false s = none := part?_eq_none_of_here hs
        rw [hs, hdot, Option.toList_some, List.foldl_cons, hhere]
        rfl
      · rw [part?_eq_of_ne_here hs]

/-- Slashes at the start of a text are none of its steps. -/
theorem foldl_unrooted (hhere : ∀ a, f a .here = a) (relative : String) (a : α) :
    (unrooted relative).parts.foldl f a = (steps relative).foldl f a := by
  unfold unrooted steps
  induction relative.toList with
  | nil => rfl
  | cons c cs ih =>
    by_cases hc : c = '/'
    · subst hc
      rw [List.dropWhile_cons_of_pos (by simp), partsOf_pieces_slash, ih]
    · have hrel : isAbsolute ⟨c :: cs⟩ = false := by simp [isAbsolute, hc]
      rw [List.dropWhile_cons_of_neg (by simpa using hc), parts_eq, hrel, inner, hrel,
        body_of_relative hrel]
      exact foldl_partsOf hhere true _ a

end Folding

theorem unrooted_isAbsolute (relative : String) : (unrooted relative).isAbsolute = false := by
  have hhead := List.head?_dropWhile_not (fun c => decide (c = '/')) relative.toList
  unfold unrooted isAbsolute
  split at hhead
  · next c hc => simpa [hc] using hhead
  · next hc => simp [hc]

/-- Neither a root nor a dot of a text counts when it is joined. -/
theorem joined_eq (base : Path) (relative : String) :
    base.joined relative = (steps relative).foldl extend base := by
  have hhere : ∀ p, extend p .here = p := fun _ => rfl
  have htext : (ofString relative).text = relative.toList := rfl
  unfold joined steps
  rw [parts_eq, inner, body_eq, htext]
  cases habs : (ofString relative).isAbsolute with
  | false => exact foldl_partsOf hhere true _ base
  | true =>
    obtain ⟨cs, hcs⟩ : ∃ cs, relative.toList = '/' :: cs := by
      rw [isAbsolute, htext, beq_iff_eq] at habs
      exact List.head?_eq_some_iff.1 habs
    rw [hcs, partsOf_pieces_slash]
    rfl

/-- One text joined after another is both joined with a slash between them. -/
theorem joined_joined (base : Path) (a b : String) :
    (base.joined a).joined b = base.joined (a ++ "/" ++ b) := by
  rw [joined_eq, joined_eq base, joined_eq base, steps_append, List.foldl_append]

/-! ## Folded paths -/

/-- None of the components of a path is `.` or `..`. -/
structure Folded (p : Path) : Prop where
  noHere : .here ∉ p.parts
  noUp : .up ∉ p.parts

instance (p : Path) : Decidable p.Folded :=
  decidable_of_iff (.here ∉ p.parts ∧ .up ∉ p.parts)
    ⟨fun h => ⟨h.1, h.2⟩, fun h => ⟨h.noHere, h.noUp⟩⟩

/-- Pieces that stand for no dot and no step up stand for names. -/
theorem exists_names {leading : Bool} {ps : List (List Char)} (hhere : .here ∉ partsOf leading ps)
    (hup : .up ∉ partsOf leading ps) :
    ∃ names : List (List Char), partsOf leading ps = names.map .name := by
  have hname : ∀ c ∈ partsOf leading ps, c ∈ Set.range Part.name := by
    intro c hc
    cases c with
    | root => exact absurd hc (root_not_mem_partsOf _ _)
    | here => exact absurd hc hhere
    | up => exact absurd hc hup
    | name n => exact Set.mem_range_self n
  obtain ⟨names, hnames⟩ : partsOf leading ps ∈ Set.range (List.map Part.name) := by
    rw [Set.range_list_map]
    exact hname
  exact ⟨names, hnames.symm⟩

/-- A path with a root and names, or names alone, is folded and has them as its normal form. -/
theorem folded_of_parts {p : Path} {absolute : Bool} {names : List (List Char)}
    (h : p.parts = rootOf absolute ++ names.map .name) :
    p.Folded ∧ p.normal = ⟨absolute, names⟩ := by
  refine ⟨⟨?_, ?_⟩, ?_⟩
  · rw [h]
    cases absolute <;> simp [rootOf]
  · rw [h]
    cases absolute <;> simp [rootOf]
  · rw [normal, h, List.foldl_append, foldl_step_names]
    cases absolute <;> rfl

/-- What follows an appended path in it is folded on from the normal form. -/
theorem normal_push (p : Path) {q : Path} (hq : q.isAbsolute = false) :
    (p.push q).normal = q.parts.foldl Normal.step p.normal := by
  by_cases hnil : p.text = []
  · obtain ⟨cs⟩ := p
    obtain rfl : cs = [] := hnil
    rw [push, if_neg (by rw [hq]; decide)]
    rfl
  · have hhere : ∀ n : Normal, n.step .here = n := fun _ => rfl
    rw [normal, parts_push_body hnil hq, List.foldl_append, parts_eq q, hq, inner, hq]
    exact (foldl_partsOf hhere true q.body _).symm

namespace Folded

variable {p : Path}

theorem parts_eq (h : p.Folded) : p.parts = rootOf p.isAbsolute ++ p.normal.names.map .name := by
  have hinner : p.inner ⊆ p.parts := by
    rw [Path.parts_eq]
    exact List.subset_append_right _ _
  obtain ⟨names, hnames⟩ : ∃ names : List (List Char), p.inner = names.map .name :=
    exists_names (fun hmem => h.noHere (hinner hmem)) fun hmem => h.noUp (hinner hmem)
  have hparts : p.parts = rootOf p.isAbsolute ++ names.map .name := by rw [Path.parts_eq, hnames]
  rw [hparts, (folded_of_parts hparts).2]

theorem inner_eq (h : p.Folded) : p.inner = p.normal.names.map .name :=
  (inner_of_parts h.parts_eq (by simp)).2

theorem normal_eq (h : p.Folded) : p.normal = ⟨p.isAbsolute, p.normal.names⟩ :=
  (folded_of_parts h.parts_eq).2

theorem pop (h : p.Folded) : p.pop.Folded ∧ p.pop.normal = p.normal.step .up := by
  have hparts : p.pop.parts = rootOf p.isAbsolute ++ p.normal.names.dropLast.map .name := by
    rw [pop_parts, h.inner_eq, List.map_dropLast]
  refine ⟨(folded_of_parts hparts).1, ?_⟩
  rw [(folded_of_parts hparts).2, h.normal_eq]
  rfl

theorem push_name (h : p.Folded) {n : List Char}
    (hn : (⟨n⟩ : Path).isAbsolute = false ∧ (⟨n⟩ : Path).parts = [.name n]) :
    (p.push ⟨n⟩).Folded ∧ (p.push ⟨n⟩).normal = p.normal.step (.name n) := by
  have hparts : (p.push ⟨n⟩).parts =
      rootOf p.isAbsolute ++ (p.normal.names ++ [n]).map .name := by
    rw [parts_push hn.1 (by rw [hn.2]; simp), h.parts_eq, hn.2, List.map_append, List.append_assoc]
    rfl
  refine ⟨(folded_of_parts hparts).1, ?_⟩
  rw [(folded_of_parts hparts).2, h.normal_eq]
  rfl

/-- Going on from a folded path keeps it folded and takes the same steps in the normal form. -/
theorem foldl_extend (h : p.Folded) {cs : List Part} (hroot : .root ∉ cs)
    (hcs : ∀ n, .name n ∈ cs → (⟨n⟩ : Path).isAbsolute = false ∧ (⟨n⟩ : Path).parts = [.name n]) :
    (cs.foldl extend p).Folded ∧
      (cs.foldl extend p).normal = cs.foldl Normal.step p.normal := by
  induction cs generalizing p with
  | nil => exact ⟨h, rfl⟩
  | cons c cs ih =>
    have hrest : .root ∉ cs := fun hmem => hroot (List.mem_cons_of_mem c hmem)
    have hnames := fun n hn => hcs n (List.mem_cons_of_mem c hn)
    have hstep : (extend p c).Folded ∧ (extend p c).normal = p.normal.step c := by
      cases c with
      | root => exact absurd List.mem_cons_self hroot
      | here => exact ⟨h, rfl⟩
      | up => exact h.pop
      | name n => exact h.push_name (hcs n List.mem_cons_self)
    rw [List.foldl_cons, List.foldl_cons, ← hstep.2]
    exact ih hstep.1 hrest hnames

/-- What is joined to a folded path is folded, and its normal form is that of the path followed by
the text, whose slashes at the start do not count. -/
theorem joined (h : p.Folded) (relative : String) :
    (p.joined relative).Folded ∧
      (p.joined relative).normal = (p.push (unrooted relative)).normal := by
  have hroot : .root ∉ steps relative := root_not_mem_partsOf _ _
  have hsteps := h.foldl_extend hroot fun _ => parts_of_mem_steps
  rw [← joined_eq] at hsteps
  refine ⟨hsteps.1, ?_⟩
  rw [hsteps.2, normal_push p (unrooted_isAbsolute relative)]
  exact (foldl_unrooted (fun _ => rfl) relative _).symm

end Folded

/-! ## The laws of joining -/

/-- What can be relied on when texts are joined to a path. -/
structure JoinsLawfully (base : Path) : Prop where
  /-- Folding comes to the same as appending the text and folding the whole. -/
  normal : ∀ r, (base.joined r).normal = (base.push (unrooted r)).normal
  /-- A text joined after another is both joined with a slash between them. -/
  again : ∀ a b, (base.joined a).joined b = base.joined (a ++ "/" ++ b)
  folded : ∀ r, (base.joined r).Folded
  /-- A text that never climbs does not lead out of the path. -/
  within : ∀ r, NeverClimbs (ofString r).parts → Within base (base.joined r)

/-- Texts are joined lawfully to every path without `.` and `..`, from the root or not. -/
theorem joins_lawfully {base : Path} (h : base.Folded) : JoinsLawfully base where
  normal r := (h.joined r).2
  again := joined_joined base
  folded r := (h.joined r).1
  within _ := joined_within base

theorem joins_lawfully_relative :
    let base := ofString "a//b/"
    base.Folded ∧ JoinsLawfully base ∧ base.joined "/../c/./d" = ofString "a/c/d" :=
  ⟨by decide +kernel, joins_lawfully (by decide +kernel), by decide +kernel⟩

end EditionCheck.Path
