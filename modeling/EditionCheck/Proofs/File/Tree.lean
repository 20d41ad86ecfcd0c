import EditionCheck.File.Tree
import EditionCheck.Proofs.Keyed

/-!
  What a tree holds after entries have been added.

  An entry that was added last at a place stays there, whatever is added above or below it; where
  none was added, a directory stands if something was added below, and nothing else (`Stands`). The
  answers of the tree follow from that (`Lookup.Tells`), and they do not depend on how a path is
  written, except for the path that an error quotes (`Lookup.Alike`).
-/

namespace EditionCheck

/-- A place above another is a start of it that lacks something. It may be the root, but not the
empty path. -/
def Path.Normal.Above (a n : Path.Normal) : Prop :=
  a.absolute = n.absolute ∧ (∃ rest, rest ≠ [] ∧ n.names = a.names ++ rest) ∧
    (a.absolute = true ∨ a.names ≠ [])

theorem Path.Normal.mem_ancestors {a n : Path.Normal} : a ∈ n.ancestors ↔ a.Above n := by
  unfold ancestors Above
  simp only [List.mem_filter, List.mem_map, List.mem_reverse, List.mem_range, Bool.or_eq_true,
    decide_eq_true_eq, ← and_assoc]
  refine and_congr_left fun _ => ?_
  constructor
  · rintro ⟨k, hk, rfl⟩
    exact ⟨rfl, n.names.drop k, by simpa using hk, (List.take_append_drop k n.names).symm⟩
  · rintro ⟨habs, rest, hrest, hnames⟩
    refine ⟨a.names.length, ?_, ?_⟩
    · rw [hnames, List.length_append]
      exact Nat.lt_add_of_pos_right (List.length_pos_iff.2 hrest)
    · rw [hnames, List.take_left, ← habs]

namespace File

namespace Tree

@[simp] theorem get?_empty (n : Path.Normal) : empty.get? n = none := rfl

theorem get?_set_self (t : Tree) (n : Path.Normal) (e : Entry) : (t.set n e).get? n = some e := by
  simp [get?, set]

theorem get?_set (t : Tree) (n : Path.Normal) (e : Entry) (n' : Path.Normal) :
    (t.set n e).get? n' = if n = n' then some e else t.get? n' := by
  split
  · next h => rw [← h, get?_set_self]
  · next h => rw [get?_set_of_ne h]

/-- A directory where nothing stands. -/
def directoryIf (c : Prop) [Decidable c] : Option Entry := if c then some .directory else none

theorem directoryIf_or (c c' : Prop) [Decidable c] [Decidable c'] :
    (directoryIf c).or (directoryIf c') = directoryIf (c ∨ c') := by
  unfold directoryIf
  by_cases hc : c <;> simp [hc]

theorem get?_ensure (t : Tree) (n n' : Path.Normal) :
    (t.ensure n).get? n' = (t.get? n').or (directoryIf (n' = n)) := by
  unfold ensure directoryIf
  cases hn : t.get? n with
  | some e =>
    by_cases h : n' = n
    · subst h
      simp [hn]
    · simp [h]
  | none =>
    rw [get?_set]
    by_cases h : n = n'
    · subst h
      simp [hn]
    · simp [h, Ne.symm h]

theorem get?_foldl_ensure (ns : List Path.Normal) (t : Tree) (n : Path.Normal) :
    (ns.foldl ensure t).get? n = (t.get? n).or (directoryIf (n ∈ ns)) := by
  induction ns generalizing t with
  | nil => simp [directoryIf]
  | cons a ns ih =>
    rw [List.foldl_cons, ih, get?_ensure, Option.or_assoc, directoryIf_or]
    simp only [List.mem_cons]

/-- An entry is added where it is named, and directories above it where nothing stands. -/
theorem get?_add (t : Tree) (p : Path) (e : Entry) (n : Path.Normal) :
    (t.add p e).get? n =
      if p.normal = n then some e else (t.get? n).or (directoryIf (n ∈ p.normal.ancestors)) := by
  rw [add, get?_set, get?_foldl_ensure]

/-- The tree with entries added in turn. -/
def addAll (t : Tree) (es : List (Path × Entry)) : Tree := es.foldl (fun t e => t.add e.1 e.2) t

/-- The last of some entries that is named at a place. -/
def named? (es : List (Path × Entry)) (n : Path.Normal) : Option Entry :=
  (es.reverse.find? fun e => e.1.normal = n).map Prod.snd

theorem named?_eq_some {es : List (Path × Entry)} (h : (es.map fun e => e.1.normal).Nodup)
    {n : Path.Normal} {x : Entry} :
    named? es n = some x ↔ ∃ p, (p, x) ∈ es ∧ p.normal = n := by
  have hreverse : (es.reverse.map fun e => e.1.normal).Nodup := by
    rwa [List.map_reverse, List.nodup_reverse]
  unfold named?
  simp only [Option.map_eq_some_iff, Keyed.find?_key_eq_some hreverse, List.mem_reverse, Prod.exists]
  exact ⟨fun ⟨p, _, ⟨he, hp⟩, hx⟩ => ⟨p, hx ▸ he, hp⟩, fun ⟨p, he, hp⟩ => ⟨p, x, ⟨he, hp⟩, rfl⟩⟩

/-- What is added last at a place stands there, whatever was added above or below. Where nothing was
named, a directory stands if something was added below. -/
theorem get?_addAll (es : List (Path × Entry)) (n : Path.Normal) :
    (empty.addAll es).get? n =
      (named? es n).or (directoryIf (∃ e ∈ es, n ∈ e.1.normal.ancestors)) := by
  induction es using List.reverseRecOn with
  | nil => simp [addAll, named?, directoryIf]
  | append_singleton es e ih =>
    have hadd : empty.addAll (es ++ [e]) = (empty.addAll es).add e.1 e.2 := by
      simp [addAll, List.foldl_append]
    have hnamed : named? (es ++ [e]) n = if e.1.normal = n then some e.2 else named? es n := by
      unfold named?
      rw [List.reverse_append, List.reverse_singleton, List.singleton_append, List.find?_cons]
      split <;> simp_all
    rw [hadd, get?_add, ih, hnamed]
    split
    · rfl
    · rw [Option.or_assoc, directoryIf_or]
      simp only [List.mem_append, List.mem_singleton, or_and_right, exists_or, exists_eq_left]

/-! ## What stands where -/

theorem named?_eq_none {es : List (Path × Entry)} {n : Path.Normal} :
    named? es n = none ↔ ∀ x ∈ es, x.1.normal ≠ n := by
  simp [named?]

/-- The entry that is last named at a place has none behind it that is named there. -/
theorem named?_split {es : List (Path × Entry)} {n : Path.Normal} {e : Entry} :
    named? es n = some e ↔ ∃ before p after, es = before ++ (p, e) :: after ∧ p.normal = n ∧
      ∀ x ∈ after, x.1.normal ≠ n := by
  unfold named?
  rw [Option.map_eq_some_iff]
  constructor
  · rintro ⟨⟨p, e⟩, hfind, rfl⟩
    obtain ⟨hp, after, before, hes, hafter⟩ := List.find?_eq_some_iff_append.1 hfind
    refine ⟨before.reverse, p, after.reverse, ?_, of_decide_eq_true hp, ?_⟩
    · rw [← List.reverse_reverse es, hes]
      simp
    · intro x hx
      simpa using hafter x (List.mem_reverse.1 hx)
  · rintro ⟨before, p, after, rfl, hp, hafter⟩
    refine ⟨(p, e), List.find?_eq_some_iff_append.2 ⟨decide_eq_true hp, after.reverse,
      before.reverse, by simp, ?_⟩, rfl⟩
    intro x hx
    simpa using hafter x (List.mem_reverse.1 hx)

/-- What stands at a place after entries have been added in turn. -/
inductive Stands (es : List (Path × Entry)) (n : Path.Normal) : Option Entry → Prop
  /-- The entry that was last named there, whatever was added before and after. -/
  | named {before after : List (Path × Entry)} {p : Path} {e : Entry}
      (split : es = before ++ (p, e) :: after) (here : p.normal = n)
      (last : ∀ x ∈ after, x.1.normal ≠ n) : Stands es n (some e)
  /-- A directory, made for what was added below. -/
  | above (unnamed : ∀ x ∈ es, x.1.normal ≠ n) (below : ∃ x ∈ es, n.Above x.1.normal) :
      Stands es n (some .directory)
  | nothing (unnamed : ∀ x ∈ es, x.1.normal ≠ n) (bare : ∀ x ∈ es, ¬n.Above x.1.normal) :
      Stands es n none

theorem get?_eq_iff_stands {es : List (Path × Entry)} {n : Path.Normal} {e : Option Entry} :
    (empty.addAll es).get? n = e ↔ Stands es n e := by
  have hbelow : (∃ x ∈ es, n ∈ x.1.normal.ancestors) ↔ ∃ x ∈ es, n.Above x.1.normal := by
    simp only [Path.Normal.mem_ancestors]
  rw [get?_addAll]
  constructor
  · rintro rfl
    cases hnamed : named? es n with
    | some e =>
      obtain ⟨before, p, after, hes, hp, hafter⟩ := named?_split.1 hnamed
      exact .named hes hp hafter
    | none =>
      rw [Option.none_or, directoryIf]
      split
      · next h => exact .above (named?_eq_none.1 hnamed) (hbelow.1 h)
      · next h =>
        exact .nothing (named?_eq_none.1 hnamed) fun x hx habove => h (hbelow.2 ⟨x, hx, habove⟩)
  · intro h
    cases h with
    | named split here last =>
      rw [named?_split.2 ⟨_, _, _, split, here, last⟩, Option.some_or]
    | above unnamed below =>
      rw [named?_eq_none.2 unnamed, Option.none_or, directoryIf, if_pos (hbelow.2 below)]
    | nothing unnamed bare =>
      rw [named?_eq_none.2 unnamed, Option.none_or, directoryIf, if_neg]
      intro h
      obtain ⟨x, hx, habove⟩ := hbelow.1 h
      exact bare x hx habove

end Tree

/-! ## Answers -/

/-- What reading gives where an entry or nothing stands, as an error quotes it. -/
def textOf (quoted : Path) : Option Entry → Except Failed String
  | some (.file text) => .ok text
  | some _ => .error ⟨.other, quoted.display ++ " is not a file"⟩
  | none => .error ⟨.notFound, quoted.display ++ " does not exist"⟩

/-- The answers about a path are those that an entry gives. -/
structure Lookup.Tells (files : Lookup) (p : Path) (e : Option Entry) : Prop where
  present : files.present p = e.isSome
  kind : files.kind? p = e.map Entry.kind
  read : files.read p = textOf p e

/-- The answers about two paths are the same, up to the path that an error quotes. -/
structure Lookup.Alike (files : Lookup) (p q : Path) : Prop where
  present : files.present p = files.present q
  kind : files.kind? p = files.kind? q
  text : ∀ t, files.read p = .ok t ↔ files.read q = .ok t
  failed : ∀ f, files.read p = .error f → ∃ said, f.message = p.display ++ said ∧
    files.read q = .error ⟨f.trouble, q.display ++ said⟩

theorem Tree.tells (t : Tree) (p : Path) : t.lookup.Tells p (t.get? p.normal) := ⟨rfl, rfl, rfl⟩

/-- Two paths about which the answers are those of one entry. -/
theorem Lookup.Tells.alike {files : Lookup} {p q : Path} {e : Option Entry}
    (hp : files.Tells p e) (hq : files.Tells q e) : files.Alike p q where
  present := hp.present.trans hq.present.symm
  kind := hp.kind.trans hq.kind.symm
  text t := by
    rw [hp.read, hq.read]
    rcases e with _ | (_ | _ | _) <;> simp [textOf]
  failed f hf := by
    rw [hp.read] at hf
    rw [hq.read]
    rcases e with _ | (_ | _ | _) <;> cases hf <;> exact ⟨_, rfl, rfl⟩

/-- What can be relied on of a tree to which entries were added in turn. -/
structure Tree.Holds (t : Tree) (es : List (Path × Entry)) : Prop where
  /-- What stands at a place depends on what was named there last and on whether something was added
  below. -/
  stands : ∀ n e, t.get? n = e ↔ Stands es n e
  tells : ∀ p, t.lookup.Tells p (t.get? p.normal)
  /-- Paths with one normal form get the same answers. -/
  alike : ∀ p q, p.normal = q.normal → t.lookup.Alike p q

/-- Whatever is added to the empty tree, and in whatever order, the tree holds it. -/
theorem Tree.addAll_holds (es : List (Path × Entry)) : (empty.addAll es).Holds es where
  stands _ _ := get?_eq_iff_stands
  tells := tells _
  alike p q h := (tells _ p).alike (h ▸ tells _ q)

/-- What was named stays though something is added below it, and any spelling finds it. -/
example : (Tree.empty.addAll [(.ofString "a", .special), (.ofString "a/./b", .file "x")]).lookup.kind?
    (.ofString "c/../a/") = some .other := by decide +kernel

end File
end EditionCheck
