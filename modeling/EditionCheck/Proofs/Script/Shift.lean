import EditionCheck.Proofs.Script.Visits
import EditionCheck.Proofs.Text.Boundary

/-!
  A script behind other text.

  `Node.shift` moves every offset of a tree on by so many bytes, as if that much text stood in front
  of the script. Wherever the detector reads the text, it reads the same as before: the slice of a
  node, what follows the last element of a list, the body of a regular expression. So the visitors
  come to the same nodes (`visits_shift`) and ask for the same uses, moved on like the tree
  (`asked_shift`), and the whole does (`disallowed_shift`). Empty lines in front leave every column
  as it is.
-/

namespace EditionCheck

/-! ## Empty lines in front of a text -/

namespace Text

theorem byteLength_newLines (k : Nat) : byteLength (List.replicate k '\n') = k := by
  have hnarrow : ∀ c ∈ List.replicate k '\n', c.utf8Size = 1 := by
    intro c hc
    rw [List.eq_of_mem_replicate hc]
    rfl
  rw [byteLength_of_narrow hnarrow, List.length_replicate]

theorem lastLine_newLines (k : Nat) (xs : List Char) :
    lastLine (List.replicate k '\n' ++ xs) = lastLine xs := by
  cases k with
  | zero => rfl
  | succ k =>
    rw [List.replicate_succ', List.append_assoc]
    exact lastLine_append_newLine _ xs

theorem endPlace_newLines (k : Nat) (xs : List Char) :
    endPlace (List.replicate k '\n' ++ xs) = ((endPlace xs).1 + k, (endPlace xs).2) := by
  unfold endPlace
  rw [lastLine_newLines, List.count_append, List.count_replicate_self]
  congr 1
  omega

theorem upTo_append_add (xs ys : List Char) (n : Nat) :
    upTo (byteLength xs + n) (xs ++ ys) = xs ++ upTo n ys := by
  unfold upTo
  rw [splitAt?_append_add]
  cases splitAt? n ys <;> rfl

/-- Empty lines in front move every place down, also one inside a character or beyond the end. -/
theorem lineColumn_newLines (k : Nat) (cs : List Char) (n : Nat) :
    lineColumn (List.replicate k '\n' ++ cs) (k + n) =
      ((lineColumn cs n).1 + k, (lineColumn cs n).2) := by
  have hupTo := upTo_append_add (List.replicate k '\n') cs n
  rw [byteLength_newLines] at hupTo
  unfold lineColumn
  rw [hupTo, endPlace_newLines]

end Text

namespace Script

open Text (byteLength)

/-! ## Moving uses and trees on -/

/-- The use, so many bytes further on. -/
def Use.shift (n : Nat) (u : Use) : Use := { u with offset := n + u.offset }

/-- Uses that are all moved on stay in order. -/
theorem Use.sort_shift (n : Nat) (us : List Use) :
    sort (us.map (shift n)) = (sort us).map (shift n) := by
  have hle : ∀ u ∈ us, ∀ v ∈ us, le u v ↔ le (shift n u) (shift n v) :=
    fun _ _ _ _ => Nat.add_le_add_iff_left.symm
  rw [sort_eq, sort_eq, List.map_insertionSort le le (shift n) us hle]

namespace Node

mutual
/-- The tree, so many bytes further on. -/
def shift (n : Nat) : Node → Node
  | node k a b cs => node k (n + a) (n + b) (shiftAll n cs)

/-- The trees, so many bytes further on. -/
def shiftAll (n : Nat) : List Node → List Node
  | [] => []
  | c :: cs => c.shift n :: shiftAll n cs
end

theorem shiftAll_eq_map (n : Nat) (cs : List Node) : shiftAll n cs = cs.map (shift n) := by
  induction cs with
  | nil => rfl
  | cons c cs ih => rw [shiftAll, ih, List.map_cons]

@[simp] theorem kind_shift (n : Nat) (c : Node) : (c.shift n).kind = c.kind := by
  cases c
  rw [shift]
  rfl

@[simp] theorem start_shift (n : Nat) (c : Node) : (c.shift n).start = n + c.start := by
  cases c
  rw [shift]
  rfl

@[simp] theorem stop_shift (n : Nat) (c : Node) : (c.shift n).stop = n + c.stop := by
  cases c
  rw [shift]
  rfl

@[simp] theorem children_shift (n : Nat) (c : Node) :
    (c.shift n).children = shiftAll n c.children := by
  cases c
  rw [shift]
  rfl

end Node

theorem hasRest_shiftAll (n : Nat) (cs : List Node) :
    hasRest (Node.shiftAll n cs) = hasRest cs := by
  rw [Node.shiftAll_eq_map]
  simp [hasRest, List.any_map, Function.comp_def]

theorem argumentsOf_shiftAll (n : Nat) (cs : List Node) :
    argumentsOf (Node.shiftAll n cs) = Node.shiftAll n (argumentsOf cs) := by
  unfold argumentsOf
  rw [Node.shiftAll_eq_map n cs, List.find?_map, Option.map_map]
  have hkind : (fun c : Node => decide (c.kind = .arguments)) ∘ Node.shift n =
      fun c => decide (c.kind = .arguments) := by
    funext c
    rw [Function.comp_apply, Node.kind_shift]
  rw [hkind]
  cases cs.find? fun c => c.kind = .arguments with
  | none => rfl
  | some list => exact Node.children_shift n list

theorem lastElement?_shiftAll (n : Nat) (k : Kind) (cs : List Node) :
    lastElement? k (Node.shiftAll n cs) = (lastElement? k cs).map (Node.shift n) := by
  cases k with
  | call | new =>
    rw [lastElement?, lastElement?, argumentsOf_shiftAll, Node.shiftAll_eq_map]
    exact List.getLast?_map
  | parameters =>
    rw [Node.shiftAll_eq_map]
    simp only [lastElement?, List.getLast?_map, Option.filter_map, Function.comp_def,
      Node.kind_shift]
  | _ => rfl

/-! ## What the visitor of one node asks for -/

section Uses

variable (before text : List Char)

theorem slice_shift (a b : Nat) :
    (Text.Suffixes.ofText (before ++ text)).slice (byteLength before + a) (byteLength before + b) =
      (Text.Suffixes.ofText text).slice a b := by
  rw [Text.Suffixes.slice_ofText, Text.Suffixes.slice_ofText, Text.slice_append_add]

theorem featuresAt_shift (k : Kind) (a b : Nat) (cs : List Node) :
    featuresAt (.ofText (before ++ text)) (byteLength before + a) (byteLength before + b)
        (Node.shiftAll (byteLength before) cs) k =
      featuresAt (.ofText text) a b cs k := by
  unfold featuresAt
  rw [slice_shift, hasRest_shiftAll]

/-- A comma is looked for behind the last element, and a group from the start of the literal, so
both are found as far from there as before. -/
theorem usesInside_shift (k : Kind) (a b : Nat) (cs : List Node) :
    usesInside (.ofText (before ++ text)) k (byteLength before + a) (byteLength before + b)
        (Node.shiftAll (byteLength before) cs) =
      (usesInside (.ofText text) k a b cs).map (Use.shift (byteLength before)) := by
  unfold usesInside
  rw [lastElement?_shiftAll, slice_shift]
  cases lastElement? k cs with
  | some last =>
    simp only [Option.map_some, Node.stop_shift, Text.Suffixes.suffix_ofText,
      Text.dropBytes_append_add]
    cases leadingComma .between 0 (Text.dropBytes last.stop text) with
    | none => rfl
    | some n => simp [Use.shift, Nat.add_assoc]
  | none =>
    cases k with
    | regExp =>
      have hgroup : ∀ (f : Feature) (o : Option Nat),
          (o.map fun n => Use.mk f (byteLength before + a + 1 + n)).toList =
            (o.map fun n => Use.mk f (a + 1 + n)).toList.map (Use.shift (byteLength before)) := by
        intro f o
        cases o with
        | none => rfl
        | some n => simp [Use.shift, Nat.add_assoc]
      simp only [Option.map_none, hgroup, List.map_append]
    | _ => rfl

theorem asked_shift (n : Node) :
    (n.shift (byteLength before)).asked (.ofText (before ++ text)) =
      (n.asked (.ofText text)).map (Use.shift (byteLength before)) := by
  unfold Node.asked
  rw [Node.start_shift, Node.stop_shift, Node.kind_shift, Node.children_shift, featuresAt_shift,
    usesInside_shift, List.map_append, List.map_map]
  rfl

/-- A visit to the node where it has been moved to. -/
def Visit.shift (n : Nat) (v : Visit) : Visit := { v with node := v.node.shift n }

theorem visitAsked_shift (v : Visit) :
    (v.shift (byteLength before)).asked (.ofText (before ++ text)) =
      (v.asked (.ofText text)).map (Use.shift (byteLength before)) := by
  unfold Visit.asked
  rw [Visit.shift]
  dsimp only
  split
  · rw [Node.start_shift]
    rfl
  · exact asked_shift before text v.node

/-! ## The order of the visits -/

mutual
/-- The visitors come to the same nodes in the same order. -/
theorem visits_shift (n : Nat) : ∀ tree : Node,
    (tree.shift n).visits = tree.visits.map (Visit.shift n)
  | .node k a b cs => by
    have hself : Visit.shift n ⟨.node k a b cs, false⟩ =
        ⟨.node k (n + a) (n + b) (Node.shiftAll n cs), false⟩ := by rw [Visit.shift, Node.shift]
    rw [Node.shift, Node.visits, Node.visits, List.map_cons, hself]
    congr 1
    cases k.walk with
    | all => exact visitsAll_shiftAll n cs
    | none => rfl
    | unpacking part => exact visitsUnpacking_shiftAll n part cs

theorem visitsAll_shiftAll (n : Nat) : ∀ cs : List Node,
    Node.visitsAll (Node.shiftAll n cs) = (Node.visitsAll cs).map (Visit.shift n)
  | [] => rfl
  | c :: cs => by
    rw [Node.shiftAll, Node.visitsAll, Node.visitsAll, List.map_append, visits_shift n c,
      visitsAll_shiftAll n cs]

theorem visitsUnpacking_shiftAll (n : Nat) (part : Kind) : ∀ cs : List Node,
    Node.visitsUnpacking part (Node.shiftAll n cs) =
      (Node.visitsUnpacking part cs).map (Visit.shift n)
  | [] => rfl
  | .node k a b cs :: more => by
    have hvisits := visits_shift n (.node k a b cs)
    rw [Node.shift] at hvisits
    rw [Node.shiftAll, Node.shift, Node.visitsUnpacking, Node.visitsUnpacking, List.map_append,
      visitsUnpacking_shiftAll n part more]
    congr 1
    split
    · rw [List.map_cons, visitsAll_shiftAll n cs, Visit.shift, Node.shift]
    · exact hvisits
end

theorem hashbangUses_shift (n : Nat) (tree : Node) :
    hashbangUses (tree.shift n) = (hashbangUses tree).map (Use.shift n) := by
  unfold hashbangUses hashbang?
  rw [Node.children_shift, Node.shiftAll_eq_map, List.head?_map]
  cases tree.children.head? with
  | none => rfl
  | some line =>
    rw [Option.map_some, Option.filter_some, Option.filter_some, Node.kind_shift]
    by_cases hk : line.kind = .hashbang <;> simp [hk, Use.shift]

theorem asks_shift (tree : Node) :
    asks (tree.shift (byteLength before)) (before ++ text) =
      (asks tree text).map (Use.shift (byteLength before)) := by
  unfold asks
  rw [hashbangUses_shift, visits_shift, List.flatMap_map, List.map_append, List.map_flatMap]
  congr 2
  funext v
  exact visitAsked_shift before text v

theorem disallowed_append (tree : Node) (target : Edition) :
    disallowed (tree.shift (byteLength before)) (before ++ text) target =
      (disallowed tree text target).map (Use.shift (byteLength before)) := by
  rw [disallowed_eq_asks, disallowed_eq_asks, asks_shift, List.filter_map, Use.sort_shift]
  rfl

end Uses

/-- The uses that a target does not allow, with the lines and columns at which they are reported. -/
def places (tree : Node) (text : List Char) (target : Edition) : List (Feature × Nat × Nat) :=
  (disallowed tree text target).map fun u => (u.feature, Text.lineColumn text u.offset)

/-- Detection does not depend on where a script stands. Behind more text the same uses are found in
the same order, each as many bytes further on as that text has; behind empty lines each is reported
as many lines further down, in the same column. -/
theorem disallowed_shift (tree : Node) (before text : List Char) (target : Edition) :
    disallowed (tree.shift (byteLength before)) (before ++ text) target =
        (disallowed tree text target).map (Use.shift (byteLength before)) ∧
      ∀ k, places (tree.shift k) (List.replicate k '\n' ++ text) target =
        (places tree text target).map fun p => (p.1, p.2.1 + k, p.2.2) := by
  refine ⟨disallowed_append before text tree target, fun k => ?_⟩
  have hlines := disallowed_append (List.replicate k '\n') text tree target
  rw [Text.byteLength_newLines] at hlines
  unfold places
  rw [hlines, List.map_map, List.map_map]
  refine List.map_congr_left fun u _ => ?_
  simp only [Function.comp_apply, Use.shift, Text.lineColumn_newLines]

end Script
end EditionCheck
