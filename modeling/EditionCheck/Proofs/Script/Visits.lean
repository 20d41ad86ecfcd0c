import Mathlib.Data.List.Flatten
import EditionCheck.Proofs.Script.Uses
import EditionCheck.Script.Detector

/-!
  What the visitors meet.

  `Node.visits` lists the nodes in the order in which the visitors come to them, with a mark on
  those that the visitor of an object takes up itself. What the detector records follows from this
  list alone (`visit_eq`, `disallowed_eq_asks`), and nothing in the list depends on the target.

  In a tree whose parts all stand where they may, the visitors come to every node once, parents
  before children (`visits_eq`). This goes by cases on the construct: those whose visitors stop have
  no parts, only an object literal has a spread among its properties, only an object pattern has a
  rest, and their visitors go on to the argument. So what surrounds a construct hides none of its
  uses (`disallowed_sublist`).
-/

namespace EditionCheck.Script

/-- The construct is a spread or a rest of an object, which the visitor of the object takes up. -/
def Kind.isUnpacked : Kind → Bool
  | .objectSpread | .objectRest => true
  | _ => false

/-- A node that the visitors come to. -/
structure Visit where
  node : Node
  /-- It is taken up by the visitor of the object around it. -/
  unpacked : Bool

/-- What is asked for at a visit. -/
def Visit.asked (text : Text.Suffixes) (v : Visit) : List Use :=
  if v.unpacked then [⟨.objectRestSpread, v.node.start⟩] else v.node.asked text

namespace Node

mutual
/-- The nodes that the visitor of a node and the visitors that it calls come to. -/
def visits : Node → List Visit
  | node k a b cs =>
    ⟨node k a b cs, false⟩ ::
      match k.walk with
      | .all => visitsAll cs
      | .none => []
      | .unpacking part => visitsUnpacking part cs

/-- The nodes that the visitors of several nodes come to. -/
def visitsAll : List Node → List Visit
  | [] => []
  | c :: cs => c.visits ++ visitsAll cs

/-- The nodes that are come to among the parts of an object. -/
def visitsUnpacking (part : Kind) : List Node → List Visit
  | [] => []
  | node k a b cs :: more =>
    (if k = part then ⟨node k a b cs, true⟩ :: visitsAll cs else (node k a b cs).visits) ++
      visitsUnpacking part more
end

end Node

/-! ## What is recorded at the visits -/

/-- What is asked for in a script, whatever the target. -/
def asks (tree : Node) (text : List Char) : List Use :=
  hashbangUses tree ++ tree.visits.flatMap (Visit.asked (.ofText text))

namespace Detector

variable (d : Detector)

theorem flatMap_record (us : List Use) :
    us.flatMap d.record = us.filter fun u => !u.feature.allowedIn d.target := by
  induction us with
  | nil => rfl
  | cons u us ih =>
    rw [List.flatMap_cons, ih, record]
    cases hu : u.feature.allowedIn d.target <;> simp [hu]

mutual
/-- The detector records what is asked for at each visit, in order. -/
theorem visit_eq : ∀ n : Node,
    d.visit n = (n.visits.flatMap (Visit.asked d.text)).flatMap d.record
  | .node k a b cs => by
    have hown : Visit.asked d.text ⟨.node k a b cs, false⟩ =
        (Node.node k a b cs).asked d.text := rfl
    rw [visit, Node.visits, List.flatMap_cons, hown, List.flatMap_append]
    congr 1
    cases k.walk with
    | all => exact visitAll_eq cs
    | none => rfl
    | unpacking part => exact visitUnpacking_eq part cs

theorem visitAll_eq : ∀ cs : List Node,
    d.visitAll cs = ((Node.visitsAll cs).flatMap (Visit.asked d.text)).flatMap d.record
  | [] => rfl
  | c :: cs => by
    rw [visitAll, Node.visitsAll, List.flatMap_append, List.flatMap_append, visit_eq c,
      visitAll_eq cs]

theorem visitUnpacking_eq (part : Kind) : ∀ cs : List Node,
    d.visitUnpacking part cs =
      ((Node.visitsUnpacking part cs).flatMap (Visit.asked d.text)).flatMap d.record
  | [] => rfl
  | .node k a b cs :: more => by
    rw [visitUnpacking, Node.visitsUnpacking, List.flatMap_append, List.flatMap_append,
      visitUnpacking_eq part more]
    congr 1
    split
    · have hpart : Visit.asked d.text ⟨.node k a b cs, true⟩ = [⟨.objectRestSpread, a⟩] := rfl
      rw [List.flatMap_cons, hpart, List.flatMap_append, List.flatMap_singleton, visitAll_eq cs]
    · exact visit_eq (.node k a b cs)
end

end Detector

/-- The uses in a script that a target does not allow are those of what is asked for. -/
theorem disallowed_eq_asks (tree : Node) (text : List Char) (target : Edition) :
    disallowed tree text target =
      Use.sort ((asks tree text).filter fun u => !u.feature.allowedIn target) := by
  unfold disallowed
  dsimp only
  rw [Detector.visit_eq, ← List.flatMap_append, Detector.flatMap_record]
  rfl

/-! ## The order of the visits -/

namespace Kind

variable {k part c : Kind}

theorem isLeaf_of_walk_none (h : k.walk = .none) : k.isLeaf = true := by
  unfold walk at h
  split at h <;> first | rfl | cases h

/-- A construct without parts admits none. -/
theorem admits_of_isLeaf (h : k.isLeaf = true) : k.admits c = false := by
  unfold isLeaf at h
  split at h
  all_goals first | (unfold admits; split <;> rfl) | cases h

/-- Only an object literal has a part that is a spread of an object. -/
theorem walk_of_admits_objectSpread (h : k.admits .objectSpread = true) :
    k.walk = .unpacking .objectSpread := by
  change k.isObject = true at h
  unfold isObject at h
  split at h
  · rfl
  · cases h

/-- Only an object pattern has a part that is a rest of an object. -/
theorem walk_of_admits_objectRest (h : k.admits .objectRest = true) :
    k.walk = .unpacking .objectRest := by
  have hk : k = .objectPattern := of_decide_eq_true h
  rw [hk]
  rfl

/-- What is to be unpacked is a part of constructs only whose visitor does that. -/
theorem walk_of_isUnpacked (hc : c.isUnpacked = true) (h : k.admits c = true) :
    k.walk = .unpacking c := by
  unfold isUnpacked at hc
  split at hc
  · exact walk_of_admits_objectSpread h
  · exact walk_of_admits_objectRest h
  · cases hc

/-- Where the visitor goes on to every part, none is to be unpacked. -/
theorem isUnpacked_of_walk_all (hw : k.walk = .all) (h : k.admits c = true) :
    c.isUnpacked = false := by
  by_contra hc
  rw [walk_of_isUnpacked (Bool.eq_true_of_not_eq_false hc) h] at hw
  cases hw

/-- Where it unpacks parts of one kind, no others are to be unpacked. -/
theorem isUnpacked_of_walk_unpacking (hw : k.walk = .unpacking part) (h : k.admits c = true)
    (hne : c ≠ part) : c.isUnpacked = false := by
  by_contra hc
  rw [walk_of_isUnpacked (Bool.eq_true_of_not_eq_false hc) h] at hw
  cases hw
  exact hne rfl

/-- What is unpacked goes on to its argument, which is to be visited. -/
theorem isUnpacked_of_unpacking (h : k.walk = .unpacking part) :
    part.isUnpacked = true ∧ ∀ c, part.admits c = true → c.isUnpacked = false := by
  obtain rfl | rfl : part = .objectSpread ∨ part = .objectRest := by
    unfold walk at h
    split at h <;> cases h
    · exact .inl rfl
    · exact .inr rfl
  · exact ⟨rfl, fun c hc => isUnpacked_of_walk_all rfl hc⟩
  · exact ⟨rfl, fun c hc => isUnpacked_of_walk_all rfl hc⟩

end Kind

/-- The node as the visitors come to it in the tree of a script. -/
def Visit.of (n : Node) : Visit := ⟨n, n.kind.isUnpacked⟩

namespace Node

variable {k : Kind} {a b : Nat} {cs : List Node}

theorem Formed.of_mem {m n : Node} (h : n.Formed) (hm : m ∈ n.nodes) : m.Formed :=
  fun l hl => h l (mem_nodes_trans hl hm)

theorem Formed.admits {c : Node} (h : (node k a b cs).Formed) (hc : c ∈ cs) :
    k.admits c.kind = true :=
  h _ (self_mem_nodes _) c hc

theorem Formed.part {c : Node} (h : (node k a b cs).Formed) (hc : c ∈ cs) : c.Formed :=
  h.of_mem (mem_nodes_node.2 (.inr ⟨c, hc, c.self_mem_nodes⟩))

mutual
/-- The visitors come to every node below the one they start with, parents before children. -/
theorem visits_eq : ∀ {n : Node}, n.Formed → n.kind.isUnpacked = false →
    n.visits = n.nodes.map Visit.of
  | node k a b cs, h, hk => by
    have hself : Visit.of (node k a b cs) = ⟨node k a b cs, false⟩ := congrArg (Visit.mk _) hk
    rw [visits, nodes_node, List.map_cons, hself]
    congr 1
    cases hw : k.walk with
    | all =>
      exact visitsAll_eq fun c hc => ⟨h.part hc, Kind.isUnpacked_of_walk_all hw (h.admits hc)⟩
    | none =>
      have hleaf := Kind.isLeaf_of_walk_none hw
      cases cs with
      | nil => rfl
      | cons c cs =>
        have hadmits := h.admits List.mem_cons_self
        rw [Kind.admits_of_isLeaf hleaf] at hadmits
        cases hadmits
    | unpacking part =>
      obtain ⟨hpart, hargument⟩ := Kind.isUnpacked_of_unpacking hw
      exact visitsUnpacking_eq hpart hargument fun c hc =>
        ⟨h.part hc, Kind.isUnpacked_of_walk_unpacking hw (h.admits hc)⟩

theorem visitsAll_eq : ∀ {cs : List Node}, (∀ c ∈ cs, c.Formed ∧ c.kind.isUnpacked = false) →
    visitsAll cs = (nodesOf cs).map Visit.of
  | [], _ => rfl
  | c :: cs, h => by
    obtain ⟨hc, hcs⟩ := List.forall_mem_cons.1 h
    rw [visitsAll, nodesOf, List.map_append, visits_eq hc.1 hc.2, visitsAll_eq hcs]

theorem visitsUnpacking_eq {part : Kind} (hpart : part.isUnpacked = true)
    (hargument : ∀ c, part.admits c = true → c.isUnpacked = false) : ∀ {cs : List Node},
    (∀ c ∈ cs, c.Formed ∧ (c.kind ≠ part → c.kind.isUnpacked = false)) →
      visitsUnpacking part cs = (nodesOf cs).map Visit.of
  | [], _ => rfl
  | node k a b cs :: more, h => by
    obtain ⟨⟨hc, hother⟩, hmore⟩ := List.forall_mem_cons.1 h
    rw [visitsUnpacking, nodesOf, List.map_append, visitsUnpacking_eq hpart hargument hmore]
    congr 1
    split
    · next hk =>
      have hself : Visit.of (node k a b cs) = ⟨node k a b cs, true⟩ :=
        congrArg (Visit.mk _) (hk ▸ hpart)
      rw [nodes_node, List.map_cons, hself]
      congr 1
      exact visitsAll_eq fun c hcs => ⟨hc.part hcs, hargument _ (hk ▸ hc.admits hcs)⟩
    · next hk => exact visits_eq hc (hother hk)
end

mutual
/-- The visitors come to nothing else, and take up themselves only what is to be unpacked. -/
theorem mem_nodes_of_visit {v : Visit} : ∀ {n : Node}, v ∈ n.visits →
    v.node ∈ n.nodes ∧ (v.unpacked = true → v.node.kind.isUnpacked = true)
  | node k a b cs, h => by
    rw [visits] at h
    rcases List.mem_cons.1 h with rfl | h
    · exact ⟨self_mem_nodes _, nofun⟩
    cases hw : k.walk with
    | all =>
      rw [hw] at h
      exact (mem_nodesOf_of_visitsAll h).imp_left (List.mem_cons_of_mem _)
    | none =>
      rw [hw] at h
      cases h
    | unpacking part =>
      rw [hw] at h
      have hpart := (Kind.isUnpacked_of_unpacking hw).1
      exact (mem_nodesOf_of_visitsUnpacking hpart h).imp_left (List.mem_cons_of_mem _)

theorem mem_nodesOf_of_visitsAll {v : Visit} : ∀ {cs : List Node}, v ∈ visitsAll cs →
    v.node ∈ nodesOf cs ∧ (v.unpacked = true → v.node.kind.isUnpacked = true)
  | [], h => by cases h
  | c :: cs, h => by
    rcases List.mem_append.1 h with h | h
    · exact (mem_nodes_of_visit h).imp_left (List.mem_append_left _)
    · exact (mem_nodesOf_of_visitsAll h).imp_left (List.mem_append_right _)

theorem mem_nodesOf_of_visitsUnpacking {v : Visit} {part : Kind} (hpart : part.isUnpacked = true) :
    ∀ {cs : List Node}, v ∈ visitsUnpacking part cs →
      v.node ∈ nodesOf cs ∧ (v.unpacked = true → v.node.kind.isUnpacked = true)
  | [], h => by cases h
  | node k a b cs :: more, h => by
    rw [visitsUnpacking] at h
    rcases List.mem_append.1 h with h | h
    · refine And.imp_left (List.mem_append_left _) ?_
      split at h
      · next hk =>
        rcases List.mem_cons.1 h with rfl | h
        · exact ⟨self_mem_nodes _, fun _ => hk ▸ hpart⟩
        · exact (mem_nodesOf_of_visitsAll h).imp_left (List.mem_cons_of_mem _)
      · exact mem_nodes_of_visit h
    · exact (mem_nodesOf_of_visitsUnpacking hpart h).imp_left (List.mem_append_right _)
end

/-- The uses of a node as a part of a script, whatever the target. -/
def own (text : Text.Suffixes) (n : Node) : List Use := (Visit.of n).asked text

theorem own_of_visited {text : Text.Suffixes} {n : Node} (h : n.kind.isUnpacked = false) :
    n.own text = n.asked text := by
  rw [own, Visit.of, h]
  rfl

theorem own_of_unpacked {text : Text.Suffixes} {n : Node} (h : n.kind.isUnpacked = true) :
    n.own text = [⟨.objectRestSpread, n.start⟩] := by
  rw [own, Visit.of, h]
  rfl

theorem mem_own {text : Text.Suffixes} {n : Node} {u : Use} (h : u ∈ n.own text) :
    u = ⟨.objectRestSpread, n.start⟩ ∨ u ∈ n.asked text := by
  cases hk : n.kind.isUnpacked with
  | false => exact .inr (own_of_visited hk ▸ h)
  | true => exact .inl (List.mem_singleton.1 (own_of_unpacked hk ▸ h))

end Node

/-- The first line of a script is one of its nodes. -/
theorem mem_hashbangUses {tree : Node} {u : Use} (h : u ∈ hashbangUses tree) :
    ∃ line, (line ∈ tree.nodes ∧ line.kind = .hashbang) ∧ u = ⟨.hashbang, line.start⟩ := by
  obtain ⟨line, hline, rfl⟩ := Option.map_eq_some_iff.1 (Option.mem_toList.1 h)
  obtain ⟨hhead, hk⟩ := Option.filter_eq_some_iff.1 hline
  exact ⟨line, ⟨Node.mem_nodes_of_mem_children (List.mem_of_mem_head? hhead), of_decide_eq_true hk⟩,
    rfl⟩

/-! ## The uses in a script -/

/-- The uses in a script, whatever the target: that of its first line, and those of its nodes,
parents before children. -/
def Tree.uses (tree : Tree) (text : List Char) : List Use :=
  hashbangUses tree ++ tree.root.nodes.flatMap (Node.own (.ofText text))

section Uses

variable {tree : Tree} {text : List Char} {target : Edition}

theorem Tree.visits_eq (tree : Tree) : tree.root.visits = tree.root.nodes.map Visit.of :=
  Node.visits_eq tree.formed (by rw [tree.isProgram]; rfl)

/-- The detector asks for the uses in a script and for nothing else. -/
theorem Tree.asks_eq (tree : Tree) (text : List Char) : asks tree text = tree.uses text := by
  rw [asks, tree.visits_eq, List.flatMap_map]
  rfl

theorem disallowed_eq (tree : Tree) (text : List Char) (target : Edition) :
    disallowed tree text target =
      Use.sort ((tree.uses text).filter fun u => !u.feature.allowedIn target) := by
  rw [disallowed_eq_asks, tree.asks_eq]

theorem disallowed_eq_nil :
    disallowed tree text target = [] ↔ ∀ u ∈ tree.uses text, u.feature.allowedIn target = true := by
  rw [disallowed_eq, Use.sort_eq_nil, List.filter_eq_nil_iff]
  simp

theorem mem_disallowed {u : Use} :
    u ∈ disallowed tree text target ↔ u ∈ tree.uses text ∧ u.feature.allowedIn target = false := by
  rw [disallowed_eq, Use.mem_sort, List.mem_filter, Bool.not_eq_true']

/-- The uses of one feature that a target does not allow are those of all nodes, except that a first
line has one of its own. -/
theorem disallowed_filter (tree : Tree) (text : List Char) {f : Feature}
    (hf : f.allowedIn target = false) (hline : f ≠ .hashbang) :
    (disallowed tree text target).filter (fun u => u.feature = f) =
      Use.sort (tree.root.nodes.flatMap fun n =>
        (n.own (.ofText text)).filter fun u => u.feature = f) := by
  have hnone : (hashbangUses tree).filter (fun u => u.feature = f) = [] := by
    unfold hashbangUses
    cases hashbang? tree with
    | none => rfl
    | some line => simp [hline.symm]
  have hboth : (tree.uses text).filter
        (fun u => decide (u.feature = f) && !u.feature.allowedIn target) =
      (tree.uses text).filter fun u => u.feature = f := by
    refine List.filter_congr fun u _ => ?_
    by_cases hu : u.feature = f <;> simp [hu, hf]
  rw [disallowed_eq, Use.filter_sort, List.filter_filter, hboth, Tree.uses, List.filter_append,
    hnone, List.nil_append, List.filter_flatMap]

end Uses

/-- No context hides a newer construct: what the detector records when it visits a part of a script
alone it reports for the whole script, as often and in the same order. A spread or a rest of an
object is not visited alone, since the visitor of the object takes it up. -/
theorem disallowed_sublist (tree : Tree) {s : Node} (hs : s ∈ tree.root.nodes)
    (hk : s.kind.isUnpacked = false) (text : List Char) (target : Edition) :
    (Use.sort ((Detector.of text target).visit s)).Sublist (disallowed tree text target) := by
  have hvisits : s.visits.Sublist tree.root.visits := by
    rw [Node.visits_eq (tree.formed.of_mem hs) hk, tree.visits_eq]
    exact (Node.nodes_sublist _ hs).map _
  refine Use.sort_sublist ?_
  rw [Detector.visit_eq, Detector.visit_eq]
  exact ((hvisits.flatMap _).flatMap _).trans (List.sublist_append_right _ _)

/-- A big integer in the argument of a spread of an object is found in the script as well. -/
theorem disallowed_sublist_spread :
    let s : Node := .node (.array false) 5 9 [.node .bigInt 6 8 []]
    let root : Node := .node .program 0 11 [.node .expressionStatement 0 11 [
      .node .parenthesized 0 11 [.node (.object false) 1 10 [.node .objectSpread 2 9 [s]]]]]
    let text := "({...[1n]})".toList
    ∃ tree : Tree, tree.root = root ∧ s ∈ tree.root.nodes ∧ s.kind.isUnpacked = false ∧
      (Detector.of text .es2015).visit s = [⟨.bigInt, 6⟩] ∧
      disallowed tree text .es2015 = [⟨.objectRestSpread, 2⟩, ⟨.bigInt, 6⟩] ∧
      (Use.sort ((Detector.of text .es2015).visit s)).Sublist (disallowed tree text .es2015) := by
  intro s root text
  let tree : Tree := ⟨root, rfl, by decide⟩
  have hs : s ∈ tree.root.nodes := by simp [s, root, tree, Node.nodes, Node.nodesOf]
  exact ⟨tree, rfl, hs, rfl, by decide, by decide, disallowed_sublist tree hs rfl text .es2015⟩

end EditionCheck.Script
