import Mathlib.Data.List.Sort
import EditionCheck.Script.Use

/-!
  Uses in order, and the nodes of a tree.

  Sorting by offset is stable: it commutes with a filter (`filter_sort`), keeps sublists
  (`sort_sublist`), and puts first what no use precedes (`sort_eq_cons`). The nodes of a part are
  among those of the whole in the same order (`nodes_sublist`).
-/

namespace EditionCheck.Script

namespace Use

/-! ## Sorting by offset -/

/-- The first use does not come later in the text. -/
def le (u v : Use) : Prop := u.offset ≤ v.offset

instance : DecidableRel le := fun u v => inferInstanceAs (Decidable (u.offset ≤ v.offset))

instance : Std.Total le := ⟨fun u v => Nat.le_total u.offset v.offset⟩

instance : IsTrans Use le := ⟨fun _ _ _ h h' => Nat.le_trans h h'⟩

theorem insert_eq (u : Use) (vs : List Use) : insert u vs = vs.orderedInsert le u := by
  induction vs with
  | nil => rfl
  | cons v vs ih =>
    rw [insert, List.orderedInsert_cons, ih]
    rfl

/-- The sort is insertion sort. -/
theorem sort_eq (us : List Use) : sort us = us.insertionSort le := by
  induction us with
  | nil => rfl
  | cons u us ih =>
    rw [List.insertionSort_cons, ← ih, ← insert_eq]
    rfl

@[simp] theorem sort_nil : sort [] = [] := rfl

@[simp] theorem sort_cons (u : Use) (us : List Use) : sort (u :: us) = insert u (sort us) := rfl

@[simp] theorem mem_sort {u : Use} {us : List Use} : u ∈ sort us ↔ u ∈ us := by
  rw [sort_eq, List.mem_insertionSort]

theorem sort_eq_nil {us : List Use} : sort us = [] ↔ us = [] := by
  rw [sort_eq, ← List.length_eq_zero_iff, List.length_insertionSort, List.length_eq_zero_iff]

theorem pairwise_sort (us : List Use) : (sort us).Pairwise le := by
  rw [sort_eq]
  exact List.pairwise_insertionSort le us

/-- In front of uses none of which comes earlier, a use stays in front. -/
theorem insert_of_forall_le {u : Use} {vs : List Use} (h : ∀ v ∈ vs, le u v) :
    insert u vs = u :: vs := by
  cases vs with
  | nil => rfl
  | cons v vs =>
    rw [insert]
    exact if_pos (h v List.mem_cons_self)

/-- Of uses in order, a filter that drops the inserted one drops it from anywhere. -/
theorem filter_insert_of_neg {p : Use → Bool} {u : Use} (hu : ¬ p u = true) (vs : List Use) :
    (insert u vs).filter p = vs.filter p := by
  induction vs with
  | nil => exact List.filter_cons_of_neg hu
  | cons v vs ih =>
    rw [insert]
    split
    · exact List.filter_cons_of_neg hu
    · rw [List.filter_cons, List.filter_cons, ih]

theorem filter_insert_of_pos {p : Use → Bool} {u : Use} (hu : p u = true) {vs : List Use}
    (hvs : vs.Pairwise le) : (insert u vs).filter p = insert u (vs.filter p) := by
  induction vs with
  | nil => exact List.filter_cons_of_pos hu
  | cons v vs ih =>
    obtain ⟨hv, hvs⟩ := List.pairwise_cons.1 hvs
    rw [insert]
    split
    · next huv =>
      -- everything behind `u` is at least as late, whatever the filter keeps of it
      rw [List.filter_cons_of_pos hu, insert_of_forall_le]
      intro w hw
      rcases List.mem_cons.1 (List.mem_of_mem_filter hw) with rfl | hw
      · exact huv
      · exact Nat.le_trans huv (hv w hw)
    · next huv =>
      rw [List.filter_cons, List.filter_cons, ih hvs]
      split
      · rw [insert, if_neg huv]
      · rfl

/-- The sort is stable: a filter may come before it or after it. -/
theorem filter_sort (p : Use → Bool) (us : List Use) :
    (sort us).filter p = sort (us.filter p) := by
  induction us with
  | nil => rfl
  | cons u us ih =>
    by_cases hu : p u = true
    · rw [sort_cons, filter_insert_of_pos hu (pairwise_sort us), ih, List.filter_cons_of_pos hu,
        sort_cons]
    · rw [sort_cons, filter_insert_of_neg hu, ih, List.filter_cons_of_neg hu]

theorem sort_sublist {us vs : List Use} (h : us.Sublist vs) : (sort us).Sublist (sort vs) := by
  induction h with
  | slnil => exact List.Sublist.refl _
  | @cons us vs v _ ih =>
    rw [sort_cons, insert_eq]
    exact ih.trans (List.sublist_orderedInsert v _)
  | @cons_cons us vs u _ ih =>
    rw [sort_cons, sort_cons, insert_eq, insert_eq]
    exact List.Sublist.orderedInsert_sublist u ih (pairwise_sort vs)

/-- What comes first after sorting: no use is earlier, and those in front of it were all later. -/
theorem sort_eq_cons {us rest : List Use} {u : Use} (h : sort us = u :: rest) :
    ∃ before after, us = before ++ u :: after ∧ (∀ v ∈ us, u.offset ≤ v.offset) ∧
      ∀ v ∈ before, u.offset < v.offset := by
  induction us generalizing u rest with
  | nil => cases h
  | cons w us ih =>
    rw [sort_cons] at h
    cases hs : sort us with
    | nil =>
      rw [hs] at h
      cases h
      cases sort_eq_nil.1 hs
      exact ⟨[], [], rfl, by simp, by simp⟩
    | cons x xs =>
      obtain ⟨before, after, hsplit, hle, hlt⟩ := ih hs
      rw [hs, insert] at h
      split at h
      · next hwx =>
        cases h
        refine ⟨[], us, rfl, ?_, by simp⟩
        intro v hv
        rcases List.mem_cons.1 hv with rfl | hv
        · exact Nat.le_refl _
        · exact Nat.le_trans hwx (hle v hv)
      · next hwx =>
        cases h
        have hxw : u.offset < w.offset := Nat.lt_of_not_le hwx
        refine ⟨w :: before, after, by rw [hsplit]; rfl, ?_, ?_⟩
        · intro v hv
          rcases List.mem_cons.1 hv with rfl | hv
          · exact Nat.le_of_lt hxw
          · exact hle v hv
        · intro v hv
          rcases List.mem_cons.1 hv with rfl | hv
          · exact hxw
          · exact hlt v hv

end Use

/-! ## The nodes of a tree -/

namespace Node

@[simp] theorem nodes_node (k : Kind) (a b : Nat) (cs : List Node) :
    (node k a b cs).nodes = node k a b cs :: nodesOf cs := rfl

theorem nodesOf_eq_flatMap (cs : List Node) : nodesOf cs = cs.flatMap nodes := by
  induction cs with
  | nil => rfl
  | cons c cs ih => rw [nodesOf, ih, List.flatMap_cons]

theorem self_mem_nodes (n : Node) : n ∈ n.nodes := by
  cases n
  exact List.mem_cons_self

theorem mem_nodes_node {s : Node} {k : Kind} {a b : Nat} {cs : List Node} :
    s ∈ (node k a b cs).nodes ↔ s = node k a b cs ∨ ∃ c ∈ cs, s ∈ c.nodes := by
  rw [nodes_node, List.mem_cons, nodesOf_eq_flatMap, List.mem_flatMap]

theorem mem_nodes_of_mem_children {c n : Node} (h : c ∈ n.children) : c ∈ n.nodes := by
  cases n
  exact mem_nodes_node.2 (.inr ⟨c, h, c.self_mem_nodes⟩)

mutual
/-- What surrounds a part neither hides nor reorders its nodes. -/
theorem nodes_sublist {s : Node} : ∀ n : Node, s ∈ n.nodes → s.nodes.Sublist n.nodes
  | node k a b cs, h => by
    rcases List.mem_cons.1 h with rfl | h
    · exact List.Sublist.refl _
    · exact (nodes_sublist_nodesOf cs h).cons _

theorem nodes_sublist_nodesOf {s : Node} :
    ∀ cs : List Node, s ∈ nodesOf cs → s.nodes.Sublist (nodesOf cs)
  | [], h => by cases h
  | c :: cs, h => by
    rw [nodesOf]
    rcases List.mem_append.1 h with h | h
    · exact (nodes_sublist c h).trans (List.sublist_append_left _ _)
    · exact (nodes_sublist_nodesOf cs h).trans (List.sublist_append_right _ _)
end

/-- A part of a part is a part. -/
theorem mem_nodes_trans {l m n : Node} (hl : l ∈ m.nodes) (hm : m ∈ n.nodes) : l ∈ n.nodes :=
  (nodes_sublist n hm).subset hl

end Node
end EditionCheck.Script
