import Mathlib.Data.List.Induction
import Mathlib.Data.List.Nodup
import EditionCheck.Keyed

/-!
  Names in the order in which they come first.

  `FirstOrder` relates a list without repetitions to one that may have some. There is only one such
  list (`FirstOrder.eq`), and a name at the end adds itself or nothing (`FirstOrder.concat`); so a
  walk over the repetitions has to do no more than that at each step. Settling entries is such a
  walk (`firstOrder_settle`), which keeps the last value of each key (`get?_settle`).
-/

namespace EditionCheck

/-- The members of `all` without repetitions, in the order in which they come first. -/
structure FirstOrder {α : Type} [DecidableEq α] (distinct all : List α) : Prop where
  nodup : distinct.Nodup
  mem : ∀ a, a ∈ distinct ↔ a ∈ all
  order : distinct.Pairwise fun a b => all.idxOf a < all.idxOf b

namespace FirstOrder

variable {α β : Type} [DecidableEq α] {distinct distinct' all : List α}

theorem nil : FirstOrder ([] : List α) [] := ⟨List.nodup_nil, fun _ => Iff.rfl, .nil⟩

/-- What comes behind does not move what is there. -/
theorem order_append (h : FirstOrder distinct all) (more : List α) :
    distinct.Pairwise fun a b => (all ++ more).idxOf a < (all ++ more).idxOf b := by
  refine h.order.imp_of_mem fun {a b} ha hb hlt => ?_
  rwa [List.idxOf_append_of_mem ((h.mem a).1 ha), List.idxOf_append_of_mem ((h.mem b).1 hb)]

theorem concat (h : FirstOrder distinct all) (a : α) :
    FirstOrder (if a ∈ distinct then distinct else distinct ++ [a]) (all ++ [a]) := by
  split
  · next ha =>
    refine ⟨h.nodup, fun b => ?_, h.order_append [a]⟩
    rw [h.mem, List.mem_append, List.mem_singleton]
    exact ⟨.inl, fun hb => hb.elim id fun heq => heq ▸ (h.mem a).1 ha⟩
  · next ha =>
    have hall : a ∉ all := fun hmem => ha ((h.mem a).2 hmem)
    refine ⟨List.concat_eq_append ▸ h.nodup.concat ha, fun b => ?_, ?_⟩
    · rw [List.mem_append, List.mem_append, h.mem]
    · rw [List.pairwise_append]
      refine ⟨h.order_append [a], List.pairwise_singleton _ _, fun b hb c hc => ?_⟩
      rw [List.mem_singleton.1 hc, List.idxOf_append_of_mem ((h.mem b).1 hb),
        List.idxOf_append_of_notMem hall]
      exact Nat.lt_add_right _ (List.idxOf_lt_length_of_mem ((h.mem b).1 hb))

/-- There is only one such list. -/
theorem eq (h : FirstOrder distinct all) (h' : FirstOrder distinct' all) :
    distinct = distinct' := by
  have hperm : distinct.Perm distinct' :=
    (List.perm_ext_iff_of_nodup h.nodup h'.nodup).2 fun a => (h.mem a).trans (h'.mem a).symm
  exact hperm.eq_of_pairwise (fun a b _ _ hab hba => absurd hba (Nat.lt_asymm hab)) h.order h'.order

/-- Records with such names are the same if the names decide them. -/
theorem eq_of_map {f : β → α} {xs ys : List β} (hx : FirstOrder (xs.map f) all)
    (hy : FirstOrder (ys.map f) all) (hxy : ∀ x ∈ xs, ∀ y ∈ ys, f x = f y → x = y) : xs = ys := by
  have hmap : xs.map f = ys.map f := hx.eq hy
  clear hx hy
  induction xs generalizing ys with
  | nil => exact (List.map_eq_nil_iff.1 hmap.symm).symm
  | cons x xs ih =>
    cases ys with
    | nil => cases hmap
    | cons y ys =>
      obtain ⟨hhead, htail⟩ := List.cons.inj hmap
      have hrest : xs = ys :=
        ih (fun x hx y hy => hxy x (List.mem_cons_of_mem _ hx) y (List.mem_cons_of_mem _ hy)) htail
      rw [hxy x List.mem_cons_self y List.mem_cons_self hhead, hrest]

end FirstOrder

namespace Keyed

variable {α : Type} {entries : List (String × α)} {key : String} {v : α}

/-- The value of a key that counts is the one behind which the key does not come again. -/
def Effective (entries : List (String × α)) (key : String) (v : α) : Prop :=
  ∃ before after, entries = before ++ (key, v) :: after ∧ key ∉ after.map Prod.fst

/-! ## What is bound last -/

theorem not_effective_nil : ¬Effective [] key v := by
  rintro ⟨before, after, h, -⟩
  simp at h

theorem effective_concat (e : String × α) :
    Effective (entries ++ [e]) key v ↔ if e.1 = key then e.2 = v else Effective entries key v := by
  constructor
  · rintro ⟨before, after, heq, hafter⟩
    rcases List.eq_nil_or_concat after with rfl | ⟨rest, last, rfl⟩
    · obtain ⟨-, hlast⟩ := List.append_inj' heq rfl
      cases hlast
      rw [if_pos rfl]
    · rw [List.concat_eq_append, ← List.cons_append, ← List.append_assoc] at heq
      obtain ⟨rfl, hlast⟩ := List.append_inj' heq rfl
      cases hlast
      simp only [List.concat_eq_append, List.map_append, List.mem_append, not_or] at hafter
      rw [if_neg fun h => hafter.2 (by simp [h])]
      exact ⟨before, rest, rfl, hafter.1⟩
  · split
    · next hkey =>
      rintro rfl
      exact ⟨entries, [], by rw [← hkey], by simp⟩
    · next hkey =>
      rintro ⟨before, after, rfl, hafter⟩
      refine ⟨before, after ++ [e], by simp, ?_⟩
      simpa [hafter] using Ne.symm hkey

theorem effective_map {β : Type} (f : α → β) {w : β} :
    Effective (entries.map fun e => (e.1, f e.2)) key w ↔ ∃ v, Effective entries key v ∧ w = f v := by
  constructor
  · rintro ⟨before, after, heq, hafter⟩
    obtain ⟨before, rest, rfl, rfl, hrest⟩ := List.map_eq_append_iff.1 heq
    obtain ⟨⟨_, v⟩, after, rfl, hmember, rfl⟩ := List.map_eq_cons_iff.1 hrest
    cases hmember
    exact ⟨v, ⟨before, after, rfl, by simpa using hafter⟩, rfl⟩
  · rintro ⟨v, ⟨before, after, rfl, hafter⟩, rfl⟩
    exact ⟨_, _, List.map_append, by simpa using hafter⟩

/-! ## Settling -/

theorem settle_concat (entries : List (String × α)) (e : String × α) :
    settle (entries ++ [e]) = put e.1 e.2 (settle entries) := by
  rw [settle, List.foldl_append]
  rfl

theorem keys_put (key : String) (v : α) (entries : List (String × α)) :
    (put key v entries).map Prod.fst =
      if key ∈ entries.map Prod.fst then entries.map Prod.fst
      else entries.map Prod.fst ++ [key] := by
  induction entries with
  | nil => rfl
  | cons e rest ih =>
    obtain ⟨k, w⟩ := e
    by_cases hk : k = key
    · simp [put, hk]
    · rw [put, if_neg (by simpa using hk), List.map_cons, ih]
      by_cases hmem : key ∈ rest.map Prod.fst <;> simp [hmem, Ne.symm hk]

/-- A repeated key keeps its first place. -/
theorem firstOrder_settle (entries : List (String × α)) :
    FirstOrder ((settle entries).map Prod.fst) (entries.map Prod.fst) := by
  induction entries using List.reverseRecOn with
  | nil => exact .nil
  | append_singleton entries e ih =>
    rw [settle_concat, keys_put, List.map_append]
    exact ih.concat e.1

/-- A repeated key keeps its last value. -/
theorem get?_settle : get? key (settle entries) = some v ↔ Effective entries key v := by
  induction entries using List.reverseRecOn with
  | nil => exact iff_of_false nofun not_effective_nil
  | append_singleton entries e ih =>
    rw [settle_concat, get?_put, effective_concat]
    split
    · exact Option.some_inj
    · exact ih

/-! ## Distinct keys -/

/-- Where keys are all different, the one found under a key is the one that has it. -/
theorem find?_key_eq_some {α β : Type} [DecidableEq β] {key : α → β} {es : List α}
    (h : (es.map key).Nodup) {k : β} {e : α} :
    (es.find? fun e => key e = k) = some e ↔ e ∈ es ∧ key e = k := by
  constructor
  · intro he
    exact ⟨List.mem_of_find?_eq_some he, by simpa using List.find?_some he⟩
  · rintro ⟨he, rfl⟩
    have hsome : (es.find? fun x => key x = key e).isSome = true :=
      List.find?_isSome.2 ⟨e, he, by simp⟩
    obtain ⟨e', he'⟩ := Option.isSome_iff_exists.1 hsome
    have hkey : key e' = key e := by simpa using List.find?_some he'
    rw [he', List.inj_on_of_nodup_map h (List.mem_of_find?_eq_some he') he hkey]

theorem get?_eq_some (h : (entries.map Prod.fst).Nodup) :
    get? key entries = some v ↔ (key, v) ∈ entries := by
  have hfind := @find?_key_eq_some _ _ _ Prod.fst _ h key
  simp only [get?, beq_eq_decide, Option.map_eq_some_iff, hfind, Prod.exists]
  constructor
  · rintro ⟨_, _, ⟨he, rfl⟩, rfl⟩
    exact he
  · intro he
    exact ⟨key, v, ⟨he, rfl⟩, rfl⟩

end Keyed
end EditionCheck
