import EditionCheck.Proofs.Script.Reading

/-!
  Expressions read as patterns stay where they are.

  A target and a pattern take over the places and the parts of the expression that they are made
  from, so they are placed in the text when it is: `target?_placed` for what is assigned to, and
  `bindingElements?_placed` for the parameters of an arrow.
-/

namespace EditionCheck.Script.Node

variable {text : List Char}

/-- What an expression becomes is placed where the expression is. -/
def Keeps (text : List Char) (e : Node) (result : Option Node) : Prop :=
  ∀ t, result = some t → e.Placed text → t.Placed text

/-- What each expression of a list becomes is placed where the expressions are. -/
def AllKept (text : List Char) (cs : List Node) (result : Option (List Node)) : Prop :=
  ∀ ts, result = some ts → AllPlaced text cs → AllPlaced text ts

section Rules

variable {k k' : Kind} {a b : Nat} {c c' : Node} {cs rest : List Node}
  {α : Type} {head : Option Node} {parts tail : Option (List Node)}

theorem Keeps.node (hk : k'.isFree = true) (h : AllKept text cs parts) :
    Keeps text (.node k a b cs) (parts.map (.node k' a b)) := by
  intro t ht hc
  obtain ⟨ts, hts, rfl⟩ := Option.map_eq_some_iff.1 ht
  exact hc.as hk (h ts hts hc.parts)

theorem AllKept.nil : AllKept text [] (some []) := by
  intro ts hts _
  cases hts
  exact allPlaced_nil

theorem AllKept.none : AllKept text cs none := by
  intro ts hts
  cases hts

theorem AllKept.one (hc : c.Placed text → c'.Placed text) :
    AllKept text (c :: rest) (some [c']) := by
  intro ts hts hcs
  cases hts
  exact allPlaced_cons.2 ⟨hc (allPlaced_cons.1 hcs).1, allPlaced_nil⟩

theorem AllKept.one_of {f : α → Node} {x : Option α}
    (hc : ∀ p, x = some p → c.Placed text → (f p).Placed text) :
    AllKept text (c :: rest) (do return [f (← x)]) := by
  intro ts hts hcs
  obtain ⟨p, hp, hts⟩ := Option.bind_eq_some_iff.1 hts
  exact AllKept.one (hc p hp) ts hts hcs

theorem AllKept.last (hk : k'.isFree = true) (h : AllKept text cs parts) :
    AllKept text (.node k a b cs :: rest) (parts.map fun ps => [.node k' a b ps]) := by
  intro ts hts hcs
  obtain ⟨ps, hps, rfl⟩ := Option.map_eq_some_iff.1 hts
  have hc := (allPlaced_cons.1 hcs).1
  exact allPlaced_cons.2 ⟨hc.as hk (h ps hps hc.parts), allPlaced_nil⟩

theorem AllKept.cons (hc : c.Placed text → c'.Placed text) (ht : AllKept text rest tail) :
    AllKept text (c :: rest) (do return c' :: (← tail)) := by
  intro ts hts hcs
  obtain ⟨us, hus, hts⟩ := Option.bind_eq_some_iff.1 hts
  cases hts
  obtain ⟨hc', hrest⟩ := allPlaced_cons.1 hcs
  exact allPlaced_cons.2 ⟨hc hc', ht us hus hrest⟩

theorem AllKept.cons_keeps (hh : Keeps text c head) (ht : AllKept text rest tail) :
    AllKept text (c :: rest) (do return (← head) :: (← tail)) := by
  intro ts hts hcs
  obtain ⟨t, hhead, hts⟩ := Option.bind_eq_some_iff.1 hts
  exact AllKept.cons (hh t hhead) ht ts hts hcs

/-- The head is a node over parts that a step in front of the others has read. -/
theorem AllKept.cons_of {x : Option α} {f : α → Node}
    (hc : ∀ p, x = some p → c.Placed text → (f p).Placed text) (ht : AllKept text rest tail) :
    AllKept text (c :: rest) (do return f (← x) :: (← tail)) := by
  intro ts hts hcs
  obtain ⟨p, hp, hts⟩ := Option.bind_eq_some_iff.1 hts
  exact AllKept.cons (hc p hp) ht ts hts hcs

end Rules

/-! ## Targets -/

theorem target?_keeps :
    (∀ e : Node, Keeps text e e.target?) ∧
    (∀ cs, AllKept text cs (targetProperties? cs)) ∧
    (∀ cs, AllKept text cs (targets? cs)) ∧
    ∀ trailingComma cs, AllKept text cs (targetElements? trailingComma cs) := by
  apply target?.mutual_induct_unfolding
  -- an array, an object, a simple target, anything else
  · intro _ _ _ _ ih
    exact .node rfl ih
  · intro _ _ _ _ ih
    exact .node rfl ih
  · intro e _ _ _ t ht he
    cases ht
    exact he
  · intro e _ _ _ t ht
    cases ht
  -- properties: a shorthand, a value with a default, another value, a shorthand with a default
  · exact .nil
  · intro _ _ _ _ _ _ ih
    exact .cons (fun h => h.as rfl (allPlaced_cons.1 h.parts).2) ih
  · intro _ a b key a' b' cs _ _ ih
    refine .cons (fun h => h.as rfl ?_) ih
    obtain ⟨hkey, hvalue⟩ := allPlaced_cons.1 h.parts
    obtain ⟨hset, -⟩ := allPlaced_cons.1 hvalue
    have hdefault : (node .targetDefault a' b' cs).Placed text := hset.as rfl hset.parts
    simp [hkey, hdefault]
  · intro _ _ _ key value _ _ ihvalue ih
    rw [targetProperties?]
    · refine .cons_of (fun vs hvs h => h.as rfl ?_) ih
      obtain ⟨hkey, hvalue⟩ := allPlaced_cons.1 h.parts
      exact allPlaced_cons.2 ⟨hkey, ihvalue vs hvs hvalue⟩
    · assumption
  · intro _ _ _ _ ih
    exact .cons (fun h => h.as rfl h.parts) ih
  -- the rest of the properties, anything else
  · intro _ _ _ _ hlast
    rw [targetProperties?, if_pos hlast]
    exact .one fun h => h.as rfl h.parts
  · intro _ _ _ _ hlast
    rw [targetProperties?, if_neg hlast]
    exact .none
  · intro _ _ _ _ _ _ _
    rw [targetProperties?]
    · exact .none
    all_goals assumption
  -- each expression
  · exact .nil
  · intro _ _ ihc ih
    exact .cons_keeps ihc ih
  -- elements: a hole, the rest, a default, another one
  · intro _
    exact .nil
  · intro _ _ _ _ _ ih
    exact .cons id ih
  · intro _ _ _ cs _ hlast ih
    rw [targetElements?, if_pos hlast]
    exact .one_of fun ts hts h => h.as rfl (ih ts hts h.parts)
  · intro _ _ _ _ _ hlast
    rw [targetElements?, if_neg hlast]
    exact .none
  · intro _ _ _ _ _ ih
    exact .cons (fun h => h.as rfl h.parts) ih
  · intro _ _ _ _ _ _ ihc ih
    rw [targetElements?]
    · exact .cons_keeps ihc ih
    all_goals assumption

/-- The target that an expression becomes is placed where the expression is. -/
theorem target?_placed {e t : Node} (h : e.target? = some t) (he : e.Placed text) :
    t.Placed text :=
  target?_keeps.1 e t h he

/-! ## Patterns that bind names -/

theorem restName?_kept (cs : List Node) : AllKept text cs (restName? cs) := by
  intro ts h hcs
  unfold restName? at h
  split at h
  · cases h
    exact hcs
  · cases h

/-- A name with a default value becomes a property with a pattern. -/
theorem Placed.withDefault {k : Kind} {a b : Nat} {name : Node} {value : List Node}
    (h : (node k a b (name :: value)).Placed text) :
    (node .bindingProperty a b [name, node .defaulted a b (name :: value)]).Placed text := by
  obtain ⟨hname, -⟩ := allPlaced_cons.1 h.parts
  have hdefaulted : (node .defaulted a b (name :: value)).Placed text := h.as rfl h.parts
  exact h.as rfl (by simp [hname, hdefaulted])

theorem binding?_keeps :
    (∀ e : Node, Keeps text e e.binding?) ∧
    (∀ trailingComma cs, AllKept text cs (bindingProperties? trailingComma cs)) ∧
    (∀ trailingComma cs, AllKept text cs (bindingElements? trailingComma cs)) ∧
    ∀ cs, AllKept text cs (bindings? cs) := by
  apply binding?.mutual_induct_unfolding
  -- a name, the two forms of an array, the two forms of an object, anything else
  · intro _ _ _ _ t ht he
    cases ht
    exact he
  · intro _ _ _ _ ih
    exact .node rfl ih
  · intro _ _ _ ih
    exact .node rfl ih
  · intro _ _ _ _ ih
    exact .node rfl ih
  · intro _ _ _ _ ih
    exact .node rfl ih
  · intro e _ _ _ _ _ t ht
    cases ht
  -- properties: a shorthand, a value read as an expression or as a target
  · intro _
    exact .nil
  · intro _ _ _ _ _ _ ih
    rw [bindingProperties?]
    exact .cons (fun h => h.as rfl h.parts) ih
  · intro _ _ _ _ _ _ _ ihvalue ih
    rw [bindingProperties?]
    refine .cons_of (fun vs hvs h => h.as rfl ?_) ih
    obtain ⟨hkey, hvalue⟩ := allPlaced_cons.1 h.parts
    exact allPlaced_cons.2 ⟨hkey, ihvalue vs hvs hvalue⟩
  · intro _ _ _ _ _ _ ihvalue ih
    rw [bindingProperties?]
    refine .cons_of (fun vs hvs h => h.as rfl ?_) ih
    obtain ⟨hkey, hvalue⟩ := allPlaced_cons.1 h.parts
    exact allPlaced_cons.2 ⟨hkey, ihvalue vs hvs hvalue⟩
  -- a shorthand target, without and with a default, a shorthand with a default
  · intro _ _ _ name _ ih
    rw [bindingProperties?]
    refine .cons (fun h => h.as rfl ?_) ih
    have hname := (allPlaced_cons.1 h.parts).1
    simp [hname]
  · intro _ _ _ _ _ _ _ ih
    rw [bindingProperties?]
    · exact .cons Placed.withDefault ih
    · assumption
  · intro _ _ _ _ _ _ ih
    rw [bindingProperties?]
    exact .cons Placed.withDefault ih
  -- the rest of the properties, in both forms, anything else
  · intro _ _ _ _ _ hlast
    rw [bindingProperties?, if_pos hlast]
    exact .last rfl (restName?_kept _)
  · intro _ _ _ _ _ hlast
    rw [bindingProperties?, if_neg hlast]
    exact .none
  · intro _ _ _ _ _ hlast
    rw [bindingProperties?, if_pos hlast]
    exact .last rfl (restName?_kept _)
  · intro _ _ _ _ _ hlast
    rw [bindingProperties?, if_neg hlast]
    exact .none
  · intro _ _ _ _ _ _ _ _ _ _ _
    rw [bindingProperties?]
    · exact .none
    all_goals assumption
  -- elements: a hole, a parameter that is a rest already, the rest in both forms
  · intro _
    exact .nil
  · intro _ _ _ _ _ ih
    exact .cons id ih
  · intro _ _ _ _ _ ih
    exact .cons id ih
  · intro _ _ _ _ _ hlast ih
    rw [bindingElements?, if_pos hlast]
    exact .one_of fun ts hts h => h.as rfl (ih ts hts h.parts)
  · intro _ _ _ _ _ hlast
    rw [bindingElements?, if_neg hlast]
    exact .none
  · intro _ _ _ _ _ ihrest ih
    exact .cons_of (fun ts hts h => h.as rfl (ihrest ts hts h.parts)) ih
  -- a default in both forms, another one
  · intro _ _ _ _ _ _ ihleft ih
    rw [bindingElements?]
    refine .cons_of (fun t ht h => h.as rfl ?_) ih
    obtain ⟨hleft, hright⟩ := allPlaced_cons.1 h.parts
    exact allPlaced_cons.2 ⟨ihleft t ht hleft, hright⟩
  · intro _ _ _ _ _ _ ihleft ih
    rw [bindingElements?]
    refine .cons_of (fun t ht h => h.as rfl ?_) ih
    obtain ⟨hleft, hright⟩ := allPlaced_cons.1 h.parts
    exact allPlaced_cons.2 ⟨ihleft t ht hleft, hright⟩
  · intro _ _ _ _ _ _ _ _ _ ihc ih
    rw [bindingElements?]
    · exact .cons_keeps ihc ih
    all_goals assumption
  -- each expression
  · exact .nil
  · intro _ _ ihc ih
    exact .cons_keeps ihc ih

/-- The parameters that the items in front of an arrow become are placed where the items are. -/
theorem bindingElements?_placed {trailingComma : Bool} {cs ts : List Node}
    (h : bindingElements? trailingComma cs = some ts) (hcs : AllPlaced text cs) :
    AllPlaced text ts :=
  binding?_keeps.2.2.1 trailingComma cs ts h hcs

end EditionCheck.Script.Node
