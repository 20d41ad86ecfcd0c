import EditionCheck.Proofs.Script.Reading

/-!
  Names and binding patterns are placed in the text.
-/

namespace EditionCheck.Script

open EditionCheck.Script.Parser
open Text (IsBoundary)

variable {text : List Char} {g : Grammar} {s : Scope}

theorem yields_name : Yields text (name s) (Node.Placed text) := by
  unfold name
  refine yields_peek.bind fun t _ => ?_
  split
  · exact yields_guard.bind fun _ _ => yields_leaf rfl
  · exact .fail

section

variable (hg : g.Places text)
include hg

theorem yields_propertyKey : Yields text (propertyKey g s) fun p => p.1.Placed text := by
  unfold propertyKey
  refine .peek fun t ht => ?_
  split
  · exact .of (.bind (yields_leaf rfl) fun n hn => .pure hn)
  · exact .of (.bind (yields_leaf rfl) fun n hn => .pure hn)
  · next hkind => exact .bind (yieldsAt_numeral ht (ht.number hkind) rfl) fun n hn => .pure hn
  · next hkind => exact .bind (yieldsAt_numeral ht (ht.bigInt hkind) rfl) fun n hn => .pure hn
  · refine .of (yields_advance.bind fun _ _ => (hg _ _).bind fun key hkey => ?_)
    exact yields_expect.bind fun _ _ => .pure hkey
  · exact .of .fail

theorem yields_withDefault {pattern : Node} (hp : pattern.Placed text) :
    Yields text (withDefault g s pattern) (Node.Placed text) := by
  unfold withDefault
  refine yields_accept.bind fun _ _ => .ite ?_ (.pure hp)
  refine (hg _ _).bind fun value hvalue => ?_
  exact yields_finish rfl hp.start (by simp [hp, hvalue])

theorem yields_arrayPattern {start : Nat} (hstart : IsBoundary text start) :
    Yields text (arrayPattern g s start) (Node.Placed text) := by
  unfold arrayPattern
  refine yields_loop (Node.AllPlaced text) Node.allPlaced_nil fun acc hacc => ?_
  refine yields_peek.bind fun t ht => .ite ?_ (.ite ?_ (.ite ?_ ?_))
  · refine yields_advance.bind fun _ _ => ?_
    exact .bind (yields_finish rfl hstart (by simp [hacc])) fun n hn => .done hn
  · have hhole : (Node.node .hole t.start t.start []).Placed text :=
      .of rfl ht.start ht.start Node.allPlaced_nil
    exact yields_advance.bind fun _ _ => .again (by simp [hacc, hhole])
  · refine yields_advance.bind fun _ _ => (hg _ _).bind fun rest hrest => ?_
    refine .bind (yields_finish rfl ht.start (by simp [hrest])) fun rest hrest => ?_
    refine yields_expect.bind fun _ _ => ?_
    exact .bind (yields_finish rfl hstart (by simp [hacc, hrest])) fun n hn => .done hn
  · refine (hg _ _).bind fun pattern hp => (yields_withDefault hg hp).bind fun element he => ?_
    refine yields_peek.bind fun _ _ => ?_
    extract_lets again
    exact .when yields_expect fun _ => .again (by simp [hacc, he])

theorem yields_bindingProperty : Yields text (bindingProperty g s) (Node.Placed text) := by
  unfold bindingProperty
  refine yields_peek.bind fun t ht => (yields_propertyKey hg).bind fun ⟨key, _, _⟩ hkey => ?_
  refine yields_accept.bind fun _ _ => .ite ?_ ?_
  · refine (hg _ _).bind fun pattern hp => (yields_withDefault hg hp).bind fun value hvalue => ?_
    exact yields_finish rfl ht.start (by simp [hkey, hvalue])
  · split
    · refine yields_guard.bind fun _ _ => (yields_withDefault hg hkey).bind fun value hvalue => ?_
      exact yields_finish rfl ht.start (by simp [hkey, hvalue])
    · exact .fail

theorem yields_objectPattern {start : Nat} (hstart : IsBoundary text start) :
    Yields text (objectPattern g s start) (Node.Placed text) := by
  unfold objectPattern
  refine yields_loop (Node.AllPlaced text) Node.allPlaced_nil fun acc hacc => ?_
  refine yields_peek.bind fun t ht => .ite ?_ (.ite ?_ ?_)
  · refine yields_advance.bind fun _ _ => ?_
    exact .bind (yields_finish rfl hstart (by simp [hacc])) fun n hn => .done hn
  · refine yields_advance.bind fun _ _ => yields_name.bind fun rest hrest => ?_
    refine .bind (yields_finish rfl ht.start (by simp [hrest])) fun rest hrest => ?_
    refine yields_expect.bind fun _ _ => ?_
    exact .bind (yields_finish rfl hstart (by simp [hacc, hrest])) fun n hn => .done hn
  · refine (yields_bindingProperty hg).bind fun property hp => ?_
    refine yields_peek.bind fun _ _ => ?_
    extract_lets again
    exact .when yields_expect fun _ => .again (by simp [hacc, hp])

theorem yields_binding : Yields text (binding g s) (Node.Placed text) := by
  unfold binding
  refine yields_here.bind fun start hstart => yields_accept.bind fun _ _ => .ite ?_ ?_
  · exact yields_arrayPattern hg hstart
  · refine yields_accept.bind fun _ _ => .ite ?_ yields_name
    exact yields_objectPattern hg hstart

end

end EditionCheck.Script
