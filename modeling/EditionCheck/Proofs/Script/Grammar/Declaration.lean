import EditionCheck.Proofs.Script.Grammar.Expression
import EditionCheck.Script.Grammar.Declaration

/-!
  Declarations of variables are placed in the text.
-/

namespace EditionCheck.Script

open EditionCheck.Script.Parser
open Text (IsBoundary)

variable {text : List Char} {g : Grammar} {s : Scope}

/-! ## What comes next -/

theorem yields_letComes : Yields text letComes fun _ => True := by
  unfold letComes
  refine yields_peek.bind fun _ _ => .ite ?_ (.pure trivial)
  exact yields_peekSecond.bind fun _ _ => .pure trivial

theorem yields_usingComes {inHead : Bool} : Yields text (usingComes inHead) fun _ => True := by
  unfold usingComes
  refine yields_peek.bind fun _ _ => .ite ?_ (.pure trivial)
  exact yields_peekSecond.bind fun _ _ => .pure trivial

theorem yields_awaitUsingComes : Yields text (awaitUsingComes s) fun _ => True := by
  unfold awaitUsingComes
  refine yields_peek.bind fun _ _ => .ite ?_ (.pure trivial)
  refine yields_peekSecond.bind fun _ _ => .ite ?_ (.pure trivial)
  refine .lookAhead (yields_advance.bind fun _ _ => ?_)
  exact yields_peekSecond.bind fun _ _ => .pure trivial

theorem yields_declarationAhead {inHead : Bool} :
    Yields text (declarationAhead s inHead) fun _ => True := by
  unfold declarationAhead
  refine yields_peek.bind fun _ _ => .ite (.pure trivial) (.ite (.pure trivial) ?_)
  refine yields_letComes.bind fun _ _ => .ite (.pure trivial) ?_
  refine yields_usingComes.bind fun _ _ => .ite (.pure trivial) ?_
  exact yields_awaitUsingComes.bind fun _ _ => .ite (.pure trivial) (.pure trivial)

/-! ## Variables -/

section

variable (hg : g.Places text)
include hg

theorem yields_declarator {needsValue : Node → Bool} :
    Yields text (declarator g s needsValue) (Node.Placed text) := by
  unfold declarator
  refine (yields_binding hg).bind fun pattern hp => yields_accept.bind fun _ _ => .ite ?_ ?_
  · refine (hg _ _).bind fun value hvalue => ?_
    exact yields_finish rfl hp.start (by simp [hp, hvalue])
  · exact yields_guard.bind fun _ _ => yields_finish rfl hp.start (by simp [hp])

theorem yields_declarators {needsValue : Node → Bool} :
    Yields text (declarators g s needsValue) (Node.AllPlaced text) := by
  unfold declarators
  refine (yields_declarator hg).bind fun first hfirst => ?_
  refine yields_loop (Node.AllPlaced text) (by simp [hfirst]) fun acc hacc => ?_
  refine yields_accept.bind fun _ _ => .ite ?_ (.done (by simp [hacc]))
  exact (yields_declarator hg).bind fun d hd => .again (by simp [hd, hacc])

theorem yields_variableList {how : Declarator} {inHead : Bool} :
    Yields text (variableList g s how inHead) (Node.Placed text) := by
  unfold variableList
  refine yields_here.bind fun start hstart => yields_advance.bind fun _ _ => ?_
  extract_lets afterWords
  refine .when yields_advance fun _ => (yields_declarators hg).bind fun ds hds => ?_
  exact yields_guard.bind fun _ _ => yields_finish rfl hstart hds

end

end EditionCheck.Script
