import EditionCheck.Proofs.Script.Grammar.Statement
import EditionCheck.Script.Grammar

/-!
  The tree of a script is placed in its text.

  By induction on the fuel every construct is (`grammar_places`), so the tree that `parse` returns
  is (`parse_placed`): each of its nodes starts and stops at boundaries of the text, also where a
  character takes several bytes.
-/

namespace EditionCheck.Script

open EditionCheck.Script.Parser
open Text (After IsBoundary byteLength)

variable {text : List Char}

theorem grammar_places (text : List Char) (fuel : Nat) : (grammar fuel).Places text := by
  induction fuel with
  | zero => exact fun _ _ => .fail
  | succ fuel ih =>
    intro goal s
    unfold grammar
    cases goal with
    | expression => exact yields_expressionSequence ih
    | assignment => exact yields_assignmentExpression ih
    | leftHandSide => exact yields_leftHandSide ih
    | callee => exact yields_callee ih
    | unary => exact yields_unaryExpression ih
    | binary level => exact yields_binaryExpression ih
    | binding => exact yields_binding ih
    | statement alone => exact yields_statement ih

theorem yields_scriptItems {g : Grammar} {s : Scope} (hg : g.Places text) :
    Yields text (scriptItems g s) (Node.AllPlaced text) := by
  unfold scriptItems
  refine yields_loop (Node.AllPlaced text) Node.allPlaced_nil fun acc hacc => ?_
  refine yields_peek.bind fun _ _ => .ite (.done (by simp [hacc])) ?_
  exact (hg _ _).bind fun n hn => .again (by simp [hn, hacc])

/-- A first line that names an interpreter is placed, and the reading starts behind it. -/
theorem hashbang_placed (text : List Char) :
    Node.AllPlaced text (hashbang text).1 ∧ (hashbang text).2.On text := by
  unfold hashbang
  split
  · next cs =>
    have hmarks : After 2 ('#' :: '!' :: cs) cs := (After.zero _).step.step
    have hline := After.append (cs.takeWhile fun c => !isLineEnd c)
      (cs.dropWhile fun c => !isLineEnd c)
    rw [List.takeWhile_append_dropWhile] at hline
    have hstop := hmarks.trans hline
    refine ⟨Node.allPlaced_cons.2 ⟨?_, Node.allPlaced_nil⟩, hstop⟩
    exact .of rfl (Text.isBoundary_zero _) hstop.isBoundary Node.allPlaced_nil
  · exact ⟨Node.allPlaced_nil, After.zero text⟩

theorem program?_eq_some {stop : Nat} {items : List Node} {tree : Tree}
    (h : program? stop items = some tree) : tree.root = .node .program 0 stop items := by
  unfold program? at h
  dsimp only at h
  split at h
  · cases h
    rfl
  · cases h

/-- Every node of the tree of a script starts and stops at boundaries of the text. -/
theorem parse_placed {module : Bool} {tree : Tree} (h : parse module text = some tree) :
    tree.root.Placed text := by
  unfold parse at h
  obtain ⟨hfirst, hstart⟩ := hashbang_placed text
  dsimp only at h
  split at h
  · next items p hitems =>
    have hread : (Lexeme.read (!module) (text.length + 2) true (hashbang text).2).On text :=
      Lexeme.read_on hstart
    have hplaced := (yields_scriptItems (grammar_places text _)) _ _ items p
      ⟨hread, Text.isBoundary_zero text⟩ hitems
    rw [program?_eq_some h]
    exact .of rfl (Text.isBoundary_zero text) (Text.isBoundary_end text)
      (Node.allPlaced_append.2 ⟨hfirst, hplaced.2⟩)
  · cases h

end EditionCheck.Script
