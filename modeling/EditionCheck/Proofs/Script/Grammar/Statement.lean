import EditionCheck.Proofs.Script.Grammar.ModuleItem
import EditionCheck.Script.Grammar.Statement

/-!
  Statements are placed in the text.
-/

namespace EditionCheck.Script

open EditionCheck.Script.Parser
open Text (IsBoundary)

variable {text : List Char} {g : Grammar} {s : Scope}

theorem yields_jumpStatement {k : Kind} (hk : k.isFree = true) :
    Yields text (jumpStatement s k) (Node.Placed text) := by
  unfold jumpStatement
  refine yields_here.bind fun start hstart => yields_advance.bind fun _ _ => ?_
  refine yields_peek.bind fun _ _ => ?_
  extract_lets afterLabel
  have hlabel : ∀ label, Node.AllPlaced text label →
      Yields text (afterLabel label) (Node.Placed text) := fun label hlabel =>
    yields_endStatement.bind fun _ _ => yields_finish hk hstart hlabel
  refine .ite ?_ (hlabel [] Node.allPlaced_nil)
  exact yields_name.bind fun n hn => hlabel [n] (by simp [hn])

section

variable (hg : g.Places text)
include hg

theorem yields_condition : Yields text (condition g s) (Node.Placed text) := by
  unfold condition
  refine yields_expect.bind fun _ _ => (hg _ _).bind fun e he => ?_
  exact yields_expect.bind fun _ _ => .pure he

theorem yields_loneStatement : Yields text (loneStatement g s) (Node.Placed text) := hg _ _

theorem yields_block : Yields text (block g s) (Node.Placed text) := yields_braced hg rfl

theorem yields_expressionStatement :
    Yields text (expressionStatement g s) (Node.Placed text) := by
  unfold expressionStatement
  refine (hg _ _).bind fun e he => yields_endStatement.bind fun _ _ => ?_
  exact yields_finish rfl he.start (by simp [he])

/-! ## Branches and loops -/

theorem yields_ifStatement : Yields text (ifStatement g s) (Node.Placed text) := by
  unfold ifStatement
  refine yields_here.bind fun start hstart => yields_advance.bind fun _ _ => ?_
  refine (yields_condition hg).bind fun test htest => ?_
  refine (yields_loneStatement hg).bind fun yes hyes => yields_acceptWord.bind fun _ _ => ?_
  refine .ite ?_ (yields_finish rfl hstart (by simp [htest, hyes]))
  refine (yields_loneStatement hg).bind fun no hno => ?_
  exact yields_finish rfl hstart (by simp [htest, hyes, hno])

theorem yields_whileStatement : Yields text (whileStatement g s) (Node.Placed text) := by
  unfold whileStatement
  refine yields_here.bind fun start hstart => yields_advance.bind fun _ _ => ?_
  refine (yields_condition hg).bind fun test htest => ?_
  refine (yields_loneStatement hg).bind fun body hbody => ?_
  exact yields_finish rfl hstart (by simp [htest, hbody])

theorem yields_doStatement : Yields text (doStatement g s) (Node.Placed text) := by
  unfold doStatement
  refine yields_here.bind fun start hstart => yields_advance.bind fun _ _ => ?_
  refine (yields_loneStatement hg).bind fun body hbody => yields_expectWord.bind fun _ _ => ?_
  refine (yields_condition hg).bind fun test htest => yields_accept.bind fun _ _ => ?_
  exact yields_finish rfl hstart (by simp [htest, hbody])

theorem yields_withStatement : Yields text (withStatement g s) (Node.Placed text) := by
  unfold withStatement
  refine yields_here.bind fun start hstart => yields_advance.bind fun _ _ => ?_
  refine (yields_condition hg).bind fun object hobject => ?_
  refine (yields_loneStatement hg).bind fun body hbody => ?_
  exact yields_finish rfl hstart (by simp [hobject, hbody])

theorem yields_expressionUnless {m : Mark} :
    Yields text (expressionUnless g s m) (Node.AllPlaced text) := by
  unfold expressionUnless
  refine yields_peek.bind fun _ _ => .ite (.pure Node.allPlaced_nil) ?_
  exact (hg _ _).bind fun e he => .pure (by simp [he])

theorem yields_forLoopRest {start : Nat} {init : List Node} (hstart : IsBoundary text start)
    (hinit : Node.AllPlaced text init) :
    Yields text (forLoopRest g s start init) (Node.Placed text) := by
  unfold forLoopRest
  refine yields_expect.bind fun _ _ => (yields_expressionUnless hg).bind fun test htest => ?_
  refine yields_expect.bind fun _ _ => (yields_expressionUnless hg).bind fun step hstep => ?_
  refine yields_expect.bind fun _ _ => (yields_loneStatement hg).bind fun body hbody => ?_
  exact yields_finish rfl hstart (by simp [hinit, htest, hstep, hbody])

theorem yields_forInRest {start : Nat} {left : Node} (hstart : IsBoundary text start)
    (hleft : left.Placed text) : Yields text (forInRest g s start left) (Node.Placed text) := by
  unfold forInRest
  refine yields_advance.bind fun _ _ => (hg _ _).bind fun object hobject => ?_
  refine yields_expect.bind fun _ _ => (yields_loneStatement hg).bind fun body hbody => ?_
  exact yields_finish rfl hstart (by simp [hleft, hobject, hbody])

theorem yields_forOfRest {start : Nat} {awaits : Bool} {left : Node}
    (hstart : IsBoundary text start) (hleft : left.Placed text) :
    Yields text (forOfRest g s start awaits left) (Node.Placed text) := by
  unfold forOfRest
  refine yields_advance.bind fun _ _ => (hg _ _).bind fun values hvalues => ?_
  refine yields_expect.bind fun _ _ => (yields_loneStatement hg).bind fun body hbody => ?_
  exact yields_finish rfl hstart (by simp [hleft, hvalues, hbody])

theorem yields_forDeclared {start : Nat} {awaits : Bool} {how : Declarator}
    (hstart : IsBoundary text start) :
    Yields text (forDeclared g s start awaits how) (Node.Placed text) := by
  unfold forDeclared
  refine (yields_variableList hg).bind fun left hleft => yields_peek.bind fun _ _ => ?_
  refine .ite (yields_forOfRest hg hstart hleft) (yields_guard.bind fun _ _ => .ite ?_ ?_)
  · exact yields_guard.bind fun _ _ => yields_forInRest hg hstart hleft
  · exact yields_guard.bind fun _ _ => yields_forLoopRest hg hstart (by simp [hleft])

theorem yields_forAssigned {start : Nat} {awaits : Bool} (hstart : IsBoundary text start) :
    Yields text (forAssigned g s start awaits) (Node.Placed text) := by
  unfold forAssigned
  refine yields_peek.bind fun _ _ => (hg _ _).bind fun left hleft => yields_peek.bind fun _ _ => ?_
  refine .ite ?_ (yields_guard.bind fun _ _ => .ite ?_ ?_)
  · refine yields_guard.bind fun _ _ => yields_some?.bind fun target htarget => ?_
    exact yields_forOfRest hg hstart (Node.target?_placed htarget hleft)
  · refine yields_some?.bind fun target htarget => ?_
    exact yields_forInRest hg hstart (Node.target?_placed htarget hleft)
  · exact yields_forLoopRest hg hstart (by simp [hleft])

theorem yields_forStatement : Yields text (forStatement g s) (Node.Placed text) := by
  unfold forStatement
  refine yields_here.bind fun start hstart => yields_advance.bind fun _ _ => ?_
  extract_lets afterAwait
  have hawait : ∀ awaits, Yields text (afterAwait awaits) (Node.Placed text) := by
    intro awaits
    refine yields_expect.bind fun _ _ => yields_peek.bind fun _ _ => .ite ?_ ?_
    · exact yields_guard.bind fun _ _ => yields_forLoopRest hg hstart Node.allPlaced_nil
    refine yields_declarationAhead.bind fun how _ => ?_
    split
    · exact yields_forDeclared hg hstart
    · exact yields_forAssigned hg hstart
  exact .ite (yields_acceptWord.bind fun awaits _ => hawait awaits) (hawait false)

/-! ## Cases and exceptions -/

theorem yields_caseStatements : Yields text (caseStatements g s) (Node.AllPlaced text) := by
  unfold caseStatements
  refine yields_loop (Node.AllPlaced text) Node.allPlaced_nil fun acc hacc => ?_
  refine yields_peek.bind fun _ _ => .ite (.done (by simp [hacc])) ?_
  exact (hg _ _).bind fun n hn => .again (by simp [hn, hacc])

theorem yields_switchStatement : Yields text (switchStatement g s) (Node.Placed text) := by
  unfold switchStatement
  refine yields_here.bind fun start hstart => yields_advance.bind fun _ _ => ?_
  refine (yields_condition hg).bind fun value hvalue => yields_expect.bind fun _ _ => ?_
  refine yields_loop (Node.AllPlaced text) Node.allPlaced_nil fun acc hacc => ?_
  refine yields_accept.bind fun _ _ => .ite ?_ ?_
  · exact .bind (yields_finish rfl hstart (by simp [hvalue, hacc])) fun n hn => .done hn
  refine yields_here.bind fun start hstart => yields_acceptWord.bind fun _ _ => ?_
  extract_lets afterTest
  have htest : ∀ test, Node.AllPlaced text test → Yields text (afterTest test)
      (Round.Meets (Node.AllPlaced text) (Node.Placed text)) := by
    intro test htest
    refine yields_expect.bind fun _ _ => (yields_caseStatements hg).bind fun body hbody => ?_
    exact .bind (yields_finish rfl hstart (by simp [htest, hbody]))
      fun n hn => .again (by simp [hn, hacc])
  refine .ite (htest [] Node.allPlaced_nil) (yields_expectWord.bind fun _ _ => ?_)
  exact (hg _ _).bind fun e he => htest [e] (by simp [he])

theorem yields_catchClause : Yields text (catchClause g s) (Node.Placed text) := by
  unfold catchClause
  refine yields_here.bind fun start hstart => yields_advance.bind fun _ _ => ?_
  refine yields_accept.bind fun _ _ => .ite ?_ ?_
  · refine (yields_binding hg).bind fun parameter hp => yields_expect.bind fun _ _ => ?_
    refine (yields_block hg).bind fun body hbody => ?_
    exact yields_finish rfl hstart (by simp [hp, hbody])
  · exact (yields_block hg).bind fun body hbody => yields_finish rfl hstart (by simp [hbody])

theorem yields_tryStatement : Yields text (tryStatement g s) (Node.Placed text) := by
  unfold tryStatement
  refine yields_here.bind fun start hstart => yields_advance.bind fun _ _ => ?_
  refine (yields_block hg).bind fun body hbody => yields_peek.bind fun _ _ => ?_
  extract_lets afterHandler
  have hhandler : ∀ handler, Node.AllPlaced text handler →
      Yields text (afterHandler handler) (Node.Placed text) := by
    intro handler hhandler
    refine yields_acceptWord.bind fun _ _ => ?_
    extract_lets afterFinal
    have hfinal : ∀ final, Node.AllPlaced text final →
        Yields text (afterFinal final) (Node.Placed text) := fun final hfinal =>
      yields_guard.bind fun _ _ => yields_finish rfl hstart (by simp [hbody, hhandler, hfinal])
    refine .ite ?_ (hfinal [] Node.allPlaced_nil)
    exact (yields_block hg).bind fun b hb => hfinal [b] (by simp [hb])
  refine .ite ?_ (hhandler [] Node.allPlaced_nil)
  exact (yields_catchClause hg).bind fun c hc => hhandler [c] (by simp [hc])

/-! ## Jumps -/

theorem yields_returnStatement : Yields text (returnStatement g s) (Node.Placed text) := by
  unfold returnStatement
  refine yields_here.bind fun start hstart => yields_guard.bind fun _ _ => ?_
  refine yields_advance.bind fun _ _ => yields_peek.bind fun _ _ => ?_
  extract_lets afterValue
  have hvalue : ∀ value, Node.AllPlaced text value →
      Yields text (afterValue value) (Node.Placed text) := fun value hvalue =>
    yields_endStatement.bind fun _ _ => yields_finish rfl hstart hvalue
  refine .ite (hvalue [] Node.allPlaced_nil) ?_
  exact (hg _ _).bind fun e he => hvalue [e] (by simp [he])

theorem yields_throwStatement : Yields text (throwStatement g s) (Node.Placed text) := by
  unfold throwStatement
  refine yields_here.bind fun start hstart => yields_advance.bind fun _ _ => ?_
  refine yields_peek.bind fun _ _ => yields_guard.bind fun _ _ => ?_
  refine (hg _ _).bind fun value hvalue => yields_endStatement.bind fun _ _ => ?_
  exact yields_finish rfl hstart (by simp [hvalue])

theorem yields_labeledStatement : Yields text (labeledStatement g s) (Node.Placed text) := by
  unfold labeledStatement
  refine yields_name.bind fun label hlabel => yields_expect.bind fun _ _ => ?_
  refine (yields_loneStatement hg).bind fun body hbody => ?_
  exact yields_finish rfl hlabel.start (by simp [hlabel, hbody])

/-! ## Statements -/

theorem yields_functionStatement {alone : Bool} :
    Yields text (functionStatement g s alone) (Node.Placed text) := by
  unfold functionStatement
  refine (yields_functionDeclaration hg).bind fun f hf => ?_
  exact yields_guard.bind fun _ _ => .pure hf

theorem yields_decoratedStatement {alone : Bool} :
    Yields text (decoratedStatement g s alone) (Node.Placed text) := by
  unfold decoratedStatement
  refine yields_here.bind fun start hstart => (yields_decorators hg).bind fun ds hds => ?_
  refine yields_peek.bind fun _ _ => .ite (yields_exportDeclaration hg hds) ?_
  exact yields_guard.bind fun _ _ => yields_classRest hg hstart hds

theorem yields_variableStatement {alone : Bool} {how : Declarator} :
    Yields text (variableStatement g s alone how) (Node.Placed text) := by
  unfold variableStatement
  refine .ite ?_ ?_
  · refine yields_peekSecond.bind fun _ _ => yields_guard.bind fun _ _ => ?_
    exact yields_expressionStatement hg
  · refine yields_guard.bind fun _ _ => (yields_variableList hg).bind fun d hd => ?_
    exact yields_endStatement.bind fun _ _ => .pure hd

theorem yields_wordStatement {alone : Bool} {word : String} :
    Yields text (wordStatement g s alone word) (Node.Placed text) := by
  unfold wordStatement
  split
  · exact yields_ifStatement hg
  · exact yields_forStatement hg
  · exact yields_whileStatement hg
  · exact yields_doStatement hg
  · exact yields_switchStatement hg
  · exact yields_tryStatement hg
  · exact yields_returnStatement hg
  · exact yields_throwStatement hg
  · exact yields_jumpStatement rfl
  · exact yields_jumpStatement rfl
  · exact yields_withStatement hg
  · refine yields_here.bind fun start hstart => yields_advance.bind fun _ _ => ?_
    exact yields_endStatement.bind fun _ _ => yields_finish rfl hstart Node.allPlaced_nil
  · exact yields_functionStatement hg
  · refine yields_guard.bind fun _ _ => yields_here.bind fun start hstart => ?_
    exact yields_classRest hg hstart Node.allPlaced_nil
  · exact yields_exportDeclaration hg Node.allPlaced_nil
  · refine yields_peekSecond.bind fun _ _ => .ite (yields_expressionStatement hg) ?_
    exact yields_importDeclaration
  · refine yields_declarationAhead.bind fun how _ => ?_
    split
    · exact yields_variableStatement hg
    · refine yields_asyncFunctionComes.bind fun _ _ => .ite (yields_functionStatement hg) ?_
      exact yields_expressionStatement hg

theorem yields_statement {alone : Bool} :
    Yields text (statement g s alone) (Node.Placed text) := by
  unfold statement
  refine yields_peek.bind fun _ _ => ?_
  split
  · exact yields_block hg
  · exact yields_leaf rfl
  · exact yields_decoratedStatement hg
  · refine yields_peekSecond.bind fun _ _ => .ite (yields_labeledStatement hg) ?_
    exact .ite (yields_expressionStatement hg) (yields_wordStatement hg)
  · exact yields_expressionStatement hg

end

end EditionCheck.Script
