import EditionCheck.Proofs.Script.Grammar.Function
import EditionCheck.Proofs.Script.Patterns
import EditionCheck.Script.Grammar.Expression

/-!
  Expressions are placed in the text.

  The one production that does not follow the rules for nodes alone is that of regular expressions:
  the literal is read again from the place of a slash, where the node starts.
-/

namespace EditionCheck.Script

open EditionCheck.Script.Parser
open Text (IsBoundary)

variable {text : List Char} {g : Grammar} {s : Scope}

/-- A regular expression read from a lexeme that has just been put in the place of the next one. -/
theorem yields_reread_regExp {t : Lexeme} (hsource : t.source.On text) (hnext : t.next.On text) :
    Yields text (do reread t; leaf .regExp) (Node.Placed text) := by
  intro r p n p' hp h
  cases h
  exact ⟨⟨Lexeme.read_on hnext, ⟨_, hnext⟩⟩, .of rfl ⟨_, hsource⟩ ⟨_, hnext⟩ Node.allPlaced_nil⟩

theorem yields_regExpLiteral : Yields text regExpLiteral (Node.Placed text) := by
  unfold regExpLiteral
  refine yields_peek.bind fun t ht => yields_some?.bind fun ⟨body, flags, next⟩ hregExp => ?_
  have hnext := Lexeme.regExp_on hregExp ht.source
  exact yields_guard.bind fun _ _ => yields_reread_regExp ht.source hnext

section

variable (hg : g.Places text)
include hg

/-! ## Literals, lists and parentheses -/

theorem yields_templateLiteral {tagged : Bool} :
    Yields text (templateLiteral g s tagged) (Node.Placed text) := by
  unfold templateLiteral
  refine yields_here.bind fun start hstart => ?_
  refine yields_loop (Node.AllPlaced text) Node.allPlaced_nil fun acc hacc => ?_
  refine yields_peek.bind fun _ _ => ?_
  split
  · refine yields_guard.bind fun _ _ => yields_advance.bind fun _ _ => ?_
    split
    · exact .bind (yields_finish rfl hstart (by simp [hacc])) fun n hn => .done hn
    · refine (hg _ _).bind fun e he => yields_peek.bind fun t ht => ?_
      exact (yields_reread (Lexeme.templateRest_on ht)).bind fun _ _ => .again (by simp [he, hacc])
  · exact .fail

/-- An element that may be a spread one. -/
theorem yields_element {start : Nat} (hstart : IsBoundary text start)
    {next : Node → Parser α} {Q : α → Prop} (hnext : ∀ e, e.Placed text → Yields text (next e) Q)
    {c : Bool} :
    Yields text
      (if c = true then do
        let e ← g .assignment s.withIn
        let e ← finish .spread start [e]
        next e
      else do
        let e ← g .assignment s.withIn
        next e) Q := by
  refine .ite ?_ ((hg _ _).bind hnext)
  refine (hg _ _).bind fun e he => ?_
  exact .bind (yields_finish rfl hstart (by simp [he])) hnext

theorem yields_arrayLiteral : Yields text (arrayLiteral g s) (Node.Placed text) := by
  unfold arrayLiteral
  refine yields_here.bind fun start hstart => yields_expect.bind fun _ _ => ?_
  refine yields_loop (fun p => Node.AllPlaced text p.1) Node.allPlaced_nil ?_
  intro ⟨acc, _⟩ (hacc : Node.AllPlaced text acc)
  have hrev : Node.AllPlaced text acc.reverse := Node.allPlaced_reverse.2 hacc
  refine yields_peek.bind fun t ht => .ite ?_ (.ite ?_ ?_)
  · refine yields_advance.bind fun _ _ => ?_
    exact .bind (yields_finish rfl hstart hrev) fun n hn => .done hn
  · have hhole : (Node.node .hole t.start t.start []).Placed text :=
      .of rfl ht.start ht.start Node.allPlaced_nil
    exact yields_advance.bind fun _ _ => .again (Node.allPlaced_cons.2 ⟨hhole, hacc⟩)
  · refine yields_accept.bind fun _ _ => ?_
    extract_lets more
    refine yields_element hg ht.start fun e he => ?_
    have hcons : Node.AllPlaced text (e :: acc) := Node.allPlaced_cons.2 ⟨he, hacc⟩
    refine yields_peek.bind fun _ _ => .ite (.again hcons) ?_
    exact yields_expect.bind fun _ _ => .again hcons

theorem yields_arguments : Yields text (arguments g s) (Node.Placed text) := by
  unfold arguments
  refine yields_here.bind fun start hstart => yields_expect.bind fun _ _ => ?_
  refine yields_loop (Node.AllPlaced text) Node.allPlaced_nil fun acc hacc => ?_
  refine yields_peek.bind fun t ht => .ite ?_ ?_
  · refine yields_advance.bind fun _ _ => ?_
    exact .bind (yields_finish rfl hstart (by simp [hacc])) fun n hn => .done hn
  · refine yields_accept.bind fun _ _ => ?_
    extract_lets more
    refine yields_element hg ht.start fun e he => yields_peek.bind fun _ _ => ?_
    extract_lets again
    exact .when yields_expect fun _ => .again (by simp [he, hacc])

theorem yields_parenthesizedItems :
    Yields text (parenthesizedItems g s) fun p => Node.AllPlaced text p.1 := by
  unfold parenthesizedItems
  refine yields_expect.bind fun _ _ => ?_
  refine yields_loop (fun p => Node.AllPlaced text p.1) Node.allPlaced_nil ?_
  intro ⟨acc, _⟩ (hacc : Node.AllPlaced text acc)
  have hrev : Node.AllPlaced text acc.reverse := Node.allPlaced_reverse.2 hacc
  refine yields_peek.bind fun t ht => .ite ?_ (.ite ?_ ?_)
  · exact yields_advance.bind fun _ _ => .done hrev
  · refine yields_advance.bind fun _ _ => (hg _ _).bind fun rest hrest => ?_
    refine .bind (yields_finish rfl ht.start (by simp [hrest])) fun rest hrest => ?_
    exact yields_expect.bind fun _ _ => .done (by simp [hrest, hacc])
  · refine (hg _ _).bind fun e he => ?_
    have hcons : Node.AllPlaced text (e :: acc) := Node.allPlaced_cons.2 ⟨he, hacc⟩
    refine yields_peek.bind fun _ _ => .ite (.again hcons) ?_
    exact yields_expect.bind fun _ _ => .again hcons

theorem yields_parenthesized : Yields text (parenthesized g s) (Node.Placed text) := by
  unfold parenthesized
  refine yields_here.bind fun start hstart => ?_
  refine (yields_parenthesizedItems hg).bind fun ⟨items, _, _⟩ hitems => ?_
  refine yields_peek.bind fun _ _ => .ite (yields_finish rfl hstart hitems) ?_
  refine yields_guard.bind fun _ _ => ?_
  split
  · exact .fail
  · exact yields_finish rfl hstart hitems
  · next first more =>
    obtain ⟨hfirst, hmore⟩ := Node.allPlaced_cons.1 hitems
    have hsequence := Node.Placed.of (k := .sequence) rfl hfirst.start (hmore.stop hfirst.stop)
      hitems
    exact yields_finish rfl hstart (Node.allPlaced_cons.2 ⟨hsequence, Node.allPlaced_nil⟩)

/-! ## Words and operands -/

theorem yields_asyncArrowHead : Yields text (asyncArrowHead g s) (Node.Placed text) := by
  unfold asyncArrowHead
  refine yields_here.bind fun start hstart => yields_advance.bind fun _ _ => ?_
  refine yields_peek.bind fun _ _ => ?_
  extract_lets afterItems
  have hitems : ∀ items, Node.AllPlaced text items →
      Yields text (afterItems items) (Node.Placed text) := by
    intro items hitems
    refine yields_peek.bind fun _ _ => yields_guard.bind fun _ _ => ?_
    exact yields_finish rfl hstart hitems
  refine .ite ?_ (yields_name.bind fun n hn => hitems [n] (by simp [hn]))
  exact (yields_parenthesizedItems hg).bind fun ⟨items, _, _⟩ h => hitems items h

theorem yields_asyncExpression {calls : Bool} :
    Yields text (asyncExpression g s calls) (Node.Placed text) := by
  unfold asyncExpression
  refine yields_peekSecond.bind fun next _ => .ite yields_name ?_
  refine .ite (yields_functionExpression hg) (.ite yields_name (.ite ?_ ?_))
  · have hcall : Yields text
        (do
          let start ← here
          let callee ← name s
          let args ← arguments g s
          Parser.guard (!(← peek).isMark .arrow)
          finish .call start [callee, args]) (Node.Placed text) := by
      refine yields_here.bind fun start hstart => yields_name.bind fun callee hcallee => ?_
      refine (yields_arguments hg).bind fun args hargs => yields_peek.bind fun _ _ => ?_
      exact yields_guard.bind fun _ _ => yields_finish rfl hstart (by simp [hcallee, hargs])
    refine hcall.attempt.bind fun call hplaced => ?_
    split
    · exact .pure (hplaced _ rfl)
    · exact yields_asyncArrowHead hg
  · refine (yields_asyncArrowHead hg).attempt.bind fun head hplaced => ?_
    split
    · exact .pure (hplaced _ rfl)
    · exact yields_name

theorem yields_importExpression {calls : Bool} :
    Yields text (importExpression g s calls) (Node.Placed text) := by
  unfold importExpression
  refine yields_here.bind fun start hstart => yields_expectWord.bind fun _ _ => ?_
  refine yields_accept.bind fun phase _ => ?_
  extract_lets afterPhase afterProperties
  have hphase : ∀ u, Yields text (afterPhase u) (Node.Placed text) := by
    intro u
    refine yields_expect.bind fun _ _ => (hg _ _).bind fun first hfirst => ?_
    refine yields_accept.bind fun _ _ => yields_peek.bind fun _ _ => ?_
    extract_lets afterMore
    have hmore : ∀ more, Node.AllPlaced text more →
        Yields text (afterMore more) (Node.Placed text) := fun more hmore =>
      yields_expect.bind fun _ _ => yields_finish rfl hstart (by simp [hfirst, hmore])
    refine .ite ?_ (hmore [] Node.allPlaced_nil)
    refine (hg _ _).bind fun e he => yields_accept.bind fun _ _ => ?_
    exact hmore [e] (by simp [he])
  have hproperties : ∀ properties, Yields text (afterProperties properties) (Node.Placed text) := by
    intro properties
    unfold afterProperties
    refine .ite (yields_finish rfl hstart Node.allPlaced_nil) (yields_guard.bind fun _ _ => ?_)
    refine .ite ?_ (hphase ())
    exact yields_acceptWord.bind fun _ _ => .when yields_expectWord hphase
  refine .ite ?_ (hproperties false)
  exact yields_acceptWord.bind fun properties _ => hproperties properties

theorem yields_newExpression : Yields text (newExpression g s) (Node.Placed text) := by
  unfold newExpression
  refine yields_here.bind fun start hstart => yields_expectWord.bind fun _ _ => ?_
  refine yields_accept.bind fun _ _ => .ite ?_ ?_
  · exact yields_expectWord.bind fun _ _ => yields_finish rfl hstart Node.allPlaced_nil
  refine (hg _ _).bind fun callee hcallee => yields_peek.bind fun _ _ => ?_
  refine yields_guard.bind fun _ _ => yields_peek.bind fun _ _ => ?_
  extract_lets afterArguments
  have harguments : ∀ args, Node.AllPlaced text args →
      Yields text (afterArguments args) (Node.Placed text) := fun args hargs =>
    yields_finish rfl hstart (by simp [hcallee, hargs])
  refine .ite ?_ (harguments [] Node.allPlaced_nil)
  exact (yields_arguments hg).bind fun args hargs => harguments [args] (by simp [hargs])

theorem yields_primary {calls : Bool} : Yields text (primary g s calls) (Node.Placed text) := by
  unfold primary
  refine .peek fun t ht => ?_
  split
  · refine .of (.ite yields_name ?_)
    split
    · exact yields_functionExpression hg
    · exact yields_classExpression hg
    · exact yields_leaf rfl
    · exact yields_leaf rfl
    · exact yields_leaf rfl
    · exact yields_leaf rfl
    · exact yields_newExpression hg
    · exact yields_importExpression hg
    · exact yields_asyncExpression hg
    · refine .bind (yields_leaf rfl) fun e he => yields_peek.bind fun _ _ => ?_
      exact yields_guard.bind fun _ _ => .pure he
    · exact yields_name
  · exact .of (yields_leaf rfl)
  · next hkind => exact yieldsAt_numeral ht (ht.number hkind) rfl
  · next hkind => exact yieldsAt_numeral ht (ht.bigInt hkind) rfl
  · exact .of (yields_templateLiteral hg)
  · exact .of (yields_arrayLiteral hg)
  · exact .of (yields_objectLiteral hg)
  · exact .of (yields_parenthesized hg)
  · exact .of (yields_classExpression hg)
  · exact .of yields_regExpLiteral
  · exact .of yields_regExpLiteral
  · exact .of .fail

/-! ## Properties and calls -/

omit hg in
theorem yields_dotted {start : Nat} {object : Node} (hstart : IsBoundary text start)
    (hobject : object.Placed text) : Yields text (dotted start object) (Node.Placed text) := by
  unfold dotted
  refine yields_peek.bind fun _ _ => ?_
  split
  · refine .bind (yields_leaf rfl) fun n hn => ?_
    exact yields_finish rfl hstart (by simp [hobject, hn])
  · refine yields_guard.bind fun _ _ => .bind (yields_leaf rfl) fun n hn => ?_
    exact yields_finish rfl hstart (by simp [hobject, hn])
  · exact .fail

theorem yields_bracketed {start : Nat} {object : Node} (hstart : IsBoundary text start)
    (hobject : object.Placed text) :
    Yields text (bracketed g s start object) (Node.Placed text) := by
  unfold bracketed
  refine yields_expect.bind fun _ _ => (hg _ _).bind fun key hkey => ?_
  refine yields_expect.bind fun _ _ => yields_finish rfl hstart (by simp [hobject, hkey])

omit hg in
theorem yields_close {start : Nat} {e : Node} {chained : Bool} (hstart : IsBoundary text start)
    (he : e.Placed text) : Yields text (links.close start e chained) (Node.Placed text) :=
  .ite (yields_finish rfl hstart (by simp [he])) (.pure he)

theorem yields_links {calls : Bool} {first : Node} (hfirst : first.Placed text) :
    Yields text (links g s calls first) (Node.Placed text) := by
  unfold links
  have hstart := hfirst.start
  refine yields_loop (fun p => p.1.Placed text) hfirst ?_
  intro ⟨e, chained⟩ (he : e.Placed text)
  have hclose : Yields text (do return .done (← links.close first.start e chained))
      (Round.Meets (fun p : Node × Bool => p.1.Placed text) (Node.Placed text)) :=
    (yields_close hstart he).bind fun n hn => .done hn
  refine yields_peek.bind fun t _ => ?_
  split
  · exact yields_advance.bind fun _ _ => (yields_dotted hstart he).bind fun n hn => .again hn
  · exact .ite hclose ((yields_bracketed hg hstart he).bind fun n hn => .again hn)
  · refine .ite hclose ((yields_arguments hg).bind fun args hargs => ?_)
    exact .bind (yields_finish rfl hstart (by simp [he, hargs])) fun n hn => .again hn
  · refine yields_guard.bind fun _ _ => (yields_templateLiteral hg).bind fun quasi hquasi => ?_
    exact .bind (yields_finish rfl hstart (by simp [he, hquasi])) fun n hn => .again hn
  · refine .ite hclose (yields_advance.bind fun _ _ => yields_peek.bind fun _ _ => ?_)
    refine .ite ?_ (.ite ?_ ?_)
    · refine (yields_arguments hg).bind fun args hargs => ?_
      exact .bind (yields_finish rfl hstart (by simp [he, hargs])) fun n hn => .again hn
    · exact (yields_bracketed hg hstart he).bind fun n hn => .again hn
    · exact (yields_dotted hstart he).bind fun n hn => .again hn
  · exact hclose

theorem yields_linksUnlessArrow {calls : Bool} {e : Node} (he : e.Placed text) :
    Yields text (linksUnlessArrow g s calls e) (Node.Placed text) := by
  unfold linksUnlessArrow
  exact yields_peek.bind fun _ _ => .ite (.pure he) (yields_links hg he)

theorem yields_leftHandSide : Yields text (leftHandSide g s) (Node.Placed text) := by
  unfold leftHandSide
  exact (yields_primary hg).bind fun e he => yields_linksUnlessArrow hg he

theorem yields_callee : Yields text (callee g s) (Node.Placed text) := by
  unfold callee
  exact (yields_primary hg).bind fun e he => yields_linksUnlessArrow hg he

/-! ## Operators -/

theorem yields_updateExpression : Yields text (updateExpression g s) (Node.Placed text) := by
  unfold updateExpression
  refine yields_peek.bind fun t ht => .ite ?_ ?_
  · refine yields_advance.bind fun _ _ => (hg _ _).bind fun e he => yields_guard.bind fun _ _ => ?_
    exact yields_finish rfl ht.start (by simp [he])
  · refine (yields_leftHandSide hg).bind fun e he => yields_peek.bind fun _ _ => ?_
    refine .ite ?_ (.pure he)
    refine yields_guard.bind fun _ _ => yields_advance.bind fun _ _ => ?_
    exact yields_finish rfl he.start (by simp [he])

theorem yields_unaryExpression : Yields text (unaryExpression g s) (Node.Placed text) := by
  unfold unaryExpression
  refine yields_peek.bind fun t ht => .ite ?_ (.ite ?_ (yields_updateExpression hg))
  · refine yields_advance.bind fun _ _ => (hg _ _).bind fun e he => ?_
    exact yields_finish rfl ht.start (by simp [he])
  · refine yields_advance.bind fun _ _ => (hg _ _).bind fun e he => ?_
    exact yields_finish rfl ht.start (by simp [he])

theorem yields_operand {level : Nat} : Yields text (operand g s level) (Node.Placed text) := by
  unfold operand
  refine yields_peek.bind fun _ _ => ?_
  split
  · refine yields_guard.bind fun _ _ => .bind (yields_leaf rfl) fun n hn => ?_
    refine yields_expectWord.bind fun _ _ => (hg _ _).bind fun e he => ?_
    exact yields_finish rfl hn.start (by simp [hn, he])
  · exact yields_unaryExpression hg

omit hg in
theorem Operator.kind_isFree (op : Operator) : op.kind.isFree = true := by
  cases op <;> rfl

theorem yields_binaryExpression {level : Nat} :
    Yields text (binaryExpression g s level) (Node.Placed text) := by
  unfold binaryExpression
  refine (yields_operand hg).bind fun first hfirst => ?_
  refine yields_loop (Node.Placed text) hfirst fun left hleft => yields_peek.bind fun t _ => ?_
  split
  · next op _ =>
    refine .ite (.done hleft) (yields_advance.bind fun _ _ => (hg _ _).bind fun right hright => ?_)
    refine yields_guard.bind fun _ _ => ?_
    exact .bind (yields_finish op.kind_isFree hleft.start (by simp [hleft, hright]))
      fun n hn => .again hn
  · exact .done hleft

theorem yields_conditionalExpression :
    Yields text (conditionalExpression g s) (Node.Placed text) := by
  unfold conditionalExpression
  refine (yields_binaryExpression hg).bind fun test htest => ?_
  refine yields_accept.bind fun _ _ => .ite ?_ (.pure htest)
  refine (hg _ _).bind fun yes hyes => yields_expect.bind fun _ _ => (hg _ _).bind fun no hno => ?_
  exact yields_finish rfl htest.start (by simp [htest, hyes, hno])

theorem yields_yieldExpression : Yields text (yieldExpression g s) (Node.Placed text) := by
  unfold yieldExpression
  refine yields_here.bind fun start hstart => yields_advance.bind fun _ _ => ?_
  refine yields_peek.bind fun _ _ => .ite ?_ (.ite ?_ ?_)
  · refine yields_advance.bind fun _ _ => (hg _ _).bind fun e he => ?_
    exact yields_finish rfl hstart (by simp [he])
  · exact yields_finish rfl hstart Node.allPlaced_nil
  · exact (hg _ _).bind fun e he => yields_finish rfl hstart (by simp [he])

/-! ## Arrows, assignments and sequences -/

theorem yields_arrowRest {async : Bool} {start : Nat} {ps : Node}
    (hstart : IsBoundary text start) (hps : ps.Placed text) :
    Yields text (arrowRest g s async start ps) (Node.Placed text) := by
  unfold arrowRest
  refine yields_peek.bind fun _ _ => yields_guard.bind fun _ _ => yields_advance.bind fun _ _ => ?_
  refine yields_peek.bind fun _ _ => .ite ?_ ?_
  · refine .bind (yields_braced hg rfl) fun body hbody => ?_
    exact yields_finish rfl hstart (by simp [hps, hbody])
  · refine (hg _ _).bind fun body hbody => ?_
    exact yields_finish rfl hstart (by simp [hps, hbody])

theorem yields_assignmentExpression :
    Yields text (assignmentExpression g s) (Node.Placed text) := by
  unfold assignmentExpression
  refine yields_peek.bind fun _ _ => .ite (yields_yieldExpression hg) ?_
  refine (yields_conditionalExpression hg).bind fun left hleft => yields_peek.bind fun _ _ => ?_
  split
  · split
    · have hps := Node.Placed.of (k := .parameters) rfl hleft.start hleft.stop
        (Node.allPlaced_cons.2 ⟨hleft, Node.allPlaced_nil⟩)
      exact yields_arrowRest hg hleft.start hps
    · refine yields_some?.bind fun ps hps => ?_
      have hitems := Node.bindingElements?_placed hps hleft.parts
      exact yields_arrowRest hg hleft.start (hleft.as rfl hitems)
    · exact .fail
  · refine yields_some?.bind fun target htarget => yields_advance.bind fun _ _ => ?_
    have htarget := Node.target?_placed htarget hleft
    refine (hg _ _).bind fun value hvalue => ?_
    exact yields_finish rfl hleft.start (by simp [htarget, hvalue])
  · exact .pure hleft

theorem yields_expressionSequence : Yields text (expressionSequence g s) (Node.Placed text) := by
  unfold expressionSequence
  refine (hg _ _).bind fun first hfirst => ?_
  refine yields_loop (Node.AllPlaced text) (by simp [hfirst]) fun acc hacc => ?_
  refine yields_accept.bind fun _ _ => .ite ?_ ?_
  · exact (hg _ _).bind fun e he => .again (by simp [he, hacc])
  split
  · exact .done (Node.allPlaced_cons.1 hacc).1
  · exact .bind (yields_finish rfl hfirst.start (by simp [hacc])) fun n hn => .done hn

end

end EditionCheck.Script
