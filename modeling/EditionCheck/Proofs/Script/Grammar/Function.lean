import EditionCheck.Proofs.Script.Grammar.Binding
import EditionCheck.Script.Grammar.Function

/-!
  Functions, methods, object literals and classes are placed in the text.
-/

namespace EditionCheck.Script

open EditionCheck.Script.Parser
open Text (IsBoundary)

variable {text : List Char} {g : Grammar} {s : Scope}

theorem yields_asyncFunctionComes : Yields text asyncFunctionComes fun _ => True := by
  unfold asyncFunctionComes
  refine yields_peek.bind fun _ _ => .ite ?_ (.pure trivial)
  exact yields_peekSecond.bind fun _ _ => .pure trivial

theorem yields_methodForm {lineEnds : Bool} : Yields text (methodForm lineEnds) fun _ => True := by
  unfold methodForm
  refine yields_accept.bind fun _ _ => .ite (.pure trivial) ?_
  refine yields_peek.bind fun _ _ => yields_peekSecond.bind fun _ _ => .ite ?_ (.ite ?_ ?_)
  · refine .ite (yields_guard.bind fun _ _ => .pure trivial) ?_
    exact yields_advance.bind fun _ _ => yields_accept.bind fun _ _ => .pure trivial
  · exact yields_advance.bind fun _ _ => .pure trivial
  · exact .pure trivial

section

variable (hg : g.Places text)
include hg

/-! ## Functions -/

theorem yields_parameters : Yields text (parameters g s) (Node.Placed text) := by
  unfold parameters
  refine yields_here.bind fun start hstart => yields_expect.bind fun _ _ => ?_
  refine yields_loop (Node.AllPlaced text) Node.allPlaced_nil fun acc hacc => ?_
  refine yields_peek.bind fun t ht => .ite ?_ (.ite ?_ ?_)
  · refine yields_advance.bind fun _ _ => ?_
    exact .bind (yields_finish rfl hstart (by simp [hacc])) fun n hn => .done hn
  · refine yields_advance.bind fun _ _ => (hg _ _).bind fun rest hrest => ?_
    refine .bind (yields_finish rfl ht.start (by simp [hrest])) fun rest hrest => ?_
    refine yields_expect.bind fun _ _ => ?_
    exact .bind (yields_finish rfl hstart (by simp [hacc, hrest])) fun n hn => .done hn
  · refine (hg _ _).bind fun pattern hp => (yields_withDefault hg hp).bind fun parameter hp => ?_
    refine yields_peek.bind fun _ _ => ?_
    extract_lets again
    exact .when yields_expect fun _ => .again (by simp [hacc, hp])

theorem yields_statements : Yields text (statements g s) (Node.AllPlaced text) := by
  unfold statements
  refine yields_loop (Node.AllPlaced text) Node.allPlaced_nil fun acc hacc => ?_
  refine yields_peek.bind fun _ _ => .ite (.done (by simp [hacc])) ?_
  exact (hg _ _).bind fun n hn => .again (by simp [hacc, hn])

theorem yields_braced {k : Kind} (hk : k.isFree = true) :
    Yields text (braced g s k) (Node.Placed text) := by
  unfold braced
  refine yields_here.bind fun start hstart => yields_expect.bind fun _ _ => ?_
  refine (yields_statements hg).bind fun body hbody => yields_expect.bind fun _ _ => ?_
  exact yields_finish hk hstart hbody

theorem yields_functionRest {async generator : Bool} {start : Nat} {names : List Node}
    (hstart : IsBoundary text start) (hnames : Node.AllPlaced text names) :
    Yields text (functionRest g async generator start names) (Node.Placed text) := by
  unfold functionRest
  refine (yields_parameters hg).bind fun ps hps => ?_
  refine .bind (yields_braced hg rfl) fun body hb => ?_
  exact yields_finish rfl hstart (by simp [hnames, hps, hb])

theorem yields_functionExpression :
    Yields text (functionExpression g) (Node.Placed text) := by
  unfold functionExpression
  refine yields_here.bind fun start hstart => yields_acceptWord.bind fun async _ => ?_
  refine yields_expectWord.bind fun _ _ => yields_accept.bind fun generator _ => ?_
  refine yields_peek.bind fun _ _ => .ite (yields_functionRest hg hstart Node.allPlaced_nil) ?_
  exact yields_name.bind fun n hn => yields_functionRest hg hstart (by simp [hn])

theorem yields_functionDeclaration {nameless : Bool} :
    Yields text (functionDeclaration g s nameless) (Node.Placed text) := by
  unfold functionDeclaration
  refine yields_here.bind fun start hstart => yields_acceptWord.bind fun async _ => ?_
  refine yields_expectWord.bind fun _ _ => yields_accept.bind fun generator _ => ?_
  refine yields_peek.bind fun _ _ => .ite (yields_functionRest hg hstart Node.allPlaced_nil) ?_
  exact yields_name.bind fun n hn => yields_functionRest hg hstart (by simp [hn])

/-! ## Methods and object literals -/

theorem yields_methodFunction {form : MethodForm} :
    Yields text (methodFunction g form) (Node.Placed text) := by
  unfold methodFunction
  refine yields_here.bind fun start hstart => ?_
  -- the body follows, whatever the form asks of the parameters
  have hbody : ∀ {async generator : Bool} {ps : Node}, ps.Placed text → Yields text
      (do
        let body ← braced g (Scope.within async generator) .functionBody
        finish (.function async generator) start [ps, body]) (Node.Placed text) :=
    fun hps => .bind (yields_braced hg rfl) fun body hb =>
      yields_finish rfl hstart (by simp [hps, hb])
  cases form with
  | plain => exact (yields_parameters hg).bind fun ps hps => hbody hps
  | function async generator => exact (yields_parameters hg).bind fun ps hps => hbody hps
  | access a =>
    refine (yields_parameters hg).bind fun ps hps => ?_
    cases a with
    | get => exact yields_guard.bind fun _ _ => hbody hps
    | set =>
      dsimp only
      split
      · exact yields_guard.bind fun _ _ => hbody hps
      · exact .fail_bind

theorem yields_property : Yields text (property g s) (Node.Placed text) := by
  unfold property
  refine yields_here.bind fun start hstart => yields_accept.bind fun _ _ => .ite ?_ ?_
  · refine (hg _ _).bind fun value hvalue => ?_
    exact yields_finish rfl hstart (by simp [hvalue])
  refine yields_methodForm.bind fun form _ => yields_peek.bind fun t ht => ?_
  refine (yields_propertyKey hg).bind ?_
  intro ⟨key, computed, _⟩ (hkey : key.Placed text)
  have hmethod : ∀ {k : Kind}, k.isFree = true → Yields text
      (methodFunction g form >>= fun f => finish k start [key, f]) (Node.Placed text) :=
    fun hk => (yields_methodFunction hg).bind fun f hf =>
      yields_finish hk hstart (by simp [hkey, hf])
  cases form with
  | access a => exact hmethod rfl
  | function async generator => exact hmethod rfl
  | plain =>
  refine yields_peek.bind fun _ _ => .ite (hmethod rfl) ?_
  refine yields_accept.bind fun _ _ => .ite ?_ ?_
  · refine (hg _ _).bind fun value hvalue => ?_
    exact yields_finish rfl hstart (by simp [hkey, hvalue])
  split
  · refine yields_guard.bind fun _ _ => yields_accept.bind fun _ _ => .ite ?_ ?_
    · refine (hg _ _).bind fun value hvalue => ?_
      exact yields_finish rfl hstart (by simp [hkey, hvalue])
    · exact yields_finish rfl hstart (by simp [hkey])
  · exact .fail

theorem yields_objectLiteral : Yields text (objectLiteral g s) (Node.Placed text) := by
  unfold objectLiteral
  refine yields_here.bind fun start hstart => yields_expect.bind fun _ _ => ?_
  refine yields_loop (fun p => Node.AllPlaced text p.1) Node.allPlaced_nil ?_
  intro ⟨acc, _⟩ (hacc : Node.AllPlaced text acc)
  have hrev : Node.AllPlaced text acc.reverse := Node.allPlaced_reverse.2 hacc
  refine yields_accept.bind fun _ _ => .ite ?_ ?_
  · exact .bind (yields_finish rfl hstart hrev) fun n hn => .done hn
  refine (yields_property hg).bind fun p hp => ?_
  have hmore : Node.AllPlaced text (p :: acc) := Node.allPlaced_cons.2 ⟨hp, hacc⟩
  refine yields_peek.bind fun _ _ => .ite (.again hmore) ?_
  exact yields_expect.bind fun _ _ => .again hmore

/-! ## Classes -/

theorem yields_decorators : Yields text (decorators g s) (Node.AllPlaced text) := by
  unfold decorators
  refine yields_loop (Node.AllPlaced text) Node.allPlaced_nil fun acc hacc => ?_
  refine yields_here.bind fun start hstart => yields_accept.bind fun _ _ => .ite ?_ ?_
  · refine (hg _ _).bind fun e he => ?_
    exact .bind (yields_finish rfl hstart (by simp [he])) fun n hn => .again (by simp [hn, hacc])
  · exact .done (by simp [hacc])

theorem yields_memberKey : Yields text (memberKey g s) fun p => p.1.Placed text := by
  unfold memberKey
  refine yields_peek.bind fun _ _ => ?_
  split
  · exact .bind (yields_leaf rfl) fun n hn => .pure hn
  · exact (yields_propertyKey hg).bind fun ⟨key, _, text⟩ hkey => .pure hkey

theorem yields_classMember : Yields text (classMember g s) (Node.Placed text) := by
  unfold classMember
  refine yields_here.bind fun start hstart => (yields_decorators hg).bind fun ds hds => ?_
  refine yields_peek.bind fun _ _ => yields_peekSecond.bind fun _ _ => ?_
  extract_lets afterStatic
  have hstatic : ∀ static, Yields text (afterStatic static) (Node.Placed text) := by
    intro static
    refine yields_peek.bind fun _ _ => .ite ?_ ?_
    · refine .bind (yields_braced hg rfl) fun block hblock => ?_
      exact yields_finish rfl hstart hblock.children
    refine yields_peek.bind fun t _ => yields_peekSecond.bind fun next _ => ?_
    extract_lets accessor k afterForm afterAccessor
    have hform : ∀ form, Yields text (afterForm form) (Node.Placed text) := by
      intro form
      refine (yields_memberKey hg).bind ?_
      intro ⟨key, _⟩ (hkey : key.Placed text)
      refine yields_peek.bind fun _ _ => .ite ?_ ?_
      · refine yields_guard.bind fun _ _ => (yields_methodFunction hg).bind fun f hf => ?_
        exact yields_finish rfl hstart (by simp [hds, hkey, hf])
      refine yields_guard.bind fun _ _ => yields_accept.bind fun _ _ => ?_
      extract_lets afterValue
      have hvalue : ∀ value, Node.AllPlaced text value →
          Yields text (afterValue value) (Node.Placed text) := by
        intro value hvalue
        refine yields_endStatement.bind fun _ _ => .pure ?_
        exact .of (by simp only [k]; split <;> rfl) hstart (hvalue.stop hkey.stop)
          (by simp [hds, hkey, hvalue])
      refine .ite ?_ (hvalue [] Node.allPlaced_nil)
      exact (hg _ _).bind fun value hv => hvalue [value] (by simp [hv])
    refine .when yields_advance fun _ => .ite (hform .plain) ?_
    exact yields_methodForm.bind fun form _ => hform form
  refine .ite ?_ ?_
  · exact yields_advance.bind fun _ _ => hstatic true
  · exact hstatic false

theorem yields_classRest {start : Nat} {ds : List Node} {needsName : Bool}
    (hstart : IsBoundary text start) (hds : Node.AllPlaced text ds) :
    Yields text (classRest g s start ds needsName) (Node.Placed text) := by
  unfold classRest
  refine yields_expectWord.bind fun _ _ => yields_peek.bind fun t _ => ?_
  extract_lets afterName
  have hname : ∀ named, Node.AllPlaced text named →
      Yields text (afterName named) (Node.Placed text) := by
    intro named hnamed
    refine yields_guard.bind fun _ _ => yields_acceptWord.bind fun _ _ => ?_
    extract_lets afterHeritage
    have hheritage : ∀ heritage, Node.AllPlaced text heritage →
        Yields text (afterHeritage heritage) (Node.Placed text) := by
      intro heritage hheritage
      refine yields_expect.bind fun _ _ => ?_
      refine yields_loop (Node.AllPlaced text) Node.allPlaced_nil fun acc hacc => ?_
      refine yields_accept.bind fun _ _ => .ite ?_ ?_
      · exact .bind (yields_finish rfl hstart (by simp [hds, hnamed, hheritage, hacc])) fun n hn => .done hn
      refine yields_accept.bind fun _ _ => .ite (.again hacc) ?_
      exact (yields_classMember hg).bind fun n hn => .again (by simp [hn, hacc])
    refine .ite ?_ (hheritage [] Node.allPlaced_nil)
    exact (hg _ _).bind fun e he => hheritage [e] (by simp [he])
  split
  · refine .ite (hname [] Node.allPlaced_nil) ?_
    exact yields_name.bind fun n hn => hname [n] (by simp [hn])
  · exact hname [] Node.allPlaced_nil

theorem yields_classExpression : Yields text (classExpression g s) (Node.Placed text) := by
  unfold classExpression
  refine yields_here.bind fun start hstart => (yields_decorators hg).bind fun ds hds => ?_
  exact yields_classRest hg hstart hds

end

end EditionCheck.Script
