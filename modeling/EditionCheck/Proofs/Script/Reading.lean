import EditionCheck.Proofs.Script.Lexing
import EditionCheck.Proofs.Script.Uses
import EditionCheck.Script.Grammar.Parser

/-!
  Parsers that keep to the text.

  `Progress.On` is the invariant of a reading: the next lexeme stands in the text, and the last one
  read stopped at a boundary. `Yields text x Q` says that a parser keeps it and that what it reads
  satisfies `Q`. The rules follow the ways in which productions are put together (sequence, choice,
  loop, second attempt, look ahead), and each primitive has its lemma.

  For nodes `Q` is `Node.Placed`: every node of the tree starts and stops at boundaries, and a
  numeric literal is the numeral that stands there. What is read after a look at the next lexeme may
  depend on it: `YieldsAt`.
-/

namespace EditionCheck.Script

open Text (IsBoundary)

variable {text : List Char}

/-! ## Nodes in the text -/

/-- A construct of this kind may have any text. -/
def Kind.isFree : Kind → Bool
  | .number | .bigInt => false
  | _ => true

namespace Node

/-- The node is the numeral that is read where it starts. -/
def IsNumeral (text : List Char) (big : Bool) (n : Node) : Prop :=
  ∃ cs width rest, Text.After n.start text cs ∧ Numeral.read cs = some (big, width, rest) ∧
    n.stop = n.start + width

/-- The node starts and stops at boundaries, and a numeric literal is a numeral. -/
structure Stands (text : List Char) (n : Node) : Prop where
  start : IsBoundary text n.start
  stop : IsBoundary text n.stop
  number : n.kind = .number → n.IsNumeral text false
  bigInt : n.kind = .bigInt → n.IsNumeral text true

/-- Every node of the tree stands in the text. -/
def Placed (text : List Char) (tree : Node) : Prop := ∀ n ∈ tree.nodes, n.Stands text

/-- Every tree of a list is placed in the text. -/
def AllPlaced (text : List Char) (cs : List Node) : Prop := ∀ c ∈ cs, c.Placed text

theorem placed_node {k : Kind} {a b : Nat} {cs : List Node} :
    (node k a b cs).Placed text ↔ (node k a b cs).Stands text ∧ AllPlaced text cs := by
  constructor
  · intro h
    refine ⟨h _ (self_mem_nodes _), fun c hc n hn => h n ?_⟩
    exact mem_nodes_node.2 (.inr ⟨c, hc, hn⟩)
  · rintro ⟨h, hcs⟩ n hn
    rcases mem_nodes_node.1 hn with rfl | ⟨c, hc, hn⟩
    · exact h
    · exact hcs c hc n hn

section Placed

variable {n : Node} {k k' : Kind} {a b : Nat} {cs : List Node}

theorem Placed.start (h : n.Placed text) : IsBoundary text n.start := (h n n.self_mem_nodes).start

theorem Placed.stop (h : n.Placed text) : IsBoundary text n.stop := (h n n.self_mem_nodes).stop

theorem Placed.parts (h : (node k a b cs).Placed text) : AllPlaced text cs := (placed_node.1 h).2

theorem Placed.children (h : n.Placed text) : AllPlaced text n.children := by
  cases n
  exact h.parts

/-- A node between two boundaries over parts that are placed. -/
theorem Placed.of (hk : k.isFree = true) (ha : IsBoundary text a) (hb : IsBoundary text b)
    (hcs : AllPlaced text cs) : (node k a b cs).Placed text := by
  have hfree : ∀ k', k = k' → k'.isFree = true := fun _ h => h ▸ hk
  exact placed_node.2 ⟨⟨ha, hb, fun h => absurd (hfree _ h) nofun,
    fun h => absurd (hfree _ h) nofun⟩, hcs⟩

/-- Another node in the same place, over other parts that are placed. -/
theorem Placed.as (h : (node k a b cs).Placed text) {cs' : List Node} (hk : k'.isFree = true)
    (hcs : AllPlaced text cs') : (node k' a b cs').Placed text :=
  .of hk h.start h.stop hcs

@[simp] theorem allPlaced_nil : AllPlaced text [] := by simp [AllPlaced]

@[simp] theorem allPlaced_cons {c : Node} :
    AllPlaced text (c :: cs) ↔ c.Placed text ∧ AllPlaced text cs := List.forall_mem_cons

@[simp] theorem allPlaced_append {ds : List Node} :
    AllPlaced text (cs ++ ds) ↔ AllPlaced text cs ∧ AllPlaced text ds := List.forall_mem_append

@[simp] theorem allPlaced_reverse : AllPlaced text cs.reverse ↔ AllPlaced text cs := by
  simp [AllPlaced]

/-- Where the last tree of a list stops, or another boundary if there is none. -/
theorem AllPlaced.stop (hcs : AllPlaced text cs) (hb : IsBoundary text b) :
    IsBoundary text ((cs.getLast?.map Node.stop).getD b) := by
  cases h : cs.getLast? with
  | none => exact hb
  | some c => exact (hcs c (List.mem_of_getLast? h)).stop

end Placed

end Node

/-! ## Parsers that keep the invariant -/

/-- The second of two steps starts where the first one has come to. -/
theorem Parser.bind_eq_some {x : Parser α} {f : α → Parser β} {r : Setting} {p q : Progress}
    {b : β} :
    (x >>= f) r p = some (b, q) ↔ ∃ a p', x r p = some (a, p') ∧ f a r p' = some (b, q) := by
  change Parser.bind x f r p = some (b, q) ↔ _
  unfold Parser.bind
  cases hx : x r p with
  | none => simp
  | some v =>
    obtain ⟨a, p'⟩ := v
    simp

/-- The next lexeme stands in the text, and the last one read stopped at a boundary. -/
structure Progress.On (text : List Char) (p : Progress) : Prop where
  lexeme : p.lexeme.On text
  lastStop : IsBoundary text p.lastStop

/-- The parser keeps to the text, and what it reads satisfies `Q`. -/
def Yields (text : List Char) (x : Parser α) (Q : α → Prop) : Prop :=
  ∀ r p a p', p.On text → x r p = some (a, p') → p'.On text ∧ Q a

namespace Yields

variable {x : Parser α} {P Q : α → Prop}

theorem imp (h : Yields text x P) (hPQ : ∀ a, P a → Q a) : Yields text x Q := by
  intro r p a p' hp hx
  obtain ⟨hp', ha⟩ := h r p a p' hp hx
  exact ⟨hp', hPQ a ha⟩

theorem pure {a : α} (h : Q a) : Yields text (Pure.pure a) Q := by
  intro r p _ _ hp hx
  cases hx
  exact ⟨hp, h⟩

theorem bind {f : α → Parser β} {R : β → Prop} (hx : Yields text x P)
    (hf : ∀ a, P a → Yields text (f a) R) : Yields text (x >>= f) R := by
  intro r p b q hp hxf
  obtain ⟨a, p', hxa, hfa⟩ := Parser.bind_eq_some.mp hxf
  obtain ⟨hp', ha⟩ := hx r p a p' hp hxa
  exact hf a ha r p' b q hp' hfa

theorem ite {c : Prop} [Decidable c] {y : Parser α} (hx : Yields text x Q)
    (hy : Yields text y Q) : Yields text (if c then x else y) Q := by
  split
  · exact hx
  · exact hy

/-- What follows a step that may be left out. -/
theorem when {c : Prop} [Decidable c] {y : Parser Unit} {P : Unit → Prop} {next : Unit → Parser α}
    (hy : Yields text y P) (hnext : ∀ u, Yields text (next u) Q) :
    Yields text (if c then y >>= next else next ()) Q :=
  .ite (hy.bind fun u _ => hnext u) (hnext ())

theorem fail : Yields text (Parser.fail : Parser α) Q := by
  intro r p a p' _ hx
  cases hx

theorem fail_bind {f : α → Parser β} {R : β → Prop} :
    Yields text (Parser.fail >>= f) R :=
  .bind (P := fun _ => False) .fail fun _ h => h.elim

/-- A second attempt starts where the first one did. -/
theorem attempt (h : Yields text x Q) :
    Yields text (Parser.attempt x) fun o => ∀ a, o = some a → Q a := by
  intro r p o p' hp hx
  unfold Parser.attempt at hx
  split at hx
  · next a q hxa =>
    cases hx
    obtain ⟨hq, ha⟩ := h r p a _ hp hxa
    exact ⟨hq, fun b hb => Option.some.inj hb ▸ ha⟩
  · cases hx
    exact ⟨hp, fun _ hb => by cases hb⟩

theorem lookAhead (h : Yields text x Q) : Yields text (Parser.lookAhead x) Q := by
  intro r p a p' hp hx
  unfold Parser.lookAhead at hx
  split at hx
  · next b q hxb =>
    cases hx
    exact ⟨hp, (h r p _ q hp hxb).2⟩
  · cases hx

end Yields

/-- The parser keeps to the text where `t` comes next, and what it reads there satisfies `Q`. -/
def YieldsAt (text : List Char) (t : Lexeme) (x : Parser α) (Q : α → Prop) : Prop :=
  ∀ r p a p', p.On text → p.lexeme = t → x r p = some (a, p') → p'.On text ∧ Q a

theorem YieldsAt.of {t : Lexeme} {x : Parser α} {Q : α → Prop} (h : Yields text x Q) :
    YieldsAt text t x Q :=
  fun r p a p' hp _ hx => h r p a p' hp hx

theorem YieldsAt.bind {t : Lexeme} {x : Parser α} {f : α → Parser β} {P : α → Prop}
    {R : β → Prop} (hx : YieldsAt text t x P) (hf : ∀ a, P a → Yields text (f a) R) :
    YieldsAt text t (x >>= f) R := by
  intro r p b q hp ht hxf
  obtain ⟨a, p', hxa, hfa⟩ := Parser.bind_eq_some.mp hxf
  obtain ⟨hp', ha⟩ := hx r p a p' hp ht hxa
  exact hf a ha r p' b q hp' hfa

/-- What is read after a look at the next lexeme is read where that lexeme comes next. -/
theorem Yields.peek {f : Lexeme → Parser α} {Q : α → Prop}
    (h : ∀ t, t.On text → YieldsAt text t (f t) Q) : Yields text (Parser.peek >>= f) Q := by
  intro r p a p' hp hx
  exact h p.lexeme hp.lexeme r p a p' hp rfl hx

/-- What a round of a loop decides keeps the invariant of the loop, or satisfies what is read. -/
def Parser.Round.Meets (I : σ → Prop) (Q : α → Prop) : Parser.Round σ α → Prop
  | .again s => I s
  | .done a => Q a

theorem Yields.again {s : σ} {I : σ → Prop} {Q : α → Prop} (h : I s) :
    Yields text (Pure.pure (Parser.Round.again s)) (Parser.Round.Meets I Q) := .pure h

theorem Yields.done {a : α} {I : σ → Prop} {Q : α → Prop} (h : Q a) :
    Yields text (Pure.pure (Parser.Round.done a)) (Parser.Round.Meets I Q) := .pure h

namespace Parser

/-! ## Primitives -/

theorem yields_setting : Yields text setting fun _ => True := by
  intro r p _ _ hp hx
  cases hx
  exact ⟨hp, trivial⟩

theorem yields_peek : Yields text peek (Lexeme.On text) := by
  intro r p _ _ hp hx
  cases hx
  exact ⟨hp, hp.lexeme⟩

theorem yields_here : Yields text here (IsBoundary text) := by
  intro r p _ _ hp hx
  cases hx
  exact ⟨hp, hp.lexeme.start⟩

theorem yields_lastStop : Yields text lastStop (IsBoundary text) := by
  intro r p _ _ hp hx
  cases hx
  exact ⟨hp, hp.lastStop⟩

theorem yields_peekSecond : Yields text peekSecond (Lexeme.On text) := by
  intro r p _ _ hp hx
  cases hx
  exact ⟨hp, Lexeme.read_on hp.lexeme.next⟩

theorem yields_advance : Yields text advance fun _ => True := by
  intro r p _ _ hp hx
  cases hx
  exact ⟨⟨Lexeme.read_on hp.lexeme.next, hp.lexeme.stop⟩, trivial⟩

theorem yields_reread {t : Lexeme} (ht : t.On text) : Yields text (reread t) fun _ => True := by
  intro r p _ _ hp hx
  cases hx
  exact ⟨⟨ht, hp.lastStop⟩, trivial⟩

theorem yields_guard {c : Bool} : Yields text (Parser.guard c) fun _ => c = true := by
  unfold Parser.guard
  split
  · next h => exact .pure h
  · exact .fail

theorem yields_some? {o : Option α} : Yields text (some? o) fun a => o = some a := by
  cases o with
  | none => exact .fail
  | some a => exact .pure rfl

/-- Noting names moves nothing. -/
theorem yields_noteExports {names : List (List Nat)} :
    Yields text (noteExports names) fun _ => True := by
  intro r p u p' hp hx
  refine ⟨?_, trivial⟩
  unfold noteExports at hx
  have hstart : ∀ v q, some ((), p) = some (v, q) → Progress.On text q := by
    rintro _ _ h
    cases h
    exact hp
  generalize some ((), p) = start at hx hstart
  induction names generalizing start with
  | nil => exact hstart u p' hx
  | cons n names ih =>
    refine ih _ hx ?_
    intro v q h
    obtain ⟨⟨_, q'⟩, hq, h⟩ := Option.bind_eq_some_iff.1 h
    dsimp only at h
    split at h
    · cases h
    · cases h
      exact ⟨(hstart _ _ hq).lexeme, (hstart _ _ hq).lastStop⟩

theorem yields_accept {m : Mark} : Yields text (accept m) fun _ => True := by
  unfold accept
  refine yields_peek.bind fun t _ => .ite ?_ (.pure trivial)
  exact yields_advance.bind fun _ _ => .pure trivial

theorem yields_expect {m : Mark} : Yields text (expect m) fun _ => True := by
  unfold expect
  exact yields_accept.bind fun _ _ => yields_guard.imp fun _ _ => trivial

theorem yields_acceptWord {word : String} : Yields text (acceptWord word) fun _ => True := by
  unfold acceptWord
  refine yields_peek.bind fun t _ => .ite ?_ (.pure trivial)
  exact yields_advance.bind fun _ _ => .pure trivial

theorem yields_expectWord {word : String} : Yields text (expectWord word) fun _ => True := by
  unfold expectWord
  exact yields_acceptWord.bind fun _ _ => yields_guard.imp fun _ _ => trivial

theorem yields_leaf {k : Kind} (hk : k.isFree = true) :
    Yields text (leaf k) (Node.Placed text) := by
  unfold leaf
  refine yields_peek.bind fun t ht => yields_advance.bind fun _ _ => .pure ?_
  exact .of hk ht.start ht.stop Node.allPlaced_nil

/-- A leaf read from a numeral. -/
theorem yieldsAt_numeral {t : Lexeme} {k : Kind} {big : Bool} (ht : t.On text)
    (hnumeral : t.IsNumeral big) (hk : k = if big then .bigInt else .number) :
    YieldsAt text t (leaf k) (Node.Placed text) := by
  rintro r p n p' hp rfl hx
  cases hx
  have hnode : (Node.node k p.lexeme.start p.lexeme.stop []).IsNumeral text big := by
    obtain ⟨width, hread, hstop⟩ := hnumeral
    exact ⟨_, width, _, ht.source, hread, hstop⟩
  refine ⟨⟨Lexeme.read_on ht.next, ht.stop⟩, Node.placed_node.2 ⟨?_, Node.allPlaced_nil⟩⟩
  subst hk
  cases big with
  | false => exact ⟨ht.start, ht.stop, fun _ => hnode, nofun⟩
  | true => exact ⟨ht.start, ht.stop, nofun, fun _ => hnode⟩

theorem yields_finish {k : Kind} {start : Nat} {cs : List Node} (hk : k.isFree = true)
    (ha : IsBoundary text start) (hcs : Node.AllPlaced text cs) :
    Yields text (finish k start cs) (Node.Placed text) := by
  unfold finish
  exact yields_lastStop.bind fun stop hb => .pure (.of hk ha hb hcs)

theorem yields_rounds {step : σ → Parser (Round σ α)} {I : σ → Prop} {Q : α → Prop}
    (hstep : ∀ s, I s → Yields text (step s) (Round.Meets I Q)) (fuel : Nat) {s : σ} (hs : I s) :
    Yields text (rounds step fuel s) Q := by
  induction fuel generalizing s with
  | zero => exact .fail
  | succ fuel ih =>
    refine (hstep s hs).bind fun round hround => ?_
    cases round with
    | again s' => exact ih hround
    | done a => exact .pure hround

/-- A loop keeps what each round keeps. -/
theorem yields_loop {init : σ} {step : σ → Parser (Round σ α)} {Q : α → Prop} (I : σ → Prop)
    (hinit : I init) (hstep : ∀ s, I s → Yields text (step s) (Round.Meets I Q)) :
    Yields text (loop init step) Q := by
  unfold loop
  exact yields_setting.bind fun r _ => yields_rounds hstep r.limit hinit

theorem yields_endStatement : Yields text endStatement fun _ => True := by
  unfold endStatement
  refine yields_peek.bind fun t _ => .ite yields_advance ?_
  exact yields_guard.imp fun _ _ => trivial

end Parser

/-- Whatever the grammar reads is placed in the text. -/
def Grammar.Places (text : List Char) (g : Grammar) : Prop :=
  ∀ goal s, Yields text (g goal s) (Node.Placed text)

end EditionCheck.Script
