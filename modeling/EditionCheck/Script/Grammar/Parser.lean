import EditionCheck.Script.Cover
import EditionCheck.Script.Lexeme

/-!
  Reading a script lexeme by lexeme.

  A `Parser` looks at one lexeme at a time and fails on a text that does not fit. A `Grammar` gives
  a parser for each `Goal` in each `Scope`; the productions are definitions over a grammar, which
  they use wherever a construct holds another of unbounded depth.
-/

namespace EditionCheck.Script

/-- What stays the same during the reading of one script. -/
structure Setting where
  /-- The script is a module. -/
  module : Bool
  /-- More than the number of lexemes. -/
  limit : Nat

/-- How far the reading has come. -/
structure Progress where
  /-- The next lexeme. -/
  lexeme : Lexeme
  /-- Where the lexeme before it stops. -/
  lastStop : Nat
  /-- The names that the module exports so far. -/
  exported : List (List Nat)

/-- A part of the grammar. -/
abbrev Parser (α : Type) := Setting → Progress → Option (α × Progress)

namespace Parser

@[always_inline, inline] protected def pure (a : α) : Parser α := fun _ p => some (a, p)

@[always_inline, inline] protected def bind (x : Parser α) (f : α → Parser β) : Parser β :=
  fun r p =>
    match x r p with
    | some (a, p) => f a r p
    | none => none

@[always_inline] instance : Monad Parser where
  pure := Parser.pure
  bind := Parser.bind

/-- The text does not fit. -/
def fail : Parser α := fun _ _ => none

/-- What stays the same. -/
def setting : Parser Setting := fun r p => some (r, p)

/-- The next lexeme. -/
def peek : Parser Lexeme := fun _ p => some (p.lexeme, p)

/-- The byte offset of the next lexeme. -/
def here : Parser Nat := fun _ p => some (p.lexeme.start, p)

/-- Where the last lexeme read stops. -/
def lastStop : Parser Nat := fun _ p => some (p.lastStop, p)

/-- The lexeme after the next one. -/
def peekSecond : Parser Lexeme := fun r p =>
  some (Lexeme.read (!r.module) r.limit false p.lexeme.next, p)

/-- Passes over the next lexeme. -/
def advance : Parser Unit := fun r p =>
  some ((), { p with
    lexeme := Lexeme.read (!r.module) r.limit false p.lexeme.next
    lastStop := p.lexeme.stop })

/-- Takes another reading of the next lexeme in its place. -/
def reread (t : Lexeme) : Parser Unit := fun _ p => some ((), { p with lexeme := t })

/-- Goes on only if the condition holds. -/
def guard (c : Bool) : Parser Unit := if c then pure () else fail

/-- The value, if there is one. -/
def some? (a : Option α) : Parser α :=
  match a with
  | some a => pure a
  | none => fail

/-- The result of `x`, or `none` and no progress where `x` fails. -/
def attempt (x : Parser α) : Parser (Option α) := fun r p =>
  match x r p with
  | some (a, p') => some (some a, p')
  | none => some (none, p)

/-- The result of `x` without its progress. -/
def lookAhead (x : Parser α) : Parser α := fun r p =>
  match x r p with
  | some (a, _) => some (a, p)
  | none => none

/-- Notes names that the module exports; none may be exported twice. -/
def noteExports (names : List (List Nat)) : Parser Unit := fun _ p =>
  names.foldl (fun p n => p.bind fun (_, p) =>
    if p.exported.contains n then none
    else some ((), { p with exported := n :: p.exported })) (some ((), p))

/-- Passes over the mark if it comes next. -/
def accept (m : Mark) : Parser Bool := do
  if (← peek).isMark m then
    advance
    return true
  return false

/-- Passes over the mark, which must come next. -/
def expect (m : Mark) : Parser Unit := do
  guard (← accept m)

/-- Passes over the unescaped word if it comes next. -/
def acceptWord (text : String) : Parser Bool := do
  if (← peek).isWord text then
    advance
    return true
  return false

/-- Passes over the unescaped word, which must come next. -/
def expectWord (text : String) : Parser Unit := do
  guard (← acceptWord text)

/-- A node of the next lexeme alone. -/
def leaf (k : Kind) : Parser Node := do
  let t ← peek
  advance
  return .node k t.start t.stop []

/-- A node from `start` to the last lexeme read. -/
def finish (k : Kind) (start : Nat) (children : List Node) : Parser Node := do
  return .node k start (← lastStop) children

/-- What a round of a loop decides. -/
inductive Round (σ α : Type) where
  | again (s : σ)
  | done (a : α)

/-- Rounds until one is done; `fuel` bounds their number. -/
def rounds (step : σ → Parser (Round σ α)) : Nat → σ → Parser α
  | 0, _ => fail
  | fuel + 1, s => do
    match ← step s with
    | .again s => rounds step fuel s
    | .done a => return a

/-- Rounds until one is done. Each passes over some lexeme, so their number has a bound. -/
def loop (init : σ) (step : σ → Parser (Round σ α)) : Parser α := do
  rounds step (← setting).limit init

/-- The end of a statement: a semicolon, or a place where one may be left out. -/
def endStatement : Parser Unit := do
  let t ← peek
  if t.isMark .semicolon then advance
  else guard (t.afterLineEnd || t.isMark .closeBrace || t.kind == .finish)

end Parser

/-- What surrounds a construct, as far as the grammar depends on it. -/
structure Scope where
  /-- `yield` is an operator. -/
  yields : Bool
  /-- `await` is an operator. -/
  awaits : Bool
  /-- `return` may stand here. -/
  returns : Bool
  /-- `in` is an operator. -/
  allowIn : Bool
  /-- A bracket does not continue the expression, which is a decorator. -/
  decorating : Bool
  /-- The statement belongs to the script itself and to no block or function. -/
  outermost : Bool

namespace Scope

/-- Where `in` is an operator. -/
def withIn (s : Scope) : Scope := { s with allowIn := true, decorating := false }

/-- Where `in` is no operator. -/
def withoutIn (s : Scope) : Scope := { s with allowIn := false }

/-- Within a block. -/
def nested (s : Scope) : Scope := { s with outermost := false }

/-- The parameters and the body of a function. -/
def within (async generator : Bool) : Scope :=
  { yields := generator, awaits := async, returns := true, allowIn := true, decorating := false,
    outermost := false }

/-- The initialiser of a field. -/
def fieldValue (s : Scope) : Scope :=
  { s.withIn with yields := false, awaits := false, outermost := false }

/-- A static block. -/
def staticBlock : Scope :=
  { yields := false, awaits := true, returns := false, allowIn := true, decorating := false,
    outermost := false }

/-- The word may be used as a name here. -/
def admits (s : Scope) (w : Word) : Bool :=
  !isReserved w.text && !(s.yields && w.text == "yield") && !(s.awaits && w.text == "await")

end Scope

/-- The constructs that other constructs hold at any depth. -/
inductive Goal where
  | expression
  | assignment
  | leftHandSide
  /-- What `new` constructs: no call belongs to it. -/
  | callee
  | unary
  /-- Operators that bind tighter than `level`. -/
  | binary (level : Nat)
  | binding
  /-- `alone` where a single statement is the body of another one. -/
  | statement (alone : Bool)
  deriving DecidableEq, Repr

/-- A parser for each construct. -/
abbrev Grammar := Goal → Scope → Parser Node

open EditionCheck.Script.Parser

/-- A name that may be used in the scope. -/
def name (s : Scope) : Parser Node := do
  match (← peek).kind with
  | .word w =>
    guard (s.admits w)
    leaf (.identifier w.text)
  | _ => fail

/-- What a key says apart from its form. -/
inductive KeyText where
  /-- The key is a word or a string with these code points. -/
  | text (codePoints : List Nat)
  | privateName (name : String)
  | other
  deriving DecidableEq, Repr

/-- The code points of a word. -/
def codePointsOf (text : String) : List Nat := text.toList.map Char.toNat

/-- The key of a property: the node, whether it is computed, and its text. -/
def propertyKey (g : Grammar) (s : Scope) : Parser (Node × Bool × KeyText) := do
  let t ← peek
  match t.kind with
  | .word w => return (← leaf (.identifier w.text), false, .text (codePointsOf w.text))
  | .string body => return (← leaf .string, false, .text (Quoted.value body))
  | .number => return (← leaf .number, false, .other)
  | .bigInt => return (← leaf .bigInt, false, .other)
  | .mark .openBracket =>
    advance
    let key ← g .assignment s.withIn
    expect .closeBracket
    return (key, true, .other)
  | _ => fail

/-- A value for a pattern if one follows. -/
def withDefault (g : Grammar) (s : Scope) (pattern : Node) : Parser Node := do
  if ← accept (.assign .set) then
    let value ← g .assignment s.withIn
    finish .defaulted pattern.start [pattern, value]
  else return pattern

/-- The rest of an array pattern after its bracket. -/
def arrayPattern (g : Grammar) (s : Scope) (start : Nat) : Parser Node :=
  loop ([] : List Node) fun acc => do
    let t ← peek
    if t.isMark .closeBracket then
      advance
      return .done (← finish .arrayPattern start acc.reverse)
    if t.isMark .comma then
      advance
      return .again (.node .hole t.start t.start [] :: acc)
    if t.isMark .ellipsis then
      advance
      let rest ← g .binding s
      let rest ← finish .restElement t.start [rest]
      expect .closeBracket
      return .done (← finish .arrayPattern start (rest :: acc).reverse)
    let element ← withDefault g s (← g .binding s)
    if !(← peek).isMark .closeBracket then expect .comma
    return .again (element :: acc)

/-- One property of an object pattern. -/
def bindingProperty (g : Grammar) (s : Scope) : Parser Node := do
  let t ← peek
  let (key, _, _) ← propertyKey g s
  if ← accept .colon then
    let value ← withDefault g s (← g .binding s)
    finish .bindingProperty t.start [key, value]
  else
    match t.kind with
    | .word w =>
      guard (s.admits w)
      let value ← withDefault g s key
      finish .bindingProperty t.start [key, value]
    | _ => fail

/-- The rest of an object pattern after its brace. -/
def objectPattern (g : Grammar) (s : Scope) (start : Nat) : Parser Node :=
  loop ([] : List Node) fun acc => do
    let t ← peek
    if t.isMark .closeBrace then
      advance
      return .done (← finish .objectPattern start acc.reverse)
    if t.isMark .ellipsis then
      advance
      let rest ← name s
      let rest ← finish .objectRest t.start [rest]
      expect .closeBrace
      return .done (← finish .objectPattern start (rest :: acc).reverse)
    let property ← bindingProperty g s
    if !(← peek).isMark .closeBrace then expect .comma
    return .again (property :: acc)

/-- A name or a pattern. -/
def binding (g : Grammar) (s : Scope) : Parser Node := do
  let start ← here
  if ← accept .openBracket then arrayPattern g s start
  else if ← accept .openBrace then objectPattern g s start
  else name s

end EditionCheck.Script
