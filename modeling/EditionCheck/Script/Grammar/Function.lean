import EditionCheck.Script.Grammar.Parser

/-!
  Functions, methods, object literals and classes.
-/

namespace EditionCheck.Script

open EditionCheck.Script.Parser

/-- A parameter list in parentheses. A rest parameter comes last and no comma follows it. -/
def parameters (g : Grammar) (s : Scope) : Parser Node := do
  let start ← here
  expect .openParen
  loop ([] : List Node) fun acc => do
    let t ← peek
    if t.isMark .closeParen then
      advance
      return .done (← finish .parameters start acc.reverse)
    if t.isMark .ellipsis then
      advance
      let rest ← g .binding s
      let rest ← finish .restElement t.start [rest]
      expect .closeParen
      return .done (← finish .parameters start (rest :: acc).reverse)
    let parameter ← withDefault g s (← g .binding s)
    if !(← peek).isMark .closeParen then expect .comma
    return .again (parameter :: acc)

/-- Statements up to a closing brace, which is left over. -/
def statements (g : Grammar) (s : Scope) : Parser (List Node) :=
  loop ([] : List Node) fun acc => do
    if (← peek).isMark .closeBrace then return .done acc.reverse
    return .again ((← g (.statement false) s) :: acc)

/-- Statements in braces. -/
def braced (g : Grammar) (s : Scope) (k : Kind) : Parser Node := do
  let start ← here
  expect .openBrace
  let body ← statements g s
  expect .closeBrace
  finish k start body

/-- The parameters and the body of a function, and the node that starts at `start`. -/
def functionRest (g : Grammar) (async generator : Bool) (start : Nat) (names : List Node) :
    Parser Node := do
  let s := Scope.within async generator
  let ps ← parameters g s
  let body ← braced g s .functionBody
  finish (.function async generator) start (names ++ [ps, body])

/-- The word `async` when it comes with `function` on one line. -/
def asyncFunctionComes : Parser Bool := do
  if (← peek).isWord "async" then
    let t ← peekSecond
    return t.isWord "function" && !t.afterLineEnd
  return false

/-- A function expression; its name belongs to the function itself. -/
def functionExpression (g : Grammar) : Parser Node := do
  let start ← here
  let async ← acceptWord "async"
  expectWord "function"
  let generator ← accept (.binary .multiply)
  if (← peek).isMark .openParen then functionRest g async generator start []
  else
    let n ← name (Scope.within async generator)
    functionRest g async generator start [n]

/-- A function declaration; its name belongs to the scope around it and may be left out only where
`nameless` holds. -/
def functionDeclaration (g : Grammar) (s : Scope) (nameless : Bool) : Parser Node := do
  let start ← here
  let async ← acceptWord "async"
  expectWord "function"
  let generator ← accept (.binary .multiply)
  if nameless && (← peek).isMark .openParen then functionRest g async generator start []
  else
    let n ← name s
    functionRest g async generator start [n]

/-- How a member or a property with parameters is written. -/
inductive MethodForm where
  | plain
  | access (a : Access)
  | function (async generator : Bool)
  deriving DecidableEq, Repr

/-- The function of a method, from its parameters on. A getter takes none, a setter exactly one that
is no rest parameter. -/
def methodFunction (g : Grammar) (form : MethodForm) : Parser Node := do
  let start ← here
  let (async, generator) := match form with
    | .function async generator => (async, generator)
    | _ => (false, false)
  let s := Scope.within async generator
  let ps ← parameters g s
  match form with
  | .access .get => guard ps.children.isEmpty
  | .access .set =>
    match ps.children with
    | [p] => guard (p.kind != .restElement)
    | _ => fail
  | _ => pure ()
  let body ← braced g s .functionBody
  finish (.function async generator) start [ps, body]

/-- The lexeme ends a name, so a word before it is the name and no modifier. -/
def endsName (t : Lexeme) : Bool :=
  t.isMark .openParen || t.isMark (.assign .set) || t.isMark .semicolon || t.isMark .closeBrace ||
    t.isMark .comma || t.isMark .colon || t.kind == .finish

/-- Passes over `async`, `*`, `get` and `set` in front of a key. `lineEnds` tells whether a line
end after a word makes it a name, as it does in a class. -/
def methodForm (lineEnds : Bool) : Parser MethodForm := do
  if ← accept (.binary .multiply) then return .function false true
  let t ← peek
  let next ← peekSecond
  if t.isWord "async" && !endsName next then
    if next.afterLineEnd then
      guard lineEnds
      return .plain
    advance
    return .function true (← accept (.binary .multiply))
  if (t.isWord "get" || t.isWord "set") && !endsName next &&
      !next.isMark (.binary .multiply) then
    advance
    return .access (if t.isWord "get" then .get else .set)
  return .plain

/-- One property of an object literal. -/
def property (g : Grammar) (s : Scope) : Parser Node := do
  let start ← here
  if ← accept .ellipsis then
    let value ← g .assignment s.withIn
    finish .objectSpread start [value]
  else
    let form ← methodForm false
    let t ← peek
    let (key, computed, _) ← propertyKey g s
    match form with
    | .access a =>
      let f ← methodFunction g form
      finish (.accessor a computed) start [key, f]
    | .function _ _ =>
      let f ← methodFunction g form
      finish (.property true false computed) start [key, f]
    | .plain =>
      if (← peek).isMark .openParen then
        let f ← methodFunction g form
        finish (.property true false computed) start [key, f]
      else if ← accept .colon then
        let value ← g .assignment s.withIn
        finish (.property false false computed) start [key, value]
      else
        match t.kind with
        | .word w =>
          guard (s.admits w)
          if ← accept (.assign .set) then
            let value ← g .assignment s.withIn
            finish .shorthandDefault start [key, value]
          else finish (.property false true false) start [key, key]
        | _ => fail

/-- An object literal. -/
def objectLiteral (g : Grammar) (s : Scope) : Parser Node := do
  let start ← here
  expect .openBrace
  loop (([], false) : List Node × Bool) fun (acc, comma) => do
    if ← accept .closeBrace then return .done (← finish (.object comma) start acc.reverse)
    let p ← property g s
    if (← peek).isMark .closeBrace then return .again (p :: acc, false)
    expect .comma
    return .again (p :: acc, true)

/-- Decorators, as many as there are. -/
def decorators (g : Grammar) (s : Scope) : Parser (List Node) :=
  loop ([] : List Node) fun acc => do
    let start ← here
    if ← accept .decorator then
      let e ← g .leftHandSide { s with decorating := true }
      return .again ((← finish .decorator start [e]) :: acc)
    return .done acc.reverse

/-- The member names that only some forms of member may have. -/
def memberNameOk (static : Bool) (form : MethodForm) (field : Bool) : KeyText → Bool
  | .privateName n => n != "constructor"
  | .text cs =>
    !(static && cs == codePointsOf "prototype") &&
      !(cs == codePointsOf "constructor" && (field || (!static && form != .plain)))
  | .other => true

/-- The key of a class member, which may be private. -/
def memberKey (g : Grammar) (s : Scope) : Parser (Node × KeyText) := do
  match (← peek).kind with
  | .privateName n => return (← leaf .privateName, .privateName n)
  | _ =>
    let (key, _, text) ← propertyKey g s.withIn
    return (key, text)

/-- One member of a class body. -/
def classMember (g : Grammar) (s : Scope) : Parser Node := do
  let start ← here
  let ds ← decorators g s
  let static ← do
    if (← peek).isWord "static" && !endsName (← peekSecond) then
      advance
      pure true
    else pure false
  if static && (← peek).isMark .openBrace then
    let block ← braced g Scope.staticBlock .block
    return ← finish .staticBlock start block.children
  let t ← peek
  let next ← peekSecond
  let accessor := t.isWord "accessor" && !endsName next && !next.afterLineEnd
  if accessor then advance
  let form ← if accessor then pure .plain else methodForm true
  let (key, text) ← memberKey g s
  if !accessor && (form != .plain || (← peek).isMark .openParen) then
    guard (memberNameOk static form false text)
    let f ← methodFunction g form
    finish .method start (ds ++ [key, f])
  else
    guard (memberNameOk static form true text)
    let value ← do
      if ← accept (.assign .set) then pure [← g .assignment s.fieldValue] else pure []
    endStatement
    let k := if accessor then Kind.accessorField else .field
    return .node k start ((value.getLast?.map Node.stop).getD key.stop) (ds ++ key :: value)

/-- A class from the word `class` on. It starts at `start`, where its decorators begin if they
belong to it. -/
def classRest (g : Grammar) (s : Scope) (start : Nat) (ds : List Node) (needsName : Bool) :
    Parser Node := do
  expectWord "class"
  let named ← do
    let t ← peek
    match t.kind with
    | .word w =>
      if isReserved w.text then pure [] else
        pure [← name s]
    | _ => pure []
  guard (!needsName || !named.isEmpty)
  let heritage ← do
    if ← acceptWord "extends" then pure [← g .leftHandSide s] else pure []
  expect .openBrace
  loop ([] : List Node) fun acc => do
    if ← accept .closeBrace then
      return .done (← finish .classSyntax start (ds ++ named ++ heritage ++ acc.reverse))
    if ← accept .semicolon then return .again acc
    return .again ((← classMember g s.nested) :: acc)

/-- A class expression with its decorators. -/
def classExpression (g : Grammar) (s : Scope) : Parser Node := do
  let start ← here
  let ds ← decorators g s
  classRest g s start ds false

end EditionCheck.Script
