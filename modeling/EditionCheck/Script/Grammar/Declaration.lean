import EditionCheck.Script.Grammar.Expression

/-!
  Declarations of variables.
-/

namespace EditionCheck.Script

open EditionCheck.Script.Parser

/-- One variable with its initial value. `needsValue` tells which patterns need one. -/
def declarator (g : Grammar) (s : Scope) (needsValue : Node → Bool) : Parser Node := do
  let pattern ← binding g s
  if ← accept (.assign .set) then
    let value ← g .assignment s
    finish .declarator pattern.start [pattern, value]
  else
    guard (!needsValue pattern)
    finish .declarator pattern.start [pattern]

/-- Variables separated by commas. -/
def declarators (g : Grammar) (s : Scope) (needsValue : Node → Bool) : Parser (List Node) := do
  let first ← declarator g s needsValue
  loop [first] fun acc => do
    if ← accept .comma then return .again ((← declarator g s needsValue) :: acc)
    return .done acc.reverse

/-- The node is a bare name. -/
def isName (n : Node) : Bool :=
  match n with
  | .node (.identifier _) _ _ _ => true
  | _ => false

/-- A constant needs a value, and so does every pattern. -/
def needsValue (how : Declarator) (pattern : Node) : Bool :=
  !isName pattern || how == .const

/-- Declarations of values that are disposed of at the end of the scope bind bare names only. -/
def disposes (how : Declarator) : Bool := how == .using || how == .awaitUsing

/-- The lexeme is a word that may name something in some scope. -/
def isNaming (t : Lexeme) : Bool :=
  match t.word? with
  | some w => !isReserved w.text
  | none => false

/-- The word `let` opens a declaration. -/
def letComes : Parser Bool := do
  if (← peek).isWord "let" then
    let t ← peekSecond
    return t.isMark .openBracket || t.isMark .openBrace || isNaming t
  return false

/-- The word `using` opens a declaration: a name follows on the same line. In the head of a loop
`using of` does not. -/
def usingComes (inHead : Bool) : Parser Bool := do
  if (← peek).isWord "using" then
    let t ← peekSecond
    return isNaming t && !t.afterLineEnd && !(inHead && t.isWord "of")
  return false

/-- The words `await using` open a declaration. In a script itself, outside blocks and functions,
`await` is a name. -/
def awaitUsingComes (s : Scope) : Parser Bool := do
  if (← peek).isWord "await" && (s.awaits || !s.outermost) then
    let t ← peekSecond
    if t.isWord "using" && !t.afterLineEnd then
      return ← lookAhead do
        advance
        let t ← peekSecond
        return isNaming t && !t.afterLineEnd
  return false

/-- How the declaration of variables that comes next begins, if one does. -/
def declarationAhead (s : Scope) (inHead : Bool) : Parser (Option Declarator) := do
  let t ← peek
  if t.isWord "var" then return some .var
  if t.isWord "const" then return some .const
  if ← letComes then return some .let
  if ← usingComes inHead then return some .using
  if ← awaitUsingComes s then return some .awaitUsing
  return none

/-- A declaration of variables without its end. In the head of a loop values may be missing. -/
def variableList (g : Grammar) (s : Scope) (how : Declarator) (inHead : Bool) : Parser Node := do
  let start ← here
  advance
  if how == .awaitUsing then advance
  let ds ← declarators g s fun p => !inHead && (disposes how || needsValue how p)
  guard (!disposes how || ds.all fun d => d.children.head?.any isName)
  finish (.variableList how) start ds

/-- Every variable that needs a value has one. -/
def hasValues (how : Declarator) (declaration : Node) : Bool :=
  declaration.children.all fun d =>
    match d.children with
    | [pattern] => !needsValue how pattern
    | _ => true

end EditionCheck.Script
