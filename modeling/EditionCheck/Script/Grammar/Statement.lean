import EditionCheck.Script.Grammar.ModuleItem

/-!
  Statements.

  A statement that is the body of another one, or of a label, stands `alone`: there no declaration
  is admitted but `var` and that of an ordinary function.
-/

namespace EditionCheck.Script

open EditionCheck.Script.Parser

/-- An expression in parentheses behind a word. -/
def condition (g : Grammar) (s : Scope) : Parser Node := do
  expect .openParen
  let e ← g .expression s.withIn
  expect .closeParen
  return e

/-- The statement that is the body of another one. -/
def loneStatement (g : Grammar) (s : Scope) : Parser Node := g (.statement true) s.nested

/-- Statements in braces. -/
def block (g : Grammar) (s : Scope) : Parser Node := braced g s.nested .block

/-- An expression as a statement. -/
def expressionStatement (g : Grammar) (s : Scope) : Parser Node := do
  let e ← g .expression s.withIn
  endStatement
  finish .expressionStatement e.start [e]

/-- A statement that runs one of two others. -/
def ifStatement (g : Grammar) (s : Scope) : Parser Node := do
  let start ← here
  advance
  let test ← condition g s
  let yes ← loneStatement g s
  if ← acceptWord "else" then
    let no ← loneStatement g s
    finish .ifElse start [test, yes, no]
  else finish .ifElse start [test, yes]

/-- A loop with its test in front. -/
def whileStatement (g : Grammar) (s : Scope) : Parser Node := do
  let start ← here
  advance
  let test ← condition g s
  let body ← loneStatement g s
  finish .while start [test, body]

/-- A loop with its test behind; a semicolon after it may always be left out. -/
def doStatement (g : Grammar) (s : Scope) : Parser Node := do
  let start ← here
  advance
  let body ← loneStatement g s
  expectWord "while"
  let test ← condition g s
  let _ ← accept .semicolon
  finish .doWhile start [body, test]

/-- A statement whose names are properties of an object. -/
def withStatement (g : Grammar) (s : Scope) : Parser Node := do
  let start ← here
  advance
  let object ← condition g s
  let body ← loneStatement g s
  finish .with start [object, body]

/-- An expression if the mark does not come at once. -/
def expressionUnless (g : Grammar) (s : Scope) (m : Mark) : Parser (List Node) := do
  if (← peek).isMark m then return []
  return [← g .expression s.withIn]

/-- The rest of a loop with a counter, behind what it starts with. -/
def forLoopRest (g : Grammar) (s : Scope) (start : Nat) (init : List Node) : Parser Node := do
  expect .semicolon
  let test ← expressionUnless g s .semicolon
  expect .semicolon
  let step ← expressionUnless g s .closeParen
  expect .closeParen
  let body ← loneStatement g s
  finish .forLoop start (init ++ test ++ step ++ [body])

/-- The rest of a loop over keys. -/
def forInRest (g : Grammar) (s : Scope) (start : Nat) (left : Node) : Parser Node := do
  advance
  let object ← g .expression s.withIn
  expect .closeParen
  let body ← loneStatement g s
  finish .forIn start [left, object, body]

/-- The rest of a loop over values. -/
def forOfRest (g : Grammar) (s : Scope) (start : Nat) (awaits : Bool) (left : Node) :
    Parser Node := do
  advance
  let values ← g .assignment s.withIn
  expect .closeParen
  let body ← loneStatement g s
  finish (.forOf awaits) start [left, values, body]

/-- A loop whose head begins with a declaration. -/
def forDeclared (g : Grammar) (s : Scope) (start : Nat) (awaits : Bool) (how : Declarator) :
    Parser Node := do
  let left ← variableList g s.withoutIn how true
  let t ← peek
  if t.isWord "of" then forOfRest g s start awaits left
  else
    guard (!awaits)
    if t.isWord "in" then
      guard (!disposes how)
      forInRest g s start left
    else
      guard (disposes how || hasValues how left)
      forLoopRest g s start [left]

/-- A loop whose head begins with an expression. Neither `let` nor `async` alone may stand in front
of `of`, the latter only after `await`. -/
def forAssigned (g : Grammar) (s : Scope) (start : Nat) (awaits : Bool) : Parser Node := do
  let first ← peek
  let left ← g .expression s.withoutIn
  let t ← peek
  if t.isWord "of" then
    guard (!(isName left && (first.isWord "let" || (first.isWord "async" && !awaits))))
    forOfRest g s start awaits (← some? left.target?)
  else
    guard (!awaits)
    if t.isWord "in" then forInRest g s start (← some? left.target?)
    else forLoopRest g s start [left]

/-- A loop with a head in parentheses. -/
def forStatement (g : Grammar) (s : Scope) : Parser Node := do
  let start ← here
  advance
  let awaits ← do
    if s.awaits then acceptWord "await" else pure false
  expect .openParen
  if (← peek).isMark .semicolon then
    guard (!awaits)
    forLoopRest g s start []
  else
    match ← declarationAhead s true with
    | some how => forDeclared g s start awaits how
    | none => forAssigned g s start awaits

/-- The statements of one case. -/
def caseStatements (g : Grammar) (s : Scope) : Parser (List Node) :=
  loop ([] : List Node) fun acc => do
    let t ← peek
    if t.isWord "case" || t.isWord "default" || t.isMark .closeBrace then return .done acc.reverse
    return .again ((← g (.statement false) s.nested) :: acc)

/-- A choice between cases; several may be the default one. -/
def switchStatement (g : Grammar) (s : Scope) : Parser Node := do
  let start ← here
  advance
  let value ← condition g s
  expect .openBrace
  loop ([] : List Node) fun acc => do
    if ← accept .closeBrace then return .done (← finish .switch start (value :: acc.reverse))
    let start ← here
    let test ← do
      if ← acceptWord "default" then pure []
      else
        expectWord "case"
        pure [← g .expression s.withIn]
    expect .colon
    let body ← caseStatements g s
    return .again ((← finish .case start (test ++ body)) :: acc)

/-- What handles an exception. -/
def catchClause (g : Grammar) (s : Scope) : Parser Node := do
  let start ← here
  advance
  if ← accept .openParen then
    let parameter ← binding g s
    expect .closeParen
    let body ← block g s
    finish (.catch true) start [parameter, body]
  else
    let body ← block g s
    finish (.catch false) start [body]

/-- A block whose exceptions are handled, or after which something always runs. -/
def tryStatement (g : Grammar) (s : Scope) : Parser Node := do
  let start ← here
  advance
  let body ← block g s
  let handler ← do
    if (← peek).isWord "catch" then pure [← catchClause g s] else pure []
  let final ← do
    if ← acceptWord "finally" then pure [← block g s] else pure []
  guard (!handler.isEmpty || !final.isEmpty)
  finish .try start (body :: handler ++ final)

/-- The lexeme ends a statement without an operand. -/
def endsOperand (t : Lexeme) : Bool :=
  t.afterLineEnd || t.isMark .semicolon || t.isMark .closeBrace || t.kind == .finish

/-- A return from a function. -/
def returnStatement (g : Grammar) (s : Scope) : Parser Node := do
  let start ← here
  guard s.returns
  advance
  let value ← do
    if endsOperand (← peek) then pure [] else pure [← g .expression s.withIn]
  endStatement
  finish .return start value

/-- A throw; its operand begins on the same line. -/
def throwStatement (g : Grammar) (s : Scope) : Parser Node := do
  let start ← here
  advance
  guard !(← peek).afterLineEnd
  let value ← g .expression s.withIn
  endStatement
  finish .throw start [value]

/-- A jump out of a statement or to its next round. -/
def jumpStatement (s : Scope) (k : Kind) : Parser Node := do
  let start ← here
  advance
  let t ← peek
  let label ← do
    if isNaming t && !t.afterLineEnd then pure [← name s] else pure []
  endStatement
  finish k start label

/-- A statement with a label. -/
def labeledStatement (g : Grammar) (s : Scope) : Parser Node := do
  let label ← name s
  expect .colon
  let body ← loneStatement g s
  finish .labeled label.start [label, body]

/-- A function declaration as a statement. Alone, it is an ordinary one. -/
def functionStatement (g : Grammar) (s : Scope) (alone : Bool) : Parser Node := do
  let f ← functionDeclaration g s false
  guard (!alone || f.kind == .function false false)
  return f

/-- What decorators open: a class or an export of one. -/
def decoratedStatement (g : Grammar) (s : Scope) (alone : Bool) : Parser Node := do
  let start ← here
  let ds ← decorators g s
  if (← peek).isWord "export" then exportDeclaration g s ds
  else
    guard (!alone)
    classRest g s start ds true

/-- A declaration of variables, or a statement that begins with `let` as a name. -/
def variableStatement (g : Grammar) (s : Scope) (alone : Bool) (how : Declarator) :
    Parser Node := do
  if alone && how == .let then
    guard !(← peekSecond).isMark .openBracket
    expressionStatement g s
  else
    guard (!alone || how == .var)
    let d ← variableList g s.withIn how false
    endStatement
    return d

/-- A statement that begins with an unescaped word; an expression if the word opens no other. -/
def wordStatement (g : Grammar) (s : Scope) (alone : Bool) (word : String) : Parser Node := do
  match word with
  | "if" => ifStatement g s
  | "for" => forStatement g s
  | "while" => whileStatement g s
  | "do" => doStatement g s
  | "switch" => switchStatement g s
  | "try" => tryStatement g s
  | "return" => returnStatement g s
  | "throw" => throwStatement g s
  | "break" => jumpStatement s .break
  | "continue" => jumpStatement s .continue
  | "with" => withStatement g s
  | "debugger" =>
    let start ← here
    advance
    endStatement
    finish .debugger start []
  | "function" => functionStatement g s alone
  | "class" =>
    guard (!alone)
    classRest g s (← here) [] true
  | "export" => exportDeclaration g s []
  | "import" =>
    let next ← peekSecond
    if next.isMark .openParen || next.isMark .dot then expressionStatement g s
    else importDeclaration s
  | _ =>
    match ← declarationAhead s false with
    | some how => variableStatement g s alone how
    | none =>
      if ← asyncFunctionComes then functionStatement g s alone else expressionStatement g s

/-- A statement. -/
def statement (g : Grammar) (s : Scope) (alone : Bool) : Parser Node := do
  let t ← peek
  match t.kind with
  | .mark .openBrace => block g s
  | .mark .semicolon => leaf .empty
  | .mark .decorator => decoratedStatement g s alone
  | .word w =>
    if !isReserved w.text && (← peekSecond).isMark .colon then labeledStatement g s
    else if w.escaped then expressionStatement g s
    else wordStatement g s alone w.text
  | _ => expressionStatement g s

end EditionCheck.Script
