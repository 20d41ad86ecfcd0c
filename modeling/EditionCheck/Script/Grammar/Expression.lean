import EditionCheck.Script.Grammar.Function
import EditionCheck.Script.RegExp

/-!
  Expressions, from literals up to sequences.

  What stands in parentheses is read once: where an arrow follows, its items become parameters. Only
  behind `async` the items are read again in the scope of an asynchronous function.
-/

namespace EditionCheck.Script

open EditionCheck.Script.Parser

/-- The substitutions and the end of a template. A template without a tag admits well-formed escapes
only. -/
def templateLiteral (g : Grammar) (s : Scope) (tagged : Bool) : Parser Node := do
  let start ← here
  loop ([] : List Node) fun acc => do
    match (← peek).kind with
    | .template ends valid =>
      guard (tagged || valid)
      advance
      match ends with
      | .close => return .done (← finish .template start acc.reverse)
      | .substitution =>
        let e ← g .expression s.withIn
        reread (← peek).templateRest
        return .again (e :: acc)
    | _ => fail

/-- A regular expression literal, whose pattern and flags must be well-formed. -/
def regExpLiteral : Parser Node := do
  let t ← peek
  let (body, flags, next) ← some? (Lexeme.regExp t.source)
  guard (RegExp.accepts body flags)
  reread { t with next := next }
  leaf .regExp

/-- An array literal. -/
def arrayLiteral (g : Grammar) (s : Scope) : Parser Node := do
  let start ← here
  expect .openBracket
  loop (([], false) : List Node × Bool) fun (acc, comma) => do
    let t ← peek
    if t.isMark .closeBracket then
      advance
      return .done (← finish (.array comma) start acc.reverse)
    if t.isMark .comma then
      advance
      return .again (.node .hole t.start t.start [] :: acc, true)
    let e ← if ← accept .ellipsis then
        let e ← g .assignment s.withIn
        finish .spread t.start [e]
      else g .assignment s.withIn
    if (← peek).isMark .closeBracket then return .again (e :: acc, false)
    expect .comma
    return .again (e :: acc, true)

/-- The arguments of a call. -/
def arguments (g : Grammar) (s : Scope) : Parser Node := do
  let start ← here
  expect .openParen
  loop ([] : List Node) fun acc => do
    let t ← peek
    if t.isMark .closeParen then
      advance
      return .done (← finish .arguments start acc.reverse)
    let e ← if ← accept .ellipsis then
        let e ← g .assignment s.withIn
        finish .spread t.start [e]
      else g .assignment s.withIn
    if !(← peek).isMark .closeParen then expect .comma
    return .again (e :: acc)

/-- What stands in parentheses: the items, whether a comma follows the last one, and whether that
is a rest element. -/
def parenthesizedItems (g : Grammar) (s : Scope) : Parser (List Node × Bool × Bool) := do
  expect .openParen
  loop (([], false) : List Node × Bool) fun (acc, comma) => do
    let t ← peek
    if t.isMark .closeParen then
      advance
      return .done (acc.reverse, comma, false)
    if t.isMark .ellipsis then
      advance
      let rest ← g .binding s.withIn
      let rest ← finish .restElement t.start [rest]
      expect .closeParen
      return .done ((rest :: acc).reverse, false, true)
    let e ← g .assignment s.withIn
    if (← peek).isMark .closeParen then return .again (e :: acc, false)
    expect .comma
    return .again (e :: acc, true)

/-- An expression in parentheses, or parameters if an arrow follows. -/
def parenthesized (g : Grammar) (s : Scope) : Parser Node := do
  let start ← here
  let (items, comma, rest) ← parenthesizedItems g s
  if (← peek).isMark .arrow then finish (.arrowHead false) start items
  else
    guard (!comma && !rest)
    match items with
    | [] => fail
    | [e] => finish .parenthesized start [e]
    | first :: more =>
      let stop := (more.getLast?.map Node.stop).getD first.stop
      finish .parenthesized start [.node .sequence first.start stop items]

/-- Parameters of an asynchronous arrow behind the word `async`. -/
def asyncArrowHead (g : Grammar) (s : Scope) : Parser Node := do
  let start ← here
  advance
  let s := { s with awaits := true }
  let items ← do
    if (← peek).isMark .openParen then
      let (items, _, _) ← parenthesizedItems g s
      pure items
    else pure [← name s]
  guard ((← peek).isMark .arrow)
  finish (.arrowHead true) start items

/-- What the word `async` opens: an asynchronous function or arrow, or just a name. `calls` admits a
call, which looks like an arrow up to its closing parenthesis. -/
def asyncExpression (g : Grammar) (s : Scope) (calls : Bool) : Parser Node := do
  let next ← peekSecond
  if next.afterLineEnd then name s
  else if next.isWord "function" then functionExpression g
  else if !calls then name s
  else if next.isMark .openParen then
    let call ← attempt do
      let start ← here
      let callee ← name s
      let args ← arguments g s
      guard (!(← peek).isMark .arrow)
      finish .call start [callee, args]
    match call with
    | some call => return call
    | none => asyncArrowHead g s
  else
    match ← attempt (asyncArrowHead g s) with
    | some head => return head
    | none => name s

/-- What the word `import` opens within an expression: a dynamic import, perhaps of some phase, or
the properties of the module. -/
def importExpression (g : Grammar) (s : Scope) (calls : Bool) : Parser Node := do
  let start ← here
  expectWord "import"
  let phase ← accept .dot
  let properties ← if phase then acceptWord "meta" else pure false
  if properties then finish .importMeta start []
  else
    guard calls
    if phase then
      if !(← acceptWord "source") then expectWord "defer"
    expect .openParen
    let first ← g .assignment s.withIn
    let more ← do
      if (← accept .comma) && !(← peek).isMark .closeParen then
        let e ← g .assignment s.withIn
        let _ ← accept .comma
        pure [e]
      else pure []
    expect .closeParen
    finish .importCall start (first :: more)

/-- What the word `new` opens: a construction, or the target of one. -/
def newExpression (g : Grammar) (s : Scope) : Parser Node := do
  let start ← here
  expectWord "new"
  if ← accept .dot then
    expectWord "target"
    finish .newTarget start []
  else
    let callee ← g .callee s
    guard (!(← peek).isMark .questionDot)
    let args ← do
      if (← peek).isMark .openParen then pure [← arguments g s] else pure []
    finish .new start (callee :: args)

/-- An expression without operators around it. `calls` is off for what `new` constructs. -/
def primary (g : Grammar) (s : Scope) (calls : Bool) : Parser Node := do
  let t ← peek
  match t.kind with
  | .word w =>
    if w.escaped then name s
    else match w.text with
    | "function" => functionExpression g
    | "class" => classExpression g s
    | "this" => leaf .this
    | "null" | "true" | "false" => leaf .keywordLiteral
    | "new" => newExpression g s
    | "import" => importExpression g s calls
    | "async" => asyncExpression g s calls
    | "super" =>
      let e ← leaf .super
      let next ← peek
      guard (next.isMark .dot || next.isMark .openBracket || next.isMark .openParen)
      return e
    | _ => name s
  | .string _ => leaf .string
  | .number => leaf .number
  | .bigInt => leaf .bigInt
  | .template _ _ => templateLiteral g s false
  | .mark .openBracket => arrayLiteral g s
  | .mark .openBrace => objectLiteral g s
  | .mark .openParen => parenthesized g s
  | .mark .decorator => classExpression g s
  | .mark (.binary .divide) => regExpLiteral
  | .mark (.assign .divide) => regExpLiteral
  | _ => fail

/-- The name behind a dot, which may be private. -/
def dotted (start : Nat) (object : Node) : Parser Node := do
  match (← peek).kind with
  | .word w =>
    let n ← leaf (.identifier w.text)
    finish .member start [object, n]
  | .privateName _ =>
    guard (object.kind != .super)
    let n ← leaf .privateName
    finish .privateMember start [object, n]
  | _ => fail

/-- The key in brackets. -/
def bracketed (g : Grammar) (s : Scope) (start : Nat) (object : Node) : Parser Node := do
  expect .openBracket
  let key ← g .expression s.withIn
  expect .closeBracket
  finish .computedMember start [object, key]

/-- Properties, calls and tagged templates behind an expression. An optional link makes the whole
expression a chain, in which no template follows. -/
def links (g : Grammar) (s : Scope) (calls : Bool) (first : Node) : Parser Node :=
  let start := first.start
  loop ((first, false) : Node × Bool) fun (e, chained) => do
    let t ← peek
    match t.kind with
    | .mark .dot =>
      advance
      return .again (← dotted start e, chained)
    | .mark .openBracket =>
      if s.decorating then return .done (← close start e chained)
      return .again (← bracketed g s start e, chained)
    | .mark .openParen =>
      if !calls then return .done (← close start e chained)
      let args ← arguments g s
      return .again (← finish .call start [e, args], chained)
    | .template _ _ =>
      guard (!chained)
      let quasi ← templateLiteral g s true
      return .again (← finish .taggedTemplate start [e, quasi], false)
    | .mark .questionDot =>
      if !calls then return .done (← close start e chained)
      advance
      let next ← peek
      if next.isMark .openParen then
        let args ← arguments g s
        return .again (← finish .call start [e, args], true)
      if next.isMark .openBracket then return .again (← bracketed g s start e, true)
      return .again (← dotted start e, true)
    | _ => return .done (← close start e chained)
where
  /-- The expression, as a chain if it holds an optional link. -/
  close (start : Nat) (e : Node) (chained : Bool) : Parser Node :=
    if chained then finish .chain start [e] else pure e

/-- Parameters in front of an arrow stay alone. -/
def linksUnlessArrow (g : Grammar) (s : Scope) (calls : Bool) (e : Node) : Parser Node := do
  if (← peek).isMark .arrow then return e
  links g s calls e

/-- An expression with its properties and calls. -/
def leftHandSide (g : Grammar) (s : Scope) : Parser Node := do
  linksUnlessArrow g s true (← primary g s true)

/-- What `new` constructs. -/
def callee (g : Grammar) (s : Scope) : Parser Node := do
  linksUnlessArrow g s false (← primary g s false)

/-- An expression with `++` or `--` at one side. -/
def updateExpression (g : Grammar) (s : Scope) : Parser Node := do
  let t ← peek
  if t.isMark .plusPlus || t.isMark .minusMinus then
    advance
    let e ← g .unary s
    guard e.isSimpleTarget
    finish .update t.start [e]
  else
    let e ← leftHandSide g s
    let t ← peek
    if (t.isMark .plusPlus || t.isMark .minusMinus) && !t.afterLineEnd then
      guard e.isSimpleTarget
      advance
      finish .update e.start [e]
    else return e

/-- The lexeme is an operator with one operand. -/
def isUnaryOperator (t : Lexeme) : Bool :=
  t.isMark (.sign .add) || t.isMark (.sign .subtract) || t.isMark .bang || t.isMark .tilde ||
    t.isWord "delete" || t.isWord "void" || t.isWord "typeof"

/-- An expression with operators of one operand in front. -/
def unaryExpression (g : Grammar) (s : Scope) : Parser Node := do
  let t ← peek
  if isUnaryOperator t then
    advance
    let e ← g .unary s
    finish .unary t.start [e]
  else if s.awaits && t.isWord "await" then
    advance
    let e ← g .unary s
    finish .await t.start [e]
  else updateExpression g s

/-- An operator with two operands. -/
inductive Operator where
  | binary (op : BinaryOp)
  | logical (op : LogicalOp)
  deriving DecidableEq, Repr

/-- How tightly an operator binds. -/
def Operator.level : Operator → Nat
  | logical .coalesce => 1
  | logical .or => 2
  | logical .and => 3
  | binary .bitOr => 4
  | binary .bitXor => 5
  | binary .bitAnd => 6
  | binary .equal | binary .notEqual | binary .same | binary .notSame => 7
  | binary .less | binary .lessEqual | binary .greater | binary .greaterEqual
  | binary .instanceOf | binary .member => 8
  | binary .shiftLeft | binary .shiftRight | binary .shiftRightZero => 9
  | binary .add | binary .subtract => 10
  | binary .multiply | binary .divide | binary .remainder => 11
  | binary .power => 12

/-- The kind of node that the operator makes. -/
def Operator.kind : Operator → Kind
  | binary op => .binary op
  | logical op => .logical op

/-- The operator with two operands that the lexeme is. -/
def operator? (s : Scope) (t : Lexeme) : Option Operator :=
  match t.kind with
  | .mark (.sign op) => some (.binary op)
  | .mark (.binary op) => some (.binary op)
  | .mark (.logical op) => some (.logical op)
  | .word w =>
    if w.escaped then none
    else if w.text == "instanceof" then some (.binary .instanceOf)
    else if w.text == "in" && s.allowIn then some (.binary .member)
    else none
  | _ => none

/-- The operands fit the operator: a power has no operand with an operator in front as its base,
and `??` is not mixed with `&&` or `||`. -/
def Operator.admits (op : Operator) (left right : Kind) : Bool :=
  match op with
  | .binary .power => left != .unary && left != .await
  | .logical .coalesce =>
    [left, right].all fun k => k != .logical .and && k != .logical .or
  | .logical _ => [left, right].all fun k => k != .logical .coalesce
  | .binary _ => true

/-- The first operand: an expression, or a private name in front of `in`. -/
def operand (g : Grammar) (s : Scope) (level : Nat) : Parser Node := do
  match (← peek).kind with
  | .privateName _ =>
    guard (s.allowIn && level < Operator.level (.binary .member))
    let n ← leaf .privateName
    expectWord "in"
    let e ← g (.binary (Operator.level (.binary .member))) s
    finish .privateIn n.start [n, e]
  | _ => unaryExpression g s

/-- Operands joined by operators that bind tighter than `level`. Operators of one level group to the
left, except that powers group to the right. -/
def binaryExpression (g : Grammar) (s : Scope) (level : Nat) : Parser Node := do
  let first ← operand g s level
  loop first fun left => do
    match operator? s (← peek) with
    | some op =>
      if op.level ≤ level then return .done left
      advance
      let right ← g (.binary (if op == .binary .power then op.level - 1 else op.level)) s
      guard (op.admits left.kind right.kind)
      return .again (← finish op.kind left.start [left, right])
    | none => return .done left

/-- A choice between two expressions, or an expression that binds tighter. -/
def conditionalExpression (g : Grammar) (s : Scope) : Parser Node := do
  let test ← binaryExpression g s 0
  if ← accept .question then
    let yes ← g .assignment s.withIn
    expect .colon
    let no ← g .assignment s
    finish .conditional test.start [test, yes, no]
  else return test

/-- The lexeme cannot open the operand of `yield`. -/
def endsYield (t : Lexeme) : Bool :=
  t.afterLineEnd || t.isMark .closeParen || t.isMark .closeBracket || t.isMark .closeBrace ||
    t.isMark .comma || t.isMark .semicolon || t.isMark .colon || t.isWord "in" || t.isWord "of" ||
    t.kind == .finish

/-- The operator `yield` with its operand, if it has one. -/
def yieldExpression (g : Grammar) (s : Scope) : Parser Node := do
  let start ← here
  advance
  let t ← peek
  if t.isMark (.binary .multiply) && !t.afterLineEnd then
    advance
    let e ← g .assignment s
    finish .yield start [e]
  else if endsYield t then finish .yield start []
  else
    let e ← g .assignment s
    finish .yield start [e]

/-- The arrow and the body behind parameters. -/
def arrowRest (g : Grammar) (s : Scope) (async : Bool) (start : Nat) (ps : Node) :
    Parser Node := do
  let t ← peek
  guard (t.isMark .arrow && !t.afterLineEnd)
  advance
  if (← peek).isMark .openBrace then
    let body ← braced g (Scope.within async false) .functionBody
    finish (.arrow async) start [ps, body]
  else
    let body ← g .assignment { s.nested with awaits := async, yields := false }
    finish (.arrow async) start [ps, body]

/-- An arrow function, an assignment, or an expression that binds tighter. -/
def assignmentExpression (g : Grammar) (s : Scope) : Parser Node := do
  let t ← peek
  if s.yields && t.isWord "yield" then yieldExpression g s
  else
    let left ← conditionalExpression g s
    match (← peek).kind with
    | .mark .arrow =>
      match left with
      | .node (.identifier _) a b _ => arrowRest g s false a (.node .parameters a b [left])
      | .node (.arrowHead async) a b items =>
        let ps ← some? (Node.bindingElements? false items)
        arrowRest g s async a (.node .parameters a b ps)
      | _ => fail
    | .mark (.assign op) =>
      let target ← some? left.target?
      advance
      let value ← g .assignment s
      finish (.assignment op) left.start [target, value]
    | _ => return left

/-- Expressions joined by commas. -/
def expressionSequence (g : Grammar) (s : Scope) : Parser Node := do
  let first ← g .assignment s
  loop [first] fun acc => do
    if ← accept .comma then return .again ((← g .assignment s) :: acc)
    match acc with
    | [e] => return .done e
    | _ => return .done (← finish .sequence first.start acc.reverse)

end EditionCheck.Script
