import EditionCheck.Script.Grammar.Declaration

/-!
  Imports and exports.

  They may stand wherever a statement may. The names that the script itself exports are noted, since
  none may be exported twice.
-/

namespace EditionCheck.Script

open EditionCheck.Script.Parser

/-- Code points that are halves of a surrogate pair. -/
def isSurrogate (n : Nat) : Bool := 0xD800 ≤ n && n < 0xE000

/-- A name in a list of imports or exports: any word, or a string without lone surrogates. -/
def moduleName : Parser (Node × List Nat) := do
  match (← peek).kind with
  | .word w => return (← leaf (.identifier w.text), codePointsOf w.text)
  | .string body =>
    let text := Quoted.value body
    guard (!text.any isSurrogate)
    return (← leaf .string, text)
  | _ => fail

/-- A string literal. -/
def stringLiteral : Parser Node := do
  match (← peek).kind with
  | .string _ => leaf .string
  | _ => fail

/-- One attribute of an import: its key and its node. -/
def importAttribute : Parser (List Nat × Node) := do
  let start ← here
  let (key, text) ← match (← peek).kind with
    | .string body => pure (← leaf .string, Quoted.value body)
    | .word w => pure (← leaf (.identifier w.text), codePointsOf w.text)
    | _ => fail
  expect .colon
  let value ← stringLiteral
  return (text, ← finish .importAttribute start [key, value])

/-- The attributes of an import if it has any. No key may come twice. -/
def attributes : Parser (List Node) := do
  let t ← peek
  if t.isWord "with" || (t.isWord "assert" && !t.afterLineEnd) then
    advance
    expect .openBrace
    let items ← loop ([] : List (List Nat × Node)) fun acc => do
      if ← accept .closeBrace then return .done acc.reverse
      let (key, a) ← importAttribute
      guard (!acc.any fun p => p.1 == key)
      if !(← peek).isMark .closeBrace then expect .comma
      return .again ((key, a) :: acc)
    return [← finish .attributes t.start (items.map Prod.snd)]
  return []

/-- The module that names come from, with its attributes. -/
def fromModule : Parser (List Node) := do
  expectWord "from"
  let source ← stringLiteral
  return source :: (← attributes)

/-- One name in the braces of an import. -/
def importSpecifier (s : Scope) : Parser Node := do
  let t ← peek
  let (imported, _) ← moduleName
  if ← acceptWord "as" then
    let n ← name s
    finish .importSpecifier t.start [imported, n]
  else
    match t.kind with
    | .word w =>
      guard (s.admits w)
      finish .importSpecifier t.start [imported, imported]
    | _ => fail

/-- Names in braces, separated by commas. -/
def inBraces (item : Parser α) : Parser (List α) := do
  expect .openBrace
  loop ([] : List α) fun acc => do
    if ← accept .closeBrace then return .done acc.reverse
    let x ← item
    if !(← peek).isMark .closeBrace then expect .comma
    return .again (x :: acc)

/-- All that a module exports under one name, or the names in braces. -/
def importedNames (s : Scope) : Parser (List Node) := do
  let start ← here
  if ← accept (.binary .multiply) then
    expectWord "as"
    let n ← name s
    return [← finish .importSpecifier start [n]]
  else inBraces (importSpecifier s)

/-- Passes over the phase of an import if it is written. -/
def importPhase : Parser Unit := do
  let t ← peek
  let next ← peekSecond
  if t.isWord "defer" && next.isMark (.binary .multiply) then advance
  else if t.isWord "source" && isNaming next && !next.isWord "from" then advance

/-- An import declaration. -/
def importDeclaration (s : Scope) : Parser Node := do
  let start ← here
  expectWord "import"
  match (← peek).kind with
  | .string _ =>
    let source ← stringLiteral
    let more ← attributes
    endStatement
    finish .importDeclaration start (source :: more)
  | _ =>
    importPhase
    let names ← do
      match (← peek).kind with
      | .word _ =>
        let n ← name s
        let n ← finish .importSpecifier n.start [n]
        if ← accept .comma then pure (n :: (← importedNames s)) else pure [n]
      | _ => importedNames s
    let source ← fromModule
    endStatement
    finish .importDeclaration start (names ++ source)

/-- Notes the names if the export belongs to the script itself. -/
def noteIfOutermost (s : Scope) (names : List (List Nat)) : Parser Unit := do
  if s.outermost then noteExports names

/-- One name in the braces of an export: its node, whether a declaration of this script may have the
local name, and the exported name. -/
def exportSpecifier : Parser (Node × Bool × List Nat) := do
  let t ← peek
  let (localName, text) ← moduleName
  let free := match t.kind with
    | .word w => !isReserved w.text && !strictWords.contains w.text
    | _ => false
  if ← acceptWord "as" then
    let (exported, text) ← moduleName
    return (← finish .exportSpecifier t.start [localName, exported], free, text)
  else return (← finish .exportSpecifier t.start [localName, localName], free, text)

/-- The names that a declaration introduces. -/
def declaredNames (declaration : Node) : List String :=
  match declaration.kind with
  | .variableList _ => declaration.boundNames
  | _ =>
    (declaration.children.findSome? fun c =>
      match c with
      | .node (.identifier n) _ _ _ => some [n]
      | _ => none).getD []

/-- A class after `export`. Decorators in front of `export` do not belong to its text. -/
def exportedClass (g : Grammar) (s : Scope) (ds : List Node) (needsName : Bool) : Parser Node := do
  let start ← here
  let own ← if ds.isEmpty then decorators g s else pure []
  classRest g s start (ds ++ own) needsName

/-- The next lexeme opens a class. -/
def classComes : Parser Bool := do
  let t ← peek
  return t.isWord "class" || t.isMark .decorator

/-- What `export default` exports. -/
def exportDefault (g : Grammar) (s : Scope) (start : Nat) (ds : List Node) : Parser Node := do
  noteIfOutermost s [codePointsOf "default"]
  if !ds.isEmpty || (← classComes) then
    let c ← exportedClass g s ds false
    finish .exportDefault start [c]
  else if (← peek).isWord "function" || (← asyncFunctionComes) then
    let f ← functionDeclaration g s true
    finish .exportDefault start [f]
  else
    let e ← g .assignment s.withIn
    endStatement
    finish .exportDefault start [e]

/-- An export of a declaration. -/
def exportDeclared (g : Grammar) (s : Scope) (start : Nat) (ds : List Node) : Parser Node := do
  let declaration ← do
    if !ds.isEmpty || (← classComes) then exportedClass g s ds true
    else if (← peek).isWord "function" || (← asyncFunctionComes) then functionDeclaration g s false
    else
      match ← declarationAhead s false with
      | some how =>
        guard (!disposes how)
        let d ← variableList g s.withIn how false
        endStatement
        pure d
      | none => fail
  noteIfOutermost s ((declaredNames declaration).map codePointsOf)
  finish .exportNamed start [declaration]

/-- An export of names in braces, from another module or from this script. -/
def exportNames (s : Scope) (start : Nat) : Parser Node := do
  let items ← inBraces exportSpecifier
  let source ← do
    if (← peek).isWord "from" then fromModule
    else
      guard (items.all fun p => p.2.1)
      pure []
  endStatement
  noteIfOutermost s (items.map fun p => p.2.2)
  finish .exportNamed start (items.map Prod.fst ++ source)

/-- An export of all names of a module. -/
def exportAll (s : Scope) (start : Nat) : Parser Node := do
  advance
  let names ← do
    if ← acceptWord "as" then
      let (n, text) ← moduleName
      noteIfOutermost s [text]
      pure [n]
    else pure []
  let source ← fromModule
  endStatement
  finish .exportAll start (names ++ source)

/-- An export declaration; decorators may stand in front of it. -/
def exportDeclaration (g : Grammar) (s : Scope) (ds : List Node) : Parser Node := do
  let start ← here
  expectWord "export"
  let t ← peek
  if ← acceptWord "default" then exportDefault g s start ds
  else if !ds.isEmpty then exportDeclared g s start ds
  else if t.isMark (.binary .multiply) then exportAll s start
  else if t.isMark .openBrace then exportNames s start
  else exportDeclared g s start ds

end EditionCheck.Script
