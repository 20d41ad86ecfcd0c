import EditionCheck.Script.Grammar.Statement

/-!
  The grammar of scripts.

  `grammar` ties the productions together, each level of nesting using up one unit of fuel, and
  `parse` reads a whole script. The newest edition of the language is read, with the additions for
  old scripts; what depends on more than the text at hand (labels, redeclared names, strict code)
  is not checked.
-/

namespace EditionCheck.Script

open EditionCheck.Script.Parser

/-- The parser of each construct, for constructs nested at most `fuel` deep. -/
def grammar : Nat → Grammar
  | 0 => fun _ _ => fail
  | fuel + 1 => fun goal s =>
    match goal with
    | .expression => expressionSequence (grammar fuel) s
    | .assignment => assignmentExpression (grammar fuel) s
    | .leftHandSide => leftHandSide (grammar fuel) s
    | .callee => callee (grammar fuel) s
    | .unary => unaryExpression (grammar fuel) s
    | .binary level => binaryExpression (grammar fuel) s level
    | .binding => binding (grammar fuel) s
    | .statement alone => statement (grammar fuel) s alone

/-- The statements of a script up to its end. -/
def scriptItems (g : Grammar) (s : Scope) : Parser (List Node) :=
  loop ([] : List Node) fun acc => do
    if (← peek).kind == .finish then return .done acc.reverse
    return .again ((← g (.statement false) s) :: acc)

/-- What surrounds the statements of a script. -/
def Scope.script (module : Bool) : Scope :=
  { yields := false, awaits := module, returns := false, allowIn := true, decorating := false,
    outermost := true }

/-- A first line that names an interpreter, as a node, and the place after it. -/
def hashbang (text : List Char) : List Node × Cursor :=
  match text with
  | '#' :: '!' :: cs =>
    let line := cs.takeWhile fun c => !isLineEnd c
    let stop := 2 + Text.byteLength line
    ([.node .hashbang 0 stop []], ⟨cs.dropWhile fun c => !isLineEnd c, stop⟩)
  | _ => ([], ⟨text, 0⟩)

/-- The tree over the parts of a script. A shorthand with an initialiser that has become part of no
pattern is refused with all else that may not stand where it does. -/
def program? (stop : Nat) (items : List Node) : Option Tree :=
  let root := Node.node .program 0 stop items
  if h : root.Formed then some ⟨root, rfl, h⟩ else none

/-- The tree of a script, or nothing if the text is none. -/
def parse (module : Bool) (text : List Char) : Option Tree :=
  let limit := text.length + 2
  let (first, start) := hashbang text
  let lexeme := Lexeme.read (!module) limit true start
  match scriptItems (grammar (8 * limit)) (.script module) ⟨module, limit⟩ ⟨lexeme, 0, []⟩ with
  | some (items, _) => program? (Text.byteLength text) (first ++ items)
  | none => none

end EditionCheck.Script
