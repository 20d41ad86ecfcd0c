import EditionCheck.Script.Lexeme.Numeral
import EditionCheck.Script.Lexeme.Quoted
import EditionCheck.Script.Tree

/-!
  Lexemes of scripts.

  A `Lexeme` is what stands between two gaps: its kind, its byte offsets, whether a line end comes
  before it, and the cursors at its two ends. `Lexeme.read` takes the next one. Where a slash opens
  a regular expression or a closing brace ends a substitution, only the grammar knows: it asks for
  `Lexeme.regExp` or `Lexeme.templateRest` at the cursor where the lexeme starts. Text that no
  lexeme matches becomes a lexeme of kind `bad`, which no construct admits.
-/

namespace EditionCheck.Script

/-- Punctuation. -/
inductive Mark where
  | openBrace | closeBrace | openParen | closeParen | openBracket | closeBracket
  | dot | ellipsis | semicolon | comma | colon | question | questionDot | arrow | decorator
  | plusPlus | minusMinus | bang | tilde
  /-- A sign that is also an operator with one operand. -/
  | sign (op : BinaryOp)
  | binary (op : BinaryOp)
  | logical (op : LogicalOp)
  | assign (op : AssignOp)
  deriving DecidableEq, Repr

/-- The spelling of each mark; where one spelling begins with another, the longer comes first. -/
def Mark.spellings : List (List Char × Mark) :=
  [(">>>=", assign .shiftRightZero), ("...", ellipsis), ("===", binary .same),
    ("!==", binary .notSame), ("**=", assign .power), ("<<=", assign .shiftLeft),
    (">>=", assign .shiftRight), (">>>", binary .shiftRightZero), ("&&=", assign .and),
    ("||=", assign .or), ("??=", assign .coalesce), ("=>", arrow), ("==", binary .equal),
    ("!=", binary .notEqual), ("<=", binary .lessEqual), (">=", binary .greaterEqual),
    ("&&", logical .and), ("||", logical .or), ("??", logical .coalesce), ("?.", questionDot),
    ("++", plusPlus), ("--", minusMinus), ("+=", assign .add), ("-=", assign .subtract),
    ("*=", assign .multiply), ("/=", assign .divide), ("%=", assign .remainder),
    ("&=", assign .bitAnd), ("|=", assign .bitOr), ("^=", assign .bitXor),
    ("<<", binary .shiftLeft), (">>", binary .shiftRight), ("**", binary .power),
    ("\x7b", openBrace), ("\x7d", closeBrace), ("(", openParen), (")", closeParen),
    ("[", openBracket), ("]", closeBracket), (".", dot), (";", semicolon), (",", comma),
    (":", colon), ("?", question), ("@", decorator), ("!", bang), ("~", tilde), ("=", assign .set),
    ("+", sign .add), ("-", sign .subtract), ("*", binary .multiply), ("/", binary .divide),
    ("%", binary .remainder), ("<", binary .less), (">", binary .greater), ("&", binary .bitAnd),
    ("|", binary .bitOr), ("^", binary .bitXor)].map fun p => (String.toList p.1, p.2)

/-- The longest mark at the start of `cs` and its width. A question mark and a dot before a digit
are two marks. -/
def Mark.read (cs : List Char) : Option (Mark × Nat) :=
  match cs with
  | '?' :: '.' :: d :: _ => if d.isDigit then some (question, 1) else find cs
  | _ => find cs
where
  /-- The first spelling that `cs` begins with. -/
  find (cs : List Char) : Option (Mark × Nat) :=
    (spellings.find? fun p => p.1.isPrefixOf cs).map fun p => (p.2, p.1.length)

/-- The kinds of lexeme. -/
inductive LexemeKind where
  | mark (m : Mark)
  | word (w : Word)
  | privateName (name : String)
  | number
  | bigInt
  | string (body : List Char)
  /-- A template up to its end or its first substitution; `valid` says whether all escapes are. -/
  | template (ends : Quoted.PartEnd) (valid : Bool)
  | finish
  | bad
  deriving DecidableEq, Repr

/-- A lexeme and where it stands. -/
structure Lexeme where
  kind : LexemeKind
  /-- A line end comes between the lexeme before and this one. -/
  afterLineEnd : Bool
  /-- Where it starts. -/
  source : Cursor
  /-- Where it stops. -/
  next : Cursor
  deriving DecidableEq, Repr

namespace Lexeme

/-- The byte offset of the first byte. -/
def start (t : Lexeme) : Nat := t.source.offset

/-- The byte offset after the last byte. -/
def stop (t : Lexeme) : Nat := t.next.offset

/-- The lexeme that starts at `at_`, where no gap stands. -/
def kindAt (fuel : Nat) (at_ : Cursor) : LexemeKind × Cursor :=
  match at_.rest with
  | [] => (.finish, at_)
  | c :: cs =>
    if Word.opens c then
      match Word.read fuel at_ with
      | some (w, next) => (.word w, next)
      | none => (.bad, at_)
    else if c.isDigit || (c == '.' && cs.head?.any Char.isDigit) then
      match Numeral.read at_.rest with
      | some (big, width, rest) =>
        (if big then .bigInt else .number, ⟨rest, at_.offset + width⟩)
      | none => (.bad, at_)
    else if c == '"' || c == '\'' then
      match Quoted.string c [] cs with
      | some (body, rest) => (.string body, ⟨rest, at_.offset + 2 + Text.byteLength body⟩)
      | none => (.bad, at_)
    else if c == '\x60' then
      match Quoted.template true 1 cs with
      | some (ends, valid, width, rest) => (.template ends valid, ⟨rest, at_.offset + width⟩)
      | none => (.bad, at_)
    else if c == '#' then
      match Word.read fuel ⟨cs, at_.offset + 1⟩ with
      | some (w, next) => (.privateName w.text, next)
      | none => (.bad, at_)
    else
      match Mark.read at_.rest with
      | some (m, width) => (.mark m, at_.advance width)
      | none => (.bad, at_)

/-- The next lexeme after a gap. `ended` tells that a line end came before the cursor. -/
def read (html : Bool) (fuel : Nat) (ended : Bool) (at_ : Cursor) : Lexeme :=
  match Gap.skip html .between ended at_.offset at_.rest with
  | none => ⟨.bad, ended, at_, at_⟩
  | some (source, ended) =>
    let (kind, next) := kindAt fuel source
    ⟨kind, ended, source, next⟩

/-- The body of a regular expression literal up to the slash that ends it, and what follows the
slash; within brackets a slash ends nothing. -/
def regExpBody : Bool → List Char → List Char → Option (List Char × List Char)
  | _, _, [] => none
  | inClass, acc, '\\' :: c :: cs =>
    if isLineEnd c then none else regExpBody inClass (c :: '\\' :: acc) cs
  | inClass, acc, c :: cs =>
    if isLineEnd c then none
    else if c == '/' && !inClass then some (acc.reverse, cs)
    else if c == '[' then regExpBody true (c :: acc) cs
    else if c == ']' then regExpBody false (c :: acc) cs
    else regExpBody inClass (c :: acc) cs

/-- The regular expression literal at a cursor that stands on a slash: its body, its flags, and the
cursor after it. -/
def regExp (at_ : Cursor) : Option (List Char × List Char × Cursor) :=
  match at_.rest with
  | '/' :: cs =>
    match regExpBody false [] cs with
    | some (body, rest) =>
      let isFlag := fun c : Char => c.isAlphanum || c == '$' || c == '_'
      let flags := rest.takeWhile isFlag
      some (body, flags,
        ⟨rest.dropWhile isFlag, at_.offset + 2 + Text.byteLength body + flags.length⟩)
    | none => none
  | _ => none

/-- The part of a template that starts with the closing brace of a substitution. -/
def templateRest (t : Lexeme) : Lexeme :=
  match t.source.rest with
  | '}' :: cs =>
    match Quoted.template true 1 cs with
    | some (ends, valid, width, rest) =>
      { t with kind := .template ends valid, next := ⟨rest, t.source.offset + width⟩ }
    | none => { t with kind := .bad }
  | _ => { t with kind := .bad }

/-- The lexeme is this mark. -/
def isMark (t : Lexeme) (m : Mark) : Bool := t.kind == .mark m

/-- The lexeme is this word, written without escapes. -/
def isWord (t : Lexeme) (text : String) : Bool :=
  match t.kind with
  | .word w => !w.escaped && w.text == text
  | _ => false

/-- The word that the lexeme is. -/
def word? (t : Lexeme) : Option Word :=
  match t.kind with
  | .word w => some w
  | _ => none

end Lexeme
end EditionCheck.Script
