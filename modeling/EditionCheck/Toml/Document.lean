import EditionCheck.Toml.Quoted
import EditionCheck.Toml.Scalar

/-!
  TOML documents.

  A document is a list of statements, each on lines of its own: a header, which opens a table, or a
  key with its value, which goes to the table opened last. `statements?` reads them, `ofStatements?`
  follows them, and `read?` does both. Arrays and inline tables may be nested eighty deep.
-/

namespace EditionCheck.Toml

/-- A line of a document that says something. -/
inductive Statement where
  /-- A header for a table. -/
  | table (path : Key)
  /-- A header for a new element of a list of tables. -/
  | element (path : Key)
  | pair (key : Key) (value : Value)
  deriving Repr

/-! ## What statements build -/

/-- A document that is being built: its entries and the table that pairs go to. -/
structure Draft where
  opened : Key
  entries : Entries

/-- The draft after one more statement. -/
def Draft.follow (d : Draft) : Statement → Option Draft
  | .table path => (Entries.openTable path d.entries).map (⟨path, ·⟩)
  | .element path => (Entries.openElement path d.entries).map (⟨path, ·⟩)
  | .pair key v => (Entries.within (Entries.define v key) d.opened d.entries).map (⟨d.opened, ·⟩)

/-- The entries that statements build in order. -/
def ofStatements? (ss : List Statement) : Option Entries :=
  (ss.foldlM Draft.follow ⟨[], []⟩).map (·.entries)

/-! ## Reading keys -/

/-- A character of a key without quotes. -/
def isBare (c : Char) : Bool := c.isAlphanum || c == '_' || c == '-'

/-- One part of a key. -/
def keyPart? (cs : List Char) : Quoted.Reading :=
  match Quoted.onLine? cs with
  | some r => some r
  | none =>
    let bare := cs.takeWhile isBare
    if bare.isEmpty then none else some (bare, cs.drop bare.length)

/-- A key and what follows it. Blanks may stand around the dots and after the key. The first
argument bounds the number of parts. -/
def key? : Nat → List Char → Option (Key × List Char)
  | 0, _ => none
  | fuel + 1, cs => do
    let (part, rest) ← keyPart? (skipBlanks cs)
    match skipBlanks rest with
    | '.' :: rest' =>
      let (more, after) ← key? fuel rest'
      return (String.ofList part :: more, after)
    | after => return ([String.ofList part], after)

/-! ## Reading values -/

/-- How deep arrays and inline tables may be nested. -/
def maxDepth : Nat := 80

/-- The text from the next token on: blanks, line ends and comments do not count. A comment ends
with its line, and a control character ends the text that can be passed over. -/
def skipGaps : Bool → List Char → List Char
  | _, [] => []
  | _, '\n' :: cs => skipGaps false cs
  | _, '\r' :: '\n' :: cs => skipGaps false cs
  | true, c :: cs => if isPlain c then skipGaps true cs else c :: cs
  | false, '#' :: cs => skipGaps true cs
  | false, c :: cs => if isBlank c then skipGaps false cs else c :: cs

/-- The text after the equals sign of a pair. -/
def afterEquals? : List Char → Option (List Char)
  | '=' :: cs => some (skipBlanks cs)
  | _ => none

mutual

/-- The value that starts here, with `depth` more levels of nesting left. The first argument bounds
the nesting of calls. -/
def value? : Nat → Nat → List Char → Option (Value × List Char)
  | 0, _, _ => none
  | fuel + 1, depth, cs =>
    match cs, depth with
    | '[' :: rest, depth + 1 => (items? fuel depth rest).map fun p => (.array p.1, p.2)
    | '\x7b' :: rest, depth + 1 => do
      let (pairs, after) ← pairs? fuel depth rest
      return (.table .inline (← Entries.ofPairs pairs), after)
    | '[' :: _, 0 | '\x7b' :: _, 0 => none
    | _, _ =>
      match Quoted.read? cs with
      | some (s, rest) => some (.string (String.ofList s), rest)
      | none =>
        let (token, rest) := Scalar.take cs
        (Scalar.ofToken? token).map fun v => (v, rest)

/-- The items of an array up to its closing bracket. -/
def items? : Nat → Nat → List Char → Option (List Value × List Char)
  | 0, _, _ => none
  | fuel + 1, depth, cs =>
    match skipGaps false cs with
    | ']' :: rest => some ([], rest)
    | cs' => do
      let (v, rest) ← value? fuel depth cs'
      match skipGaps false rest with
      | ',' :: rest' =>
        let (vs, after) ← items? fuel depth rest'
        return (v :: vs, after)
      | ']' :: after => return ([v], after)
      | _ => none

/-- The pairs of an inline table up to its closing brace. -/
def pairs? : Nat → Nat → List Char → Option (List (Key × Value) × List Char)
  | 0, _, _ => none
  | fuel + 1, depth, cs =>
    match skipGaps false cs with
    | '\x7d' :: rest => some ([], rest)
    | cs' => do
      let (k, rest) ← key? (cs'.length + 1) cs'
      let (v, rest) ← value? fuel depth (← afterEquals? rest)
      match skipGaps false rest with
      | ',' :: rest' =>
        let (ps, after) ← pairs? fuel depth rest'
        return ((k, v) :: ps, after)
      | '\x7d' :: after => return ([(k, v)], after)
      | _ => none

end

/-! ## Reading statements -/

/-- What follows the end of a line, before which blanks and a comment may stand. -/
def endLine? (cs : List Char) : Option (List Char) :=
  let rest := match skipBlanks cs with
    | '#' :: comment => comment.dropWhile isPlain
    | rest => rest
  if rest.isEmpty then some [] else lineEnd? rest

/-- What follows the closing bracket of a header. -/
def afterBracket? : List Char → Option (List Char)
  | ']' :: cs => some cs
  | _ => none

/-- The statement on the line that starts here, if there is one, and what follows it on the line. -/
def statement? (cs : List Char) : Option (Option Statement × List Char) :=
  match skipBlanks cs with
  | [] => some (none, [])
  | '[' :: '[' :: rest => do
    let (path, rest) ← key? (rest.length + 1) rest
    return (some (.element path), ← afterBracket? (← afterBracket? rest))
  | '[' :: rest => do
    let (path, rest) ← key? (rest.length + 1) rest
    return (some (.table path), ← afterBracket? rest)
  | c :: rest =>
    if c == '#' || (lineEnd? (c :: rest)).isSome then some (none, c :: rest)
    else do
      let (k, after) ← key? (rest.length + 2) (c :: rest)
      let (v, after) ← value? (rest.length + 2) maxDepth (← afterEquals? after)
      return (some (.pair k v), after)

/-- The statements of a text. The first argument bounds the number of lines. -/
def statements? : Nat → List Char → Option (List Statement)
  | 0, _ => none
  | fuel + 1, cs => do
    let (s, rest) ← statement? cs
    let rest ← endLine? rest
    if rest.isEmpty then return s.toList
    else return s.toList ++ (← statements? fuel rest)

/-- The entries of the document that a text writes; a byte order mark in front does not count. -/
def read? (text : String) : Option Entries :=
  let cs := match text.toList with
    | '\uFEFF' :: cs => cs
    | cs => cs
  (statements? (cs.length + 1) cs).bind ofStatements?

end EditionCheck.Toml
