import EditionCheck.Script.Lexeme.Gap
import EditionCheck.Text.Digit
import EditionCheck.Text.Name

/-!
  Words: identifiers and keywords, with their escapes.

  `Word.read` takes the longest word at a cursor. A character may be written as `\uXXXX` or
  `\u{...}` when the character it stands for could stand there itself.
-/

namespace EditionCheck.Script

open Text (isHexDigit hexNumber? charOf?)

/-- What follows the `\u` of an escape: the code point, how many characters write it, and the rest.
Either four digits or digits in braces up to `10FFFF`. -/
def codePointEscape? : List Char → Option (Nat × Nat × List Char)
  | '{' :: cs =>
    let digits := cs.takeWhile isHexDigit
    match digits, cs.dropWhile isHexDigit, hexNumber? digits with
    | _ :: _, '}' :: rest, some n =>
      if n ≤ 0x10FFFF then some (n, digits.length + 2, rest) else none
    | _, _, _ => none
  | a :: b :: c :: d :: rest => (hexNumber? [a, b, c, d]).map fun n => (n, 4, rest)
  | _ => none

/-- A word as written: its characters after escapes are replaced, and whether any was. -/
structure Word where
  text : String
  escaped : Bool
  deriving DecidableEq, Repr

namespace Word

/-- The characters of a word one by one. `fuel` bounds their number, `acc` holds those read so
far in reverse. An escape that stands for no name character makes the word ill-formed. -/
def scan : Nat → List Char → Bool → Cursor → Option (Word × Cursor)
  | 0, _, _, _ => none
  | fuel + 1, acc, escaped, at_ =>
    match at_.rest with
    | '\\' :: 'u' :: cs =>
      match codePointEscape? cs with
      | some (n, width, rest) =>
        match charOf? n with
        | some c =>
          if (if acc.isEmpty then Text.isNameStart c else Text.isNamePart c) then
            scan fuel (c :: acc) true ⟨rest, at_.offset + 2 + width⟩
          else none
        | none => none
      | none => none
    | '\\' :: _ => none
    | c :: cs =>
      if (if acc.isEmpty then Text.isNameStart c else Text.isNamePart c) then
        scan fuel (c :: acc) escaped ⟨cs, at_.offset + c.utf8Size⟩
      else finish acc escaped at_
    | [] => finish acc escaped at_
where
  /-- A word has at least one character. -/
  finish (acc : List Char) (escaped : Bool) (at_ : Cursor) : Option (Word × Cursor) :=
    if acc.isEmpty then none else some (⟨String.ofList acc.reverse, escaped⟩, at_)

/-- The word at a cursor. -/
def read (fuel : Nat) (at_ : Cursor) : Option (Word × Cursor) := scan fuel [] false at_

/-- A word could start with this character. -/
def opens (c : Char) : Bool := Text.isNameStart c || c == '\\'

end Word

/-- Words that never name anything. -/
def reservedWords : List String :=
  ["break", "case", "catch", "class", "const", "continue", "debugger", "default", "delete", "do",
    "else", "enum", "export", "extends", "false", "finally", "for", "function", "if", "import",
    "in", "instanceof", "new", "null", "return", "super", "switch", "this", "throw", "true", "try",
    "typeof", "var", "void", "while", "with"]

/-- Words that strict code reserves as well. -/
def strictWords : List String :=
  ["await", "implements", "interface", "let", "package", "private", "protected", "public",
    "static", "yield"]

/-- The word is reserved everywhere. -/
def isReserved (word : String) : Bool := reservedWords.contains word

end EditionCheck.Script
