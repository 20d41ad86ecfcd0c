import EditionCheck.Text.Place

/-!
  What stands between lexemes: blanks, line ends and comments.

  `Gap.skip` passes over the longest gap. It also says whether the gap holds a line end, which
  decides where a statement may end without a semicolon. In classic scripts `<!--` opens a comment
  to the end of the line, and so does `-->` at the start of a line.
-/

namespace EditionCheck.Script

/-- A place in the text: what follows and the byte offset. -/
structure Cursor where
  rest : List Char
  offset : Nat
  deriving DecidableEq, Repr

namespace Cursor

/-- Past `width` characters of one byte each. -/
def advance (at_ : Cursor) (width : Nat) : Cursor :=
  ⟨at_.rest.drop width, at_.offset + width⟩

end Cursor

/-- Line feed, carriage return, line separator, paragraph separator. -/
def isLineEnd (c : Char) : Bool :=
  c == '\n' || c == '\r' || c == '\u2028' || c == '\u2029'

/-- Characters that separate lexemes without ending a line. -/
def isSpace (c : Char) : Bool :=
  c == ' ' || c == '\t' || c == '\x0b' || c == '\x0c' || c == '\xa0' || c == '\x85' ||
    c == '\ufeff' || c == '\u1680' || ('\u2000' ≤ c && c ≤ '\u200b') || c == '\u202f' ||
    c == '\u205f' || c == '\u3000'

namespace Gap

/-- Between lexemes, in a comment to the end of the line, in a block comment. -/
inductive Mode where
  | between | line | block
  deriving DecidableEq, Repr

/-- Where the gap ends and whether it holds a line end; `none` if a block comment stays open.
`html` admits the comment marks of classic scripts; `ended` tells that a line end came before. -/
def skip (html : Bool) : Mode → Bool → Nat → List Char → Option (Cursor × Bool)
  | .block, _, _, [] => none
  | _, ended, offset, [] => some (⟨[], offset⟩, ended)
  | .block, ended, offset, '*' :: '/' :: cs => skip html .between ended (offset + 2) cs
  | .block, ended, offset, c :: cs =>
    skip html .block (ended || isLineEnd c) (offset + c.utf8Size) cs
  | .line, ended, offset, c :: cs =>
    if isLineEnd c then skip html .between true (offset + c.utf8Size) cs
    else skip html .line ended (offset + c.utf8Size) cs
  | .between, ended, offset, '/' :: '/' :: cs => skip html .line ended (offset + 2) cs
  | .between, ended, offset, '/' :: '*' :: cs => skip html .block ended (offset + 2) cs
  | .between, ended, offset, c :: cs =>
    if isLineEnd c then skip html .between true (offset + c.utf8Size) cs
    else if isSpace c then skip html .between ended (offset + c.utf8Size) cs
    else if html && (c :: cs).take 4 == ['<', '!', '-', '-'] then
      skip html .line ended (offset + 1) cs
    else if html && ended && (c :: cs).take 3 == ['-', '-', '>'] then
      skip html .line ended (offset + 1) cs
    else some (⟨c :: cs, offset⟩, ended)

end Gap
end EditionCheck.Script
