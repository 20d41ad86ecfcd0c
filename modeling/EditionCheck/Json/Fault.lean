import EditionCheck.Text.Place

/-!
  What can be wrong with a JSON text, and where.

  A reader stops with a `Halt`: the cause, the text it had not consumed, and how many bytes of that
  text belong to the offending place. `Halt.fault` turns it into a line and a column of the whole
  text, the column counting bytes.
-/

namespace EditionCheck.Json

/-- Why a text is no JSON. -/
inductive Cause where
  | endInValue | endInObject | endInList | endInString
  | expectedValue | expectedWord | expectedColon | expectedMemberEnd | expectedItemEnd
  | trailingComma | trailingText | keyNotString
  | badNumber | numberRange
  | badEscape | unpairedHigh | loneSurrogate | controlCharacter
  | tooDeep
  deriving DecidableEq, Repr

/-- The wording of a cause. -/
def Cause.text : Cause → String
  | endInValue => "EOF while parsing a value"
  | endInObject => "EOF while parsing an object"
  | endInList => "EOF while parsing a list"
  | endInString => "EOF while parsing a string"
  | expectedValue => "expected value"
  | expectedWord => "expected ident"
  | expectedColon => "expected \x60:\x60"
  | expectedMemberEnd => "expected \x60,\x60 or \x60\x7d\x60"
  | expectedItemEnd => "expected \x60,\x60 or \x60]\x60"
  | trailingComma => "trailing comma"
  | trailingText => "trailing characters"
  | keyNotString => "key must be a string"
  | badNumber => "invalid number"
  | numberRange => "number out of range"
  | badEscape => "invalid escape"
  | unpairedHigh => "unexpected end of hex escape"
  | loneSurrogate => "lone leading surrogate in hex escape"
  | controlCharacter => "control character (\\u0000-\\u001F) found while parsing a string"
  | tooDeep => "recursion limit exceeded"

/-- Where a reader stopped: before `rest`, of which the first `beyond` bytes are to blame. -/
structure Halt where
  cause : Cause
  rest : List Char
  beyond : Nat
  deriving DecidableEq, Repr

/-- A cause with its place in the text. -/
structure Fault where
  cause : Cause
  line : Nat
  column : Nat
  deriving DecidableEq, Repr

/-- The wording of a fault. -/
def Fault.message (e : Fault) : String :=
  e.cause.text ++ " at line " ++ toString e.line ++ " column " ++ toString e.column

/-- The byte offset in `text` just after the offending place. -/
def Halt.offset (h : Halt) (text : List Char) : Nat :=
  let size := Text.byteLength text
  min size (size - Text.byteLength h.rest + h.beyond)

/-- The fault in `text` at which a reader stopped. -/
def Halt.fault (h : Halt) (text : List Char) : Fault :=
  let place := Text.bytePlace text (h.offset text)
  ⟨h.cause, place.1, place.2⟩

end EditionCheck.Json
