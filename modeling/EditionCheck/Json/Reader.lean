import EditionCheck.Json.Numeral
import EditionCheck.Text.Digit

/-!
  Reading JSON text.

  `read` takes a text to its value or to the first fault. A `Shape` says how much of the text
  matters: what lies outside it has to be well-formed, but may nest to any depth and hold numbers
  too large for a double and unpaired surrogates. Inside it, 127 arrays and objects may be open at
  a time. Objects keep repeated keys.
-/

namespace EditionCheck.Json

/-- How much of a value matters to whoever reads it. -/
inductive Shape where
  /-- All of it. -/
  | whole
  /-- Nothing: it is passed over. -/
  | skimmed
  /-- A list of values of one shape. -/
  | each (item : Shape)
  /-- The named members, which may also be given as a list in this order. -/
  | record (fields : List (String × Shape))
  deriving Repr

namespace Shape

/-- A record all of whose fields matter as a whole. -/
def flat (fields : List String) : Shape := record (fields.map fun k => (k, whole))

/-- The value is passed over. -/
def isSkimmed : Shape → Bool
  | skimmed => true
  | _ => false

/-- The shape of the item at an index. -/
def item (s : Shape) (i : Nat) : Shape :=
  match s with
  | whole => whole
  | skimmed => skimmed
  | each t => t
  | record fields => ((fields[i]?).map (·.2)).getD skimmed

/-- The shape of the member with a key. -/
def member (s : Shape) (key : List Char) : Shape :=
  match s with
  | whole => whole
  | skimmed => skimmed
  | each _ => whole
  | record fields => ((fields.find? fun f => f.1.toList == key).map (·.2)).getD skimmed

end Shape

/-- Blanks between tokens. -/
def isBlank (c : Char) : Bool := c == ' ' || c == '\n' || c == '\t' || c == '\r'

/-- The text from the next token on. -/
def skipBlanks (cs : List Char) : List Char := cs.dropWhile isBlank

/-- The rest of a word whose first letter has been seen. -/
def word : List Char → List Char → Except Halt (List Char)
  | [], cs => .ok cs
  | _ :: _, [] => .error ⟨.endInValue, [], 0⟩
  | w :: ws, c :: cs => if c == w then word ws cs else .error ⟨.expectedWord, c :: cs, 1⟩

/-! ## Strings -/

/-- Four hexadecimal digits and what follows them. -/
def codeUnit (cs : List Char) : Except Halt (Nat × List Char) :=
  match cs with
  | a :: b :: c :: d :: rest =>
    match Text.hexNumber? [a, b, c, d] with
    | some n => .ok (n, rest)
    | none => .error ⟨.badEscape, cs, 4⟩
  | _ =>
    if Text.byteLength cs < 4 then .error ⟨.endInString, [], 0⟩ else .error ⟨.badEscape, cs, 4⟩

/-- The first half of a surrogate pair. -/
def isHigh (n : Nat) : Bool := 0xD800 ≤ n && n ≤ 0xDBFF

/-- The second half of a surrogate pair. -/
def isLow (n : Nat) : Bool := 0xDC00 ≤ n && n ≤ 0xDFFF

/-- The second half of a surrogate pair whose first half is `high`, and the character they make. -/
def pairWith (high : Nat) (cs : List Char) : Except Halt (Char × List Char) :=
  match cs with
  | [] => .error ⟨.endInString, [], 0⟩
  | '\\' :: [] => .error ⟨.endInString, [], 0⟩
  | '\\' :: 'u' :: rest =>
    match codeUnit rest with
    | .error h => .error h
    | .ok (low, rest') =>
      if isLow low then
        .ok (Char.ofNat (0x10000 + (high - 0xD800) * 0x400 + (low - 0xDC00)), rest')
      else .error ⟨.loneSurrogate, rest', 0⟩
  | '\\' :: rest => .error ⟨.unpairedHigh, rest, 1⟩
  | _ => .error ⟨.unpairedHigh, cs, 1⟩

/-- The character that a `\u` escape stands for. A text that is passed over need not pair its
surrogates. -/
def unicodeEscape (skim : Bool) (cs : List Char) : Except Halt (Char × List Char) :=
  match codeUnit cs with
  | .error h => .error h
  | .ok (n, rest) =>
    if skim then .ok (Char.ofNat n, rest)
    else if isLow n then .error ⟨.loneSurrogate, rest, 0⟩
    else if isHigh n then pairWith n rest
    else .ok (Char.ofNat n, rest)

/-- The character that an escape stands for, from the letter after the backslash on. -/
def escapeSequence (skim : Bool) : List Char → Except Halt (Char × List Char)
  | [] => .error ⟨.endInString, [], 0⟩
  | '"' :: cs => .ok ('"', cs)
  | '\\' :: cs => .ok ('\\', cs)
  | '/' :: cs => .ok ('/', cs)
  | 'b' :: cs => .ok ('\x08', cs)
  | 'f' :: cs => .ok ('\x0c', cs)
  | 'n' :: cs => .ok ('\n', cs)
  | 'r' :: cs => .ok ('\r', cs)
  | 't' :: cs => .ok ('\t', cs)
  | 'u' :: cs => unicodeEscape skim cs
  | cs => .error ⟨.badEscape, cs, 1⟩

/-- The characters of a string up to its closing quote, and what follows. -/
def stringBody (skim : Bool) : Nat → List Char → Except Halt (List Char × List Char)
  | 0, _ => .error ⟨.endInString, [], 0⟩
  | _ + 1, [] => .error ⟨.endInString, [], 0⟩
  | fuel + 1, c :: cs =>
    if c == '"' then .ok ([], cs)
    else if c == '\\' then
      match escapeSequence skim cs with
      | .error h => .error h
      | .ok (d, rest) =>
        match stringBody skim fuel rest with
        | .error h => .error h
        | .ok (ds, after) => .ok (d :: ds, after)
    else if c.toNat < 32 then .error ⟨.controlCharacter, c :: cs, 1⟩
    else
      match stringBody skim fuel cs with
      | .error h => .error h
      | .ok (ds, after) => .ok (c :: ds, after)

/-- The string whose opening quote has been seen. -/
def string (skim : Bool) (cs : List Char) : Except Halt (List Char × List Char) :=
  stringBody skim (cs.length + 1) cs

/-! ## Values -/

/-- A number that follows its sign; one that is passed over may be too large. -/
def number (skim negative : Bool) (cs : List Char) : Except Halt (Value × List Char) :=
  match numeral negative cs with
  | .error h => .error h
  | .ok n =>
    match n.value with
    | .ok x => .ok (.number x, n.rest)
    | .error h => if skim then .ok (.null, n.rest) else .error h

/-- How many arrays and objects may be open, and one more. -/
def maxDepth : Nat := 128

/-- The depth left inside an array or object that opens at `cs`. -/
def deeper (shape : Shape) (depth : Nat) (cs : List Char) : Except Halt Nat :=
  if shape.isSkimmed then .ok depth
  else if depth ≤ 1 then .error ⟨.tooDeep, cs, 1⟩
  else .ok (depth - 1)

/-- The text at the next item, or nothing when the list ends; `first` when none has been read. -/
def nextItem (first : Bool) (cs : List Char) : Except Halt (Option (List Char) × List Char) :=
  match first, skipBlanks cs with
  | _, [] => .error ⟨.endInList, [], 0⟩
  | _, ']' :: rest => .ok (none, rest)
  | true, cs' => .ok (some cs', cs')
  | false, ',' :: rest =>
    match skipBlanks rest with
    | [] => .error ⟨.endInValue, [], 0⟩
    | ']' :: rest' => .error ⟨.trailingComma, ']' :: rest', 1⟩
    | cs' => .ok (some cs', cs')
  | false, cs' => .error ⟨.expectedItemEnd, cs', 1⟩

/-- The text after the opening quote of the next key, or nothing when the object ends. -/
def nextKey (first : Bool) (cs : List Char) : Except Halt (Option (List Char) × List Char) :=
  match first, skipBlanks cs with
  | _, [] => .error ⟨.endInObject, [], 0⟩
  | _, '\x7d' :: rest => .ok (none, rest)
  | true, '"' :: rest => .ok (some rest, rest)
  | true, cs' => .error ⟨.keyNotString, cs', 1⟩
  | false, ',' :: rest =>
    match skipBlanks rest with
    | [] => .error ⟨.endInValue, [], 0⟩
    | '"' :: rest' => .ok (some rest', rest')
    | '\x7d' :: rest' => .error ⟨.trailingComma, '\x7d' :: rest', 1⟩
    | cs' => .error ⟨.keyNotString, cs', 1⟩
  | false, cs' => .error ⟨.expectedMemberEnd, cs', 1⟩

/-- The text after the colon between a key and its value. -/
def afterColon (cs : List Char) : Except Halt (List Char) :=
  match skipBlanks cs with
  | [] => .error ⟨.endInObject, [], 0⟩
  | ':' :: rest => .ok rest
  | cs' => .error ⟨.expectedColon, cs', 1⟩

mutual

/-- The value that starts after any blanks. The first argument bounds the nesting of calls. -/
def value : Nat → Shape → Nat → List Char → Except Halt (Value × List Char)
  | 0, _, _, cs => .error ⟨.tooDeep, cs, 1⟩
  | fuel + 1, shape, depth, cs => do
    match skipBlanks cs with
    | [] => .error ⟨.endInValue, [], 0⟩
    | 'n' :: rest => return (.null, ← word ['u', 'l', 'l'] rest)
    | 't' :: rest => return (.bool true, ← word ['r', 'u', 'e'] rest)
    | 'f' :: rest => return (.bool false, ← word ['a', 'l', 's', 'e'] rest)
    | '-' :: rest => number shape.isSkimmed true rest
    | '"' :: rest =>
      let (s, rest') ← string shape.isSkimmed rest
      return (.string (String.ofList s), rest')
    | '[' :: rest =>
      let (vs, rest') ← items fuel shape (← deeper shape depth ('[' :: rest)) 0 rest
      return (.array vs, rest')
    | '\x7b' :: rest =>
      let (ms, rest') ← members fuel shape (← deeper shape depth ('\x7b' :: rest)) true rest
      return (.object ms, rest')
    | c :: rest =>
      if c.isDigit then number shape.isSkimmed false (c :: rest)
      else .error ⟨.expectedValue, c :: rest, 1⟩

/-- The items from index `i` on, up to the closing bracket. -/
def items : Nat → Shape → Nat → Nat → List Char → Except Halt (List Value × List Char)
  | 0, _, _, _, cs => .error ⟨.tooDeep, cs, 1⟩
  | fuel + 1, shape, depth, i, cs => do
    match ← nextItem (i == 0) cs with
    | (none, rest) => return ([], rest)
    | (some rest, _) =>
      let (v, rest') ← value fuel (shape.item i) depth rest
      let (vs, after) ← items fuel shape depth (i + 1) rest'
      return (v :: vs, after)

/-- The members up to the closing brace. -/
def members : Nat → Shape → Nat → Bool → List Char →
    Except Halt (List (String × Value) × List Char)
  | 0, _, _, _, cs => .error ⟨.tooDeep, cs, 1⟩
  | fuel + 1, shape, depth, first, cs => do
    match ← nextKey first cs with
    | (none, rest) => return ([], rest)
    | (some rest, _) =>
      let (k, rest') ← string shape.isSkimmed rest
      let (v, rest'') ← value fuel (shape.member k) depth (← afterColon rest')
      let (ms, after) ← members fuel shape depth false rest''
      return ((String.ofList k, v) :: ms, after)

end

/-- The value of a whole text, with nothing but blanks around it. -/
def readChars (shape : Shape) (cs : List Char) : Except Halt Value := do
  let (v, rest) ← value (cs.length + 1) shape maxDepth cs
  match skipBlanks rest with
  | [] => return v
  | rest' => .error ⟨.trailingText, rest', 1⟩

/-- The value of a text, as far as `shape` asks for it. -/
def read (text : String) (shape : Shape) : Except Fault Value :=
  match readChars shape text.toList with
  | .ok v => .ok v
  | .error h => .error (h.fault text.toList)

/-- The value of a text, with repeated keys settled. -/
def parse (text : String) : Except Fault Value :=
  match read text .whole with
  | .ok v => .ok v.settle
  | .error e => .error e

end EditionCheck.Json
