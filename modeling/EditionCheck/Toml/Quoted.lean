import EditionCheck.Text.Digit

/-!
  Quoted TOML strings.

  Basic strings stand in double quotes and know escapes, literal strings stand in single quotes and
  know none; three quotes open a string that may run over lines. Each reader starts after the
  opening quotes and gives the characters and what follows the closing ones.
-/

namespace EditionCheck.Toml

/-- A character that may stand on a line of text: any but the controls, the tab excepted. -/
def isPlain (c : Char) : Bool := c == '\t' || (0x20 ≤ c.toNat && c.toNat != 0x7F)

/-- A blank within a line. -/
def isBlank (c : Char) : Bool := c == ' ' || c == '\t'

/-- The text from the first character that is no blank. -/
def skipBlanks (cs : List Char) : List Char := cs.dropWhile isBlank

/-- What follows the end of a line. -/
def lineEnd? : List Char → Option (List Char)
  | '\n' :: cs => some cs
  | '\r' :: '\n' :: cs => some cs
  | _ => none

namespace Quoted

/-- A string and what follows it. -/
abbrev Reading := Option (List Char × List Char)

/-- The reading with a character in front. -/
def consTo (c : Char) (r : Reading) : Reading := r.map fun p => (c :: p.1, p.2)

/-- The character of a code point in hexadecimal digits, and what follows. -/
def codePoint? (width : Nat) (cs : List Char) : Option (Char × List Char) := do
  let digits := cs.take width
  if digits.length < width then none
  return (← Text.charOf? (← Text.hexNumber? digits), cs.drop width)

/-- The character that an escape stands for, from after the backslash on. -/
def escape? : List Char → Option (Char × List Char)
  | '"' :: cs => some ('"', cs)
  | '\\' :: cs => some ('\\', cs)
  | 'b' :: cs => some ('\x08', cs)
  | 'e' :: cs => some ('\x1b', cs)
  | 'f' :: cs => some ('\x0c', cs)
  | 'n' :: cs => some ('\n', cs)
  | 'r' :: cs => some ('\r', cs)
  | 't' :: cs => some ('\t', cs)
  | 'x' :: cs => codePoint? 2 cs
  | 'u' :: cs => codePoint? 4 cs
  | 'U' :: cs => codePoint? 8 cs
  | _ => none

/-- A basic string. The first argument bounds its length. -/
def basic : Nat → List Char → Reading
  | 0, _ | _, [] => none
  | fuel + 1, c :: cs =>
    if c == '"' then some ([], cs)
    else if c == '\\' then (escape? cs).bind fun e => consTo e.1 (basic fuel e.2)
    else if isPlain c then consTo c (basic fuel cs)
    else none

/-- A literal string. -/
def literal : List Char → Reading
  | [] => none
  | c :: cs =>
    if c == '\'' then some ([], cs) else if isPlain c then consTo c (literal cs) else none

/-- A line end right after the opening quotes does not count. -/
def dropFirstLineEnd (cs : List Char) : List Char := (lineEnd? cs).getD cs

/-- Three closing quotes come next; up to two more of them belong to the string. -/
def closing? (quote : Char) (cs : List Char) : Reading :=
  match cs with
  | a :: b :: c :: rest =>
    if a == quote && b == quote && c == quote then
      let extra := (rest.take 2).takeWhile (· == quote)
      some (extra, rest.drop extra.length)
    else none
  | _ => none

/-- The text from the first character that is neither blank nor line end. -/
def skipLines : List Char → List Char
  | ' ' :: cs | '\t' :: cs | '\n' :: cs => skipLines cs
  | '\r' :: '\n' :: cs => skipLines cs
  | cs => cs

/-- A basic string over lines. A backslash at the end of a line takes away all blanks and line ends
after it. The first argument bounds the length. -/
def basicLines : Nat → List Char → Reading
  | 0, _ | _, [] => none
  | fuel + 1, c :: cs =>
    match closing? '"' (c :: cs) with
    | some done => some done
    | none =>
      if c == '\\' then
        match lineEnd? (skipBlanks cs) with
        | some rest => basicLines fuel (skipLines rest)
        | none => (escape? cs).bind fun e => consTo e.1 (basicLines fuel e.2)
      else
        match lineEnd? (c :: cs) with
        | some rest =>
          (basicLines fuel rest).map fun p =>
            (if c == '\r' then '\r' :: '\n' :: p.1 else '\n' :: p.1, p.2)
        | none => if isPlain c then consTo c (basicLines fuel cs) else none

/-- A literal string over lines. The first argument bounds the length. -/
def literalLines : Nat → List Char → Reading
  | 0, _ | _, [] => none
  | fuel + 1, c :: cs =>
    match closing? '\'' (c :: cs) with
    | some done => some done
    | none =>
      match lineEnd? (c :: cs) with
      | some rest =>
        (literalLines fuel rest).map fun p =>
          (if c == '\r' then '\r' :: '\n' :: p.1 else '\n' :: p.1, p.2)
      | none => if isPlain c then consTo c (literalLines fuel cs) else none

/-- A string on one line, from its opening quote on. -/
def onLine? : List Char → Reading
  | '"' :: cs => basic (cs.length + 1) cs
  | '\'' :: cs => literal cs
  | _ => none

/-- A string, from its opening quotes on. -/
def read? : List Char → Reading
  | '"' :: '"' :: '"' :: cs => basicLines (cs.length + 1) (dropFirstLineEnd cs)
  | '\'' :: '\'' :: '\'' :: cs => literalLines (cs.length + 1) (dropFirstLineEnd cs)
  | cs => onLine? cs

end Quoted
end EditionCheck.Toml
