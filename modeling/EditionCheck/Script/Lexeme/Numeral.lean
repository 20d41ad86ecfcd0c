import EditionCheck.Script.Lexeme.Word

/-!
  Numeric literals.

  `Numeral.read` takes the literal at a list of characters and says whether it is a big integer. A
  separator `_` stands between two digits only, never in a legacy octal literal, and no name
  character or digit may follow a literal.
-/

namespace EditionCheck.Script.Numeral

/-- Digits with single separators between them: how many characters and what follows. The first
character must be a digit. -/
def digits (isDigit : Char → Bool) : List Char → Option (Nat × List Char)
  | [] => none
  | c :: cs => if isDigit c then some (more 1 cs) else none
where
  /-- Further digits, each after at most one separator; a separator elsewhere is left over. -/
  more (n : Nat) : List Char → Nat × List Char
    | '_' :: c :: cs => if isDigit c then more (n + 2) cs else (n, '_' :: c :: cs)
    | c :: cs => if isDigit c then more (n + 1) cs else (n, c :: cs)
    | [] => (n, [])

/-- Digits if there are any. -/
def digits? (cs : List Char) : Nat × List Char :=
  (digits Char.isDigit cs).getD (0, cs)

/-- An exponent if the literal goes on with one. -/
def exponent : List Char → Option (Nat × List Char)
  | c :: cs =>
    if c == 'e' || c == 'E' then
      match cs with
      | '+' :: rest | '-' :: rest => (digits Char.isDigit rest).map fun p => (p.1 + 2, p.2)
      | rest => (digits Char.isDigit rest).map fun p => (p.1 + 1, p.2)
    else some (0, c :: cs)
  | [] => some (0, [])

/-- A fraction if there is one, then an exponent if there is one. -/
def fraction : List Char → Option (Nat × List Char)
  | '.' :: cs =>
    let (n, rest) := digits? cs
    (exponent rest).map fun p => (n + 1 + p.1, p.2)
  | cs => exponent cs

/-- The literal is over: what follows neither continues it nor starts a name. -/
def closed (big : Bool) (width : Nat) (rest : List Char) : Option (Bool × Nat × List Char) :=
  match rest with
  | [] => some (big, width, rest)
  | c :: _ =>
    if Word.opens c || c.isDigit || c == '_' then none else some (big, width, rest)

/-- An integer with a radix mark, after the mark. -/
def radix (isDigit : Char → Bool) (cs : List Char) : Option (Bool × Nat × List Char) :=
  match digits isDigit cs with
  | some (n, 'n' :: rest) => closed true (n + 3) rest
  | some (n, rest) => closed false (n + 2) rest
  | none => none

/-- A literal that starts with `0` and another digit: octal, or decimal if an `8` or `9` occurs. -/
def legacy (cs : List Char) : Option (Bool × Nat × List Char) :=
  let ds := cs.takeWhile Char.isDigit
  let rest := cs.dropWhile Char.isDigit
  if ds.any (· ≥ '8') then
    (fraction rest).bind fun p => closed false (ds.length + p.1) p.2
  else closed false ds.length rest

/-- The literal: whether it is a big integer, its number of characters, and what follows. -/
def read : List Char → Option (Bool × Nat × List Char)
  | '0' :: 'x' :: cs | '0' :: 'X' :: cs => radix Text.isHexDigit cs
  | '0' :: 'o' :: cs | '0' :: 'O' :: cs => radix (fun c => '0' ≤ c && c ≤ '7') cs
  | '0' :: 'b' :: cs | '0' :: 'B' :: cs => radix (fun c => c == '0' || c == '1') cs
  | '0' :: 'n' :: cs => closed true 2 cs
  | '0' :: d :: cs =>
    if d.isDigit then legacy ('0' :: d :: cs)
    else (fraction (d :: cs)).bind fun p => closed false (1 + p.1) p.2
  | '.' :: cs => do
    let (n, rest) ← digits Char.isDigit cs
    let (m, rest) ← exponent rest
    closed false (1 + n + m) rest
  | cs => do
    let (n, rest) ← digits Char.isDigit cs
    match rest with
    | 'n' :: rest => closed true (n + 1) rest
    | rest =>
      let (m, rest) ← fraction rest
      closed false (n + m) rest

end EditionCheck.Script.Numeral
