import EditionCheck.Decimal.Shortest
import EditionCheck.Json.Value

/-!
  JSON text of a value, in one line (`compact`) or indented by two spaces (`pretty`).

  Strings escape the quote, the backslash and the control characters. A double is written with the
  fewest digits that read back, positionally when its leading digit stands between the fifth decimal
  place and the sixteenth digit before the point, and always with a point or an exponent.
-/

namespace EditionCheck.Json

/-- A hexadecimal digit in lower case. -/
def hexDigit (n : Nat) : Char := if n < 10 then Char.ofNat (48 + n) else Char.ofNat (87 + n)

/-- The written form of one character of a string. -/
def escape (c : Char) : List Char :=
  if c == '"' then ['\\', '"']
  else if c == '\\' then ['\\', '\\']
  else if c == '\n' then ['\\', 'n']
  else if c == '\r' then ['\\', 'r']
  else if c == '\t' then ['\\', 't']
  else if c == '\x08' then ['\\', 'b']
  else if c == '\x0c' then ['\\', 'f']
  else if c.toNat < 32 then
    ['\\', 'u', '0', '0', hexDigit (c.toNat / 16), hexDigit (c.toNat % 16)]
  else [c]

/-- The characters of a string between their quotes. -/
def escaped : List Char → List Char
  | [] => []
  | c :: cs => escape c ++ escaped cs

/-- A string in quotes. -/
def quote (cs : List Char) : List Char := '"' :: (escaped cs ++ ['"'])

/-- Lowest and highest decimal exponent of the leading digit of a number written positionally. -/
def positional : Int × Int := (-5, 15)

/-- The text of the positive number `d`, or of zero. -/
def magnitudeText (d : Decimal.Scaled) : List Char :=
  let digits := Nat.toDigits 10 d.digits
  let count : Nat := digits.length
  let point : Int := count + d.scale
  let leading := point - 1
  if d.digits == 0 then ['0', '.', '0']
  else if positional.1 ≤ leading && leading ≤ positional.2 then
    if 0 ≤ d.scale then digits ++ List.replicate d.scale.toNat '0' ++ ['.', '0']
    else if 0 < point then digits.take point.toNat ++ '.' :: digits.drop point.toNat
    else '0' :: '.' :: (List.replicate (-point).toNat '0' ++ digits)
  else
    let mantissa := match digits with
      | [c] => [c]
      | c :: cs => c :: '.' :: cs
      | [] => []
    let sign := if leading < 0 then '-' else '+'
    mantissa ++ 'e' :: sign :: Nat.toDigits 10 leading.natAbs

/-- The text of a number. -/
def Number.text : Number → List Char
  | .integer n => if n < 0 then '-' :: Nat.toDigits 10 n.natAbs else Nat.toDigits 10 n.natAbs
  | .real x =>
    let digits := magnitudeText (Decimal.ofDouble x)
    if Decimal.isNegative x then '-' :: digits else digits

/-- The text of a value that holds no other values. -/
def scalar : Value → List Char
  | .null => ['n', 'u', 'l', 'l']
  | .bool true => ['t', 'r', 'u', 'e']
  | .bool false => ['f', 'a', 'l', 's', 'e']
  | .number n => n.text
  | .string s => quote s.toList
  | .array _ => ['[', ']']
  | .object _ => ['{', '}']

mutual

/-- The text of a value without any blanks. -/
def Value.compact : Value → List Char
  | .array (v :: rest) => '[' :: (v.compact ++ compactItems rest)
  | .object ((k, v) :: rest) =>
    '{' :: (quote k.toList ++ ':' :: (v.compact ++ compactMembers rest))
  | v => scalar v

/-- The items after the first, and the closing bracket. -/
def compactItems : List Value → List Char
  | [] => [']']
  | v :: rest => ',' :: (v.compact ++ compactItems rest)

/-- The members after the first, and the closing brace. -/
def compactMembers : List (String × Value) → List Char
  | [] => ['}']
  | (k, v) :: rest => ',' :: (quote k.toList ++ ':' :: (v.compact ++ compactMembers rest))

end

/-- A new line at depth `n`. -/
def newLine (n : Nat) : List Char := '\n' :: List.replicate (2 * n) ' '

mutual

/-- The text of a value at depth `n`, one item or member on a line. -/
def Value.prettyAt (n : Nat) : Value → List Char
  | .array (v :: rest) => '[' :: (newLine (n + 1) ++ (v.prettyAt (n + 1) ++ prettyItems n rest))
  | .object ((k, v) :: rest) =>
    '{' :: (newLine (n + 1) ++
      (quote k.toList ++ ':' :: ' ' :: (v.prettyAt (n + 1) ++ prettyMembers n rest)))
  | v => scalar v

/-- The items after the first of an array at depth `n`, and the closing bracket. -/
def prettyItems (n : Nat) : List Value → List Char
  | [] => newLine n ++ [']']
  | v :: rest => ',' :: (newLine (n + 1) ++ (v.prettyAt (n + 1) ++ prettyItems n rest))

/-- The members after the first of an object at depth `n`, and the closing brace. -/
def prettyMembers (n : Nat) : List (String × Value) → List Char
  | [] => newLine n ++ ['}']
  | (k, v) :: rest =>
    ',' :: (newLine (n + 1) ++
      (quote k.toList ++ ':' :: ' ' :: (v.prettyAt (n + 1) ++ prettyMembers n rest)))

end

/-- The text of a value over several lines. -/
def Value.pretty (v : Value) : List Char := v.prettyAt 0

end EditionCheck.Json
