import EditionCheck.Text.Digit
import EditionCheck.Time.Moment
import EditionCheck.Toml.Value

/-!
  TOML values written without quotes or brackets: numbers, truth values, dates and times.

  `Scalar.take` cuts the characters of such a value off a text and `Scalar.ofToken?` reads them. A
  number may have a sign, and single underscores between digits; a whole number fits 128 bits; a
  number with a point or an exponent fits a double. A date is one of the calendar, and a time counts
  seconds up to 60 or leaves them out.
-/

namespace EditionCheck.Toml.Scalar

/-! ## Numbers -/

/-- The digits of a number, single underscores between them left out; at least one. -/
def digits? (isDigit : Char → Bool) : List Char → Option (List Char)
  | [] => none
  | [c] => if isDigit c then some [c] else none
  | c :: '_' :: cs => if isDigit c then (digits? isDigit cs).map (c :: ·) else none
  | c :: cs => if isDigit c then (digits? isDigit cs).map (c :: ·) else none

/-- The number that digits write in a base. -/
def numberOf (base : Nat) (digits : List Char) : Nat :=
  digits.foldl (fun n c => n * base + (Text.hexValue? c).getD 0) 0

/-- The digits of a decimal number, which has no needless zero in front. -/
def decimal? (cs : List Char) : Option (List Char) :=
  match digits? Char.isDigit cs with
  | some ('0' :: _ :: _) => none
  | r => r

/-- The least whole number: `-2 ^ 127`. -/
def leastInteger : Int := -170141183460469231731687303715884105728

/-- The largest whole number: `2 ^ 128 - 1`. -/
def largestInteger : Int := 340282366920938463463374607431768211455

/-- A whole number of 128 bits, with or without sign. -/
def bounded? (n : Int) : Option Value :=
  if leastInteger ≤ n && n ≤ largestInteger then some (.integer n) else none

/-- A sign, if there is one, and what follows it. -/
def sign : List Char → Bool × List Char
  | '-' :: cs => (true, cs)
  | '+' :: cs => (false, cs)
  | cs => (false, cs)

/-- A number in a base other than ten, after what marks the base. -/
def inBase? (base : Nat) (isDigit : Char → Bool) (cs : List Char) : Option Value :=
  (digits? isDigit cs).bind fun ds => bounded? (numberOf base ds)

/-- A whole number. -/
def integer? (cs : List Char) : Option Value :=
  match cs with
  | '0' :: 'x' :: ds => inBase? 16 Text.isHexDigit ds
  | '0' :: 'o' :: ds => inBase? 8 (fun c => '0' ≤ c && c ≤ '7') ds
  | '0' :: 'b' :: ds => inBase? 2 (fun c => c == '0' || c == '1') ds
  | _ =>
    let (negative, ds) := sign cs
    (decimal? ds).bind fun ds =>
      bounded? (if negative then -(numberOf 10 ds : Int) else numberOf 10 ds)

/-- More places before the point than any double has. -/
def maxPlaces : Int := 400

/-- The double nearest to `significand · 10 ^ exponent`, unless it is too large. -/
def double? (significand : Nat) (exponent : Int) : Option Float :=
  let places := (Nat.toDigits 10 significand).length + exponent
  if significand == 0 || places < -maxPlaces then some 0
  else if maxPlaces < places then none
  else
    let x := Float.ofScientific significand (exponent < 0) exponent.natAbs
    if x.isInf then none else some x

/-- The characters before and after the first one with a property, which is left out. -/
def cut? (p : Char → Bool) (cs : List Char) : Option (List Char × List Char) :=
  let before := cs.takeWhile fun c => !p c
  match cs.drop before.length with
  | _ :: after => some (before, after)
  | [] => none

/-- An exponent. -/
def exponent? (cs : List Char) : Option Int := do
  let (negative, ds) := sign cs
  let ds ← digits? Char.isDigit ds
  return if negative then -(numberOf 10 ds : Int) else numberOf 10 ds

/-- The places after a point; none where there is no point. -/
def places? : Option (List Char) → Option (List Char)
  | some ds => digits? Char.isDigit ds
  | none => some []

/-- A number with a point, an exponent or both, without sign. -/
def fractional? (cs : List Char) : Option Float := do
  let (mantissa, power) := ((cut? (fun c => c == 'e' || c == 'E') cs).map fun p =>
    (p.1, some p.2)).getD (cs, none)
  let (front, back) := ((cut? (· == '.') mantissa).map fun p => (p.1, some p.2)).getD
    (mantissa, none)
  if power.isNone && back.isNone then none
  let whole ← decimal? front
  let part ← places? back
  let e ← (power.map exponent?).getD (some 0)
  double? (numberOf 10 (whole ++ part)) (e - part.length)

/-- A number that need not be whole. -/
def real? (cs : List Char) : Option Value :=
  let (negative, rest) := sign cs
  let size :=
    if rest == ['i', 'n', 'f'] then some (1 / 0 : Float)
    else if rest == ['n', 'a', 'n'] then some (0 / 0 : Float)
    else fractional? rest
  size.map fun x => .real (if negative then -x else x)

/-! ## Dates and times -/

/-- A number of exactly `width` digits and what follows. -/
def exactly? (width : Nat) (cs : List Char) : Option (Nat × List Char) :=
  let ds := cs.take width
  if ds.length == width && ds.all Char.isDigit then some (numberOf 10 ds, cs.drop width) else none

/-- What follows one given character. -/
def after? (mark : Char) : List Char → Option (List Char)
  | c :: cs => if c == mark then some cs else none
  | [] => none

/-- What follows a date of the calendar. -/
def date? (cs : List Char) : Option (List Char) := do
  let (year, rest) ← exactly? 4 cs
  let (month, rest) ← exactly? 2 (← after? '-' rest)
  let (day, rest) ← exactly? 2 (← after? '-' rest)
  if Calendar.isDate year month day then some rest else none

/-- What follows the places of a second, if there are any. -/
def secondPlaces? : List Char → Option (List Char)
  | '.' :: cs =>
    if (cs.takeWhile Char.isDigit).isEmpty then none else some (cs.dropWhile Char.isDigit)
  | cs => some cs

/-- What follows the seconds of a time, if there are any. -/
def seconds? : List Char → Option (List Char)
  | ':' :: cs =>
    match exactly? 2 cs with
    | some (second, rest) => if second ≤ 60 then secondPlaces? rest else none
    | none => none
  | cs => some cs

/-- What follows an hour and a minute. -/
def clock? (cs : List Char) : Option (List Char) := do
  let (hour, rest) ← exactly? 2 cs
  let (minute, rest) ← exactly? 2 (← after? ':' rest)
  if hour ≤ 23 && minute ≤ 59 then some rest else none

/-- What follows a time of day. -/
def time? (cs : List Char) : Option (List Char) := (clock? cs).bind seconds?

/-- What follows a difference from universal time, if there is one. -/
def offset? : List Char → Option (List Char)
  | 'Z' :: cs | 'z' :: cs => some cs
  | '+' :: cs | '-' :: cs => clock? cs
  | cs => some cs

/-- What follows a moment: a time, a date, or a date with a time. -/
def afterMoment? (cs : List Char) : Option (List Char) :=
  match date? cs with
  | some [] => some []
  | some (c :: rest) => if c == 'T' || c == 't' || c == ' ' then (time? rest).bind offset? else none
  | none => time? cs

/-- A date, a time or both. -/
def moment? (cs : List Char) : Option Value :=
  if afterMoment? cs == some [] then some (.moment (String.ofList cs)) else none

/-! ## Tokens -/

/-- A character of a value without quotes or brackets. -/
def isTokenChar (c : Char) : Bool :=
  c.isAlphanum || c == '_' || c == '-' || c == '+' || c == '.' || c == ':'

/-- The characters of such a value and what follows. A blank between a date and a digit belongs to
the value. -/
def take (cs : List Char) : List Char × List Char :=
  let token := cs.takeWhile isTokenChar
  match date? token, cs.drop token.length with
  | some [], ' ' :: c :: rest =>
    if c.isDigit then
      (token ++ ' ' :: (c :: rest).takeWhile isTokenChar, (c :: rest).dropWhile isTokenChar)
    else (token, ' ' :: c :: rest)
  | _, rest => (token, rest)

/-- The value that a token writes. -/
def ofToken? (token : List Char) : Option Value :=
  if token == ['t', 'r', 'u', 'e'] then some (.boolean true)
  else if token == ['f', 'a', 'l', 's', 'e'] then some (.boolean false)
  else integer? token <|> real? token <|> moment? token

end EditionCheck.Toml.Scalar
