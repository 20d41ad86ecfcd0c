import EditionCheck.Decimal.Fixed
import EditionCheck.Text.Blank
import EditionCheck.Time.Duration

/-!
  Moments of universal time.

  A moment is a date of the proleptic Gregorian calendar and a time of day, whose last second may be
  a leap second. `render` writes it as a timestamp with no, three, six or nine places of a second;
  `parse?` reads timestamps with any offset and moves them to universal time.
-/

namespace EditionCheck

namespace Calendar

/-- A year with a leap day. -/
def isLeap (year : Int) : Bool := year % 4 == 0 && (year % 100 != 0 || year % 400 == 0)

/-- The number of days in a month. -/
def daysIn (year : Int) (month : Nat) : Nat :=
  if month == 2 then if isLeap year then 29 else 28
  else if month ∈ [4, 6, 9, 11] then 30
  else 31

/-- A date of the calendar, in the span of years that can be told. -/
def isDate (year : Int) (month day : Nat) : Bool :=
  -262143 ≤ year && year ≤ 262142 && 1 ≤ month && month ≤ 12 && 1 ≤ day && day ≤ daysIn year month

/-- The day after a date. -/
def next (year : Int) (month day : Nat) : Int × Nat × Nat :=
  if day < daysIn year month then (year, month, day + 1)
  else if month < 12 then (year, month + 1, 1)
  else (year + 1, 1, 1)

/-- The day before a date. -/
def previous (year : Int) (month day : Nat) : Int × Nat × Nat :=
  if 1 < day then (year, month, day - 1)
  else if 1 < month then (year, month - 1, daysIn year (month - 1))
  else (year - 1, 12, 31)

/-- The date a number of days after the first of January 1970. Years are counted from the first of
March, so that a leap day ends one. -/
def ofDays (days : Nat) : Int × Nat × Nat :=
  let z := days + 719468
  let inEra := z % 146097
  let yearOfEra := (inEra - inEra / 1460 + inEra / 36524 - inEra / 146096) / 365
  let inYear := inEra - (365 * yearOfEra + yearOfEra / 4 - yearOfEra / 100)
  let march := (5 * inYear + 2) / 153
  let day := inYear - (153 * march + 2) / 5 + 1
  let year := yearOfEra + z / 146097 * 400
  if march < 10 then (year, march + 3, day) else (year + 1, march - 9, day)

end Calendar

/-- A moment of universal time. -/
structure Moment where
  year : Int
  month : Nat
  day : Nat
  hour : Nat
  minute : Nat
  second : Nat
  nanosecond : Nat
  valid : (Calendar.isDate year month day && hour < 24 && minute < 60 && second ≤ 60 &&
    nanosecond < 1000000000) = true
  deriving DecidableEq

namespace Moment

/-- The start of the year 1970. -/
def epoch : Moment := ⟨1970, 1, 1, 0, 0, 0, 0, by decide⟩

instance : Inhabited Moment := ⟨epoch⟩

/-- The moment with the given parts, if there is one. -/
def ofParts? (year : Int) (month day hour minute second nanosecond : Nat) : Option Moment :=
  if h : (Calendar.isDate year month day && hour < 24 && minute < 60 && second ≤ 60 &&
      nanosecond < 1000000000) = true then
    some ⟨year, month, day, hour, minute, second, nanosecond, h⟩
  else none

/-- The moment a number of nanoseconds after the start of the year 1970, as far as it can be
told. -/
def sinceEpoch (nanoseconds : Nat) : Moment :=
  let seconds := nanoseconds / Duration.perSecond
  let (year, month, day) := Calendar.ofDays (seconds / 86400)
  (ofParts? year month day (seconds / 3600 % 24) (seconds / 60 % 60) (seconds % 60)
    (nanoseconds % Duration.perSecond)).getD epoch

/-! ## Writing -/

/-- A year: four digits, or a sign and at least four. -/
def yearText (year : Int) : List Char :=
  if 0 ≤ year && year ≤ 9999 then Decimal.padded 4 year.natAbs
  else (if year < 0 then '-' else '+') :: Decimal.padded 4 year.natAbs

/-- The places of a second, in groups of three. -/
def placesText (n : Nat) : List Char :=
  if n == 0 then []
  else if n % 1000000 == 0 then '.' :: Decimal.padded 3 (n / 1000000)
  else if n % 1000 == 0 then '.' :: Decimal.padded 6 (n / 1000)
  else '.' :: Decimal.padded 9 n

/-- The timestamp of a moment. -/
def render (m : Moment) : List Char :=
  yearText m.year ++ '-' :: (Decimal.padded 2 m.month ++ '-' :: (Decimal.padded 2 m.day ++ 'T' ::
    (Decimal.padded 2 m.hour ++ ':' :: (Decimal.padded 2 m.minute ++ ':' ::
      (Decimal.padded 2 m.second ++ (placesText m.nanosecond ++ ['Z']))))))

/-! ## Reading -/

/-- The value of a text of digits. -/
def numberOf (digits : List Char) : Nat := digits.foldl (fun n c => n * 10 + (c.toNat - 48)) 0

/-- At most `width` leading digits, at least one, and what follows them. -/
def digits? (width : Nat) (cs : List Char) : Option (Nat × List Char) :=
  match (cs.take width).takeWhile Char.isDigit with
  | [] => none
  | ds => some (numberOf ds, cs.drop ds.length)

/-- A number of at most two digits behind any blanks. -/
def twoDigits? (cs : List Char) : Option (Nat × List Char) := digits? 2 (Text.trimStart cs)

/-- A year behind any blanks: up to four digits, or any number of them behind a sign. -/
def year? (cs : List Char) : Option (Int × List Char) :=
  match Text.trimStart cs with
  | '-' :: rest => (digits? rest.length rest).map fun p => (-(p.1 : Int), p.2)
  | '+' :: rest => (digits? rest.length rest).map fun p => ((p.1 : Int), p.2)
  | rest => (digits? 4 rest).map fun p => ((p.1 : Int), p.2)

/-- The text after a mark that follows any blanks. -/
def after? (mark : Char) (cs : List Char) : Option (List Char) :=
  match Text.trimStart cs with
  | c :: rest => if c == mark then some rest else none
  | [] => none

/-- The places of a second, as nanoseconds; places beyond the ninth are passed over. -/
def places? (cs : List Char) : Option (Nat × List Char) :=
  match cs with
  | '.' :: rest =>
    match digits? 9 rest with
    | none => none
    | some (n, rest') =>
      some (n * Nat.pow 10 (9 - (rest.length - rest'.length)), rest'.dropWhile Char.isDigit)
  | _ => some (0, cs)

/-- Two digits at the front. -/
def pair? : List Char → Option (Nat × List Char)
  | a :: b :: rest => if a.isDigit && b.isDigit then some (numberOf [a, b], rest) else none
  | _ => none

/-- An offset from universal time in minutes: `Z`, `UTC`, or a sign with hours and minutes. -/
def offset? (cs : List Char) : Option (Int × List Char) :=
  match cs with
  | 'Z' :: rest | 'z' :: rest => some (0, rest)
  | u :: t :: c :: rest =>
    if [u, t, c].map Char.toUpper = ['U', 'T', 'C'] then some (0, rest)
    else if u == '+' || u == '-' || u == '\u2212' then do
      let (hours, rest) ← pair? (t :: c :: rest)
      let (minutes, rest) ← pair? (rest.dropWhile fun d => d == ':' || Text.isBlank d)
      if hours < 24 && minutes < 60 then
        let total : Int := hours * 60 + minutes
        some (if u == '+' then total else -total, rest)
      else none
    else none
  | _ => none

/-- The moment with the given parts by a clock that is `offset` minutes ahead of universal time. -/
def ofLocal? (year : Int) (month day hour minute second nanosecond : Nat) (offset : Int) :
    Option Moment := do
  let clock ← ofParts? year month day hour minute second nanosecond
  let minutes : Int := clock.hour * 60 + clock.minute - offset
  let (y, mo, d) :=
    if minutes < 0 then Calendar.previous clock.year clock.month clock.day
    else if minutes < 1440 then (clock.year, clock.month, clock.day)
    else Calendar.next clock.year clock.month clock.day
  let inDay := (minutes % 1440).toNat
  ofParts? y mo d (inDay / 60) (inDay % 60) clock.second clock.nanosecond

/-- The moment that a timestamp names. Date and time are parted by `T` or one space; blanks may
stand before each number, mark and offset, and after the whole. -/
def parse? (cs : List Char) : Option Moment := do
  let (year, cs) ← year? cs
  let (month, cs) ← twoDigits? (← after? '-' cs)
  let (day, cs) ← twoDigits? (← after? '-' cs)
  let cs ← match cs with
    | 'T' :: rest | 't' :: rest | ' ' :: rest => some rest
    | _ => none
  let (hour, cs) ← twoDigits? cs
  let (minute, cs) ← twoDigits? (← after? ':' cs)
  let (second, cs) ← twoDigits? (← after? ':' cs)
  let (nanosecond, cs) ← places? cs
  let (offset, cs) ← offset? (Text.trimStart cs)
  if (Text.trimStart cs).isEmpty then
    ofLocal? year month day hour minute second nanosecond offset
  else none

end Moment
end EditionCheck
