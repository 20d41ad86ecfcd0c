import EditionCheck.Json.Fault
import EditionCheck.Json.Value

/-!
  JSON numbers.

  A number without point and exponent is a whole number when it fits 64 bits, signed when it has a
  minus. Any other number is a double, computed from a 64-bit significand and a decimal exponent
  with one multiplication or division by a power of ten; digits that no longer fit the significand
  only count as places. `numeral` also says where a number too large for a double ends.
-/

namespace EditionCheck.Json

/-- The value of a decimal digit. -/
def digitValue (c : Char) : Nat := c.toNat - '0'.toNat

/-- The largest significand: `2 ^ 64 - 1`. -/
def maxSignificand : Nat := 18446744073709551615

/-- The largest exponent that is still counted: `2 ^ 31 - 1`. -/
def maxExponent : Nat := 2147483647

/-- The largest power of ten that is a double. -/
def maxPower : Nat := 308

/-- Digits added to a number while it stays within `limit`: the number, how many were added, and the
text from the first character that was not. -/
def gather (limit : Nat) : Nat → Nat → List Char → Nat × Nat × List Char
  | n, count, [] => (n, count, [])
  | n, count, c :: cs =>
    if c.isDigit && n * 10 + digitValue c ≤ limit then
      gather limit (n * 10 + digitValue c) (count + 1) cs
    else (n, count, c :: cs)

/-- The text starts with a digit. -/
def startsWithDigit : List Char → Bool
  | c :: _ => c.isDigit
  | [] => false

/-- A power of ten as a double. -/
def powerOfTen (n : Nat) : Float := Float.ofScientific 1 false n

/-- `x · 10 ^ e`, or nothing when that is too large. The first argument bounds how often a large
negative exponent is split, and `x` is zero long before. -/
def scale : Nat → Float → Int → Option Float
  | 0, _, _ => some 0
  | fuel + 1, x, e =>
    if e.natAbs ≤ maxPower then
      if 0 ≤ e then
        let y := x * powerOfTen e.natAbs
        if y.isInf then none else some y
      else some (x / powerOfTen e.natAbs)
    else if x == 0 then some x
    else if 0 ≤ e then none
    else scale fuel (x / powerOfTen maxPower) (e + maxPower)

/-- A number that was read: its value, or where it is too large, and the text after it. -/
structure Numeral where
  value : Except Halt Number
  rest : List Char

/-- The double `significand · 10 ^ exponent` with its sign; `beyond` places the fault when it is too
large. -/
def double (negative : Bool) (significand : Nat) (exponent : Int) (beyond : Nat)
    (rest : List Char) : Numeral :=
  match scale 8 (UInt64.ofNat significand).toFloat exponent with
  | some x => ⟨.ok (.real (if negative then -x else x)), rest⟩
  | none => ⟨.error ⟨.numberRange, rest, beyond⟩, rest⟩

/-- The digits of an exponent and the number they complete. -/
def exponentDigits (negative down : Bool) (significand : Nat) (start : Int) (cs : List Char) :
    Except Halt Numeral :=
  match cs with
  | [] => .error ⟨.endInValue, [], 0⟩
  | c :: _ =>
    if !c.isDigit then .error ⟨.badNumber, cs, 1⟩
    else
      let (n, _, rest) := gather maxExponent 0 0 cs
      if startsWithDigit rest then
        let after := rest.dropWhile Char.isDigit
        if significand != 0 && !down then .ok ⟨.error ⟨.numberRange, rest, 1⟩, after⟩
        else .ok ⟨.ok (.real (if negative then -0.0 else 0.0)), after⟩
      else .ok (double negative significand (if down then start - n else start + n) 0 rest)

/-- The number with the given significand and exponent so far, before an optional exponent part. -/
def exponentPart (negative : Bool) (significand : Nat) (start : Int) (cs : List Char) :
    Except Halt Numeral :=
  match cs with
  | 'e' :: '+' :: rest | 'E' :: '+' :: rest => exponentDigits negative false significand start rest
  | 'e' :: '-' :: rest | 'E' :: '-' :: rest => exponentDigits negative true significand start rest
  | 'e' :: rest | 'E' :: rest => exponentDigits negative false significand start rest
  | _ => .ok (double negative significand start 1 cs)

/-- The number whose places after the point follow. -/
def fractionPart (negative : Bool) (significand : Nat) (start : Int) (cs : List Char) :
    Except Halt Numeral :=
  let (n, count, rest) := gather maxSignificand significand 0 cs
  if count == 0 && !startsWithDigit rest then
    .error ⟨if rest.isEmpty then .endInValue else .badNumber, rest, 1⟩
  else exponentPart negative n (start - count) (rest.dropWhile Char.isDigit)

/-- The largest magnitude of a whole number with a minus: `2 ^ 63`. -/
def maxNegative : Nat := 9223372036854775808

/-- A number without point and exponent. -/
def wholeNumber (negative : Bool) (n : Nat) : Number :=
  if !negative then .integer n
  else if n == 0 || n > maxNegative then .real (-(UInt64.ofNat n).toFloat)
  else .integer (-n)

/-- The number that follows its sign. -/
def numeral (negative : Bool) (cs : List Char) : Except Halt Numeral :=
  match cs with
  | [] => .error ⟨.endInValue, [], 0⟩
  | c :: cs' =>
    if !c.isDigit then .error ⟨.badNumber, cs, 1⟩
    else if c == '0' && startsWithDigit cs' then .error ⟨.badNumber, cs', 1⟩
    else
      let (n, _, rest) := gather maxSignificand 0 0 cs
      let after := rest.dropWhile Char.isDigit
      let skipped := rest.length - after.length
      match after with
      | '.' :: places => fractionPart negative n skipped places
      | 'e' :: _ | 'E' :: _ => exponentPart negative n skipped after
      | _ =>
        if skipped == 0 then .ok ⟨.ok (wholeNumber negative n), after⟩
        else .ok (double negative n skipped 1 after)

end EditionCheck.Json
