import EditionCheck.Decimal.Double

/-!
  Numbers written with a fixed count of decimal places.

  The exact value is rounded once: to the nearest, and a tie to the even neighbour.
-/

namespace EditionCheck.Decimal

/-- The quotient rounded to the nearest whole number, a tie to the even one. -/
def roundDiv (num den : Nat) : Nat :=
  let below := num / den
  let twice := 2 * (num % den)
  if twice < den || (twice == den && below % 2 == 0) then below else below + 1

/-- A text of digits, filled up with zeros on the left to a given width. -/
def padded (width n : Nat) : List Char :=
  let digits := Nat.toDigits 10 n
  List.replicate (width - digits.length) '0' ++ digits

/-- The number `n / 10 ^ places` with that many places, of which there is at least one. -/
def withPoint (places n : Nat) : List Char :=
  Nat.toDigits 10 (n / Nat.pow 10 places) ++ '.' :: padded places (n % Nat.pow 10 places)

/-- A finite double without its sign, written with a fixed count of places. -/
def fixedText (places : Nat) (x : Float) : List Char :=
  let m := magnitude x
  withPoint places (roundDiv
    (m.significand * Nat.pow 2 m.exponent.toNat * Nat.pow 10 places)
    (Nat.pow 2 (-m.exponent).toNat))

end EditionCheck.Decimal
