/-!
  The parts of a double.

  The magnitude of a finite double is a significand times a power of two. Below the significand of a
  power of two the next smaller double is only half as far away as the next larger one, except where
  the doubles are evenly spaced near zero.
-/

namespace EditionCheck.Decimal

/-- How many doubles lie from one power of two to the next: `2 ^ 52`. -/
def perOctave : Nat := 4503599627370496

/-- The smallest bit pattern with the sign bit: `2 ^ 63`. -/
def signBit : Nat := 9223372036854775808

/-- The magnitude `significand · 2 ^ exponent`; at an `edge` the next smaller one is nearer. -/
structure Magnitude where
  significand : Nat
  exponent : Int
  edge : Bool
  deriving DecidableEq, Repr

/-- The magnitude of a finite double. -/
def magnitude (x : Float) : Magnitude :=
  let bits := x.toBits.toNat
  let fraction := bits % perOctave
  let octave := bits / perOctave % 2048
  if octave == 0 then ⟨fraction, -1074, false⟩
  else ⟨perOctave + fraction, (octave : Int) - 1075, fraction == 0 && octave > 1⟩

/-- The sign bit of a double is set. -/
def isNegative (x : Float) : Bool := signBit ≤ x.toBits.toNat

end EditionCheck.Decimal
