import EditionCheck.Decimal.Fixed

/-!
  Spans of time.

  A span shorter than a second is shown in whole milliseconds, a longer one in seconds with two
  places. The seconds are computed as a double first.
-/

namespace EditionCheck

/-- A span of time in nanoseconds. -/
structure Duration where
  nanoseconds : Nat
  deriving DecidableEq, Repr

namespace Duration

instance : Inhabited Duration := ⟨⟨0⟩⟩

/-- The nanoseconds in a second. -/
def perSecond : Nat := 1000000000

/-- The nanoseconds in a millisecond. -/
def perMilli : Nat := 1000000

/-- The span of the given seconds and nanoseconds. -/
def ofParts (seconds nanoseconds : Nat) : Duration := ⟨seconds * perSecond + nanoseconds⟩

/-- The span of the given milliseconds. -/
def ofMillis (n : Nat) : Duration := ⟨n * perMilli⟩

/-- The whole milliseconds in a span. -/
def millis (d : Duration) : Nat := d.nanoseconds / perMilli

theorem millis_ofMillis (n : Nat) : (ofMillis n).millis = n := by simp [ofMillis, millis, perMilli]

/-- The whole milliseconds in a span as they are stored, in 64 bits. -/
def storedMillis (d : Duration) : Nat := d.millis % 18446744073709551616

theorem storedMillis_ofMillis {n : Nat} (h : n < 18446744073709551616) :
    (ofMillis n).storedMillis = n := by
  rw [storedMillis, millis_ofMillis, Nat.mod_eq_of_lt h]

/-- The span in seconds. -/
def seconds (d : Duration) : Float :=
  (UInt64.ofNat (d.nanoseconds / perSecond)).toFloat +
    (UInt64.ofNat (d.nanoseconds % perSecond)).toFloat / 1e9

/-- A span as shown to people. -/
def display (d : Duration) : String :=
  if d.millis < 1000 then toString d.millis ++ "ms"
  else String.ofList (Decimal.fixedText 2 d.seconds ++ ['s'])

end Duration
end EditionCheck
