import EditionCheck.Decimal.Double

/-!
  The shortest decimal that reads back as a given binary number.

  A finite double is `m · 2 ^ q`; the reals that round to it form a window around it, closed at both
  ends exactly when `m` is even. `shortest` takes the coarsest decimal grid, from one digit to
  seventeen, that has a point in the window, and of two such points the nearer one. All arithmetic
  is exact.
-/

namespace EditionCheck.Decimal

/-- The number `digits · 10 ^ scale`. -/
structure Scaled where
  digits : Nat
  scale : Int
  deriving DecidableEq, Repr

/-- The fractions `low / unit ≤ value / unit ≤ high / unit`; `closed` says whether the two ends
belong to the window. -/
structure Window where
  low : Nat
  value : Nat
  high : Nat
  unit : Nat
  closed : Bool
  deriving DecidableEq, Repr

namespace Window

/-- The window of the reals that round to `m · 2 ^ q`. At an `edge` the next smaller number is only
half as far away as the next larger one. -/
def ofBinary (m : Nat) (q : Int) (edge : Bool) : Window :=
  let up := Nat.pow 2 (q - 2).toNat
  let below := if edge then 1 else 2
  ⟨(4 * m - below) * up, 4 * m * up, (4 * m + 2) * up, Nat.pow 2 (2 - q).toNat, m % 2 == 0⟩

/-- The window measured in steps of `10 ^ scale`. -/
def onGrid (w : Window) (scale : Int) : Window :=
  let up := Nat.pow 10 (-scale).toNat
  ⟨w.low * up, w.value * up, w.high * up, w.unit * Nat.pow 10 scale.toNat, w.closed⟩

/-- Whole step `c` lies in the window. -/
def holds (w : Window) (c : Nat) : Bool :=
  if w.closed then decide (w.low ≤ c * w.unit ∧ c * w.unit ≤ w.high)
  else decide (w.low < c * w.unit ∧ c * w.unit < w.high)

/-- The whole step in the window that is nearest to its value; a tie goes to the even one. -/
def nearest? (w : Window) : Option Nat :=
  let below := w.value / w.unit
  let above := below + 1
  let down := w.value - below * w.unit
  let up := above * w.unit - w.value
  match w.holds below, w.holds above with
  | false, false => none
  | true, false => some below
  | false, true => some above
  | true, true => some (if down < up || (down == up && below % 2 == 0) then below else above)

/-- The exponent of the leading decimal digit of the value. -/
def leading (w : Window) : Int :=
  let guess := ((Nat.toDigits 10 w.value).length : Int) - (Nat.toDigits 10 w.unit).length
  let g := w.onGrid guess
  if g.unit ≤ g.value then guess else guess - 1

end Window

/-- The same number without trailing zero digits. -/
def Scaled.trim : Nat → Scaled → Scaled
  | 0, d => d
  | fuel + 1, d =>
    if d.digits % 10 == 0 && d.digits != 0 then trim fuel ⟨d.digits / 10, d.scale + 1⟩ else d

/-- The shortest decimal in the window of `m · 2 ^ q`, for positive `m`. -/
def shortest (m : Nat) (q : Int) (edge : Bool) : Scaled :=
  let w := Window.ofBinary m q edge
  let top := w.leading
  let at? (k : Nat) : Option Scaled :=
    (w.onGrid (top - k)).nearest?.map fun c => Scaled.trim 18 ⟨c, top - k⟩
  ((List.range 17).findSome? at?).getD ⟨w.value / w.unit, 0⟩

/-- The shortest decimal of the magnitude of a finite double; zero for zero. -/
def ofDouble (x : Float) : Scaled :=
  let m := magnitude x
  if m.significand == 0 then ⟨0, 0⟩ else shortest m.significand m.exponent m.edge

end EditionCheck.Decimal
