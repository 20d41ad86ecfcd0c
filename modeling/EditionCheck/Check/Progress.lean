import EditionCheck.Decimal.Fixed

/-!
  How far a check has come.
-/

namespace EditionCheck

/-- `current` of `total` dependencies are done; `message` names what comes next. -/
structure Progress where
  current : Nat
  total : Nat
  message : String
  deriving DecidableEq, Repr

namespace Progress

/-- The share that is done, in percent. -/
def percentage (p : Progress) : Float :=
  if p.total == 0 then 0
  else (UInt64.ofNat p.current).toFloat / (UInt64.ofNat p.total).toFloat * 100

/-- The share that is done, with four places. -/
def percentageText (p : Progress) : String := String.ofList (Decimal.fixedText 4 p.percentage)

end Progress
end EditionCheck
