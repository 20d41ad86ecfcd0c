import EditionCheck.Check.Verdict
import EditionCheck.Time.Duration
import EditionCheck.Time.Moment

/-!
  The results of a check.

  Findings are added one by one; the counts and the report of failing names follow along.
-/

namespace EditionCheck

/-- Names of failing dependencies, in the order in which they were found. -/
structure Report where
  names : List String
  deriving DecidableEq, Repr

namespace Report

/-- The report without names. -/
def empty : Report := ⟨[]⟩

/-- The name is in the report. -/
def contains (r : Report) (name : String) : Bool := decide (name ∈ r.names)

/-- The report with a name at its end, unless it is there already. -/
def push (r : Report) (name : String) : Report :=
  if r.contains name then r else ⟨r.names ++ [name]⟩

end Report

/-- How many dependencies had which outcome, and how long the check took. -/
structure Summary where
  total : Nat
  conforming : Nat
  nonConforming : Nat
  unchecked : Nat
  duration : Duration
  deriving DecidableEq, Repr

/-- The summary of nothing. -/
def Summary.zero : Summary := ⟨0, 0, 0, 0, default⟩

/-- The summary with one more outcome. -/
def Summary.count (s : Summary) : Verdict → Summary
  | .conforming => { s with total := s.total + 1, conforming := s.conforming + 1 }
  | .nonConforming _ => { s with total := s.total + 1, nonConforming := s.nonConforming + 1 }
  | .unchecked _ => { s with total := s.total + 1, unchecked := s.unchecked + 1 }

/-- The results of a check. `rootError` tells why the project's own manifest could not be loaded,
in which case nothing was checked. -/
structure Results where
  project : Path
  target : Edition
  report : Report
  findings : List Finding
  summary : Summary
  rootError : Option String
  checkedAt : Moment
  deriving DecidableEq

namespace Results

/-- Results without any finding. -/
def start (project : Path) (target : Edition) (checkedAt : Moment) : Results :=
  ⟨project, target, .empty, [], .zero, none, checkedAt⟩

/-- The results with one more finding. -/
def add (r : Results) (f : Finding) : Results :=
  { r with
    report := if f.verdict.isNonConforming then r.report.push f.name else r.report
    findings := r.findings ++ [f]
    summary := r.summary.count f.verdict }

/-- The results with findings added in order. -/
def addAll (r : Results) (fs : List Finding) : Results := fs.foldl add r

/-- The results with the time that the check took. -/
def lasting (r : Results) (d : Duration) : Results :=
  { r with summary := { r.summary with duration := d } }

/-- Some dependency fails. -/
def hasNonConforming (r : Results) : Bool := !r.report.names.isEmpty

/-- The status with which a run ends: 2 when nothing could be checked, 1 when a dependency fails and
that counts, else 0. -/
def exitStatus (r : Results) (failOnNonConforming : Bool) : Nat :=
  if r.rootError.isSome then 2
  else if r.hasNonConforming && failOnNonConforming then 1
  else 0

end Results
end EditionCheck
