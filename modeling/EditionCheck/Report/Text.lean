import EditionCheck.Check.Results
import EditionCheck.Report.Style

/-!
  Results as text for people.
-/

namespace EditionCheck.Report

/-- The mark of an outcome. -/
def mark (colors : Bool) : Verdict → String
  | .conforming => if colors then Style.green.paint "PASS" else "PASS"
  | .nonConforming _ => if colors then Style.boldRed.paint "FAIL" else "FAIL"
  | .unchecked _ => if colors then Style.yellow.paint "SKIP" else "SKIP"

/-- What is said behind the name. -/
def remark : Verdict → String
  | .conforming => ""
  | .nonConforming failure => ": " ++ failure.render
  | .unchecked reason => ": " ++ reason.describe

/-- The line of a finding; the verbose form has the script on a second line. -/
def findingText (colors verbose : Bool) (f : Finding) : String :=
  let line := "  [" ++ mark colors f.verdict ++ "] " ++ f.name ++ remark f.verdict
  let script := match verbose, f.entryScript with
    | true, some p =>
      if colors then "\n      " ++ Style.dimmed.paint p.display else "\n      " ++ p.display
    | _, _ => ""
  line ++ script ++ "\n"

/-- The findings that are listed: all in the verbose form, else the failing ones. -/
def listed (verbose : Bool) (fs : List Finding) : List Finding :=
  if verbose then fs else fs.filter fun f => f.verdict.isNonConforming

/-- The lines with the counts. -/
def countLines (s : Summary) : String :=
  "Dependencies checked: " ++ toString s.total ++ "\n" ++
    "Conforming: " ++ toString s.conforming ++ "\n" ++
    "Non-conforming: " ++ toString s.nonConforming ++ "\n" ++
    "Unchecked: " ++ toString s.unchecked ++ "\n" ++
    "Check duration: " ++ s.duration.display ++ "\n"

/-- The list of findings, or the line that says that all is well. -/
def closing (colors verbose : Bool) (r : Results) : String :=
  let shown := listed verbose r.findings
  if !shown.isEmpty then
    (if verbose then "\nDependencies:\n" else "\nNon-conforming dependencies:\n") ++
      String.join (shown.map (findingText colors verbose))
  else if r.summary.nonConforming == 0 && r.summary.total > 0 then
    let line := "\nAll checked dependencies conform to " ++ r.target.label ++ "\n"
    if colors then Style.green.paint line else line
  else ""

/-- The first lines: a title with the target, and the project. -/
def heading (colors : Bool) (target : Edition) (project : Path) : String :=
  let title := "Dependency Check Summary (" ++ target.label ++ ")"
  (if colors then Style.boldBlue.paint title ++ "\n\n" else title ++ "\n\n") ++
    "Project: " ++ project.display ++ "\n"

/-- The results as text. -/
def summaryText (colors verbose : Bool) (r : Results) : String :=
  match r.rootError with
  | some e =>
    let line := "Could not load package.json: " ++ e
    heading colors r.target r.project ++
      if colors then "\n" ++ Style.boldRed.paint line ++ "\n" else "\n" ++ line ++ "\n"
  | none =>
    heading colors r.target r.project ++ countLines r.summary ++ closing colors verbose r

/-- The failing names alone, one on a line. -/
def namesOnly (r : Results) : String :=
  (match r.rootError with
    | some e => "Could not load package.json: " ++ e ++ "\n"
    | none => "") ++
    String.join (r.report.names.map fun n => n ++ "\n")

end EditionCheck.Report
