import EditionCheck.Check.Results

/-!
  Results as comma-separated values, one record a finding.

  A field is put in quotes when it holds a quote, a comma or a line end, and a quote inside is
  written twice. Every record ends with a line feed.
-/

namespace EditionCheck.Report

/-- The character makes quotes necessary. -/
def isSpecial (c : Char) : Bool := c == '"' || c == ',' || c == '\n' || c == '\r'

/-- The characters of a field with every quote written twice. -/
def doubled : List Char → List Char
  | [] => []
  | c :: cs => if c = '"' then '"' :: '"' :: doubled cs else c :: doubled cs

/-- The written form of a field. -/
def fieldText (cs : List Char) : List Char :=
  if cs.any isSpecial then '"' :: (doubled cs ++ ['"']) else cs

/-- The fields of a record with commas between them. -/
def fieldsText : List (List Char) → List Char
  | [] => []
  | [f] => fieldText f
  | f :: rest => fieldText f ++ ',' :: fieldsText rest

/-- The written form of a record. -/
def recordText (fields : List String) : List Char := fieldsText (fields.map String.toList) ++ ['\n']

/-- The names of the fields. -/
def tableHeader : List String :=
  ["Dependency", "Kind", "Status", "Entry Script", "Feature", "Line", "Column", "Detail"]

/-- A number, if there is one. -/
def optionalNumber (n : Option Nat) : String :=
  match n with
  | some n => toString n
  | none => ""

/-- The last four fields of a finding. -/
def verdictFields : Verdict → List String
  | .conforming => ["", "", "", ""]
  | .nonConforming e =>
    [(e.feature.map Feature.description).getD "", optionalNumber e.line, optionalNumber e.column,
      e.message]
  | .unchecked reason => ["", "", "", reason.describe]

/-- The fields of a finding. -/
def findingFields (f : Finding) : List String :=
  [f.name, f.kind.manifestKey, f.verdict.label, (f.entryScript.map Path.display).getD ""] ++
    verdictFields f.verdict

/-- The results as a table. -/
def table (r : Results) : String :=
  String.ofList (recordText tableHeader ++ r.findings.flatMap fun f => recordText (findingFields f))

end EditionCheck.Report
