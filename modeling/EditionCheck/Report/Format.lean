import EditionCheck.Report.Json
import EditionCheck.Report.Table
import EditionCheck.Report.Text

/-!
  The formats in which results are written.
-/

namespace EditionCheck

/-- A format for results. -/
inductive OutputFormat where
  | text
  | json
  | csv
  deriving DecidableEq, Repr

namespace OutputFormat

/-- The name of a format, also in data files. -/
def key : OutputFormat → String
  | text => "text"
  | json => "json"
  | csv => "csv"

/-- Every format. -/
def all : List OutputFormat := [text, json, csv]

/-- The format with a name used in data files. -/
def ofKey? (s : String) : Option OutputFormat := all.find? fun f => f.key == s

/-- A text that names no format. -/
structure Unknown where
  text : String
  deriving DecidableEq, Repr

/-- The wording quotes the text as it was given. -/
def Unknown.message (e : Unknown) : String := "Invalid output format: " ++ e.text

/-- The format that a user's text names; the case of letters does not matter. No letter outside
ASCII becomes a letter of a name in lower case. -/
def ofText (s : String) : Except Unknown OutputFormat :=
  match ofKey? (String.ofList (s.toList.map Char.toLower)) with
  | some f => .ok f
  | none => .error ⟨s⟩

end OutputFormat

namespace Results

/-- The results as text for people: in full, or the failing names alone. -/
def text (r : Results) (colors verbose quiet : Bool) : String :=
  if quiet then Report.namesOnly r else Report.summaryText colors verbose r

/-- The results in a format. -/
def formatted (r : Results) (f : OutputFormat) (colors verbose quiet : Bool) : String :=
  match f with
  | .text => r.text colors verbose quiet
  | .json => r.jsonText true
  | .csv => Report.table r

end Results
end EditionCheck
