import EditionCheck.Check.Results
import EditionCheck.Json.Decode
import EditionCheck.Json.Writer

/-!
  Results as JSON, written and read back.

  An outcome is an object whose `status` names it; an unjudged one also has a `reason` that names
  why, beside what belongs to that reason. The two may also be given as lists that start with these
  names.
-/

namespace EditionCheck

open Json (Value)

/-! ## Failures -/

/-- A failure as JSON. -/
def Failure.toJson (e : Failure) : Value :=
  .object [("message", .string e.message), ("feature", Json.ofText? (e.feature.map Feature.key)),
    ("line", Json.ofNat? e.line), ("column", Json.ofNat? e.column)]

/-- The failure that a value holds. -/
def Failure.ofJson? (v : Value) : Option Failure := do
  let fields ← v.fields? ["message", "feature", "line", "column"]
  return {
    message := ← Json.field? Value.text? "message" fields
    feature := ← Json.optional? (Value.word? Feature.ofKey?) "feature" fields
    line := ← Json.optional? Value.nat? "line" fields
    column := ← Json.optional? Value.nat? "column" fields }

/-! ## Outcomes -/

/-- The content of a value that starts with a tag: what names it, and the rest. -/
def tagged? (tag : String) (v : Value) : Option (Value × Value) :=
  match v with
  | .object members =>
    match members.filter fun m => m.1 == tag with
    | [m] => some (m.2, .object (members.filter fun m => m.1 != tag))
    | _ => none
  | .array (name :: rest) => some (name, .array rest)
  | _ => none

/-- The content of a tagged value without further fields. -/
def bare? (v : Value) (a : α) : Option α :=
  match v with
  | .object _ | .array _ => some a
  | _ => none

/-- The content of a tagged value with one field. -/
def single? (key : String) (decode : Value → Option α) (v : Value) : Option α := do
  Json.field? decode key (← v.fields? [key])

/-- The members of a reason. -/
def Reason.members : Reason → List (String × Value)
  | manifestUnreadable m => [("reason", .string "manifest_unreadable"), ("message", .string m)]
  | noEntryScript => [("reason", .string "no_entry_script")]
  | scriptUnreadable m => [("reason", .string "script_unreadable"), ("message", .string m)]
  | ignored p => [("reason", .string "ignored"), ("pattern", .string p)]

/-- The names of the reasons, in order. -/
def Reason.words : List String :=
  ["manifest_unreadable", "no_entry_script", "script_unreadable", "ignored"]

/-- The name of a reason, which may also be given by its number. -/
def Reason.word? : Value → Option String
  | .string s => if s ∈ words then some s else none
  | .number (.integer (.ofNat n)) => words[n]?
  | _ => none

/-- The reason that a value holds. -/
def Reason.ofJson? (v : Value) : Option Reason := do
  let (name, rest) ← tagged? "reason" v
  match ← word? name with
  | "manifest_unreadable" => (single? "message" Value.text? rest).map manifestUnreadable
  | "no_entry_script" => bare? rest noEntryScript
  | "script_unreadable" => (single? "message" Value.text? rest).map scriptUnreadable
  | "ignored" => (single? "pattern" Value.text? rest).map ignored
  | _ => none

/-- An outcome as JSON. -/
def Verdict.toJson : Verdict → Value
  | conforming => .object [("status", .string "conforming")]
  | nonConforming e => .object [("status", .string "non_conforming"), ("failure", e.toJson)]
  | unchecked reason => .object (("status", .string "unchecked") :: reason.members)

/-- The outcome that a value holds. -/
def Verdict.ofJson? (v : Value) : Option Verdict := do
  let (name, rest) ← tagged? "status" v
  match name with
  | .string "conforming" => bare? rest conforming
  | .string "non_conforming" => (single? "failure" Failure.ofJson? rest).map nonConforming
  | .string "unchecked" => (Reason.ofJson? rest).map unchecked
  | _ => none

/-! ## Findings -/

/-- The fields of a finding. -/
def Finding.fields : List String := ["name", "kind", "entry_script", "verdict"]

/-- A finding as JSON. -/
def Finding.toJson (f : Finding) : Value :=
  .object [("name", .string f.name), ("kind", .string f.kind.label),
    ("entry_script", Json.ofText? (f.entryScript.map Path.display)), ("verdict", f.verdict.toJson)]

/-- A path as JSON. -/
def Path.ofJson? (v : Value) : Option Path := v.text?.map Path.ofString

/-- The finding that a value holds. -/
def Finding.ofJson? (v : Value) : Option Finding := do
  let fields ← v.fields? Finding.fields
  return {
    name := ← Json.field? Value.text? "name" fields
    kind := ← Json.field? (Value.word? DependencyKind.ofLabel?) "kind" fields
    entryScript := ← Json.optional? Path.ofJson? "entry_script" fields
    verdict := ← Json.field? Verdict.ofJson? "verdict" fields }

/-! ## Summaries and results -/

/-- The fields of a summary. -/
def Summary.fields : List String :=
  ["total_dependencies", "conforming", "non_conforming", "unchecked", "duration"]

/-- A summary as JSON, with its duration in milliseconds. -/
def Summary.toJson (s : Summary) : Value :=
  .object ((Summary.fields.zip
    [s.total, s.conforming, s.nonConforming, s.unchecked, s.duration.storedMillis]).map fun m =>
      (m.1, .number (.integer (m.2 : Nat))))

/-- The summary that a value holds. -/
def Summary.ofJson? (v : Value) : Option Summary := do
  let fields ← v.fields? Summary.fields
  return {
    total := ← Json.field? Value.nat? "total_dependencies" fields
    conforming := ← Json.field? Value.nat? "conforming" fields
    nonConforming := ← Json.field? Value.nat? "non_conforming" fields
    unchecked := ← Json.field? Value.nat? "unchecked" fields
    duration := Duration.ofMillis (← Json.field? Value.nat? "duration" fields) }

/-- A report as JSON. -/
def Report.toJson (r : Report) : Value := .array (r.names.map .string)

/-- The moment that a value holds. -/
def Moment.ofJson? (v : Value) : Option Moment := v.text?.bind fun s => Moment.parse? s.toList

namespace Results

/-- The fields of results. -/
def fields : List String :=
  ["project_dir", "target", "report", "dependencies", "summary", "root_manifest_error",
    "checked_at"]

/-- Results as JSON. -/
def toJson (r : Results) : Value :=
  .object [("project_dir", .string r.project.display), ("target", .string r.target.key),
    ("report", r.report.toJson), ("dependencies", .array (r.findings.map Finding.toJson)),
    ("summary", r.summary.toJson), ("root_manifest_error", Json.ofText? r.rootError),
    ("checked_at", .string (String.ofList r.checkedAt.render))]

/-- The results that a value holds. -/
def ofJson? (v : Value) : Option Results := do
  let fields ← v.fields? fields
  return {
    project := ← Json.field? Path.ofJson? "project_dir" fields
    target := ← Json.field? (Value.word? Edition.ofKey?) "target" fields
    report := ⟨← Json.field? (Value.list? Value.text?) "report" fields⟩
    findings := ← Json.field? (Value.list? Finding.ofJson?) "dependencies" fields
    summary := ← Json.field? Summary.ofJson? "summary" fields
    rootError := ← Json.optional? Value.text? "root_manifest_error" fields
    checkedAt := ← Json.field? Moment.ofJson? "checked_at" fields }

/-- How much of a text matters to results. -/
def shape : Json.Shape :=
  .record [("project_dir", .whole), ("target", .whole), ("report", .whole),
    ("dependencies", .each (.flat Finding.fields)), ("summary", .flat Summary.fields),
    ("root_manifest_error", .whole), ("checked_at", .whole)]

/-- The results that a text holds. -/
def ofText? (text : String) : Option Results := (Json.read text shape).toOption.bind ofJson?

/-- The text of results, over several lines or in one. -/
def jsonText (r : Results) (pretty : Bool) : String :=
  String.ofList (if pretty then r.toJson.pretty else r.toJson.compact)

end Results
end EditionCheck
