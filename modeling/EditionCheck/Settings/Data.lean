import EditionCheck.Json.Decode
import EditionCheck.Json.Writer
import EditionCheck.Settings.Basic
import EditionCheck.Toml.Document

/-!
  Layers of settings in data formats.

  A layer is a record whose fields may be left out. `Layer.ofFields?` reads it from any format whose
  values can be taken for texts, truth values, lists of texts and words; JSON and TOML are two of
  them. In a list of settings the fields stand in the order of `Layer.fields`.
-/

namespace EditionCheck

/-- What the values of a data format can be taken for. -/
structure ValueReader (V : Type) where
  text? : V → Option String
  truth? : V → Option Bool
  texts? : V → Option (List String)
  /-- A word of a fixed set. -/
  word? : V → Option String

/-- JSON values. -/
def Json.reader : ValueReader Json.Value where
  text? := Json.Value.text?
  truth? := Json.Value.bool?
  texts? := Json.Value.list? Json.Value.text?
  word? := Json.Value.word? some

namespace Toml

/-- The text of a string. -/
def Value.text? : Value → Option String
  | .string s => some s
  | _ => none

/-- A truth value. -/
def Value.truth? : Value → Option Bool
  | .boolean b => some b
  | _ => none

/-- A list of strings. -/
def Value.texts? : Value → Option (List String)
  | .array items => items.mapM Value.text?
  | _ => none

/-- A word, also as the only key of a table, with nothing under it. -/
def Value.word? : Value → Option String
  | .string s => some s
  | .table _ [(k, .table _ [])] => some k
  | .table _ [(k, .array [])] => some k
  | _ => none

/-- TOML values. -/
def reader : ValueReader Value := ⟨Value.text?, Value.truth?, Value.texts?, Value.word?⟩

end Toml

namespace Settings.Layer

/-- The names of the fields. -/
def fields : List String :=
  ["project_path", "target", "log_conforming_packages", "include_dev_deps",
    "include_optional_deps", "ignore_patterns", "modules_dir", "output_format", "output_file",
    "use_colors", "show_progress", "quiet", "verbose", "fail_on_nonconforming"]

/-- What `decode` makes of a field, if the field is set. -/
def field? (get : String → Option V) (decode : V → Option α) (key : String) : Option (Option α) :=
  match get key with
  | none => some none
  | some v => (decode v).map some

/-- The layer whose fields `get` gives. -/
def ofFields? (r : ValueReader V) (get : String → Option V) : Option Layer := do
  let path := field? get fun v => (r.text? v).map Path.ofString
  let truth := field? get r.truth?
  return {
    projectPath := ← path "project_path"
    target := ← field? get (fun v => (r.word? v).bind Edition.ofKey?) "target"
    logConforming := ← truth "log_conforming_packages"
    development := ← truth "include_dev_deps"
    optional := ← truth "include_optional_deps"
    ignore := ← field? get r.texts? "ignore_patterns"
    modulesDir := ← field? get r.text? "modules_dir"
    outputFormat := ← field? get (fun v => (r.word? v).bind OutputFormat.ofKey?) "output_format"
    outputFile := ← path "output_file"
    useColors := ← truth "use_colors"
    showProgress := ← truth "show_progress"
    quiet := ← truth "quiet"
    verbose := ← truth "verbose"
    failOnNonConforming := ← truth "fail_on_nonconforming" }

/-! ## JSON -/

/-- The layer that a JSON value holds; a null sets nothing. -/
def ofJson? (v : Json.Value) : Option Layer := do
  let members ← v.fields? fields
  ofFields? Json.reader fun key =>
    match Keyed.get? key members with
    | some .null => none
    | r => r

/-- The layer that a JSON text holds. -/
def ofJsonText? (text : String) : Option Layer :=
  (Json.read text (.flat fields)).toOption.bind ofJson?

/-- A layer as JSON, with null for what it does not set. -/
def toJson (l : Layer) : Json.Value :=
  let text (s : Option String) : Json.Value := Json.ofText? s
  let path (p : Option Path) : Json.Value := text (p.map Path.display)
  let truth (b : Option Bool) : Json.Value := (b.map Json.Value.bool).getD .null
  .object (fields.zip [path l.projectPath, text (l.target.map Edition.key), truth l.logConforming,
    truth l.development, truth l.optional,
    (l.ignore.map fun ps => Json.Value.array (ps.map .string)).getD .null, text l.modulesDir,
    text (l.outputFormat.map OutputFormat.key), path l.outputFile, truth l.useColors,
    truth l.showProgress, truth l.quiet, truth l.verbose, truth l.failOnNonConforming])

/-! ## TOML -/

/-- The layer that a TOML text holds; what it does not know is passed over. -/
def ofTomlText? (text : String) : Option Layer :=
  (Toml.read? text).bind fun entries => ofFields? Toml.reader fun key => Keyed.get? key entries

end Settings.Layer
end EditionCheck
