import EditionCheck.Package.Manifest
import EditionCheck.Script.Oracle

/-!
  The script that a loader runs first.

  A declared main script wins if it exists: a file is the entry, a directory leads to the index
  script inside it, anything else to nothing. A main script that is not declared or does not exist
  gives way to the index script of the package.
-/

namespace EditionCheck.Entry

/-- The name of an index script. -/
def indexName : String := "index.js"

/-- The path, if something stands there. -/
def existing? (files : File.Lookup) (p : Path) : Option Path :=
  if files.present p then some p else none

/-- The entry script of the package installed at a path. -/
def resolve (files : File.Lookup) (m : Manifest) (installed : Path) : Option Path :=
  let index := installed.child indexName
  match m.mainScript? with
  | none => existing? files index
  | some main =>
    let script := installed.joined main
    if files.present script then
      match files.kind? script with
      | some .file => some script
      | some .directory => existing? files (script.child indexName)
      | _ => none
    else existing? files index

/-- The paths that `resolve` may ask about. -/
def candidates (m : Manifest) (installed : Path) : List Path :=
  installed.child indexName :: (m.mainScript?.map fun main =>
    let script := installed.joined main
    [script, script.child indexName]).getD []

/-- How a script of a package is loaded: its extension decides, else the package. -/
def sourceKind (script : Path) (m : Manifest) : SourceKind :=
  match script.extension?.map String.ofList with
  | some "mjs" => .module
  | some "cjs" => .script
  | _ => if m.isModule then .module else .script

end EditionCheck.Entry
