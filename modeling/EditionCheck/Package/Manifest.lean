import EditionCheck.Json.Reader
import EditionCheck.Json.Writer
import EditionCheck.Problem

/-!
  Package manifests.

  A manifest is a JSON object of which seven members matter. Four of them count only as strings and
  three only as objects; a value of another type is as good as none. A requirement that is no string
  is kept as its JSON text.
-/

namespace EditionCheck

/-- The mapping of a manifest that declares a dependency. -/
inductive DependencyKind where
  | production
  | development
  | optional
  deriving DecidableEq, Repr

namespace DependencyKind

/-- Every kind, in the order in which they are looked at. -/
def all : List DependencyKind := [production, development, optional]

/-- The member of a manifest that holds this kind. -/
def manifestKey : DependencyKind → String
  | production => "dependencies"
  | development => "devDependencies"
  | optional => "optionalDependencies"

/-- The name of a kind, also in data files. -/
def label : DependencyKind → String
  | production => "production"
  | development => "development"
  | optional => "optional"

/-- The kind with a given name. -/
def ofLabel? (s : String) : Option DependencyKind := all.find? fun k => k.label == s

end DependencyKind

/-- A declared dependency and the versions it admits. -/
structure Requirement where
  name : String
  version : String
  deriving DecidableEq, Repr

/-- The parts of a manifest that matter to a check. -/
structure Manifest where
  name : Option String
  version : Option String
  main : Option String
  packageType : Option String
  dependencies : Option (List Requirement)
  devDependencies : Option (List Requirement)
  optionalDependencies : Option (List Requirement)
  deriving DecidableEq, Repr

namespace Manifest

/-- The name of the file that holds a manifest. -/
def fileName : String := "package.json"

/-- The package declares its scripts to be modules. -/
def isModule (m : Manifest) : Bool := m.packageType == some "module"

/-- The declared main script, unless it is empty. -/
def mainScript? (m : Manifest) : Option String := m.main.filter (· ≠ "")

/-- The requirements of one kind, if the manifest has that mapping. -/
def requirements? (m : Manifest) : DependencyKind → Option (List Requirement)
  | .production => m.dependencies
  | .development => m.devDependencies
  | .optional => m.optionalDependencies

/-- The text of a member that is a string. -/
def textMember? (key : String) (members : List (String × Json.Value)) : Option String :=
  (Keyed.get? key members).bind Json.Value.text?

/-- The text of a version: a string as it is, anything else in JSON. -/
def versionText : Json.Value → String
  | .string s => s
  | v => String.ofList v.compact

/-- The requirements in a member that is an object. -/
def mappingMember? (kind : DependencyKind) (members : List (String × Json.Value)) :
    Option (List Requirement) :=
  match Keyed.get? kind.manifestKey members with
  | some (.object entries) => some (entries.map fun e => ⟨e.1, versionText e.2⟩)
  | _ => none

/-- The manifest with the given members. -/
def ofMembers (members : List (String × Json.Value)) : Manifest where
  name := textMember? "name" members
  version := textMember? "version" members
  main := textMember? "main" members
  packageType := textMember? "type" members
  dependencies := mappingMember? .production members
  devDependencies := mappingMember? .development members
  optionalDependencies := mappingMember? .optional members

/-- The manifest in a text that stands in `file`. -/
def parse (file : Path) (text : String) : Except Problem Manifest :=
  match Json.parse text with
  | .error e => .error (.badJson file e)
  | .ok (.object members) => .ok (ofMembers members)
  | .ok _ => .error (.manifestShape file "Root value is not an object")

/-- The file that a text is parsed as before it is told where it stands. -/
def placeholder : Path := Path.ofString fileName

/-- A problem with the text of a manifest, told of the file in which the text stands. -/
def located (file : Path) : Problem → Problem
  | .badJson _ fault => .badJson file fault
  | .manifestShape _ message => .manifestShape file message
  | e => e

/-- The manifest in the file at a path. -/
def load (files : File.Lookup) (path : Path) : Except Problem Manifest :=
  if files.present path then
    match files.read path with
    | .ok text => (parse placeholder text).mapError (located path)
    | .error ⟨.permissionDenied, _⟩ => .error (.permissionDenied path)
    | .error e => .error (.inaccessible path e.message)
  else .error (.manifestMissing (path.parent?.getD path))

/-- The manifest of the package in a directory. -/
def ofPackage (files : File.Lookup) (directory : Path) : Except Problem Manifest :=
  load files (directory.child fileName)

end Manifest
end EditionCheck
