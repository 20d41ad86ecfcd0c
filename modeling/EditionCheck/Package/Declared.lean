import EditionCheck.Diagnostic
import EditionCheck.Package.Manifest

/-!
  The dependencies that a project declares.

  The selected mappings are read in a fixed order and a name counts where it is declared first. What
  there is to say about the project's manifest is returned beside the result, as diagnostics.
-/

namespace EditionCheck

/-- A declared name and the mapping that declares it. -/
structure Declared where
  name : String
  kind : DependencyKind
  deriving DecidableEq, Repr

/-- Which mappings are read besides the dependencies proper. -/
structure Selection where
  development : Bool
  optional : Bool
  deriving DecidableEq, Repr

namespace Selection

/-- Only the dependencies proper. -/
def productionOnly : Selection := ⟨false, false⟩

/-- A kind is selected. -/
def admits (s : Selection) : DependencyKind → Bool
  | .production => true
  | .development => s.development
  | .optional => s.optional

/-- The selected kinds, in order. -/
def kinds (s : Selection) : List DependencyKind := DependencyKind.all.filter s.admits

end Selection

namespace Declared

/-- What the mappings of the given kinds declare, in order and with repetitions. -/
def listed (m : Manifest) (kinds : List DependencyKind) : List Declared :=
  kinds.flatMap fun k => ((m.requirements? k).getD []).map fun r => ⟨r.name, k⟩

/-- The declarations whose name was not declared before; `seen` holds the names before them. -/
def firstOnly (seen : List String) : List Declared → List Declared
  | [] => []
  | d :: ds => if d.name ∈ seen then firstOnly seen ds else d :: firstOnly (d.name :: seen) ds

/-- The dependencies that a manifest declares under a selection. -/
def ofManifest (m : Manifest) (s : Selection) : List Declared := firstOnly [] (listed m s.kinds)

/-- The manifest has none of the selected mappings. -/
def noneSelected (m : Manifest) (s : Selection) : Bool :=
  s.kinds.all fun k => (m.requirements? k).isNone

/-- What is said about a manifest that has none of the selected mappings. -/
def emptyMessage (project : Path) : String :=
  "package.json in " ++ project.display ++ " declares no selected dependencies, nothing to check"

/-- What is said about a manifest that cannot be loaded. -/
def unloadableMessage (project : Path) (e : Problem) : String :=
  "Failed to load package.json in " ++ project.display ++ ": " ++ e.userMessage

/-- The declared dependencies of a project, and what there is to say about its manifest. -/
def load (files : File.Lookup) (project : Path) (s : Selection) :
    Except Problem (List Declared) × List Diagnostic :=
  match Manifest.ofPackage files project with
  | .error e => (.error e, [.ofError (unloadableMessage project e)])
  | .ok m =>
    (.ok (ofManifest m s),
      if noneSelected m s then [.ofWarning (emptyMessage project)] else [])

/-- The names under the dependencies proper, if the manifest can be loaded. -/
def loadNames (files : File.Lookup) (project : Path) :
    Option (List String) × List Diagnostic :=
  let (result, said) := load files project .productionOnly
  (result.toOption.map fun ds => ds.map Declared.name, said)

end Declared
end EditionCheck
