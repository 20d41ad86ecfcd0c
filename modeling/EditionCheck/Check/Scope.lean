import EditionCheck.Check.Run

/-!
  The files that a check may ask about.

  How far the list goes depends on what is known already: a manifest that cannot be read leads no
  further. Asking for the files of a list and making the list again reaches all of them in three
  rounds.
-/

namespace EditionCheck.Check

/-- How often a list has to be made to reach every file. -/
def rounds : Nat := 3

/-- The manifest of the package in a directory. -/
def manifestPath (directory : Path) : Path := directory.child Manifest.fileName

/-- The files of one dependency. -/
def scopeOf (files : File.Lookup) (o : Options) (project : Path) (d : Declared) : List Path :=
  let installed := (modulesRoot o project).child d.name
  manifestPath installed ::
    match Manifest.ofPackage files installed with
    | .error _ => []
    | .ok m => Entry.candidates m installed

/-- The files of a check. -/
def scope (files : File.Lookup) (o : Options) (project : Path) : List Path :=
  manifestPath project ::
    match (Declared.load files project o.selection).1 with
    | .error _ => []
    | .ok ds => ds.flatMap (scopeOf files o project)

end EditionCheck.Check
