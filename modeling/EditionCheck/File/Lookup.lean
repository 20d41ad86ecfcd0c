import EditionCheck.File.Path

/-!
  What a check may ask about files.

  A `Lookup` answers three questions about a path: whether something is there, what kind of thing
  it is, and what text it holds. Nothing is assumed about how the answers fit together.
-/

namespace EditionCheck.File

/-- What stands at a path, links not followed. -/
inductive Kind where
  | file
  | directory
  /-- A link or any other special entry. -/
  | other
  deriving DecidableEq, Repr

/-- The name used in data files. -/
def Kind.key : Kind → String
  | file => "file"
  | directory => "directory"
  | other => "other"

/-- Why reading or writing failed. -/
inductive Trouble where
  | notFound
  | permissionDenied
  | isADirectory
  | notADirectory
  | alreadyExists
  | linkLoop
  | invalidData
  | other
  deriving DecidableEq, Repr

/-- A failed access with its wording. -/
structure Failed where
  trouble : Trouble
  message : String
  deriving DecidableEq, Repr

/-- The answers about files that a check works with. -/
structure Lookup where
  /-- Something stands at the path, links followed. -/
  present : Path → Bool
  /-- What stands at the path, links not followed. -/
  kind? : Path → Option Kind
  /-- The text at the path. -/
  read : Path → Except Failed String

end EditionCheck.File
