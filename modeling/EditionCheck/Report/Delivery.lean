import EditionCheck.File.Disk
import EditionCheck.Problem

/-!
  Where written results go: to a file on the disk, or to be printed.

  The directory of the file has to be there; the file itself is made or written over.
-/

namespace EditionCheck.Report

/-- What a delivered text leaves behind: the disk, and what is printed. -/
structure Delivery where
  disk : File.Disk
  printed : String
  deriving DecidableEq, Repr

/-- The directory that is to hold a file, where the path names one. -/
def heldBy (p : Path) : Option Path := p.parent?.filter fun above => !above.text.isEmpty

/-- A text delivered to a file, or printed where none is given. -/
def deliver (d : File.Disk) (file : Option Path) (text : String) : Except Problem Delivery :=
  match file with
  | none => .ok ⟨d, text⟩
  | some p =>
    match (heldBy p).filter fun above => !d.isDirectory above with
    | some above => .error (.outputDirectoryMissing above)
    | none =>
      match d.write p text with
      | .ok written => .ok ⟨written, ""⟩
      | .error e => .error (.reportUnwritten p e)

end EditionCheck.Report
