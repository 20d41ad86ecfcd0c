import EditionCheck.File.Lookup
import EditionCheck.Text.Utf8

/-!
  A disk of files, directories and symbolic links.

  Every item stands at a place, the names that lead to it from the root. `Disk.walk` follows a path
  name by name, and links on the way, at most forty; a piece of a path that is empty or a dot stays
  in a directory, so a slash at the end asks for one. Nothing is refused for want of permission.
  Reading and writing fail with the wording of the operating system.
-/

namespace EditionCheck.File

/-- The names that lead from the root of a disk to an item. -/
abbrev Place := List (List Char)

/-- What stands at a place, with its permission bits. -/
inductive Item where
  | file (bytes : List UInt8) (mode : Nat)
  | directory (mode : Nat)
  | link (target : Path)
  deriving DecidableEq, Repr

namespace Item

/-- The kind of an item, a link not followed. -/
def kind : Item → Kind
  | file _ _ => .file
  | directory _ => .directory
  | link _ => .other

/-- The permission bits; a link has all. -/
def mode : Item → Nat
  | file _ m | directory m => m
  | link _ => 0o777

/-- The item with other permission bits. -/
def withMode (m : Nat) : Item → Item
  | file bytes _ => file bytes m
  | directory _ => directory m
  | link t => link t

/-- A file as it is made. -/
def newFile (bytes : List UInt8) : Item := file bytes 0o644

/-- A directory as it is made. -/
def newDirectory : Item := directory 0o755

end Item

/-- The number that the operating system gives to a failure, and its name for it. -/
def Trouble.systemText : Trouble → String
  | notFound => "No such file or directory (os error 2)"
  | permissionDenied => "Permission denied (os error 13)"
  | alreadyExists => "File exists (os error 17)"
  | notADirectory => "Not a directory (os error 20)"
  | isADirectory => "Is a directory (os error 21)"
  | linkLoop => "Too many levels of symbolic links (os error 40)"
  | invalidData => "stream did not contain valid UTF-8"
  | other => "failed to create whole tree"

/-- A failure in the wording of the operating system. -/
def Failed.ofTrouble (t : Trouble) : Failed := ⟨t, t.systemText⟩

/-- A disk, and the directory from which relative paths start. -/
structure Disk where
  here : Place
  items : List (Place × Item)
  deriving DecidableEq, Repr

namespace Disk

/-- The item at a place; the root is a directory. -/
def item? (d : Disk) (at_ : Place) : Option Item :=
  if at_ = [] then some .newDirectory else (d.items.find? fun e => e.1 = at_).map (·.2)

/-- The disk with an item at a place. -/
def put (d : Disk) (at_ : Place) (i : Item) : Disk :=
  { d with items := (at_, i) :: d.items.filter fun e => e.1 ≠ at_ }

/-! ## Walking -/

/-- Where a walk ends: at an item, or at a name that an existing directory lacks. -/
inductive Spot where
  | found (at_ : Place)
  | vacant (at_ : Place)
  deriving DecidableEq, Repr

/-- How many links one walk may follow. -/
def maxLinks : Nat := 40

/-- The walk from the directory at `at_` over the pieces of a path. A link at the end is followed
only if `follow` says so; `jump` takes over where one is followed. -/
def walkPieces (d : Disk) (follow : Bool) (jump : Place → Path → Place → Except Trouble Spot)
    (at_ : Place) : List (List Char) → Except Trouble Spot
  | [] => .ok (.found at_)
  | s :: rest =>
    if s = [] || s = ['.'] then walkPieces d follow jump at_ rest
    else if s = ['.', '.'] then walkPieces d follow jump at_.dropLast rest
    else
      let next := at_ ++ [s]
      match d.item? next with
      | none => if rest.isEmpty then .ok (.vacant next) else .error .notFound
      | some (.directory _) => walkPieces d follow jump next rest
      | some (.file _ _) => if rest.isEmpty then .ok (.found next) else .error .notADirectory
      | some (.link target) =>
        if rest.isEmpty && !follow then .ok (.found next) else jump at_ target rest

/-- The walk from `at_` over a path and then over further pieces, with so many links to follow. -/
def walkFrom (d : Disk) (follow : Bool) : Nat → Place → Path → List (List Char) →
    Except Trouble Spot
  | links, at_, p, rest =>
    if p.text = [] then .error .notFound
    else
      walkPieces d follow
        (match links with
          | 0 => fun _ _ _ => .error .linkLoop
          | links + 1 => walkFrom d follow links)
        (if p.isAbsolute then [] else at_) (p.body ++ rest)

/-- Where a path leads. -/
def walk (d : Disk) (follow : Bool) (p : Path) : Except Trouble Spot :=
  d.walkFrom follow maxLinks d.here p []

/-- The item to which a path leads, and its place. -/
def locate (d : Disk) (follow : Bool) (p : Path) : Except Trouble (Place × Item) :=
  match d.walk follow p with
  | .error t => .error t
  | .ok (.vacant _) => .error .notFound
  | .ok (.found at_) =>
    match d.item? at_ with
    | some i => .ok (at_, i)
    | none => .error .notFound

/-! ## Asking -/

/-- The item to which a path leads, links followed. -/
def target? (d : Disk) (p : Path) : Option Item := ((d.locate true p).toOption).map (·.2)

/-- Something stands at the end of a path. -/
def present (d : Disk) (p : Path) : Bool := (d.target? p).isSome

/-- A path leads to a file. -/
def isFile (d : Disk) (p : Path) : Bool := (d.target? p).map Item.kind == some .file

/-- A path leads to a directory. -/
def isDirectory (d : Disk) (p : Path) : Bool := (d.target? p).map Item.kind == some .directory

/-- The bytes of the file to which a path leads. -/
def bytes (d : Disk) (p : Path) : Except Failed (List UInt8) :=
  match d.locate true p with
  | .error t => .error (.ofTrouble t)
  | .ok (_, .file bytes _) => .ok bytes
  | .ok _ => .error (.ofTrouble .isADirectory)

/-- The text of the file to which a path leads, which has to be without fault. -/
def readStrict (d : Disk) (p : Path) : Except Failed String :=
  match d.bytes p with
  | .error e => .error e
  | .ok bytes =>
    match Text.Utf8.decode? bytes with
    | some cs => .ok (String.ofList cs)
    | none => .error (.ofTrouble .invalidData)

/-- The text of the file to which a path leads, with faults replaced. -/
def readLossy (d : Disk) (p : Path) : Except Failed String :=
  (d.bytes p).map fun bytes => String.ofList (Text.Utf8.decodeLossy bytes)

/-- The disk as answers about files. -/
def lookup (d : Disk) : Lookup where
  present := d.present
  kind? p := ((d.locate false p).toOption).map fun e => e.2.kind
  read := d.readLossy

/-! ## Changing -/

/-- The pieces of a path without the empty ones at its end. -/
def trimmedPieces (p : Path) : List (List Char) :=
  (p.body.reverse.dropWhile (·.isEmpty)).reverse

/-- A path without the slashes at its end. -/
def unslashed (p : Path) : Path := Path.ofPieces p.isAbsolute (trimmedPieces p)

/-- The directory that would hold the end of a path whose slashes at the end do not count, as a
path that only a directory answers. -/
def holder (p : Path) : Path := Path.ofPieces p.isAbsolute ((trimmedPieces p).dropLast ++ [['.']])

/-- The disk after a file has been written, which is made where it is missing. No file can be made
at a path with a slash at its end. -/
def writeBytes (d : Disk) (p : Path) (bytes : List UInt8) : Except Failed Disk :=
  let end? := if p.text.getLast? == some '/' then d.walk true (holder p) else d.walk true p
  match end? with
  | .error t => .error (.ofTrouble t)
  | .ok (.vacant at_) => .ok (d.put at_ (.newFile bytes))
  | .ok (.found at_) =>
    match d.item? at_ with
    | some (.file _ mode) => .ok (d.put at_ (.file bytes mode))
    | _ => .error (.ofTrouble .isADirectory)

/-- The disk after a text has been written to a file. -/
def write (d : Disk) (p : Path) (text : String) : Except Failed Disk :=
  d.writeBytes p (Text.Utf8.encode text.toList)

/-- The disk with an item at a path where there was none. -/
def make (d : Disk) (p : Path) (i : Item) : Except Failed Disk :=
  match d.walk false (unslashed p) with
  | .error t => .error (.ofTrouble t)
  | .ok (.found _) => .error (.ofTrouble .alreadyExists)
  | .ok (.vacant at_) => .ok (d.put at_ i)

/-- The disk after the directory at `p` has been made, together with those above it that are
missing. The first argument bounds how many there are. -/
def makeDirectoriesWithin : Nat → Disk → Path → Except Failed Disk
  | 0, d, _ => .ok d
  | fuel + 1, d, p =>
    if p.text = [] then .ok d
    else
      match d.make p .newDirectory with
      | .ok made => .ok made
      | .error e =>
        if e.trouble ≠ .notFound then if d.isDirectory p then .ok d else .error e
        else
          match p.parent? with
          | none => .error (.ofTrouble .other)
          | some above => do
            let made ← makeDirectoriesWithin fuel d above
            match made.make p .newDirectory with
            | .ok done => return done
            | .error e => if made.isDirectory p then return made else throw e

/-- The disk after the directory at `p` has been made, together with those above it that are
missing. -/
def makeDirectories (d : Disk) (p : Path) : Except Failed Disk :=
  makeDirectoriesWithin (p.text.length + 1) d p

/-- The disk after the permission bits of an item have been changed. -/
def setMode (d : Disk) (p : Path) (mode : Nat) : Except Failed Disk :=
  match d.locate true p with
  | .error t => .error (.ofTrouble t)
  | .ok (at_, i) => .ok (d.put at_ (i.withMode mode))

end Disk
end EditionCheck.File
