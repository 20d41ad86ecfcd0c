import EditionCheck.Text.Pieces

/-!
  File paths, kept as they were written.

  `parts` reads a path: repeated slashes and inner `.` components vanish, a leading `.` stays.
  `parent?`, `fileName?`, `extension?` and `push` keep the text of what they do not change. `normal`
  folds `.` and `..` away and forgets the spelling; `joined` appends the components of a text to a
  base without ever leaving the base through a leading slash.
-/

namespace EditionCheck

/-- A path as it was written. -/
structure Path where
  text : List Char
  deriving DecidableEq, Repr

namespace Path

instance : Inhabited Path := ⟨⟨[]⟩⟩

/-- The path written as `s`. -/
def ofString (s : String) : Path := ⟨s.toList⟩

/-- The text of a path. -/
def display (p : Path) : String := String.ofList p.text

/-- One component of a path. -/
inductive Part where
  | root
  | here
  | up
  | name (n : List Char)
  deriving DecidableEq, Repr

/-- The path starts at the root. -/
def isAbsolute (p : Path) : Bool := p.text.head? == some '/'

/-- The pieces after the root. -/
def body (p : Path) : List (List Char) :=
  match p.text with
  | '/' :: cs => Text.pieces '/' cs
  | cs => Text.pieces '/' cs

/-- What a piece stands for; `leading` at the start of a path without root. -/
def part? (leading : Bool) (s : List Char) : Option Part :=
  if s = [] then none
  else if s = ['.'] then if leading then some .here else none
  else if s = ['.', '.'] then some .up
  else some (.name s)

/-- What the pieces of a path stand for. -/
def partsOf : Bool → List (List Char) → List Part
  | _, [] => []
  | leading, s :: rest => (part? leading s).toList ++ partsOf false rest

/-- The components of a path. -/
def parts (p : Path) : List Part :=
  if p.isAbsolute then .root :: partsOf false p.body else partsOf true p.body

/-- The pieces without those at the end that stand for nothing. -/
def trimPieces : Bool → List (List Char) → List (List Char)
  | _, [] => []
  | leading, s :: rest =>
    match trimPieces false rest with
    | [] => if (part? leading s).isSome then [s] else []
    | kept => s :: kept

/-- The text of a path with the given pieces after its root. -/
def ofPieces (absolute : Bool) (pieces : List (List Char)) : Path :=
  ⟨if absolute then '/' :: Text.joinPieces '/' pieces else Text.joinPieces '/' pieces⟩

/-- The path without its last component; the root and the empty path have none to lose. -/
def parent? (p : Path) : Option Path :=
  let leading := !p.isAbsolute
  match trimPieces leading p.body with
  | [] => none
  | kept => some (ofPieces p.isAbsolute (trimPieces leading kept.dropLast))

/-- The path without its last component, if it has one. -/
def pop (p : Path) : Path := p.parent?.getD p

/-- The path followed by `q`, which replaces it when `q` is absolute. -/
def push (p q : Path) : Path :=
  if q.isAbsolute then q
  else if p.text = [] || p.text.getLast? == some '/' then ⟨p.text ++ q.text⟩
  else ⟨p.text ++ '/' :: q.text⟩

/-- The path followed by the path written as `s`. -/
def child (p : Path) (s : String) : Path := p.push (ofString s)

/-- The name at the end of a path. -/
def fileName? (p : Path) : Option (List Char) :=
  match p.parts.getLast? with
  | some (.name n) => some n
  | _ => none

/-- What follows the last dot of the file name, unless that dot starts the name. -/
def extension? (p : Path) : Option (List Char) :=
  match p.fileName? with
  | none => none
  | some n =>
    let after := (n.reverse.takeWhile (· ≠ '.')).reverse
    let before := n.take (n.length - after.length - 1)
    if before = [] then none else some after

/-! ## Normal forms -/

/-- A path without `.` and `..`: whether it starts at the root, and its names. -/
structure Normal where
  absolute : Bool
  names : List (List Char)
  deriving DecidableEq, Repr

/-- The normal form extended by one component; `..` takes the last name away. -/
def Normal.step (n : Normal) : Part → Normal
  | .root => ⟨true, []⟩
  | .here => n
  | .up => ⟨n.absolute, n.names.dropLast⟩
  | .name s => ⟨n.absolute, n.names ++ [s]⟩

/-- The normal form of a path. -/
def normal (p : Path) : Normal := p.parts.foldl Normal.step ⟨false, []⟩

/-- The paths above a normal form, nearest first; the empty relative path is not counted. -/
def Normal.ancestors (n : Normal) : List Normal :=
  let proper := (List.range n.names.length).reverse.map fun k =>
    (⟨n.absolute, n.names.take k⟩ : Normal)
  proper.filter fun a => a.absolute || a.names ≠ []

/-- The base extended by one component of a relative text. -/
def extend (base : Path) : Part → Path
  | .root | .here => base
  | .up => base.pop
  | .name s => base.push ⟨s⟩

/-- The base followed by the components of a text, whose root and `.` components do not count. -/
def joined (base : Path) (relative : String) : Path :=
  (ofString relative).parts.foldl extend base

/-! ## Absolute paths -/

/-- The text of a component. -/
def Part.text : Part → List Char
  | .root => ['/']
  | .here => ['.']
  | .up => ['.', '.']
  | .name s => s

/-- The path followed by components. -/
def pushAll (p : Path) (parts : List Part) : Path := parts.foldl (fun q c => q.push ⟨c.text⟩) p

/-- Exactly two slashes stand at the start. -/
def hasDoubleRoot (p : Path) : Bool :=
  match p.text with
  | '/' :: '/' :: '/' :: _ => false
  | '/' :: '/' :: _ => true
  | _ => false

/-- The path seen from the directory `cwd`, spelled without `.` components and repeated slashes.
A double root and a slash at the end stay, and the empty path stays empty. -/
def absoluteFrom (p cwd : Path) : Path :=
  if p.text = [] then p
  else
    let whole :=
      if p.hasDoubleRoot then pushAll ⟨['/', '/']⟩ p.parts.tail
      else if p.isAbsolute then pushAll ⟨[]⟩ p.parts
      else
        match p.parts with
        | .here :: rest => pushAll cwd rest
        | parts => pushAll cwd parts
    if p.text.getLast? == some '/' then whole.push ⟨[]⟩ else whole

end Path
end EditionCheck
