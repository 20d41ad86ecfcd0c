import EditionCheck.File.Lookup

/-!
  Files held in memory.

  A tree is a list of entries, each at the normal form of a path. Adding an entry replaces what was
  at its path and creates the directories above it where nothing stands yet, so an entry that was
  named keeps its kind whatever is added below or above it later. `get?_set_of_ne`: an entry that is
  set changes nothing elsewhere.
-/

namespace EditionCheck.File

/-- An entry of a tree. -/
inductive Entry where
  | file (text : String)
  | directory
  | special
  deriving DecidableEq, Repr

/-- What kind of thing an entry is. -/
def Entry.kind : Entry → Kind
  | file _ => .file
  | directory => .directory
  | special => .other

/-- Entries at the normal forms of their paths, each at most once. -/
structure Tree where
  entries : List (Path.Normal × Entry)
  deriving DecidableEq, Repr

namespace Tree

/-- The tree without entries. -/
def empty : Tree := ⟨[]⟩

/-- The entry at a normal form. -/
def get? (t : Tree) (n : Path.Normal) : Option Entry :=
  (t.entries.find? fun e => e.1 = n).map (·.2)

/-- The tree with `e` at `n`. -/
def set (t : Tree) (n : Path.Normal) (e : Entry) : Tree :=
  ⟨(n, e) :: t.entries.filter fun x => x.1 ≠ n⟩

theorem get?_set_of_ne {n n' : Path.Normal} (h : n ≠ n') (t : Tree) (e : Entry) :
    (t.set n e).get? n' = t.get? n' := by
  have hhead : decide (n = n') = false := decide_eq_false h
  have hrest : (t.entries.filter fun x => decide (x.1 ≠ n)).find? (fun x => decide (x.1 = n')) =
      t.entries.find? fun x => decide (x.1 = n') := by
    rw [List.find?_filter]
    congr 1
    funext x
    by_cases hx : x.1 = n'
    · simp [hx, h.symm]
    · simp [hx]
  rw [get?, set, List.find?_cons, hhead]
  simp only
  rw [hrest, get?]

/-- The tree with a directory at `n` if nothing stands there. -/
def ensure (t : Tree) (n : Path.Normal) : Tree :=
  match t.get? n with
  | some _ => t
  | none => t.set n .directory

/-- The tree with an entry at a path and directories above it. -/
def add (t : Tree) (p : Path) (e : Entry) : Tree :=
  (p.normal.ancestors.foldl ensure t).set p.normal e

/-- The entry at a path. -/
def at? (t : Tree) (p : Path) : Option Entry := t.get? p.normal

/-- The text at a path; the wording quotes the path as given. -/
def read (t : Tree) (p : Path) : Except Failed String :=
  match t.at? p with
  | some (.file text) => .ok text
  | some _ => .error ⟨.other, p.display ++ " is not a file"⟩
  | none => .error ⟨.notFound, p.display ++ " does not exist"⟩

/-- The tree as answers about files. -/
def lookup (t : Tree) : Lookup where
  present p := (t.at? p).isSome
  kind? p := (t.at? p).map Entry.kind
  read := t.read

end Tree
end EditionCheck.File
