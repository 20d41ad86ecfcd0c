import EditionCheck.Keyed

/-!
  TOML values and the rules by which tables grow.

  A table remembers how it came to be, because that decides what may still be added to it: an inline
  table is closed, a table may be named by one header only, and a dotted key may enter only tables
  that no header has named. `Entries.define` adds a value at a dotted key, `openTable` and
  `openElement` follow a header; each is `none` where the rules forbid it.
-/

namespace EditionCheck.Toml

/-- How a table came to be. -/
inductive Origin where
  /-- A header names it. -/
  | header
  /-- It lies on the way to a table that a header names. -/
  | implied
  /-- It lies on the way to the last part of a dotted key. -/
  | dotted
  /-- It is written in braces. -/
  | inline
  deriving DecidableEq, Repr

/-- A TOML value. -/
inductive Value where
  | string (s : String)
  | integer (n : Int)
  | real (x : Float)
  | boolean (b : Bool)
  /-- A date, a time or both, as written. -/
  | moment (spelling : String)
  | array (items : List Value)
  | table (origin : Origin) (entries : List (String × Value))
  /-- The elements of a list of tables, each opened by a header of its own. -/
  | tables (elements : List (List (String × Value)))
  deriving Repr

instance : Inhabited Value := ⟨.boolean false⟩

/-- The entries of a table. -/
abbrev Entries := List (String × Value)

/-- The parts of a key. -/
abbrev Key := List String

namespace Entries

/-- The list with its last item changed. -/
def changeLast (f : Entries → Option Entries) (elements : List Entries) : Option (List Entries) :=
  match elements.getLast? with
  | some last => (f last).map fun changed => elements.dropLast ++ [changed]
  | none => none

/-! ## Keys -/

/-- A dotted key may enter a table of this origin. -/
def Enterable (o : Origin) : Bool := o == .implied || o == .dotted

/-- `v` at a key. The tables on the way are made where they are missing; the last of them has to
have come from dotted keys, and nothing may be bound there yet. -/
def define (v : Value) : Key → Entries → Option Entries
  | [], _ => none
  | [k], es =>
    match Keyed.get? k es with
    | none => some (Keyed.put k v es)
    | some _ => none
  | k :: rest, es =>
    match Keyed.get? k es with
    | none => (define v rest []).map fun sub => Keyed.put k (.table .dotted sub) es
    | some (.table o sub) =>
      if Enterable o && (1 < rest.length || o == .dotted) then
        (define v rest sub).map fun sub' => Keyed.put k (.table o sub') es
      else none
    | some (.tables elements) =>
      if 1 < rest.length then
        (changeLast (define v rest) elements).map fun changed => Keyed.put k (.tables changed) es
      else none
    | some _ => none

/-- The entries of an inline table that gives these values in order. -/
def ofPairs (pairs : List (Key × Value)) : Option Entries :=
  pairs.foldlM (fun es p => define p.2 p.1 es) []

/-! ## Headers -/

/-- The entries changed at the table that a path leads to. A list of tables leads to its last
element, and what is missing becomes a table on the way. -/
def within (f : Entries → Option Entries) : Key → Entries → Option Entries
  | [], es => f es
  | k :: rest, es =>
    match Keyed.get? k es with
    | none => (within f rest []).map fun sub => Keyed.put k (.table .implied sub) es
    | some (.table o sub) =>
      if o == .inline then none
      else (within f rest sub).map fun sub' => Keyed.put k (.table o sub') es
    | some (.tables elements) =>
      (changeLast (within f rest) elements).map fun changed => Keyed.put k (.tables changed) es
    | some _ => none

/-- The entries in which a header has named the table `k`. -/
def nameTable (k : String) (es : Entries) : Option Entries :=
  match Keyed.get? k es with
  | none => some (Keyed.put k (.table .header []) es)
  | some (.table .implied sub) => some (Keyed.put k (.table .header sub) es)
  | some _ => none

/-- The entries in which the list of tables `k` has one more element. -/
def nameElement (k : String) (es : Entries) : Option Entries :=
  match Keyed.get? k es with
  | none => some (Keyed.put k (.tables [[]]) es)
  | some (.tables elements) => some (Keyed.put k (.tables (elements ++ [[]])) es)
  | some _ => none

/-- A change of what the last part of a path is bound to. -/
def atLast (f : String → Entries → Option Entries) (path : Key) (es : Entries) : Option Entries :=
  match path.getLast? with
  | some k => within (f k) path.dropLast es
  | none => none

/-- The entries after a header for a table. -/
def openTable : Key → Entries → Option Entries := atLast nameTable

/-- The entries after a header for an element of a list of tables. -/
def openElement : Key → Entries → Option Entries := atLast nameElement

end Entries
end EditionCheck.Toml
