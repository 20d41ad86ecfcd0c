import EditionCheck.Json.Reader

/-!
  Decoding JSON values into data.

  A record may be written as an object, in which members it does not know are passed over and none
  that it knows may be repeated, or as the list of all its fields. A member that is left out counts
  as null.
-/

namespace EditionCheck.Json

/-- The values of the named fields of a record. -/
def Value.fields? (names : List String) : Value → Option (List (String × Value))
  | .object members =>
    let known := members.filter fun m => m.1 ∈ names
    if (known.map (·.1)).Nodup then some known else none
  | .array items => if items.length = names.length then some (names.zip items) else none
  | _ => none

/-- A field that has to be there. -/
def field? (decode : Value → Option α) (key : String) (fields : List (String × Value)) : Option α :=
  (Keyed.get? key fields).bind decode

/-- A value that may be null. -/
def nullable? (decode : Value → Option α) : Value → Option (Option α)
  | .null => some none
  | v => (decode v).map some

/-- A field that may be null or left out. -/
def optional? (decode : Value → Option α) (key : String) (fields : List (String × Value)) :
    Option (Option α) :=
  match Keyed.get? key fields with
  | none => some none
  | some v => nullable? decode v

/-- A truth value. -/
def Value.bool? : Value → Option Bool
  | .bool b => some b
  | _ => none

/-- A whole number of 64 bits without sign. -/
def Value.nat? : Value → Option Nat
  | .number (.integer (.ofNat n)) => if n ≤ maxSignificand then some n else none
  | _ => none

/-- A list whose items all decode. -/
def Value.list? (decode : Value → Option α) : Value → Option (List α)
  | .array items => items.mapM decode
  | _ => none

/-- A word of a fixed set, also as the key of an object that holds null. -/
def Value.word? (ofWord? : String → Option α) : Value → Option α
  | .string s => ofWord? s
  | .object [(k, .null)] => ofWord? k
  | _ => none

/-- A number, or null. -/
def ofNat? : Option Nat → Value
  | some n => .number (.integer n)
  | none => .null

/-- A string, or null. -/
def ofText? : Option String → Value
  | some s => .string s
  | none => .null

end EditionCheck.Json
