import EditionCheck.Keyed

/-!
  JSON values.

  An object is the list of its members as they were written, repeated keys included. `settle` gives
  the value that such a text means: a repeated key keeps its first place and its last value, at
  every depth.
-/

namespace EditionCheck.Json

/-- A number: a whole number of 64 bits, or a double. -/
inductive Number where
  | integer (n : Int)
  | real (x : Float)
  deriving Repr

/-- A JSON value. -/
inductive Value where
  | null
  | bool (b : Bool)
  | number (n : Number)
  | string (s : String)
  | array (items : List Value)
  | object (members : List (String × Value))
  deriving Repr

instance : Inhabited Value := ⟨.null⟩

mutual

/-- The value with every object settled. -/
def Value.settle : Value → Value
  | .array items => .array (settleItems items)
  | .object members => .object (Keyed.settle (settleMembers members))
  | v => v

/-- `Value.settle` on each item. -/
def settleItems : List Value → List Value
  | [] => []
  | v :: rest => v.settle :: settleItems rest

/-- `Value.settle` on the value of each member. -/
def settleMembers : List (String × Value) → List (String × Value)
  | [] => []
  | (k, v) :: rest => (k, v.settle) :: settleMembers rest

end

/-- The text of a string value. -/
def Value.text? : Value → Option String
  | .string s => some s
  | _ => none

end EditionCheck.Json
