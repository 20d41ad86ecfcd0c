/-!
  Entries under keys, in the order in which the keys first came.

  `get?` finds the value of a key and `put` binds a key, in place where it is bound already.
  `get?_put` says what a bound key changes.
-/

namespace EditionCheck.Keyed

/-- The first value bound to a key. -/
def get? (key : String) (entries : List (String × α)) : Option α :=
  (entries.find? fun e => e.1 == key).map (·.2)

theorem get?_cons (key k : String) (v : α) (rest : List (String × α)) :
    get? key ((k, v) :: rest) = if k = key then some v else get? key rest := by
  by_cases h : k = key <;> simp [get?, h]

/-- The entries with `key` bound to `value`: in place where the key is present, else at the end. -/
def put (key : String) (value : α) : List (String × α) → List (String × α)
  | [] => [(key, value)]
  | (k, v) :: rest => if k == key then (k, value) :: rest else (k, v) :: put key value rest

theorem get?_put (key k : String) (value : α) (entries : List (String × α)) :
    get? k (put key value entries) = if key = k then some value else get? k entries := by
  induction entries with
  | nil => by_cases h : key = k <;> simp [put, get?, h]
  | cons e rest ih =>
    obtain ⟨a, v⟩ := e
    simp only [get?] at ih ⊢
    by_cases h : a = key
    · subst h
      by_cases h' : a = k <;> simp [put, h']
    · by_cases h' : a = k
      · have : key ≠ k := fun e => h (h'.trans e.symm)
        simp [put, h', this, Ne.symm this]
      · simp [put, h, h', ih]

/-- The entries in which a repeated key keeps its first place and its last value. -/
def settle (entries : List (String × α)) : List (String × α) :=
  entries.foldl (fun done e => put e.1 e.2 done) []

end EditionCheck.Keyed
