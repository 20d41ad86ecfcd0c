import EditionCheck.Text.Blank

/-!
  Editions of the language, oldest first, and the texts that name one.

  An edition has a year, a label for people (`ES5`, `ES2015`) and a key for data files (`es5`,
  `es2015`). `ofText` reads a text typed by a user: padding and the case of ASCII letters do not
  matter, a single `es` may stand in front, and an edition may be given by its number or its year.
-/

namespace EditionCheck

/-- An edition of the language. -/
inductive Edition where
  | es5 | es2015 | es2016 | es2017 | es2018 | es2019 | es2020 | es2021 | es2022 | es2023 | es2024
  deriving DecidableEq, Repr

namespace Edition

instance : Inhabited Edition := ⟨es5⟩

/-- Every edition, oldest first. -/
def all : List Edition :=
  [es5, es2015, es2016, es2017, es2018, es2019, es2020, es2021, es2022, es2023, es2024]

/-- The year of publication. -/
def year : Edition → Nat
  | es5 => 2009
  | es2015 => 2015
  | es2016 => 2016
  | es2017 => 2017
  | es2018 => 2018
  | es2019 => 2019
  | es2020 => 2020
  | es2021 => 2021
  | es2022 => 2022
  | es2023 => 2023
  | es2024 => 2024

/-- Editions are ordered by year. -/
instance : LE Edition := ⟨fun a b => a.year ≤ b.year⟩

instance (a b : Edition) : Decidable (a ≤ b) := inferInstanceAs (Decidable (a.year ≤ b.year))

theorem le_def {a b : Edition} : a ≤ b ↔ a.year ≤ b.year := Iff.rfl

theorem le_trans {a b c : Edition} (h : a ≤ b) (h' : b ≤ c) : a ≤ c := Nat.le_trans h h'

/-- The name shown to people: the first edition keeps its number, the others go by year. -/
def label : Edition → String
  | es5 => "ES5"
  | v => "ES" ++ toString v.year

/-- The name used in data files. -/
def key : Edition → String
  | es5 => "es5"
  | v => "es" ++ toString v.year

/-- The edition with a name used in data files; two editions may also go by number. -/
def ofKey? : String → Option Edition
  | "es5" => some es5
  | "es2015" | "es6" => some es2015
  | "es2016" | "es7" => some es2016
  | "es2017" => some es2017
  | "es2018" => some es2018
  | "es2019" => some es2019
  | "es2020" => some es2020
  | "es2021" => some es2021
  | "es2022" => some es2022
  | "es2023" => some es2023
  | "es2024" => some es2024
  | _ => none

/-- The edition with a given number or year, in decimal. -/
def ofNumeral? : String → Option Edition
  | "5" | "2009" => some es5
  | "6" | "2015" => some es2015
  | "7" | "2016" => some es2016
  | "8" | "2017" => some es2017
  | "9" | "2018" => some es2018
  | "10" | "2019" => some es2019
  | "11" | "2020" => some es2020
  | "12" | "2021" => some es2021
  | "13" | "2022" => some es2022
  | "14" | "2023" => some es2023
  | "15" | "2024" => some es2024
  | _ => none

/-- A text that names no edition. -/
structure Unknown where
  text : String
  deriving DecidableEq, Repr

/-- The wording quotes the text as it was given. -/
def Unknown.message (e : Unknown) : String := "Invalid ECMAScript target: " ++ e.text

/-- One leading `es` removed. -/
def dropMark : List Char → List Char
  | 'e' :: 's' :: rest => rest
  | cs => cs

/-- The spelling that decides which edition a text names: unpadded, in lower case, unmarked. -/
def numeral (text : String) : String :=
  String.ofList (dropMark ((Text.trim text.toList).map Char.toLower))

/-- The edition that a user's text names. -/
def ofText (text : String) : Except Unknown Edition :=
  match ofNumeral? (numeral text) with
  | some v => .ok v
  | none => .error ⟨text⟩

end Edition
end EditionCheck
