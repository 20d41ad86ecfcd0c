import EditionCheck.Settings.Basic
import EditionCheck.Problem

/-!
  Settings from environment variables.

  The variables of a program share a mark in front of their names. A truth value is true when it
  says so in one of four words, and false otherwise; colors can only be switched off.
-/

namespace EditionCheck

/-- The variables of an environment by their names. -/
abbrev Environment := List (String × String)

/-- The entry of the user in the user database of the system. -/
class Account where
  /-- The home directory, unless the entry is missing or names none. -/
  home? : Option Path

/-- No entry. -/
instance Account.missing : Account := ⟨none⟩

namespace Environment

/-- The value of a variable. -/
def get? (env : Environment) (name : String) : Option String := Keyed.get? name env

/-- The name of a variable behind the mark of a program. -/
def marked (mark name : String) : String := mark ++ "_" ++ name

/-- The names of the variables that settings come from, without their mark. -/
def names : List String :=
  ["PROJECT_PATH", "TARGET", "LOG_CONFORMING", "DEV_DEPS", "OPTIONAL_DEPS", "IGNORE",
    "MODULES_DIR", "OUTPUT_FORMAT", "OUTPUT_FILE", "NO_COLORS"]

/-- A value that says yes; padding and the case of ASCII letters do not matter. -/
def isYes (value : String) : Bool :=
  String.ofList ((Text.trim value.toList).map Char.toLower) ∈ ["1", "true", "yes", "on"]

/-- The items between commas, without padding and without empty ones. -/
def list (value : String) : List String :=
  ((Text.pieces ',' value.toList).map Text.trim).filterMap fun p =>
    if p.isEmpty then none else some (String.ofList p)

/-- The edition that a value names, if there is a value. -/
def edition (value : Option String) : Except Problem (Option Edition) :=
  match value.map Edition.ofText with
  | none => .ok none
  | some (.ok v) => .ok (some v)
  | some (.error e) => .error (.unknownEdition e)

/-- The format that a value names, if there is a value. -/
def format (value : Option String) : Except Problem (Option OutputFormat) :=
  match value.map OutputFormat.ofText with
  | none => .ok none
  | some (.ok f) => .ok (some f)
  | some (.error e) => .error (.config e.message)

/-- Some variable for settings exists. -/
def isGiven (env : Environment) (mark : String) : Bool :=
  names.any fun n => (env.get? (marked mark n)).isSome

/-- The layer that the variables behind a mark give, all or nothing. -/
def layer (env : Environment) (mark : String) : Except Problem Settings.Layer := do
  let value := fun n => env.get? (marked mark n)
  let target ← edition (value "TARGET")
  let outputFormat ← format (value "OUTPUT_FORMAT")
  return { Settings.Layer.empty with
    projectPath := (value "PROJECT_PATH").map Path.ofString
    target := target
    logConforming := (value "LOG_CONFORMING").map isYes
    development := (value "DEV_DEPS").map isYes
    optional := (value "OPTIONAL_DEPS").map isYes
    ignore := (value "IGNORE").map list
    modulesDir := value "MODULES_DIR"
    outputFormat := outputFormat
    outputFile := (value "OUTPUT_FILE").map Path.ofString
    useColors := if (value "NO_COLORS").map isYes = some true then some false else none }

end Environment
end EditionCheck
