/-!
  Messages about single dependencies and about a run as a whole.
-/

namespace EditionCheck

namespace Diagnostic

/-- What a message says about its subject. -/
inductive Level where
  | conforming
  | nonConforming
  | warning
  | error
  deriving DecidableEq, Repr

/-- Every level. -/
def Level.all : List Level := [conforming, nonConforming, warning, error]

/-- The name used in data files. -/
def Level.key : Level → String
  | conforming => "conforming"
  | nonConforming => "non_conforming"
  | warning => "warning"
  | error => "error"

/-- The sign put before a message. -/
def Level.marker : Level → String
  | conforming => "✅"
  | nonConforming => "❌"
  | warning => "⚠️"
  | error => "✗"

end Diagnostic

/-- A message, about one dependency if it names one. -/
structure Diagnostic where
  level : Diagnostic.Level
  dependency : Option String
  message : String
  deriving DecidableEq, Repr

namespace Diagnostic

/-- A message about one dependency. -/
def about (level : Level) (name message : String) : Diagnostic := ⟨level, some name, message⟩

/-- A dependency that was left out. -/
def skipped (name message : String) : Diagnostic := about .warning name message

/-- A message about the run. -/
def ofWarning (message : String) : Diagnostic := ⟨.warning, none, message⟩

/-- A message about a run that cannot proceed. -/
def ofError (message : String) : Diagnostic := ⟨.error, none, message⟩

/-- The message behind its marker. -/
def display (d : Diagnostic) : String := d.level.marker ++ " " ++ d.message

end Diagnostic
end EditionCheck
