import EditionCheck.Settings.Arguments
import EditionCheck.Settings.ConfigFile

/-!
  Where settings come from, and how they are put together.

  A configuration file lies lowest, the environment over it and the command line on top. A file that
  is asked for has to be there and sound; a file found by itself and the environment are passed over
  when something is wrong with them. What comes out has to be usable on the disk.
-/

namespace EditionCheck

/-- What surrounds a run. -/
structure Surroundings where
  disk : File.Disk
  environment : Environment
  [account : Account]

/-- Where a configuration file is looked for, in order. -/
def Surroundings.locations (w : Surroundings) : List Path :=
  @ConfigFile.locations w.account w.environment

namespace Settings

/-- A source of settings. -/
inductive Source where
  /-- A configuration file, at its usual place unless one is given. -/
  | file (path : Option Path)
  /-- The environment variables behind a mark. -/
  | environment (mark : String)
  | commandLine (arguments : Arguments)

namespace Source

/-- The mark of the environment variables. -/
def standardMark : String := "ES5CHECK"

/-- The path of a configuration file. -/
def filePath (p : Option Path) : Path := p.getD ConfigFile.fileName

/-- The name of a source for people. -/
def name : Source → String
  | file none => "default config file"
  | file (some p) => "config file (" ++ p.display ++ ")"
  | environment mark => mark ++ " environment variables"
  | commandLine _ => "command-line arguments"

/-- The number that a source declares for its weight against others. -/
def priority : Source → Nat
  | file _ => 20
  | environment _ => 10
  | commandLine _ => 30

/-- There is something to load. -/
def isAvailable (w : Surroundings) : Source → Bool
  | file p => w.disk.isFile (filePath p)
  | environment mark => w.environment.isGiven mark
  | commandLine _ => true

/-- The layer of a source. -/
def load (w : Surroundings) : Source → Except Problem Layer
  | file p => ConfigFile.load w.disk (filePath p)
  | environment mark => w.environment.layer mark
  | commandLine a => a.layer

/-- The layer of a source, which sets nothing where there is nothing sound to load. -/
def loadOrNothing (w : Surroundings) (s : Source) : Layer :=
  if s.isAvailable w then (s.load w).toOption.getD .empty else .empty

end Source

/-- The layer that lies lowest: that of the file that is asked for, or else of the first one that is
there and sound. -/
def fileLayer (w : Surroundings) (config : Option Path) : Except Problem Layer :=
  match config with
  | some p => (Source.file (some p)).load w
  | none =>
    match @ConfigFile.loadDefault w.account w.disk w.environment with
    | .ok (some l) => .ok l
    | _ => .ok .empty

/-- The layers for a run with these arguments, laid on one another. -/
def combined (w : Surroundings) (a : Arguments) (mark : String) : Except Problem Layer := do
  let lowest ← fileLayer w a.config
  let middle := (Source.environment mark).loadOrNothing w
  let top ← (Source.commandLine a).load w
  return top.above (middle.above lowest)

/-- The settings for a run with these arguments. -/
def load (w : Surroundings) (a : Arguments) (mark : String) : Except Problem Settings :=
  (combined w a mark).bind fun l => l.build w.disk

end Settings
end EditionCheck
