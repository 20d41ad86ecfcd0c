import EditionCheck.Report.Console
import EditionCheck.Report.Delivery
import EditionCheck.Script.Oracle
import EditionCheck.Settings.Source

/-!
  The commands: checking a project, and making a configuration file.

  A check goes in three steps: `settings` finds out what is wanted, `inspect` looks at the
  dependencies, and `finish` writes the results. `Command.run` takes all of them and is a function
  of the surroundings, the time and how long the check takes; it ends with a status, the disk, and
  what goes to the output and to the console.
-/

namespace EditionCheck

open File (Disk)

/-- How a command ends. -/
structure Ending where
  status : Nat
  disk : Disk
  /-- What is printed as output. -/
  output : String
  /-- What is told on the console meanwhile. -/
  messages : String
  deriving DecidableEq, Repr

namespace Ending

/-- The end of a command by a problem, which counts unless it is a mere warning. -/
def ofProblem (d : Disk) (e : Problem) (verbose : Bool) : Ending where
  status := if e.severity = .warning then 0 else 2
  disk := d
  output := ""
  messages := e.report verbose

/-- The ending with more messages before its own. -/
def after (messages : String) (e : Ending) : Ending := { e with messages := messages ++ e.messages }

end Ending

/-- What the arguments ask for. -/
inductive Command where
  | check (arguments : Arguments)
  | init
  deriving DecidableEq, Repr

namespace Command

/-- The command that arguments ask for. -/
def ofArguments (a : Arguments) : Command := if a.has .init then init else check a

/-! ## Checking -/

/-- The paths among the arguments lead to something. -/
def checkArguments (d : Disk) (a : Arguments) : Except Problem Unit := do
  Settings.checkField a.path fun p => Settings.refuseIf (!d.isDirectory p) (.invalidPath p)
  Settings.checkField a.config fun p => Settings.refuseIf (!d.present p) (.configMissing p)

/-- The settings of a check. -/
def settings (w : Surroundings) (a : Arguments) : Except Problem Settings := do
  checkArguments w.disk a
  Settings.load w a Settings.Source.standardMark

/-- The working directory. -/
def workingDirectory (d : Disk) : Path := Path.ofPieces true d.here

/-- What a check with these settings finds out. -/
def inspect (d : Disk) (s : Settings) (now : Moment) : Check.Outcome :=
  Check.run d.lookup Script.judge s.options (s.projectPath.absoluteFrom (workingDirectory d)) now

/-- The teller of a check. -/
def reporter (s : Settings) : Reporter := ⟨s.quiet, s.verbose, s.showProgress, s.useColors⟩

/-- What is told during a check. -/
def told (s : Settings) (o : Check.Outcome) : String :=
  let r := reporter s
  let found := o.results.summary
  r.start ("Checking " ++ o.results.project.display) ++ String.join (o.events.map r.event) ++
    r.finish (toString found.total ++ " dependencies checked, " ++ toString found.nonConforming ++
      " non-conforming")

/-- The results in the form that the settings ask for. -/
def written (s : Settings) (r : Results) : String :=
  r.formatted s.outputFormat s.useColors s.verbose s.quiet

/-- The end of a check that has been made. -/
def conclude (d : Disk) (s : Settings) (r : Results) : Except Problem Ending :=
  match Report.deliver d s.outputFile (written s r) with
  | .error e => .error e
  | .ok made => .ok ⟨r.exitStatus s.failOnNonConforming, made.disk, made.printed, ""⟩

/-- A check from what it finds out to its end, with the time that it takes. -/
def finish (d : Disk) (s : Settings) (o : Check.Outcome) (lasting : Duration) (verbose : Bool) :
    Ending :=
  .after (told s o) <|
    match conclude d s (o.results.lasting lasting) with
    | .error e => .ofProblem d e verbose
    | .ok ending => ending

/-! ## Making a configuration file -/

/-- Makes a configuration file in the working directory, unless there is one. -/
def makeFile (d : Disk) : Ending :=
  let name := ConfigFile.fileName.display
  if d.present ConfigFile.fileName then
    ⟨0, d, "", "Configuration file already exists at: " ++ name ++
      "\nTo overwrite it, delete the file first and run this command again.\n"⟩
  else
    match ConfigFile.create d ConfigFile.fileName with
    | .error e => .ofProblem d e false
    | .ok made => ⟨0, made, "", "Created default configuration file at: " ++ name ++ "\n"⟩

/-! ## Running -/

/-- A command from its beginning to its end. -/
def run (w : Surroundings) (now : Moment) (lasting : Duration) : Command → Ending
  | init => makeFile w.disk
  | check a =>
    match settings w a with
    | .error e => .ofProblem w.disk e (a.has .verbose)
    | .ok s => finish w.disk s (inspect w.disk s now) lasting (a.has .verbose)

end Command
end EditionCheck
