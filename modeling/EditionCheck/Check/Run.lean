import EditionCheck.Check.Progress
import EditionCheck.Check.Results
import EditionCheck.Package.Declared
import EditionCheck.Package.Entry

/-!
  Checking the direct dependencies of a project.

  `run` goes through the declared dependencies in order, finds the entry script of each and asks an
  oracle about it. Whatever goes wrong with one dependency is told and the run goes on; only a
  project manifest that cannot be loaded ends it. The run is a function of the answers about files
  and of the oracle; what it has to say and how far it comes is a list of events.
-/

namespace EditionCheck

/-- Whether a script is valid under an edition. -/
abbrev Oracle := SourceKind → String → Edition → Except Failure Unit

namespace Check

/-- What to check, and how. -/
structure Options where
  logConforming : Bool
  target : Edition
  development : Bool
  optional : Bool
  ignore : List String
  modulesDir : String
  deriving DecidableEq, Repr

/-- The mappings that are looked at. -/
def Options.selection (o : Options) : Selection := ⟨o.development, o.optional⟩

/-- Something that happens during a run. -/
inductive Event where
  | said (d : Diagnostic)
  | reached (p : Progress)
  deriving DecidableEq, Repr

namespace Event

/-- The diagnostics among events. -/
def diagnostics (es : List Event) : List Diagnostic :=
  es.filterMap fun
    | said d => some d
    | reached _ => none

/-- The steps of progress among events. -/
def progress (es : List Event) : List Progress :=
  es.filterMap fun
    | said _ => none
    | reached p => some p

end Event

/-- A run: its results and what happened, in order. -/
structure Outcome where
  results : Results
  events : List Event
  deriving DecidableEq

/-! ## Ignore patterns -/

/-- The valid patterns. -/
def validPatterns (raw : List String) : List Glob :=
  raw.filterMap fun s => (Glob.ofString s).toOption

/-- What is said about an invalid pattern. -/
def invalidPattern (raw : String) (e : Glob.Fault) : Diagnostic :=
  .ofWarning ("Ignoring invalid ignore pattern '" ++ raw ++ "': " ++ e.message)

/-- What is said about the invalid patterns. -/
def patternWarnings (raw : List String) : List Diagnostic :=
  raw.filterMap fun s =>
    match Glob.ofString s with
    | .ok _ => none
    | .error e => some (invalidPattern s e)

/-! ## One dependency -/

/-- What is said about a dependency that was left out. -/
def leftOut (name why : String) : Diagnostic :=
  .skipped name (name ++ " was not checked because " ++ why)

/-- The outcome of the script of a dependency, and what is said about it. -/
def judgeScript (oracle : Oracle) (o : Options) (name : String) (kind : SourceKind)
    (text : String) : Verdict × Option Diagnostic :=
  match oracle kind text o.target with
  | .ok () =>
    (.conforming,
      if o.logConforming then some (.about .conforming name (name ++ " is " ++ o.target.label))
      else none)
  | .error failure =>
    (.nonConforming failure,
      some (.about .nonConforming name (name ++ " is not " ++ o.target.label)))

/-- The outcome of a dependency installed at a path with a given manifest. -/
def judgePackage (files : File.Lookup) (oracle : Oracle) (o : Options) (d : Declared)
    (installed : Path) (m : Manifest) : Finding × Option Diagnostic :=
  match Entry.resolve files m installed with
  | none =>
    (⟨d.name, d.kind, none, .unchecked .noEntryScript⟩,
      some (leftOut d.name "no entry script was found"))
  | some script =>
    match files.read script with
    | .error e =>
      (⟨d.name, d.kind, some script,
          .unchecked (.scriptUnreadable (Problem.scriptUnreadable script e).userMessage)⟩,
        some (leftOut d.name "its entry script could not be read"))
    | .ok text =>
      let (verdict, said) := judgeScript oracle o d.name (Entry.sourceKind script m) text
      (⟨d.name, d.kind, some script, verdict⟩, said)

/-- The directory that holds installed dependencies. -/
def modulesRoot (o : Options) (project : Path) : Path := project.child o.modulesDir

/-- The outcome of a dependency that no pattern covers. -/
def judgeInstalled (files : File.Lookup) (oracle : Oracle) (o : Options) (project : Path)
    (d : Declared) : Finding × Option Diagnostic :=
  let installed := (modulesRoot o project).child d.name
  match Manifest.ofPackage files installed with
  | .error e =>
    (⟨d.name, d.kind, none, .unchecked (.manifestUnreadable e.userMessage)⟩,
      some (leftOut d.name "its package.json could not be loaded"))
  | .ok m => judgePackage files oracle o d installed m

/-- The outcome of a dependency, and what is said about it. -/
def judge (files : File.Lookup) (oracle : Oracle) (o : Options) (project : Path)
    (patterns : List Glob) (d : Declared) : Finding × Option Diagnostic :=
  match patterns.find? fun g => g.accepts d.name with
  | some g =>
    (⟨d.name, d.kind, none, .unchecked (.ignored g.text)⟩,
      some (leftOut d.name ("it matches ignore pattern '" ++ g.text ++ "'")))
  | none => judgeInstalled files oracle o project d

/-! ## The run -/

/-- The events of the dependencies from number `i` of `n` on. -/
def eventsFrom (n : Nat) : Nat → List (Finding × Option Diagnostic) → List Event
  | _, [] => []
  | i, (f, said) :: rest =>
    .reached ⟨i, n, f.name⟩ :: (said.map Event.said).toList ++ eventsFrom n (i + 1) rest

/-- A check of a project, with the moment that its results bear. -/
def run (files : File.Lookup) (oracle : Oracle) (o : Options) (project : Path)
    (checkedAt : Moment) : Outcome :=
  let start := Results.start project o.target checkedAt
  match Declared.load files project o.selection with
  | (.error e, said) => ⟨{ start with rootError := some e.userMessage }, said.map .said⟩
  | (.ok declared, said) =>
    let judged := declared.map (judge files oracle o project (validPatterns o.ignore))
    let n := judged.length
    ⟨start.addAll (judged.map Prod.fst),
      (said ++ patternWarnings o.ignore).map .said ++ eventsFrom n 0 judged ++
        [.reached ⟨n, n, "done"⟩]⟩

/-- The names of the dependencies that fail, in the order in which they are declared. -/
def failing (files : File.Lookup) (oracle : Oracle) (o : Options) (project : Path)
    (checkedAt : Moment) : List String :=
  (run files oracle o project checkedAt).results.report.names

end Check
end EditionCheck
