import EditionCheck.Edition
import EditionCheck.File.Lookup
import EditionCheck.Glob
import EditionCheck.Json.Fault

/-!
  What can go wrong in a run, and how it is told.

  A problem has a plain wording, a wording for users that may add advice, a severity, and sometimes
  a suggestion. `report` puts these together as they are printed.
-/

namespace EditionCheck

open File (Failed)

/-- How bad a problem is. -/
inductive Severity where
  | warning
  | error
  | critical
  deriving DecidableEq, Repr

/-- The name of a severity. -/
def Severity.label : Severity → String
  | warning => "WARNING"
  | error => "ERROR"
  | critical => "CRITICAL"

/-- Something that went wrong. -/
inductive Problem where
  | io (cause : Failed)
  | badJson (file : Path) (fault : Json.Fault)
  | config (message : String)
  | permissionDenied (path : Path)
  | invalidPath (path : Path)
  | table (cause : Failed)
  | pattern (fault : Glob.Fault)
  | configMissing (path : Path)
  | configUnreadable (path : Path) (cause : Failed)
  | configMalformed (path : Path)
  | unknownEdition (cause : Edition.Unknown)
  | reportUnwritten (path : Path) (cause : Failed)
  | printoutUnwritten (cause : Failed)
  | check (message : String)
  | inaccessible (path : Path) (message : String)
  | manifestMissing (directory : Path)
  | manifestShape (path : Path) (message : String)
  | scriptUnreadable (path : Path) (cause : Failed)
  | jsonUnwritten (fault : Json.Fault)
  | outputDirectoryMissing (path : Path)
  deriving DecidableEq, Repr

namespace Problem

/-- The plain wording. -/
def message : Problem → String
  | io e => "IO error: " ++ e.message
  | badJson file e => "JSON parsing error in " ++ file.display ++ ": " ++ e.message
  | config m => "Configuration error: " ++ m
  | permissionDenied p => "Permission denied accessing " ++ p.display
  | invalidPath p => "Invalid path: " ++ p.display
  | table e => "CSV error: " ++ e.message
  | pattern e => "Glob pattern error: " ++ e.message
  | configMissing p => "Configuration file not found at " ++ p.display
  | configUnreadable p e => "Error reading configuration file " ++ p.display ++ ": " ++ e.message
  | configMalformed p => "Error parsing configuration file " ++ p.display ++ ": not valid settings"
  | unknownEdition e => e.message
  | reportUnwritten p e => "Error writing to output file " ++ p.display ++ ": " ++ e.message
  | printoutUnwritten e => "Error writing to stdout: " ++ e.message
  | check m => "Dependency check error: " ++ m
  | inaccessible p m => "Error accessing " ++ p.display ++ ": " ++ m
  | manifestMissing d => "package.json not found in " ++ d.display
  | manifestShape p m => "Invalid package.json structure in " ++ p.display ++ ": " ++ m
  | scriptUnreadable p e => "Error reading script " ++ p.display ++ ": " ++ e.message
  | jsonUnwritten e => "JSON serialization error: " ++ e.message
  | outputDirectoryMissing p => "Output directory not found: " ++ p.display

/-- The wording for users. -/
def userMessage : Problem → String
  | permissionDenied p =>
    "Cannot access '" ++ p.display ++ "' due to permission denied. Check file permissions."
  | badJson file e =>
    "Invalid JSON in '" ++ file.display ++ "': " ++ e.message ++ ". Please check the file format."
  | io e => "File system error: " ++ e.message ++ ". Check disk space and permissions."
  | invalidPath p =>
    "Invalid path: '" ++ p.display ++ "'. Please provide a valid project directory."
  | configMissing p =>
    "Configuration file not found at '" ++ p.display ++
      "'. Create a config file or use command line options."
  | unknownEdition e =>
    "'" ++ e.text ++ "' is not a known ECMAScript edition. Use es5, es2015 (es6) up to es2024."
  | manifestMissing d => "No package.json found in '" ++ d.display ++ "'."
  | manifestShape p m => "Invalid package.json in '" ++ p.display ++ "': " ++ m ++ "."
  | scriptUnreadable p e => "Could not read script '" ++ p.display ++ "': " ++ e.message ++ "."
  | outputDirectoryMissing p =>
    "Output directory '" ++ p.display ++
      "' does not exist. Please create the directory or specify a different output path."
  | e => e.message

/-- How bad a problem is: what concerns one package is a warning, what concerns the settings or the
output place is critical. -/
def severity : Problem → Severity
  | permissionDenied _ | badJson _ _ | manifestMissing _ | manifestShape _ _
  | scriptUnreadable _ _ => .warning
  | config _ | configMissing _ | configUnreadable _ _ | configMalformed _ | unknownEdition _
  | invalidPath _ | printoutUnwritten _ | outputDirectoryMissing _ => .critical
  | _ => .error

/-- A problem that ends the run. -/
def isCritical (e : Problem) : Bool := e.severity == .critical

/-- What the user may try. -/
def suggestion : Problem → Option String
  | manifestMissing _ => some "Run the check from the project root or pass --path"
  | configMalformed _ | config _ =>
    some "Run \x60es5check --init\x60 to generate a valid configuration file"
  | unknownEdition _ => some "Pass --target es5 or another edition such as es2017"
  | _ => none

/-- The trace of calls kept with a problem: none is. -/
def trace : String := "disabled backtrace"

/-- A problem told to the user, on lines of its own. -/
def report (e : Problem) (verbose : Bool) : String :=
  (if e.isCritical then "Critical error: " else "Error: ") ++ e.userMessage ++ "\n" ++
    (match e.suggestion with
      | some s => "Suggestion: " ++ s ++ "\n"
      | none => "") ++
    (if verbose then "\nBacktrace:\n" ++ trace ++ "\n" else "")

/-- A problem met while doing something that `context` names. -/
def inContext (context : String) (cause : Failed) : Problem :=
  .check (context ++ ": " ++ cause.message)

end Problem
end EditionCheck
