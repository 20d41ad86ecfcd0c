import EditionCheck.Settings.Environment
import EditionCheck.Settings.Rules

/-!
  Configuration files.

  A file is looked for in the working directory, in the home directory and in the directory for
  configurations. `load` reads one, `loadDefault` the first that is there, and `create` writes a
  file that only says what would hold anyway.
-/

namespace EditionCheck.ConfigFile

open File (Disk)
open Settings (Layer)

/-- The name of the file in a working or home directory. -/
def fileName : Path := Path.ofString ".es5check.toml"

variable [Account]

/-- The home directory: that of the environment, or else that of the user database. -/
def home? (env : Environment) : Option Path :=
  match env.get? "HOME" with
  | some h => if h.isEmpty then Account.home? else some (Path.ofString h)
  | none => Account.home?

/-- The directory for configurations. A relative one does not count. -/
def configurations? (env : Environment) : Option Path :=
  match (env.get? "XDG_CONFIG_HOME").map Path.ofString with
  | some p => if p.isAbsolute then some p else (home? env).map (·.child ".config")
  | none => (home? env).map (·.child ".config")

/-- Where a file is looked for, in order. -/
def locations (env : Environment) : List Path :=
  fileName :: (((home? env).map (·.push fileName)).toList ++
    ((configurations? env).map fun p => (p.child "es5check").child "config.toml").toList)

/-- The layer of the file at a path. -/
def read (d : Disk) (p : Path) : Except Problem Layer :=
  if !d.present p then .error (.configMissing p)
  else
    match d.readStrict p with
    | .error e => .error (.configUnreadable p e)
    | .ok text => Layer.ofFileText p text

/-- The layer of the file at a path, at which nothing but a file counts. -/
def load (d : Disk) (p : Path) : Except Problem Layer :=
  if d.isFile p then read d p else .error (.configMissing p)

/-- The layer of the first file that is there. -/
def loadDefault (d : Disk) (env : Environment) : Except Problem (Option Layer) :=
  match (locations env).find? d.isFile with
  | some p => (read d p).map some
  | none => .ok none

/-- The lines of a new file. -/
def newLines : List String :=
  ["# es5check configuration",
    "#",
    "# Values here are overridden by ES5CHECK_* environment variables and by",
    "# command-line flags.",
    "",
    "# Project directory containing package.json (defaults to the current directory)",
    "# project_path = \".\"",
    "",
    "# ECMAScript edition every entry script must parse under:",
    "# es5, es2015 (es6), es2016 ... es2024",
    "target = \"es5\"",
    "",
    "# Also report dependencies that pass",
    "log_conforming_packages = false",
    "",
    "# Also check devDependencies and optionalDependencies",
    "include_dev_deps = false",
    "include_optional_deps = false",
    "",
    "# Glob patterns over dependency names to skip, e.g. [\"@types/*\"]",
    "ignore_patterns = []",
    "",
    "# Directory under the project holding installed dependencies",
    "modules_dir = \"node_modules\"",
    "",
    "# Output format: text, json or csv",
    "output_format = \"text\"",
    "",
    "# Write the report to a file instead of stdout",
    "# output_file = \"es5check-report.json\"",
    "",
    "use_colors = true",
    "show_progress = true",
    "",
    "# Exit with status 1 when a dependency does not conform",
    "fail_on_nonconforming = true"]

/-- The text of a new file. -/
def newText : String := String.join (newLines.map (· ++ "\n"))

/-- The disk with a new file at a path, and with the directory that is to hold it. -/
def create (d : Disk) (p : Path) : Except Problem Disk :=
  let above := p.parent?.getD default
  let held :=
    if above.text.isEmpty || d.present above then .ok d else d.makeDirectories above
  match held.bind (·.write p newText) with
  | .ok made => .ok made
  | .error e => .error (.io e)

end EditionCheck.ConfigFile
