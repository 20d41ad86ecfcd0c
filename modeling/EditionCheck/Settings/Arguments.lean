import EditionCheck.Settings.Environment

/-!
  Arguments of the command line.

  An argument that starts with two dashes names a flag, one that starts with a single dash names
  flags by their letters. A flag that takes a value may have it attached or find it in the next
  argument; it is only judged when something else comes, so an unknown flag after it is told first.
  `Arguments.ofList` reads arguments from the left up to the first problem, and `Arguments.layer` is
  what they say about the settings.
-/

namespace EditionCheck

/-- A flag that takes a value. -/
inductive ValueFlag where
  | path | target | ignore | output | outputFile | config
  deriving DecidableEq, Repr

/-- A flag that stands for itself. -/
inductive Switch where
  | logConforming | devDeps | optionalDeps | noColors | noProgress | quiet | verbose | noFail | init
  deriving DecidableEq, Repr

/-- A flag. -/
inductive Flag where
  | valued (v : ValueFlag)
  | switch (s : Switch)
  | help
  | version
  deriving DecidableEq, Repr

namespace Flag

/-- The flag with a name. -/
def ofName? : String → Option Flag
  | "path" => some (valued .path)
  | "target" => some (valued .target)
  | "ignore" => some (valued .ignore)
  | "output" => some (valued .output)
  | "output-file" => some (valued .outputFile)
  | "config" => some (valued .config)
  | "log-conforming" => some (switch .logConforming)
  | "dev-deps" => some (switch .devDeps)
  | "optional-deps" => some (switch .optionalDeps)
  | "no-colors" => some (switch .noColors)
  | "no-progress" => some (switch .noProgress)
  | "quiet" => some (switch .quiet)
  | "verbose" => some (switch .verbose)
  | "no-fail" => some (switch .noFail)
  | "init" => some (switch .init)
  | "help" => some help
  | "version" => some version
  | _ => none

/-- The flag with a letter. -/
def ofLetter? : Char → Option Flag
  | 'p' => some (valued .path)
  | 't' => some (valued .target)
  | 'i' => some (valued .ignore)
  | 'o' => some (valued .output)
  | 'c' => some (valued .config)
  | 'q' => some (switch .quiet)
  | 'v' => some (switch .verbose)
  | 'h' => some help
  | 'V' => some version
  | _ => none

end Flag

/-- Why arguments are not followed. -/
inductive Refusal where
  | unknownArgument
  /-- A value is missing or not allowed. -/
  | invalidValue
  /-- A flag comes twice. -/
  | conflict
  /-- A flag that takes no value has one. -/
  | tooManyValues
  /-- Help is wanted instead of a run. -/
  | help
  /-- The version is wanted instead of a run. -/
  | version
  deriving DecidableEq, Repr

namespace Refusal

/-- What the program can be told. -/
def usage : List String :=
  ["Usage: es5check [OPTIONS]",
    "",
    "Options:",
    "  -p, --path <PATH>         Project directory containing package.json",
    "  -t, --target <EDITION>    Edition that entry scripts must parse under [default: es5]",
    "      --log-conforming      Also report dependencies whose entry script conforms",
    "      --dev-deps            Also check devDependencies",
    "      --optional-deps       Also check optionalDependencies",
    "  -i, --ignore <PATTERN>    Glob pattern over dependency names to skip",
    "  -o, --output <FORMAT>     Format of the results: text, json or csv",
    "      --output-file <FILE>  File to write the results to",
    "  -c, --config <FILE>       Configuration file",
    "      --no-colors           Disable colored output",
    "      --no-progress         Disable the progress bar",
    "  -q, --quiet               Only print the names of non-conforming dependencies",
    "  -v, --verbose             Show every dependency with its entry script",
    "      --no-fail             Exit with status 0 even when dependencies do not conform",
    "      --init                Create a default configuration file",
    "  -h, --help                Print help",
    "  -V, --version             Print version"]

/-- What is printed instead of a run: help or the version, or else an error. -/
def answer : Refusal → Except String String
  | help => .ok (String.join (usage.map (· ++ "\n")))
  | version => .ok "es5check 0.1.0\n"
  | unknownArgument => .error "error: unexpected argument found\n"
  | invalidValue => .error "error: a value is missing or invalid\n"
  | conflict => .error "error: an argument cannot be used multiple times\n"
  | tooManyValues => .error "error: an unexpected value was found\n"

end Refusal

/-- What arguments say. -/
structure Arguments where
  path : Option Path
  target : Option String
  ignore : List String
  output : Option OutputFormat
  outputFile : Option Path
  config : Option Path
  switches : List Switch
  deriving DecidableEq, Repr

namespace Arguments

/-- No arguments. -/
def none : Arguments := ⟨.none, .none, [], .none, .none, .none, []⟩

/-- A switch is among the arguments. -/
def has (a : Arguments) (s : Switch) : Bool := decide (s ∈ a.switches)

/-- The value of a flag that may come once; `given` is what it was given before. -/
def once (given : Option α) (value : Option α) : Except Refusal (Option α) :=
  if given.isSome then .error .conflict
  else
    match value with
    | some a => .ok (some a)
    | .none => .error .invalidValue

/-- The path that a value writes; it may not be empty. -/
def path? (value : String) : Option Path :=
  if value.isEmpty then .none else some (Path.ofString value)

/-- The arguments with a flag and its value, if it came to one. -/
def give (a : Arguments) (flag : ValueFlag) (value : Option String) : Except Refusal Arguments :=
  match value with
  | .none => .error .invalidValue
  | some s =>
    match flag with
    | .path => do return { a with path := ← once a.path (path? s) }
    | .target => do return { a with target := ← once a.target (some s) }
    | .ignore => .ok { a with ignore := a.ignore ++ [s] }
    | .output => do return { a with output := ← once a.output (OutputFormat.ofKey? s) }
    | .outputFile => do return { a with outputFile := ← once a.outputFile (path? s) }
    | .config => do return { a with config := ← once a.config (path? s) }

/-! ## Reading -/

/-- What has been read: the arguments so far, the flag that has not been judged yet with the value
that it has found, and whether flags have ended. -/
structure Reading where
  arguments : Arguments
  pending : Option (ValueFlag × Option String)
  ended : Bool

namespace Reading

/-- The arguments with the pending flag judged. -/
def settled (r : Reading) : Except Refusal Arguments :=
  match r.pending with
  | .none => .ok r.arguments
  | some (flag, value) => r.arguments.give flag value

/-- The reading after a flag, with the value attached to it if there is one. -/
def flag (r : Reading) (f : Flag) (attached : Option String) : Except Refusal Reading :=
  match f, attached with
  | .valued v, some s => do
    return { r with arguments := ← (← r.settled).give v (some s), pending := .none }
  | .valued v, .none => do return { r with arguments := ← r.settled, pending := some (v, .none) }
  | _, some _ => .error .tooManyValues
  | .help, .none => do
    let _ ← r.settled
    throw .help
  | .version, .none => do
    let _ ← r.settled
    throw .version
  | .switch s, .none => do
    let a ← r.settled
    if a.has s then throw .conflict
    return { r with arguments := { a with switches := a.switches ++ [s] }, pending := .none }

/-- The reading after a flag that was named, with whatever follows an equals sign as its value. -/
def name (r : Reading) (text : List Char) : Except Refusal Reading :=
  let before := text.takeWhile (· ≠ '=')
  match Flag.ofName? (String.ofList before), text.drop before.length with
  | some f, _ :: value => r.flag f (some (String.ofList value))
  | some f, [] => r.flag f .none
  | .none, _ => .error .unknownArgument

/-- The reading after flags by their letters. A flag that takes a value takes the rest, less an
equals sign in front. -/
def letters (r : Reading) : List Char → Except Refusal Reading
  | [] => .ok r
  | c :: rest =>
    match Flag.ofLetter? c with
    | .none => .error .unknownArgument
    | some (.valued v) =>
      match rest with
      | [] => r.flag (.valued v) .none
      | '=' :: value => r.flag (.valued v) (some (String.ofList value))
      | value => r.flag (.valued v) (some (String.ofList value))
    | some f => do letters (← r.flag f .none) rest

/-- The reading after an argument that is no flag: the value for which a flag waits. -/
def value (r : Reading) (text : String) : Except Refusal Reading :=
  match r.pending with
  | some (v, .none) => .ok { r with pending := some (v, some text) }
  | _ => .error .unknownArgument

/-- The reading after one more argument. -/
def next (r : Reading) (argument : String) : Except Refusal Reading :=
  if r.ended then .error .unknownArgument
  else
    match argument.toList with
    | ['-', '-'] => .ok { r with ended := true }
    | '-' :: '-' :: text => r.name text
    | '-' :: c :: rest => r.letters (c :: rest)
    | _ => r.value argument

end Reading

/-- The arguments that a list writes. -/
def ofList (arguments : List String) : Except Refusal Arguments := do
  (← arguments.foldlM Reading.next ⟨none, .none, false⟩).settled

/-! ## Settings -/

/-- A field that a switch sets to a value. -/
def onSwitch (a : Arguments) (s : Switch) (value : Bool) : Option Bool :=
  if a.has s then some value else .none

/-- What arguments say about the settings. A switch only ever changes a default. -/
def layer (a : Arguments) : Except Problem Settings.Layer := do
  let target ← Environment.edition a.target
  return {
    projectPath := a.path
    target := target
    logConforming := a.onSwitch .logConforming true
    development := a.onSwitch .devDeps true
    optional := a.onSwitch .optionalDeps true
    ignore := if a.ignore.isEmpty then .none else some a.ignore
    modulesDir := .none
    outputFormat := a.output
    outputFile := a.outputFile
    useColors := a.onSwitch .noColors false
    showProgress := a.onSwitch .noProgress false
    quiet := a.onSwitch .quiet true
    verbose := a.onSwitch .verbose true
    failOnNonConforming := a.onSwitch .noFail false }

end Arguments
end EditionCheck
