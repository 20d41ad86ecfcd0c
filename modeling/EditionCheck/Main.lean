import EditionCheck.Check.Scope
import EditionCheck.Command
import Std.Time.DateTime.Timestamp

/-!
  The program of the command line.

  It takes a picture of what a command may ask about on the disk, runs the command on the picture,
  and carries over to the disk what has changed in the picture.
-/

namespace EditionCheck.Program

open File (Disk Item Place)

/-! ## Pictures of the disk -/

/-- The text of the path to a place. -/
def placeText (at_ : Place) : String := (Path.ofPieces true at_).display

/-- Whether a path leads to something. -/
def leads (path : String) : IO Bool := do
  match ← (IO.FS.realPath path).toBaseIO with
  | .ok _ => return true
  | .error _ => return false

/-- What stands at a place to which no link leads. -/
def look (at_ : Place) : IO (Option Item) := do
  let text := placeText at_
  match ← (IO.FS.realPath text).toBaseIO with
  | .error _ => return none
  | .ok real =>
    if toString real != text then return some (.link (Path.ofString (toString real)))
    if ← leads (text ++ "/.") then return some .newDirectory
    match ← (IO.FS.readBinFile text).toBaseIO with
    | .ok bytes => return some (.newFile bytes.toList)
    | .error _ => return none

/-- The picture with all that lies on a way. The first argument bounds its length. -/
def along : Nat → Disk → Place → List (List Char) → IO Disk
  | 0, d, _, _ => return d
  | _, d, _, [] => return d
  | fuel + 1, d, at_, s :: rest => do
    if s.isEmpty || s == ['.'] then along fuel d at_ rest
    else if s == ['.', '.'] then along fuel d at_.dropLast rest
    else
      let next := at_ ++ [s]
      match ← (match d.item? next with
        | some i => pure (some i)
        | none => look next) with
      | none => return d
      | some i =>
        let d := d.put next i
        match i with
        | .directory _ => along fuel d next rest
        | .file _ _ => return d
        | .link target => along fuel d (if target.isAbsolute then [] else at_) (target.body ++ rest)

/-- The picture with what lies on the way of a path. -/
def withPath (d : Disk) (p : Path) : IO Disk :=
  along (p.text.length + 4096) d (if p.isAbsolute then [] else d.here) p.body

/-- The picture with what lies on the ways of paths. -/
def withPaths (d : Disk) (ps : List Path) : IO Disk := ps.foldlM withPath d

/-- The picture of the working directory. -/
def start : IO Disk := do
  let here := Path.ofString (toString (← IO.FS.realPath "."))
  withPath ⟨here.normal.names, []⟩ here

/-- The picture for the settings of a command. -/
def forSettings (w : Surroundings) (a : Arguments) : IO Surroundings := do
  let config := a.config.toList ++ a.path.toList ++ w.locations
  let w := { w with disk := ← withPaths w.disk config }
  match Settings.combined w a Settings.Source.standardMark with
  | .error _ => return w
  | .ok l =>
    let s := l.settle
    let output := s.outputFile.toList
    let d ← withPaths w.disk (s.projectPath :: output ++ output.map Settings.holderOf)
    return { w with disk := d }

/-- The picture for a check. -/
def forCheck (d : Disk) (s : Settings) : IO Disk :=
  let project := s.projectPath.absoluteFrom (Command.workingDirectory d)
  (List.range Check.rounds).foldlM
    (fun d _ => withPaths d (Check.scope d.lookup s.options project)) d

/-! ## Carrying out -/

/-- Brings an item of the picture to the disk. -/
def carry (e : Place × Item) : IO Unit :=
  match e.2 with
  | .file bytes _ => IO.FS.writeBinFile (placeText e.1) ⟨bytes.toArray⟩
  | .directory _ => IO.FS.createDirAll (placeText e.1)
  | .link _ => return

/-- Tells how a command ended, and brings to the disk what it has changed. -/
def perform (before : Disk) (e : Ending) : IO UInt32 := do
  (← IO.getStderr).putStr e.messages
  for item in e.disk.items.reverse do
    if before.item? item.1 != some item.2 then carry item
  (← IO.getStdout).putStr e.output
  return UInt32.ofNat e.status

/-- The environment variables that matter. -/
def environment : IO Environment := do
  let names := ["HOME", "XDG_CONFIG_HOME"] ++
    Environment.names.map (Environment.marked Settings.Source.standardMark)
  let found ← names.mapM fun n => do return (← IO.getEnv n).map fun v => (n, v)
  return found.filterMap id

/-- The lines of a file, or none where it cannot be read. -/
def lines (path : String) : IO (List String) := do
  match ← (IO.FS.lines path).toBaseIO with
  | .ok ls => return ls.toList
  | .error _ => return []

/-- The entry in the user database of the user of this process. -/
def account : IO Account := do
  let number? := (← lines "/proc/self/status").findSome? fun l =>
    match l.splitOn "\t" with
    | "Uid:" :: number :: _ => some number
    | _ => none
  let homes := (← lines "/etc/passwd").filterMap fun l =>
    match l.splitOn ":" with
    | [_, _, number, _, _, home, _] => if some number == number? then some home else none
    | _ => none
  return ⟨(homes.head?.filter fun home => !home.isEmpty).map Path.ofString⟩

/-- The present moment. -/
def now : IO Moment := do
  return .sinceEpoch (← Std.Time.Timestamp.now).toNanosecondsSinceUnixEpoch.val.toNat

/-- Runs a check. -/
def check (w : Surroundings) (a : Arguments) : IO UInt32 := do
  let w ← forSettings w a
  match Command.settings w a with
  | .error e => perform w.disk (.ofProblem w.disk e (a.has .verbose))
  | .ok s =>
    let begun ← IO.monoNanosNow
    let d ← forCheck w.disk s
    let moment ← now
    let o ← IO.lazyPure fun _ => Command.inspect d s moment
    let lasting := ⟨(← IO.monoNanosNow) - begun⟩
    perform d (Command.finish d s o lasting (a.has .verbose))

/-- Makes a configuration file. -/
def makeFile (d : Disk) : IO UInt32 := do
  let d ← withPath d ConfigFile.fileName
  perform d (Command.makeFile d)

/-- Says why arguments are not followed. -/
def refuse (r : Refusal) : IO UInt32 := do
  match r.answer with
  | .ok text =>
    (← IO.getStdout).putStr text
    return 0
  | .error text =>
    (← IO.getStderr).putStr text
    return 2

/-- Runs the command that arguments ask for. -/
def run (arguments : List String) : IO UInt32 := do
  match Arguments.ofList arguments with
  | .error r => refuse r
  | .ok a =>
    let w : Surroundings :=
      { disk := ← start, environment := ← environment, account := ← account }
    match Command.ofArguments a with
    | .init => makeFile w.disk
    | .check a => check w a

end EditionCheck.Program

/-- Runs the program with the arguments of the command line. -/
def main (arguments : List String) : IO UInt32 := EditionCheck.Program.run arguments
