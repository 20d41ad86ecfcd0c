import EditionCheck.File.Disk
import EditionCheck.Settings.Data

/-!
  What settings have to satisfy.

  `Layer.check` looks at a layer from a file on its own; `Settings.check` looks at settings that are
  about to be used, together with the disk. Both tell the first problem in the order of the fields.
-/

namespace EditionCheck.Settings

/-- A problem, if a condition holds. -/
def refuseIf (condition : Bool) (e : Problem) : Except Problem Unit :=
  if condition then .error e else .ok ()

/-- A text of white space only. -/
def isBlank (s : String) : Bool := s.toList.all Text.isBlank

/-- What a field has to satisfy if it is set. -/
def checkField (field : Option α) (rule : α → Except Problem Unit) : Except Problem Unit :=
  match field with
  | some a => rule a
  | none => .ok ()

namespace Layer

/-- A pattern of a file is not empty and well-formed. -/
def checkPattern (file : Path) (p : String) : Except Problem Unit :=
  if p.isEmpty then .error (.config ("Empty ignore pattern in config file: " ++ file.display))
  else
    match Glob.ofString p with
    | .ok _ => .ok ()
    | .error e =>
      .error (.config ("Invalid ignore pattern '" ++ p ++ "' in config file: " ++ file.display ++
        ": " ++ e.message))

/-- A field of a file is not empty. -/
def emptyField (name : String) (file : Path) : Problem :=
  .config ("Invalid empty " ++ name ++ " in config file: " ++ file.display)

/-- A layer from a file is sound. -/
def check (l : Layer) (file : Path) : Except Problem Unit := do
  checkField l.projectPath fun p => refuseIf p.text.isEmpty (emptyField "project_path" file)
  checkField l.ignore fun ps => ps.forM (checkPattern file)
  checkField l.modulesDir fun m => refuseIf (isBlank m) (emptyField "modules_dir" file)
  checkField l.outputFile fun p => refuseIf p.text.isEmpty (emptyField "output_file" file)

/-- The sound layer that the text of a file holds. -/
def ofFileText (file : Path) (text : String) : Except Problem Layer := do
  match ofTomlText? text with
  | none => throw (.configMalformed file)
  | some l =>
    l.check file
    return l

end Layer

/-- The directory that is to hold a file. -/
def holderOf (p : Path) : Path :=
  match p.parent? with
  | some above => if above.text.isEmpty then Path.ofString "." else above
  | none => Path.ofString "."

/-- Permission bits that let the owner write. -/
def isWritable (mode : Nat) : Bool := mode.testBit 7

/-- Something that may be written stands where the directory of the output file should be. -/
def checkOutput (d : File.Disk) (p : Path) : Except Problem Unit :=
  match d.target? (holderOf p) with
  | none => .error (.invalidPath (holderOf p))
  | some i => refuseIf (!isWritable i.mode) (.permissionDenied (holderOf p))

/-- A pattern is well-formed. -/
def checkPattern (p : String) : Except Problem Unit :=
  match Glob.ofString p with
  | .ok _ => .ok ()
  | .error e => .error (.check ("Invalid ignore pattern: " ++ p ++ ": " ++ e.message))

/-- Settings can be used on a disk. -/
def check (s : Settings) (d : File.Disk) : Except Problem Unit := do
  refuseIf (!d.isDirectory s.projectPath) (.invalidPath s.projectPath)
  s.ignore.forM checkPattern
  refuseIf (isBlank s.modulesDir) (.config "modules_dir must not be empty")
  checkField s.outputFile (checkOutput d)

/-- The settings that a layer gives, if they can be used on a disk. -/
def Layer.build (l : Layer) (d : File.Disk) : Except Problem Settings := do
  l.settle.check d
  return l.settle

end EditionCheck.Settings
