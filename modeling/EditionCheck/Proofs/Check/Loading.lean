import EditionCheck.Check.Scope
import EditionCheck.Proofs.Check.Lead
import EditionCheck.Proofs.File.Path

/-!
  Manifests that cannot be loaded, and what is said about them.

  A manifest is not loaded because nothing stands at its path, because it cannot be read, or because
  its text is no manifest (`load_of_absent`, `load_eq_unreadable`, `load_of_text`). The text is
  parsed under the name of another file, but every problem that parsing can have is then told of the
  file that was read, so the other name makes no difference (`parse_located`). A message in the
  results of a check is therefore about the manifest that was to be loaded, that of the project or
  that of the dependency (`run_names_manifest`).
-/

namespace EditionCheck

namespace Manifest

variable {files : File.Lookup} {path : Path}

/-! ## Why a manifest is not loaded -/

theorem load_of_absent (h : files.present path = false) :
    load files path = .error (.manifestMissing (path.parent?.getD path)) := by
  unfold load
  rw [h]
  rfl

/-- What is wrong where a file cannot be read. -/
def unreadable (path : Path) (e : File.Failed) : Problem :=
  if e.trouble = .permissionDenied then .permissionDenied path else .inaccessible path e.message

theorem load_eq_unreadable {e : File.Failed} (h : files.present path = true)
    (hread : files.read path = .error e) : load files path = .error (unreadable path e) := by
  unfold load unreadable
  rw [if_pos h, hread]
  obtain ⟨trouble, message⟩ := e
  cases trouble <;> rfl

/-- Only the text can be wrong when a text is parsed. -/
theorem parse_eq_error {file : Path} {text : String} {e : Problem}
    (h : parse file text = .error e) :
    (∃ fault, e = .badJson file fault) ∨ e = .manifestShape file "Root value is not an object" := by
  unfold parse at h
  split at h
  · cases h
    exact .inl ⟨_, rfl⟩
  · cases h
  · cases h
    exact .inr rfl

/-- Told of the file that a text stands in, its problems are those of parsing it as that file. -/
theorem parse_located (name file : Path) (text : String) :
    (parse name text).mapError (located file) = parse file text := by
  unfold parse
  cases Json.parse text with
  | error fault => rfl
  | ok value => cases value <;> rfl

theorem load_of_text {text : String} (h : files.present path = true)
    (hread : files.read path = .ok text) : load files path = parse path text := by
  unfold load
  rw [if_pos h, hread]
  exact parse_located placeholder path text

/-- One of the three is the case. -/
theorem load_cases (files : File.Lookup) (path : Path) :
    (files.present path = false ∧
      load files path = .error (.manifestMissing (path.parent?.getD path))) ∨
    (∃ e, files.present path = true ∧ files.read path = .error e ∧
      load files path = .error (unreadable path e)) ∨
    ∃ text, files.present path = true ∧ files.read path = .ok text ∧
      load files path = parse path text := by
  cases h : files.present path with
  | false => exact .inl ⟨rfl, load_of_absent h⟩
  | true =>
    cases hread : files.read path with
    | error e => exact .inr (.inl ⟨e, rfl, rfl, load_eq_unreadable h hread⟩)
    | ok text => exact .inr (.inr ⟨text, rfl, rfl, load_of_text h hread⟩)

/-! ## Which problem it is -/

theorem load_eq_missing {d : Path} :
    load files path = .error (.manifestMissing d) ↔
      files.present path = false ∧ d = path.parent?.getD path := by
  obtain ⟨h, hload⟩ | ⟨e, h, -, hload⟩ | ⟨text, h, -, hload⟩ := load_cases files path
  · rw [hload, h]
    simp [eq_comm]
  · rw [hload, h, unreadable]
    split <;> simp
  · rw [hload, h]
    refine ⟨fun he => ?_, fun hno => by cases hno.1⟩
    obtain ⟨_, heq⟩ | heq := parse_eq_error he <;> cases heq

theorem load_eq_denied {q : Path} :
    load files path = .error (.permissionDenied q) ↔
      files.present path = true ∧ q = path ∧
        ∃ message, files.read path = .error ⟨.permissionDenied, message⟩ := by
  obtain ⟨h, hload⟩ | ⟨⟨trouble, message⟩, h, hread, hload⟩ | ⟨text, h, hread, hload⟩ :=
    load_cases files path
  · rw [hload, h]
    simp
  · rw [hload, h, hread, unreadable]
    cases trouble <;> simp [eq_comm]
  · rw [hload, h, hread]
    refine ⟨fun he => ?_, fun hno => by simp at hno⟩
    obtain ⟨_, heq⟩ | heq := parse_eq_error he <;> cases heq

theorem load_eq_inaccessible {q : Path} {message : String} :
    load files path = .error (.inaccessible q message) ↔
      files.present path = true ∧ q = path ∧
        ∃ trouble, trouble ≠ .permissionDenied ∧ files.read path = .error ⟨trouble, message⟩ := by
  obtain ⟨h, hload⟩ | ⟨⟨trouble, message'⟩, h, hread, hload⟩ | ⟨text, h, hread, hload⟩ :=
    load_cases files path
  · rw [hload, h]
    simp
  · rw [hload, h, hread, unreadable]
    cases trouble <;> simp [eq_comm]
  · rw [hload, h, hread]
    refine ⟨fun he => ?_, fun hno => by simp at hno⟩
    obtain ⟨_, heq⟩ | heq := parse_eq_error he <;> cases heq

/-! ## What is said -/

/-- The messages about a manifest at a path that cannot be loaded: each names this path, or the one
above it where nothing stands at the path. -/
inductive Told (path : Path) : String → Prop where
  | missing :
    Told path ("No package.json found in '" ++ (path.parent?.getD path).display ++ "'.")
  | denied :
    Told path ("Cannot access '" ++ path.display ++
      "' due to permission denied. Check file permissions.")
  | inaccessible (message : String) :
    Told path ("Error accessing " ++ path.display ++ ": " ++ message)
  | badJson (fault : Json.Fault) :
    Told path ("Invalid JSON in '" ++ path.display ++ "': " ++ fault.message ++
      ". Please check the file format.")
  | shape :
    Told path ("Invalid package.json in '" ++ path.display ++ "': " ++
      "Root value is not an object" ++ ".")

theorem told_of_load {e : Problem} (h : load files path = .error e) : Told path e.userMessage := by
  obtain ⟨-, hload⟩ | ⟨⟨trouble, message⟩, -, -, hload⟩ | ⟨text, -, -, hload⟩ :=
    load_cases files path
  · rw [h] at hload
    cases hload
    exact .missing
  · rw [h, unreadable] at hload
    split at hload
    · cases hload
      exact .denied
    · cases hload
      exact .inaccessible message
  · rw [h] at hload
    obtain ⟨fault, rfl⟩ | rfl := parse_eq_error hload.symm
    · exact .badJson fault
    · exact .shape

/-- What comes of loading the manifest at a path, by the answers about that path. -/
structure Outcome (files : File.Lookup) (path : Path) : Prop where
  missing : ∀ d, load files path = .error (.manifestMissing d) ↔
    files.present path = false ∧ d = path.parent?.getD path
  denied : ∀ q, load files path = .error (.permissionDenied q) ↔
    files.present path = true ∧ q = path ∧
      ∃ message, files.read path = .error ⟨.permissionDenied, message⟩
  inaccessible : ∀ q message, load files path = .error (.inaccessible q message) ↔
    files.present path = true ∧ q = path ∧
      ∃ trouble, trouble ≠ .permissionDenied ∧ files.read path = .error ⟨trouble, message⟩
  /-- The name under which the text is parsed plays no part. -/
  parsed : ∀ (name : Path) (text : String), files.present path = true →
    files.read path = .ok text →
      load files path = (parse name text).mapError (located path)
  told : ∀ e, load files path = .error e → Told path e.userMessage

theorem load_outcome (files : File.Lookup) (path : Path) : Outcome files path where
  missing _ := load_eq_missing
  denied _ := load_eq_denied
  inaccessible _ _ := load_eq_inaccessible
  parsed name text hpresent hread := by
    rw [parse_located]
    exact load_of_text hpresent hread
  told _ := told_of_load

/-- What stands above the manifest of a package is the directory of the package. -/
theorem parts_above_manifest (directory : Path) :
    ((Check.manifestPath directory).parent?.getD (Check.manifestPath directory)).parts =
      directory.parts := by
  have hparts : (Path.ofString fileName).parts = [.name fileName.toList] := by decide
  apply Path.parts_pop (n := fileName.toList)
  rw [Check.manifestPath, Path.child, Path.parts_push (by decide) (by rw [hparts]; simp), hparts]

end Manifest

namespace Check

variable {files : File.Lookup} {oracle : Oracle} {o : Options} {project : Path} {now : Moment}

/-- The message of a lead that stops at a manifest comes from loading that manifest. -/
theorem lead_manifestUnreadable {root : Path} {patterns : List Glob} {d : Declared}
    {known : Option Path} {message : String}
    (h : lead files root patterns d = .stopped known (.manifestUnreadable message)) :
    ∃ e, Manifest.load files (manifestPath (root.child d.name)) = .error e ∧
      message = e.userMessage := by
  unfold lead at h
  split at h
  · cases h
  split at h
  · next e he =>
    cases h
    exact ⟨e, he, rfl⟩
  · unfold packageLead at h
    split at h
    · cases h
    · split at h <;> cases h

/-- The error of a run comes from loading the manifest of the project. -/
theorem run_rootError_eq_some {message : String} :
    (run files oracle o project now).results.rootError = some message ↔
      ∃ e, Manifest.load files (manifestPath project) = .error e ∧ message = e.userMessage := by
  cases h : Manifest.load files (manifestPath project) with
  | error e =>
    have hload : (Declared.load files project o.selection).1 = .error e := by
      rw [Declared.load, Manifest.ofPackage, ← manifestPath, h]
    simp [run_of_unloaded hload, eq_comm]
  | ok m =>
    have hload : (Declared.load files project o.selection).1 =
        .ok (Declared.ofManifest m o.selection) := by
      rw [Declared.load, Manifest.ofPackage, ← manifestPath, h]
    simp [run_of_loaded hload, Results.addAll_rootError, Results.start]

/-- A dependency is left for its manifest with what loading that manifest gave. -/
theorem run_manifestUnreadable {f : Finding} {message : String}
    (hf : f ∈ (run files oracle o project now).results.findings)
    (hv : f.verdict = .unchecked (.manifestUnreadable message)) :
    ∃ e, Manifest.load files (manifestPath ((modulesRoot o project).child f.name)) = .error e ∧
      message = e.userMessage := by
  cases hload : (Declared.load files project o.selection).1 with
  | error e =>
    rw [run_of_unloaded hload] at hf
    cases hf
  | ok declared =>
    rw [run_findings hload] at hf
    obtain ⟨d, -, rfl⟩ := List.mem_map.1 hf
    cases hl : lead files (modulesRoot o project) (validPatterns o.ignore) d with
    | ready path kind text =>
      rw [hl] at hv
      exact absurd hv Lead.verdictOf_ne_unchecked
    | stopped known reason =>
      rw [hl] at hv
      cases hv
      exact lead_manifestUnreadable hl

/-- Loading a manifest fails by the answers about its path, and every problem is told of that path,
or of what stands above it where it is missing. The error of a run is the wording of the problem
with the manifest of the project, and a dependency that is left for its manifest comes with the
wording of the problem with the manifest of this dependency. What stands above the manifest of a
package is the directory of the package. -/
theorem run_names_manifest (files : File.Lookup) (oracle : Oracle) (o : Options) (project : Path)
    (now : Moment) :
    (∀ path, Manifest.Outcome files path) ∧
    (∀ message, (run files oracle o project now).results.rootError = some message ↔
      ∃ e, Manifest.load files (manifestPath project) = .error e ∧ message = e.userMessage) ∧
    (∀ message, (run files oracle o project now).results.rootError = some message →
      Manifest.Told (manifestPath project) message) ∧
    (∀ f ∈ (run files oracle o project now).results.findings, ∀ message,
      f.verdict = .unchecked (.manifestUnreadable message) →
        (∃ e, Manifest.load files (manifestPath ((modulesRoot o project).child f.name)) =
          .error e ∧ message = e.userMessage) ∧
        Manifest.Told (manifestPath ((modulesRoot o project).child f.name)) message) ∧
    ∀ directory, ((manifestPath directory).parent?.getD (manifestPath directory)).parts =
      directory.parts := by
  refine ⟨Manifest.load_outcome files, fun _ => run_rootError_eq_some, fun message h => ?_,
    fun f hf message hv => ?_, Manifest.parts_above_manifest⟩
  · obtain ⟨e, he, rfl⟩ := run_rootError_eq_some.1 h
    exact Manifest.told_of_load he
  · obtain ⟨e, he, rfl⟩ := run_manifestUnreadable hf hv
    exact ⟨⟨e, he, rfl⟩, Manifest.told_of_load he⟩

/-- The files of a project with four dependencies, none with a manifest that loads. -/
def brokenManifests : File.Lookup where
  present p := p ≠ Path.ofString "/p/node_modules/gone/package.json"
  kind? _ := some .file
  read p :=
    if p = Path.ofString "/p/package.json" then
      .ok "\x7b\"dependencies\":\x7b\"gone\":\"\",\"shut\":\"\",\"torn\":\"\",\"list\":\"\"\x7d\x7d"
    else if p = Path.ofString "/p/node_modules/shut/package.json" then
      .error ⟨.permissionDenied, "Permission denied (os error 13)"⟩
    else if p = Path.ofString "/p/node_modules/torn/package.json" then .ok "\x7b"
    else .ok "[]"

/-- What is said about the four. -/
def brokenMessages : List String :=
  ["No package.json found in '/p/node_modules/gone'.",
    "Cannot access '/p/node_modules/shut/package.json' due to permission denied. " ++
      "Check file permissions.",
    "Invalid JSON in '/p/node_modules/torn/package.json': EOF while parsing an object " ++
      "at line 1 column 1. Please check the file format.",
    "Invalid package.json in '/p/node_modules/list/package.json': Root value is not an object."]

/-- Each of the four is told by its own path. -/
theorem run_names_manifest_broken :
    let o : Options := ⟨false, .es5, false, false, [], "node_modules"⟩
    let project := Path.ofString "/p"
    let results := (run brokenManifests (fun _ _ _ => .ok ()) o project .epoch).results
    results.rootError = none ∧
    (results.findings.map Finding.verdict =
      brokenMessages.map fun s => Verdict.unchecked (.manifestUnreadable s)) ∧
    ∀ f ∈ results.findings, ∃ message, f.verdict = .unchecked (.manifestUnreadable message) ∧
      Manifest.Told (manifestPath ((modulesRoot o project).child f.name)) message := by
  intro o project results
  have hcomputed : results.rootError = none ∧
      (results.findings.map Finding.verdict =
        brokenMessages.map fun s => Verdict.unchecked (.manifestUnreadable s)) := by
    decide +kernel
  obtain ⟨hroot, hverdicts⟩ := hcomputed
  refine ⟨hroot, hverdicts, fun f hf => ?_⟩
  have hmem := List.mem_map_of_mem (f := Finding.verdict) hf
  rw [hverdicts] at hmem
  obtain ⟨message, -, hv⟩ := List.mem_map.1 hmem
  have hnames := run_names_manifest brokenManifests (fun _ _ _ => .ok ()) o project .epoch
  exact ⟨message, hv.symm, (hnames.2.2.2.1 f hf message hv.symm).2⟩

end Check
end EditionCheck
