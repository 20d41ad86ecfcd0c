import EditionCheck.Command
import EditionCheck.Proofs.Check.Isolation
import EditionCheck.Proofs.File.Layout

/-!
  Checks on a disk and in memory.

  What a check finds out depends on the files in its scope only, and by the wording of a failed read
  only in wordings of its own (`run_agrees`). For a layout of files, a disk and a tree in memory
  agree on the whole scope (`agreeAt_of_mem_scope`): every path that a check builds comes from the
  root without steps up, and if it does not end in a name it leads to a directory. So a check in
  memory finds out what a check on the disk does (`run_inMemory`).
-/

namespace EditionCheck

open File (Layout Place IsName)
open File.Lookup (AgreeAt)

/-! ## Findings without their wording -/

/-- The reason, without the wording of a failure. -/
def Reason.unworded : Reason → Reason
  | manifestUnreadable _ => manifestUnreadable ""
  | noEntryScript => noEntryScript
  | scriptUnreadable _ => scriptUnreadable ""
  | ignored pattern => ignored pattern

/-- The outcome, without the wording of a reason. -/
def Verdict.unworded : Verdict → Verdict
  | conforming => conforming
  | nonConforming failure => nonConforming failure
  | unchecked reason => unchecked reason.unworded

/-- The finding, without the wording of a reason. -/
def Finding.unworded (f : Finding) : Finding := { f with verdict := f.verdict.unworded }

/-- Two results say the same, except for wordings: whether the manifest of the project loads, and
about which dependencies what was found out. -/
structure Results.AgreesWith (r r' : Results) : Prop where
  rootError : r.rootError.isSome = r'.rootError.isSome
  findings : r.findings.map Finding.unworded = r'.findings.map Finding.unworded

variable {files files' : File.Lookup}

theorem Manifest.load_of_unreadable {p : Path} {e : File.Failed} (h : files.read p = .error e) :
    (load files p).toOption = none := by
  unfold load
  rw [h]
  split
  · split
    · next heq => cases heq
    · rfl
    · rfl
  · rfl

theorem Manifest.load_agrees {p : Path} (h : AgreeAt files files' p) :
    (load files p).toOption = (load files' p).toOption := by
  have htext := h.text
  cases hr : files.read p with
  | error e =>
    cases hr' : files'.read p with
    | error e' => rw [load_of_unreadable hr, load_of_unreadable hr']
    | ok text => rw [hr, hr'] at htext; cases htext
  | ok text =>
    cases hr' : files'.read p with
    | error e' => rw [hr, hr'] at htext; cases htext
    | ok text' =>
      rw [hr, hr'] at htext
      cases htext
      unfold load
      rw [h.present, hr, hr']

namespace Check

variable {oracle : Oracle} {o : Options} {project installed root : Path} {now : Moment}
  {declared : List Declared} {d : Declared} {m : Manifest}

/-- The lead, without the wording of a reason. -/
def Lead.unworded : Lead → Lead
  | stopped known reason => stopped known reason.unworded
  | ready path kind text => ready path kind text

theorem Lead.finding_unworded {l l' : Lead} (h : l.unworded = l'.unworded) (oracle : Oracle)
    (target : Edition) (d : Declared) :
    (l.finding oracle target d).unworded = (l'.finding oracle target d).unworded := by
  cases l with
  | ready path kind text =>
    cases l' with
    | ready => cases h; rfl
    | stopped => cases h
  | stopped known reason =>
    cases l' with
    | ready => cases h
    | stopped known' reason' =>
      obtain ⟨rfl, hreason⟩ := Lead.stopped.inj h
      simp only [finding, Finding.unworded, entryScript, verdict, Verdict.unworded, hreason]

/-! ## Files that agree -/

theorem packageLead_agrees (h : ∀ p ∈ Entry.candidates m installed, AgreeAt files files' p) :
    (packageLead files installed m).unworded = (packageLead files' installed m).unworded := by
  have hresolve : Entry.resolve files m installed = Entry.resolve files' m installed :=
    Entry.resolve_congr fun p hp => ⟨(h p hp).present, (h p hp).kind⟩
  unfold packageLead
  rw [← hresolve]
  cases hscript : Entry.resolve files m installed with
  | none => rfl
  | some script =>
    have htext := (h script (Entry.resolve_mem_candidates hscript)).text
    cases hr : files.read script <;> cases hr' : files'.read script <;> rw [hr, hr'] at htext
    · simp only [hr, hr']
      rfl
    · cases htext
    · cases htext
    · cases htext
      simp only [hr, hr']

/-- The lead of a dependency follows from the files in its scope. -/
theorem lead_agrees (patterns : List Glob)
    (h : ∀ p ∈ scopeOf files o project d, AgreeAt files files' p) :
    (lead files (modulesRoot o project) patterns d).unworded =
      (lead files' (modulesRoot o project) patterns d).unworded := by
  have hmanifest : (Manifest.ofPackage files ((modulesRoot o project).child d.name)).toOption =
      (Manifest.ofPackage files' ((modulesRoot o project).child d.name)).toOption :=
    Manifest.load_agrees (h _ List.mem_cons_self)
  unfold scopeOf at h
  unfold lead
  cases patterns.find? fun g => g.accepts d.name with
  | some g => rfl
  | none =>
    cases hm : Manifest.ofPackage files ((modulesRoot o project).child d.name) <;>
      cases hm' : Manifest.ofPackage files' ((modulesRoot o project).child d.name) <;>
      rw [hm, hm'] at hmanifest
    · rfl
    · cases hmanifest
    · cases hmanifest
    · cases hmanifest
      simp only [hm] at h
      exact packageLead_agrees fun p hp => h p (List.mem_cons_of_mem _ hp)

/-- What a project declares follows from its manifest. -/
theorem load_agrees (h : AgreeAt files files' (manifestPath project)) (s : Selection) :
    (Declared.load files project s).1.toOption = (Declared.load files' project s).1.toOption := by
  have hmanifest : (Manifest.ofPackage files project).toOption =
      (Manifest.ofPackage files' project).toOption := Manifest.load_agrees h
  unfold Declared.load
  cases hm : Manifest.ofPackage files project <;> cases hm' : Manifest.ofPackage files' project <;>
    rw [hm, hm'] at hmanifest
  · rfl
  · cases hmanifest
  · cases hmanifest
  · cases hmanifest
    rfl

/-- What a check finds out follows from the files in its scope. -/
theorem run_agrees (h : ∀ p ∈ scope files o project, AgreeAt files files' p) (oracle : Oracle)
    (now : Moment) :
    (run files oracle o project now).results.AgreesWith
      (run files' oracle o project now).results := by
  have hload := load_agrees (h _ List.mem_cons_self) o.selection
  unfold scope at h
  cases hl : (Declared.load files project o.selection).1 with
  | error e =>
    cases hl' : (Declared.load files' project o.selection).1 with
    | ok ds => rw [hl, hl'] at hload; cases hload
    | error e' =>
      rw [run_of_unloaded hl, run_of_unloaded hl']
      exact ⟨rfl, rfl⟩
  | ok declared =>
    cases hl' : (Declared.load files' project o.selection).1 with
    | error e' => rw [hl, hl'] at hload; cases hload
    | ok declared' =>
      rw [hl, hl'] at hload
      cases hload
      rw [hl] at h
      constructor
      · rw [run_rootError.2 ⟨declared, hl⟩, run_rootError.2 ⟨declared, hl'⟩]
      · rw [run_findings hl, run_findings hl', List.map_map, List.map_map]
        refine List.map_congr_left fun d hd => Lead.finding_unworded ?_ oracle o.target d
        exact lead_agrees _ fun p hp =>
          h p (List.mem_cons_of_mem _ (List.mem_flatMap.2 ⟨d, hd, hp⟩))

/-! ## A layout of files -/

section Layouts

variable {l : Layout} {here : Place}

theorem isName_manifest : IsName Manifest.fileName.toList := by decide

theorem isName_index : IsName Entry.indexName.toList := by decide

/-- Where a manifest is found, a directory stands. -/
theorem directory_of_ofPackage (hi : installed.Straight)
    (hm : Manifest.ofPackage (l.onDisk here).lookup installed = .ok m) :
    l.stock ≠ [] ∧ ∃ mode, l.at? installed.normal.names = some (.directory mode) := by
  have hpresent : (l.onDisk here).lookup.present (manifestPath installed) = true := by
    unfold Manifest.ofPackage Manifest.load at hm
    split at hm
    · next h => exact h
    · cases hm
  obtain ⟨hstraight, hnames⟩ := isName_manifest.push hi
  obtain ⟨s, hs⟩ := Layout.at?_of_present hstraight hpresent
  rw [hnames] at hs
  have hnotRoot : installed.normal.names ++ [Manifest.fileName.toList] ≠ [] :=
    List.append_ne_nil_of_right_ne_nil _ (List.cons_ne_nil _ _)
  have hmem := (Layout.at?_eq_some hnotRoot).1 hs
  exact ⟨List.ne_nil_of_mem hmem, Layout.directory_above hs (List.cons_ne_nil _ _)⟩

/-- A disk and memory agree on a path with a name at its end. -/
theorem agreeAt_child {name : String} (hname : IsName name.toList) (hi : installed.Straight) :
    AgreeAt (l.onDisk here).lookup l.inMemory.lookup (installed.child name) :=
  Layout.agreeAt_of_endsInName (hname.push hi).1
    (Path.endsInName_push hname.2.2.2 hname.part?_eq installed)

theorem agreeAt_manifestPath (hi : installed.Straight) :
    AgreeAt (l.onDisk here).lookup l.inMemory.lookup (manifestPath installed) :=
  agreeAt_child isName_manifest hi

theorem agreeAt_index (hi : installed.Straight) :
    AgreeAt (l.onDisk here).lookup l.inMemory.lookup (installed.child Entry.indexName) :=
  agreeAt_child isName_index hi

/-- What the main script of a package is joined to may be the package itself or the root, and else
ends in a name. -/
theorem agreeAt_joined (hi : installed.Straight)
    (hm : Manifest.ofPackage (l.onDisk here).lookup installed = .ok m) (main : String) :
    AgreeAt (l.onDisk here).lookup l.inMemory.lookup (installed.joined main) := by
  obtain ⟨hne, mode, hdir⟩ := directory_of_ofPackage hi hm
  rcases hi.endsInName_joined main with hsame | hends | hroot
  · rw [hsame]
    exact Layout.agreeAt_of_directory hi hne hdir
  · exact Layout.agreeAt_of_endsInName (hi.joined main) hends
  · have hdir : l.at? (installed.joined main).normal.names = some (.directory 0o755) := by
      rw [hroot]
      rfl
    exact Layout.agreeAt_of_directory (hi.joined main) hne hdir

theorem agreeAt_of_mem_candidates (hi : installed.Straight)
    (hm : Manifest.ofPackage (l.onDisk here).lookup installed = .ok m) :
    ∀ p ∈ Entry.candidates m installed,
      AgreeAt (l.onDisk here).lookup l.inMemory.lookup p := by
  intro p hp
  unfold Entry.candidates at hp
  rcases List.mem_cons.1 hp with rfl | hp
  · exact agreeAt_index hi
  · cases hmain : m.mainScript? with
    | none =>
      rw [hmain] at hp
      cases hp
    | some main =>
      simp only [hmain, Option.map_some, Option.getD_some, List.mem_cons, List.not_mem_nil,
        or_false] at hp
      rcases hp with rfl | rfl
      · exact agreeAt_joined hi hm main
      · exact agreeAt_index (hi.joined main)

/-- A disk and memory agree on all files in the scope of a check. -/
theorem agreeAt_of_mem_scope (hproject : project.Straight)
    (hmodules : .up ∉ (Path.ofString o.modulesDir).parts)
    (hnames : ∀ declared,
      (Declared.load (l.onDisk here).lookup project o.selection).1 = .ok declared →
        ∀ d ∈ declared, .up ∉ (Path.ofString d.name).parts) :
    ∀ p ∈ scope (l.onDisk here).lookup o project,
      AgreeAt (l.onDisk here).lookup l.inMemory.lookup p := by
  intro p hp
  unfold scope at hp
  rcases List.mem_cons.1 hp with rfl | hp
  · exact agreeAt_manifestPath hproject
  cases hl : (Declared.load (l.onDisk here).lookup project o.selection).1 with
  | error e =>
    rw [hl] at hp
    cases hp
  | ok declared =>
    rw [hl] at hp
    obtain ⟨d, hd, hp⟩ := List.mem_flatMap.1 hp
    have hi : ((modulesRoot o project).child d.name).Straight :=
      (hproject.push hmodules).push (hnames declared hl d hd)
    unfold scopeOf at hp
    generalize (modulesRoot o project).child d.name = installed at hi hp
    rcases List.mem_cons.1 hp with rfl | hp
    · exact agreeAt_manifestPath hi
    · cases hm : Manifest.ofPackage (l.onDisk here).lookup installed with
      | error e =>
        simp only [hm] at hp
        cases hp
      | ok m =>
        simp only [hm] at hp
        exact agreeAt_of_mem_candidates hi hm p hp

/-- A check of a project in a layout of files finds out the same on a disk and in memory, except for
wordings: whether the manifest of the project loads, and about each dependency its name, its kind,
its entry script and its outcome with the failure or the reason. The path of the project is taken
from the working directory, and neither it nor the directory of installed dependencies nor a
declared name may hold a `..` component; main scripts may. The empty path names no directory. -/
theorem run_inMemory (l : Layout) (here : Place) (hhere : ∀ s ∈ here, IsName s) (oracle : Oracle)
    (o : Options) (p : Path) (hne : p.text ≠ []) (hp : .up ∉ p.parts)
    (hmodules : .up ∉ (Path.ofString o.modulesDir).parts)
    (hnames : ∀ declared, (Declared.load (l.onDisk here).lookup
        (p.absoluteFrom (Command.workingDirectory (l.onDisk here))) o.selection).1 = .ok declared →
      ∀ d ∈ declared, .up ∉ (Path.ofString d.name).parts) (now : Moment) :
    let project := p.absoluteFrom (Command.workingDirectory (l.onDisk here))
    (run (l.onDisk here).lookup oracle o project now).results.AgreesWith
      (run l.inMemory.lookup oracle o project now).results := by
  have hcwd : (Command.workingDirectory (l.onDisk here)).Straight :=
    Path.straight_of_parts here (Layout.parts_ofPieces hhere)
  have hproject := Path.straight_absoluteFrom hne hp hcwd
  exact run_agrees (agreeAt_of_mem_scope hproject hmodules hnames) oracle now

/-- The files of a project with two dependencies: `near`, whose main script lies in another package,
and `odd`, whose manifest is a directory. -/
def climbingStock : List (Place × File.Stock) :=
  let file (names : List String) (text : String) : Place × File.Stock :=
    (names.map String.toList, .file text 0o644)
  let directory (names : List String) : Place × File.Stock :=
    (names.map String.toList, .directory 0o755)
  [directory ["work"], directory ["work", "p"],
    file ["work", "p", "package.json"]
      "\x7b\"dependencies\":\x7b\"near\":\"1\",\"odd\":\"1\"\x7d\x7d",
    directory ["work", "p", "node_modules"], directory ["work", "p", "node_modules", "near"],
    file ["work", "p", "node_modules", "near", "package.json"]
      "\x7b\"main\":\"lib/../../shared/\"\x7d",
    directory ["work", "p", "node_modules", "shared"],
    file ["work", "p", "node_modules", "shared", "index.js"] "let x",
    directory ["work", "p", "node_modules", "odd"],
    directory ["work", "p", "node_modules", "odd", "package.json"]]

theorem climbingStock_names : ∀ e ∈ climbingStock, e.1 ≠ [] ∧ ∀ s ∈ e.1, IsName s := by
  decide +kernel

theorem climbingStock_apart : (climbingStock.map Prod.fst).Nodup := by decide +kernel

theorem climbingStock_closed : ∀ e ∈ climbingStock, e.1.dropLast ≠ [] →
    ∃ above ∈ climbingStock, above.1 = e.1.dropLast ∧ above.2.isDirectory = true := by
  decide +kernel

/-- The layout of that project. -/
def climbing : Layout :=
  ⟨climbingStock, climbingStock_names, climbingStock_apart, climbingStock_closed⟩

/-- Both checks find a fault in the script of `near`, and both cannot read the manifest of `odd`, one
because it is a directory and one because it is not a file. -/
theorem run_inMemory_climbing :
    let here : Place := ["work".toList]
    let files := (climbing.onDisk here).lookup
    let p := Path.ofString "p/"
    let project := p.absoluteFrom (Command.workingDirectory (climbing.onDisk here))
    let results := (run files Script.judge nearOptions project .epoch).results
    let results' := (run climbing.inMemory.lookup Script.judge nearOptions project .epoch).results
    (∀ s ∈ here, IsName s) ∧ p.text ≠ [] ∧ .up ∉ p.parts ∧
      .up ∉ (Path.ofString nearOptions.modulesDir).parts ∧
      (∀ declared, (Declared.load files project nearOptions.selection).1 = .ok declared →
        ∀ d ∈ declared, .up ∉ (Path.ofString d.name).parts) ∧
      results.AgreesWith results' ∧ results.report.names = ["near"] ∧
      results.findings.map Finding.verdict ≠ results'.findings.map Finding.verdict := by
  intro here files p project results results'
  have hcomputed : ((∀ s ∈ here, IsName s) ∧ p.text ≠ [] ∧ .up ∉ p.parts ∧
        .up ∉ (Path.ofString nearOptions.modulesDir).parts) ∧
      (Declared.load files project nearOptions.selection).1 =
        .ok [⟨"near", .production⟩, ⟨"odd", .production⟩] ∧
      results.report.names = ["near"] ∧
      results.findings.map Finding.verdict ≠ results'.findings.map Finding.verdict := by
    decide +kernel
  obtain ⟨⟨hhere, hne, hp, hmodules⟩, hload, hfound⟩ := hcomputed
  have hnames : ∀ declared,
      (Declared.load files project nearOptions.selection).1 = .ok declared →
        ∀ d ∈ declared, .up ∉ (Path.ofString d.name).parts := by
    rintro declared h
    rw [hload] at h
    cases h
    decide +kernel
  have hagrees := run_inMemory climbing here hhere Script.judge nearOptions p hne hp hmodules hnames
    .epoch
  exact ⟨hhere, hne, hp, hmodules, hnames, hagrees, hfound⟩

end Layouts

end Check
end EditionCheck
