import Mathlib.Data.List.Forall2
import EditionCheck.File.Tree
import EditionCheck.Proofs.Check.Accounting
import EditionCheck.Proofs.Script.Spans
import EditionCheck.Proofs.Script.Target

/-!
  Checks under different targets.

  How far a dependency comes before its script is judged does not depend on the target, and the
  verdict on a script can only improve from an older target to a newer one, whatever the parser. So
  two checks that differ in nothing but the target agree on all that is left unjudged, and what
  conforms to the older target conforms to the newer one (`run_target_mono`).
-/

namespace EditionCheck.Check

/-- How what an older target says of a dependency compares with what a newer one says. -/
structure NoWorse (older newer : Finding) : Prop where
  name : newer.name = older.name
  kind : newer.kind = older.kind
  entryScript : newer.entryScript = older.entryScript
  unchecked : ∀ reason, older.verdict = .unchecked reason ↔ newer.verdict = .unchecked reason
  conforming : older.verdict = .conforming → newer.verdict = .conforming

/-- The script of a finding, as its text is read and loaded. -/
def Examined (files : File.Lookup) (root : Path) (f : Finding) (kind : SourceKind)
    (text : String) : Prop :=
  ∃ script m, f.entryScript = some script ∧ Manifest.ofPackage files (root.child f.name) = .ok m ∧
    Entry.sourceKind script m = kind ∧ files.read script = .ok text

/-! ## One dependency -/

section Dependency

variable {read : Script.Reader} {a b : Edition} {l : Lead} {d : Declared} {kind : SourceKind}
  {text : String}

/-- What is accepted under a target is accepted under every newer one. -/
theorem judge_ok_mono (h : a ≤ b) (ha : read.judge kind text a = .ok ()) :
    read.judge kind text b = .ok () := by
  obtain ⟨tree, hp, hnone⟩ := Script.Reader.judge_eq_ok.1 ha
  refine Script.Reader.judge_eq_ok.2 ⟨tree, hp, ?_⟩
  rw [Script.disallowed_eq_filter h, hnone]
  rfl

theorem Lead.verdictOf_eq_conforming {x : Except Failure Unit} :
    verdictOf x = .conforming ↔ x = .ok () := by
  cases x <;> simp [verdictOf]

theorem Lead.finding_noWorse (read : Script.Reader) (h : a ≤ b) (d : Declared) (l : Lead) :
    NoWorse (l.finding read.judge a d) (l.finding read.judge b d) where
  name := rfl
  kind := rfl
  entryScript := rfl
  unchecked reason := by
    cases l with
    | stopped known why => exact Iff.rfl
    | ready path kind text =>
      exact iff_of_false Lead.verdictOf_ne_unchecked Lead.verdictOf_ne_unchecked
  conforming := by
    cases l with
    | stopped known why => exact id
    | ready path kind text =>
      intro ha
      exact verdictOf_eq_conforming.2 (judge_ok_mono h (verdictOf_eq_conforming.1 ha))

/-- A dependency has an entry script if nothing stops it before that is found. -/
theorem lead_entryScript {files : File.Lookup} {root : Path} {patterns : List Glob} {script : Path}
    (h : (lead files root patterns d).entryScript = some script) :
    (patterns.find? fun g => g.accepts d.name) = none ∧
      ∃ m, Manifest.ofPackage files (root.child d.name) = .ok m ∧
        Entry.resolve files m (root.child d.name) = some script := by
  unfold lead packageLead at h
  cases hp : patterns.find? fun g => g.accepts d.name with
  | some g => simp [hp, Lead.entryScript] at h
  | none =>
    cases hm : Manifest.ofPackage files (root.child d.name) with
    | error e => simp [hp, hm, Lead.entryScript] at h
    | ok m =>
      refine ⟨rfl, m, rfl, ?_⟩
      cases hr : Entry.resolve files m (root.child d.name) with
      | none => simp [hp, hm, hr, Lead.entryScript] at h
      | some entry =>
        cases ht : files.read entry with
        | error e => simpa [hp, hm, hr, ht, Lead.entryScript] using h
        | ok text => simpa [hp, hm, hr, ht, Lead.entryScript] using h

/-- The text of a finding is the one that its lead has ready. -/
theorem examined_iff {files : File.Lookup} {root : Path} {patterns : List Glob} {oracle : Oracle}
    {target : Edition} :
    Examined files root ((lead files root patterns d).finding oracle target d) kind text ↔
      ∃ path, lead files root patterns d = .ready path kind text := by
  constructor
  · rintro ⟨script, m, hscript, hm, rfl, hread⟩
    change (lead files root patterns d).entryScript = some script at hscript
    change Manifest.ofPackage files (root.child d.name) = .ok m at hm
    obtain ⟨hp, m', hm', hr⟩ := lead_entryScript hscript
    cases hm'.symm.trans hm
    refine ⟨script, ?_⟩
    simp only [lead, packageLead, hp, hm, hr, hread]
  · rintro ⟨path, hl⟩
    obtain ⟨hp, m, hm, hr⟩ := lead_entryScript (congrArg Lead.entryScript hl)
    refine ⟨path, m, congrArg Lead.entryScript hl, hm, ?_⟩
    simp only [lead, packageLead, hp, hm, hr] at hl
    cases ht : files.read path with
    | error e => simp [ht] at hl
    | ok text' =>
      simp only [ht, Lead.ready.injEq, true_and] at hl
      exact ⟨hl.1, congrArg Except.ok hl.2⟩

/-- A script that has no tree fails under every target. -/
theorem Lead.finding_of_unparsable {path : Path} {target : Edition} {message : String}
    (hp : read kind text = .error message) (hl : l = .ready path kind text) :
    (l.finding read.judge target d).verdict = .nonConforming (.unparsable message) := by
  subst hl
  change verdictOf (read.judge kind text target) = _
  rw [Script.Reader.judge_of_error hp]
  rfl

end Dependency

/-! ## All of them -/

section Lists

variable {older newer : List Finding}

/-- A dependency that fails under the newer target fails under the older one. -/
theorem NoWorse.fails {f g : Finding} (h : NoWorse f g)
    (hg : g.verdict.isNonConforming = true) : f.verdict.isNonConforming = true := by
  cases hf : f.verdict with
  | conforming =>
    rw [h.conforming hf] at hg
    cases hg
  | nonConforming failure => rfl
  | unchecked reason =>
    rw [(h.unchecked reason).1 hf] at hg
    cases hg

/-- The names that fail under the newer target are among those that fail under the older one. -/
theorem failingNames_of_noWorse (h : List.Forall₂ NoWorse older newer) :
    (failingNames newer).Sublist (failingNames older) := by
  induction h with
  | nil => exact List.Sublist.refl _
  | @cons f g fs gs hfg _ ih =>
    unfold failingNames at ih ⊢
    cases hg : g.verdict.isNonConforming with
    | true =>
      have hf := hfg.fails hg
      simp only [List.filter_cons, hg, hf, if_true, List.map_cons, hfg.name]
      exact ih.cons_cons f.name
    | false =>
      rw [List.filter_cons_of_neg (by simp [hg])]
      refine ih.trans (List.Sublist.map _ ?_)
      exact (List.sublist_cons_self f fs).filter _

end Lists

/-! ## Two runs -/

/-- How the results under an older target compare with those under a newer one, for dependencies
installed under a directory and scripts that a parser reads. -/
structure Raised (files : File.Lookup) (read : Script.Reader) (root : Path)
    (older newer : Results) : Prop where
  rootError : newer.rootError = older.rootError
  findings : List.Forall₂ NoWorse older.findings newer.findings
  unparsable : ∀ f ∈ older.findings ++ newer.findings, ∀ kind text,
    Examined files root f kind text →
    ∀ message, read kind text = .error message →
      f.verdict = .nonConforming (.unparsable message)
  report : newer.report.names.Sublist older.report.names
  status : ∀ fail, newer.exitStatus fail ≤ older.exitStatus fail

/-- With the same root error and fewer failing names the status is no larger. -/
theorem exitStatus_le {older newer : Results} (hroot : newer.rootError = older.rootError)
    (hreport : newer.report.names.Sublist older.report.names) (fail : Bool) :
    newer.exitStatus fail ≤ older.exitStatus fail := by
  unfold Results.exitStatus
  rw [hroot]
  cases older.rootError.isSome with
  | true => exact le_refl _
  | false =>
    have hnames : newer.hasNonConforming = true → older.hasNonConforming = true := by
      simp only [Results.hasNonConforming, Bool.not_eq_true', List.isEmpty_eq_false_iff]
      exact fun hne hnil => hne (List.sublist_nil.1 (hnil ▸ hreport))
    cases hn : newer.hasNonConforming with
    | false => simp
    | true => simp [hnames hn]

section Runs

variable {read : Script.Reader} {a b : Edition} {files : File.Lookup} {o : Options}
  {project : Path} {now now' : Moment} {declared : List Declared}

/-- The findings of a check whose scripts have no tree fail, whatever the target. -/
theorem run_unparsable (h : (Declared.load files project o.selection).1 = .ok declared)
    {f : Finding} (hf : f ∈ (run files read.judge o project now).results.findings)
    {kind : SourceKind} {text message : String}
    (hx : Examined files (modulesRoot o project) f kind text)
    (hp : read kind text = .error message) :
    f.verdict = .nonConforming (.unparsable message) := by
  rw [run_findings h] at hf
  obtain ⟨d, -, rfl⟩ := List.mem_map.1 hf
  obtain ⟨path, hl⟩ := examined_iff.1 hx
  exact Lead.finding_of_unparsable hp hl

/-- A check under a newer target, all else equal, is no worse, whatever the parser: it has the same
error or the same dependencies with the same entry scripts, what was left unjudged stays so and what
conforms still does, a script that has no tree fails under either target, and neither the failing
names nor the status grow. -/
theorem run_target_mono (h : a ≤ b) (read : Script.Reader) (files : File.Lookup) (o : Options)
    (project : Path) (now now' : Moment) :
    Raised files read (modulesRoot o project)
      (run files read.judge { o with target := a } project now).results
      (run files read.judge { o with target := b } project now').results := by
  cases hl : (Declared.load files project o.selection).1 with
  | error e =>
    rw [run_of_unloaded (o := { o with target := a }) hl,
      run_of_unloaded (o := { o with target := b }) hl]
    exact ⟨rfl, .nil, fun f hf => absurd hf List.not_mem_nil, List.Sublist.refl _,
      fun fail => le_refl _⟩
  | ok declared =>
    have hla : (Declared.load files project (Options.selection { o with target := a })).1 =
      .ok declared := hl
    have hlb : (Declared.load files project (Options.selection { o with target := b })).1 =
      .ok declared := hl
    have hroot : (run files read.judge { o with target := b } project now').results.rootError =
        (run files read.judge { o with target := a } project now).results.rootError := by
      rw [run_rootError.2 ⟨declared, hla⟩, run_rootError.2 ⟨declared, hlb⟩]
    have hfindings : List.Forall₂ NoWorse
        (run files read.judge { o with target := a } project now).results.findings
        (run files read.judge { o with target := b } project now').results.findings := by
      rw [run_findings hla, run_findings hlb, List.forall₂_map_left_iff,
        List.forall₂_map_right_iff, List.forall₂_same]
      exact fun d _ => Lead.finding_noWorse read h d _
    have hreport := failingNames_of_noWorse hfindings
    rw [← (run_balanced hla).report, ← (run_balanced hlb).report] at hreport
    refine ⟨hroot, hfindings, fun f hf kind text hx message hp => ?_, hreport,
      exitStatus_le hroot hreport⟩
    rcases List.mem_append.1 hf with hf | hf
    · exact run_unparsable hla hf hx hp
    · exact run_unparsable hlb hf hx hp

end Runs

/-! ## A project of three -/

/-- A project with a script of a later edition, one that does not parse, and a dependency that is
not installed. -/
def mixedProject : File.Tree :=
  [("package.json", "\x7b\"dependencies\":\x7b\"let\":\"1\",\"stray\":\"1\",\"gone\":\"1\"\x7d\x7d"),
    ("node_modules/let/package.json", "\x7b\x7d"), ("node_modules/let/index.js", "let x = 1"),
    ("node_modules/stray/package.json", "\x7b\x7d"),
    ("node_modules/stray/index.js", "var = 1")].foldl
    (fun tree file => tree.add (Path.ofString file.1) (.file file.2)) .empty

/-- The check of that project. -/
def mixedOptions : Options := ⟨false, .es5, false, false, [], "node_modules"⟩

/-- The script of that project that does not parse, as a finding. -/
def strayFinding : Finding :=
  ⟨"stray", .production, some (Path.ofString "node_modules/stray/index.js"),
    .nonConforming (.unparsable Script.unparsableMessage)⟩

theorem strayFinding_examined :
    Examined mixedProject.lookup (modulesRoot mixedOptions default) strayFinding .script
      "var = 1" := by
  have hready : lead mixedProject.lookup (modulesRoot mixedOptions default) []
      ⟨"stray", .production⟩ =
        .ready (Path.ofString "node_modules/stray/index.js") .script "var = 1" := by decide +kernel
  have hfinding : strayFinding = (lead mixedProject.lookup (modulesRoot mixedOptions default) []
      ⟨"stray", .production⟩).finding Script.reader.judge .es2015 ⟨"stray", .production⟩ := by
    rw [hready]
    decide +kernel
  rw [hfinding]
  exact examined_iff.2 ⟨_, hready⟩

/-- One edition later the script of that edition conforms; the other one fails as before. -/
theorem run_target_mono_mixed :
    let older := (run mixedProject.lookup Script.reader.judge { mixedOptions with target := .es5 }
      default .epoch).results
    let newer := (run mixedProject.lookup Script.reader.judge
      { mixedOptions with target := .es2015 } default .epoch).results
    Edition.es5 ≤ .es2015 ∧
      Raised mixedProject.lookup Script.reader (modulesRoot mixedOptions default) older newer ∧
      older.report.names = ["let", "stray"] ∧ newer.report.names = ["stray"] ∧
      newer.summary.unchecked = 1 ∧ strayFinding ∈ newer.findings ∧
      Script.reader .script "var = 1" = .error Script.unparsableMessage ∧
      Examined mixedProject.lookup (modulesRoot mixedOptions default) strayFinding .script
        "var = 1" := by
  intro older newer
  have h : Edition.es5 ≤ .es2015 := by decide
  have hraised :
      Raised mixedProject.lookup Script.reader (modulesRoot mixedOptions default) older newer :=
    run_target_mono h Script.reader mixedProject.lookup mixedOptions default .epoch .epoch
  have hcomputed : older.report.names = ["let", "stray"] ∧ newer.report.names = ["stray"] ∧
      newer.summary.unchecked = 1 ∧ strayFinding ∈ newer.findings ∧
      Script.parse false "var = 1".toList = none := by decide +kernel
  obtain ⟨hold, hnew, hunchecked, hstray, hnone⟩ := hcomputed
  have hparse : Script.reader .script "var = 1" = .error Script.unparsableMessage :=
    Script.reader_eq_error.2 ⟨hnone, rfl⟩
  exact ⟨h, hraised, hold, hnew, hunchecked, hstray, hparse, strayFinding_examined⟩

end EditionCheck.Check
