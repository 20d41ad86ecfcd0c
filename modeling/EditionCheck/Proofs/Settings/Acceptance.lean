import EditionCheck.Proofs.Check.Events
import EditionCheck.Proofs.Check.Ignoring
import EditionCheck.Proofs.Settings.Precedence
import EditionCheck.Proofs.Settings.Warning

/-!
  What settings have to be like to be accepted, and what a check may rely on then.

  Patterns and the directory of installed dependencies are looked at up to three times: in a
  configuration file (`Layer.check_eq_ok`), in the settings that come out of all sources
  (`check_eq_ok`), and when a check reads its patterns. What an earlier look accepts a later one does
  not refuse: settings stay in order with what a file sets (`check_adopting`), and a check with
  settings that were loaded has no pattern to pass over (`load_reliable`).
-/

namespace EditionCheck.Settings

open File (Disk)

variable {d : Disk} {s : Settings} {l : Layer} {file out : Path} {p text mark : String}
  {w : Surroundings} {a : Arguments}

/-! ## Looks one after the other -/

theorem then_eq_ok {β : Type} {step : Except Problem Unit} {next : Except Problem β} {b : β} :
    (step >>= fun _ => next) = .ok b ↔ step = .ok () ∧ next = .ok b := by
  rw [bind_eq_ok]
  constructor
  · rintro ⟨_, hstep, hnext⟩
    exact ⟨hstep, hnext⟩
  · rintro ⟨hstep, hnext⟩
    exact ⟨(), hstep, hnext⟩

theorem checkField_eq_ok {α : Type} {field : Option α} {rule : α → Except Problem Unit} :
    checkField field rule = .ok () ↔ ∀ a, field = some a → rule a = .ok () := by
  unfold checkField
  cases field <;> simp

/-! ## Layers of files -/

theorem Layer.checkPattern_eq_ok :
    Layer.checkPattern file p = .ok () ↔ p.isEmpty = false ∧ ∃ g, Glob.ofString p = .ok g := by
  unfold Layer.checkPattern
  cases p.isEmpty with
  | true => simp
  | false => cases Glob.ofString p <;> simp

/-- A layer is sound if no path that it sets is empty, the directory is not blank, and the patterns
are valid and not empty. -/
theorem Layer.check_eq_ok :
    l.check file = .ok () ↔
      (∀ q, l.projectPath = some q → q.text.isEmpty = false) ∧
      (∀ ps, l.ignore = some ps → ∀ p ∈ ps, p.isEmpty = false ∧ ∃ g, Glob.ofString p = .ok g) ∧
      (∀ m, l.modulesDir = some m → isBlank m = false) ∧
      ∀ q, l.outputFile = some q → q.text.isEmpty = false := by
  unfold Layer.check
  rw [then_eq_ok, then_eq_ok, then_eq_ok]
  simp only [checkField_eq_ok, refuseIf_eq_ok, forM_eq_ok, Layer.checkPattern_eq_ok]

/-! ## Settings -/

/-- Something that its owner may write stands where the directory of a file should be. -/
def Accepts (d : Disk) (out : Path) : Prop :=
  ∃ i, d.target? (holderOf out) = some i ∧ isWritable i.mode = true

theorem checkOutput_eq_ok : checkOutput d out = .ok () ↔ Accepts d out := by
  unfold checkOutput Accepts
  cases d.target? (holderOf out) with
  | none => simp
  | some i => simp [refuseIf_eq_ok]

/-- Settings are in order if all that is looked at is, the output file last. -/
theorem check_eq_ok :
    s.check d = .ok () ↔ Usable s d ∧ ∀ out, s.outputFile = some out → Accepts d out := by
  unfold check
  rw [then_eq_ok, then_eq_ok, then_eq_ok]
  simp only [refuseIf_eq_ok, forM_eq_ok, checkPattern_eq_ok, checkField_eq_ok, checkOutput_eq_ok,
    Bool.not_eq_false']
  constructor
  · rintro ⟨hproject, hpatterns, hmodules, hout⟩
    exact ⟨⟨hproject, hpatterns, hmodules⟩, hout⟩
  · rintro ⟨⟨hproject, hpatterns, hmodules⟩, hout⟩
    exact ⟨hproject, hpatterns, hmodules, hout⟩

/-- Settings that were loaded are in order. -/
theorem check_of_load (h : load w a mark = .ok s) : s.check w.disk = .ok () := by
  obtain ⟨l, -, hbuild⟩ := bind_eq_ok.1 h
  obtain ⟨_, hcheck, hs⟩ := bind_eq_ok.1 hbuild
  cases hs
  exact hcheck

/-- Settings with the patterns and the directory of installed dependencies that a layer sets. -/
def adopting (s : Settings) (l : Layer) : Settings :=
  { s with ignore := l.ignore.getD s.ignore, modulesDir := l.modulesDir.getD s.modulesDir }

/-- Settings stay in order with the patterns and the directory of a sound layer. -/
theorem check_adopting (hl : l.check file = .ok ()) (h : s.check d = .ok ()) :
    (s.adopting l).check d = .ok () := by
  obtain ⟨-, hpatterns, hmodules, -⟩ := Layer.check_eq_ok.1 hl
  obtain ⟨husable, hout⟩ := check_eq_ok.1 h
  refine check_eq_ok.2 ⟨⟨husable.project, ?_, ?_⟩, hout⟩
  · unfold adopting
    cases hi : l.ignore with
    | none => exact husable.patterns
    | some ps => exact fun p hp => (hpatterns ps hi p hp).2
  · unfold adopting
    cases hm : l.modulesDir with
    | none => exact husable.modules
    | some m => exact hmodules m hm

/-! ## Checks with settings that were loaded -/

/-- Checks with these settings go by all of their patterns. -/
structure UsesPatterns (s : Settings) : Prop where
  /-- Each pattern is read, in order. -/
  read : (Check.validPatterns s.options.ignore).map Except.ok = s.ignore.map Glob.ofString
  /-- A dependency is left out because of the first pattern that covers its name. -/
  first : ∀ files oracle project now,
    ∀ f ∈ (Check.run files oracle s.options project now).results.findings, ∀ raw,
      f.verdict = .unchecked (.ignored raw) ↔ s.ignore.find? (Glob.covers f.name) = some raw
  /-- It is never said that a pattern is passed over. -/
  unrefused : ∀ files oracle project now raw e,
    .said (Check.invalidPattern raw e) ∉ (Check.run files oracle s.options project now).events

theorem usesPatterns_of_valid (h : ∀ raw ∈ s.ignore, ∃ g, Glob.ofString raw = .ok g) :
    UsesPatterns s where
  read := Check.validPatterns_of_valid h
  first _ _ _ _ _ hf raw := Check.run_ignored hf raw
  unrefused _ _ _ _ raw e := Check.not_said_of_valid h raw e

/-- What can be relied on after settings were loaded, and after a file was accepted. -/
structure Reliable (w : Surroundings) (a : Arguments) (mark : String) : Prop where
  /-- The project is a directory, the patterns are valid, and the directory of installed
  dependencies is not blank. -/
  usable : ∀ s, load w a mark = .ok s → Usable s w.disk
  patterns : ∀ s, load w a mark = .ok s → UsesPatterns s
  /-- Whatever a file that is accepted sets of these is accepted in any settings. -/
  file : ∀ file text l, Layer.ofFileText file text = .ok l →
    ∀ (s : Settings) (d : Disk), s.check d = .ok () → (s.adopting l).check d = .ok ()

/-- No value that one look refuses slips through another one. -/
theorem load_reliable (w : Surroundings) (a : Arguments) (mark : String) : Reliable w a mark where
  usable _ h := (check_eq_ok.1 (check_of_load h)).1
  patterns _ h := usesPatterns_of_valid (check_eq_ok.1 (check_of_load h)).1.patterns
  file _ _ _ hl _ _ h := check_adopting (ofFileText_eq_ok.1 hl).2 h

/-- Arguments that give patterns. -/
def patternArguments : Arguments := { Arguments.none with ignore := ["left-*", "@types/*"] }

/-- The patterns of the arguments are both used; those of a file would be accepted as well. -/
theorem load_reliable_patterns :
    ∃ s l, load layeredSurroundings patternArguments Source.standardMark = .ok s ∧
      s.ignore = ["left-*", "@types/*"] ∧ s.modulesDir = "vendor" ∧
      (Check.validPatterns s.options.ignore).map Except.ok =
        ["left-*", "@types/*"].map Glob.ofString ∧
      Layer.ofFileText ConfigFile.fileName "ignore_patterns = [\"a?\"]\nmodules_dir = \"lib\"" =
        .ok l ∧
      (s.adopting l).check layeredSurroundings.disk = .ok () := by
  have hs : ((load layeredSurroundings patternArguments Source.standardMark).toOption.map fun s =>
      (s.ignore, s.modulesDir)) = some (["left-*", "@types/*"], "vendor") := by decide +kernel
  have hl : (Layer.ofFileText ConfigFile.fileName
      "ignore_patterns = [\"a?\"]\nmodules_dir = \"lib\"").isOk = true := by decide +kernel
  have hreliable := load_reliable layeredSurroundings patternArguments Source.standardMark
  cases hload : load layeredSurroundings patternArguments Source.standardMark with
  | error e =>
    rw [hload] at hs
    cases hs
  | ok s =>
    cases htext : Layer.ofFileText ConfigFile.fileName
        "ignore_patterns = [\"a?\"]\nmodules_dir = \"lib\"" with
    | error e =>
      rw [htext] at hl
      cases hl
    | ok l =>
      rw [hload] at hs
      simp only [Except.toOption, Option.map_some, Option.some.injEq, Prod.mk.injEq] at hs
      obtain ⟨hignore, hmodules⟩ := hs
      refine ⟨s, l, rfl, hignore, hmodules, ?_, rfl,
        hreliable.file _ _ l htext s _ (check_of_load hload)⟩
      rw [(hreliable.patterns s hload).read, hignore]

end EditionCheck.Settings
