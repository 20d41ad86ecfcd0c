import EditionCheck.Command

/-!
  Mere warnings on the way to the settings of a check.

  A warning is meant for a problem with one package, with which a check goes on; the reading of
  arguments, variables and files has none (`combined_not_warns`). The one step that has one is the
  look at the directory of the output file, when its owner may not write there (`check_warns`). So
  a check gets a warning instead of settings exactly if all that is looked at before is in order and
  that directory is there but not writable (`settings_warns`).
-/

namespace EditionCheck

open File (Disk Item)
open Settings (Layer)

/-- It ends with a problem that is a mere warning. -/
def Warns (x : Except Problem α) : Prop := ∃ e, x = .error e ∧ e.severity = .warning

/-! ## Putting steps together -/

section Steps

variable {x : Except Problem α} {f : α → Except Problem β} {a : α} {e : Problem}

@[simp]
theorem not_warns_ok : ¬Warns (.ok a : Except Problem α) := by
  rintro ⟨e, h, -⟩
  cases h

@[simp]
theorem warns_error : Warns (.error e : Except Problem α) ↔ e.severity = .warning := by
  constructor
  · rintro ⟨e', h, hw⟩
    cases h
    exact hw
  · intro hw
    exact ⟨e, rfl, hw⟩

/-- Of two steps one has the warning, and it is the second only if the first gives something. -/
theorem warns_bind : Warns (x >>= f) ↔ Warns x ∨ ∃ a, x = .ok a ∧ Warns (f a) := by
  cases x with
  | error e =>
    have hx : (Except.error e >>= f) = .error e := rfl
    simp [hx]
  | ok a =>
    have hx : (Except.ok a >>= f) = f a := rfl
    simp [hx]

theorem not_warns_bind (hx : ¬Warns x) (hf : ∀ a, ¬Warns (f a)) : ¬Warns (x >>= f) := by
  rw [warns_bind]
  rintro (h | ⟨a, -, h⟩)
  · exact hx h
  · exact hf a h

/-- After a step that has no warnings, the warnings are those of what follows. -/
theorem warns_then {step : Except Problem PUnit} {y : Except Problem β} (hx : ¬Warns step) :
    Warns (step >>= fun _ => y) ↔ step = .ok () ∧ Warns y := by
  rw [warns_bind]
  constructor
  · rintro (h | ⟨_, h, hy⟩)
    · exact absurd h hx
    · exact ⟨h, hy⟩
  · rintro ⟨h, hy⟩
    exact .inr ⟨(), h, hy⟩

theorem warns_refuseIf {c : Bool} :
    Warns (Settings.refuseIf c e) ↔ c = true ∧ e.severity = .warning := by
  unfold Settings.refuseIf
  cases c <;> simp

theorem warns_checkField {field : Option α} {rule : α → Except Problem Unit} :
    Warns (Settings.checkField field rule) ↔ ∃ a, field = some a ∧ Warns (rule a) := by
  unfold Settings.checkField
  cases field <;> simp

theorem not_warns_forM {xs : List α} {rule : α → Except Problem PUnit}
    (h : ∀ a, ¬Warns (rule a)) : ¬Warns (xs.forM rule) := by
  induction xs with
  | nil => exact not_warns_ok
  | cons a xs ih =>
    have hcons : (a :: xs).forM rule = rule a >>= fun _ => xs.forM rule := rfl
    rw [hcons]
    exact not_warns_bind (h a) fun _ => ih

theorem forM_eq_ok {xs : List α} {rule : α → Except Problem PUnit} :
    xs.forM rule = .ok () ↔ ∀ a ∈ xs, rule a = .ok () := by
  induction xs with
  | nil => exact ⟨nofun, fun _ => rfl⟩
  | cons a xs ih =>
    have hcons : (a :: xs).forM rule = rule a >>= fun _ => xs.forM rule := rfl
    rw [hcons, List.forall_mem_cons]
    cases ha : rule a with
    | error e => exact ⟨nofun, nofun⟩
    | ok u => exact ih.trans (by simp)

end Steps

/-! ## Reading what is asked for -/

theorem checkArguments_not_warns (d : Disk) (a : Arguments) :
    ¬Warns (Command.checkArguments d a) := by
  unfold Command.checkArguments
  apply not_warns_bind
  · simp [warns_checkField, warns_refuseIf, Problem.severity]
  · intro _
    simp [warns_checkField, warns_refuseIf, Problem.severity]

theorem edition_not_warns (value : Option String) : ¬Warns (Environment.edition value) := by
  unfold Environment.edition
  split <;> simp [Problem.severity]

theorem layer_not_warns (a : Arguments) : ¬Warns a.layer := by
  unfold Arguments.layer
  exact not_warns_bind (edition_not_warns a.target) fun _ => not_warns_ok

theorem checkPattern_not_warns (file : Path) (p : String) : ¬Warns (Layer.checkPattern file p) := by
  unfold Layer.checkPattern
  split
  · simp [Problem.severity]
  · split <;> simp [Problem.severity]

theorem check_not_warns (l : Layer) (file : Path) : ¬Warns (l.check file) := by
  unfold Layer.check
  refine not_warns_bind ?_ fun _ => not_warns_bind ?_ fun _ => not_warns_bind ?_ fun _ => ?_
  · simp [warns_checkField, warns_refuseIf, Layer.emptyField, Problem.severity]
  · rw [warns_checkField]
    rintro ⟨ps, -, h⟩
    exact not_warns_forM (checkPattern_not_warns file) h
  · simp [warns_checkField, warns_refuseIf, Layer.emptyField, Problem.severity]
  · simp [warns_checkField, warns_refuseIf, Layer.emptyField, Problem.severity]

theorem ofFileText_not_warns (file : Path) (text : String) :
    ¬Warns (Layer.ofFileText file text) := by
  unfold Layer.ofFileText
  split
  · exact fun h => by simpa [Problem.severity] using warns_error.mp h
  · next l _ => exact not_warns_bind (check_not_warns l file) fun _ => not_warns_ok

theorem load_not_warns (d : Disk) (p : Path) : ¬Warns (ConfigFile.load d p) := by
  unfold ConfigFile.load ConfigFile.read
  split
  · split
    · simp [Problem.severity]
    · split
      · simp [Problem.severity]
      · next text _ => exact ofFileText_not_warns p text
  · simp [Problem.severity]

theorem fileLayer_not_warns (w : Surroundings) (config : Option Path) :
    ¬Warns (Settings.fileLayer w config) := by
  unfold Settings.fileLayer
  split
  · next p => exact load_not_warns w.disk p
  · split <;> simp

theorem combined_not_warns (w : Surroundings) (a : Arguments) (mark : String) :
    ¬Warns (Settings.combined w a mark) := by
  unfold Settings.combined
  refine not_warns_bind (fileLayer_not_warns w a.config) fun _ => ?_
  exact not_warns_bind (layer_not_warns a) fun _ => not_warns_ok

/-! ## Looking at the settings -/

/-- All that is looked at before the output file is in order. -/
structure Usable (s : Settings) (d : Disk) : Prop where
  project : d.isDirectory s.projectPath = true
  patterns : ∀ p ∈ s.ignore, ∃ g, Glob.ofString p = .ok g
  modules : Settings.isBlank s.modulesDir = false

/-- The directory that is to hold a file is there, and its owner may not write in it. -/
def Locked (d : Disk) (out : Path) : Prop :=
  ∃ i, d.target? (Settings.holderOf out) = some i ∧ Settings.isWritable i.mode = false

theorem checkPattern_eq_ok {p : String} :
    Settings.checkPattern p = .ok () ↔ ∃ g, Glob.ofString p = .ok g := by
  unfold Settings.checkPattern
  split
  · next g h => simp [h]
  · next e h => simp [h]

theorem settingsPattern_not_warns (p : String) : ¬Warns (Settings.checkPattern p) := by
  unfold Settings.checkPattern
  split <;> simp [Problem.severity]

theorem refuseIf_eq_ok {c : Bool} {e : Problem} : Settings.refuseIf c e = .ok () ↔ c = false := by
  unfold Settings.refuseIf
  cases c <;> simp

theorem checkOutput_warns {d : Disk} {out : Path} :
    Warns (Settings.checkOutput d out) ↔ Locked d out := by
  unfold Settings.checkOutput Locked
  cases h : d.target? (Settings.holderOf out) with
  | none => simp [Problem.severity]
  | some i => simp [warns_refuseIf, Problem.severity]

/-- A warning about settings is always about the directory of the output file. -/
theorem check_warns {s : Settings} {d : Disk} :
    Warns (s.check d) ↔ Usable s d ∧ ∃ out, s.outputFile = some out ∧ Locked d out := by
  have hproject : ¬Warns (Settings.refuseIf (!d.isDirectory s.projectPath)
      (.invalidPath s.projectPath)) := by
    simp [warns_refuseIf, Problem.severity]
  have hpatterns : ¬Warns (s.ignore.forM Settings.checkPattern) :=
    not_warns_forM settingsPattern_not_warns
  have hmodules : ¬Warns (Settings.refuseIf (Settings.isBlank s.modulesDir)
      (.config "modules_dir must not be empty")) := by
    simp [warns_refuseIf, Problem.severity]
  unfold Settings.check
  rw [warns_then hproject, warns_then hpatterns, warns_then hmodules, refuseIf_eq_ok, refuseIf_eq_ok,
    forM_eq_ok, warns_checkField]
  simp only [checkPattern_eq_ok, checkOutput_warns, Bool.not_eq_false']
  constructor
  · rintro ⟨hp, hi, hm, hout⟩
    exact ⟨⟨hp, hi, hm⟩, hout⟩
  · rintro ⟨⟨hp, hi, hm⟩, hout⟩
    exact ⟨hp, hi, hm, hout⟩

/-- Everything is in order up to the output file, in whose directory its owner may not write. -/
def OutputRefused (w : Surroundings) (a : Arguments) : Prop :=
  Command.checkArguments w.disk a = .ok () ∧
    ∃ l, Settings.combined w a Settings.Source.standardMark = .ok l ∧
      Usable l.settle w.disk ∧ ∃ out, l.settle.outputFile = some out ∧ Locked w.disk out

theorem build_warns {l : Layer} {d : Disk} : Warns (l.build d) ↔ Warns (l.settle.check d) := by
  unfold Layer.build
  rw [warns_bind]
  constructor
  · rintro (h | ⟨_, -, h⟩)
    · exact h
    · exact absurd h not_warns_ok
  · exact .inl

theorem load_warns {w : Surroundings} {a : Arguments} {mark : String} :
    Warns (Settings.load w a mark) ↔
      ∃ l, Settings.combined w a mark = .ok l ∧ Warns (l.settle.check w.disk) := by
  have hload : Settings.load w a mark =
      Settings.combined w a mark >>= fun l => l.build w.disk := rfl
  rw [hload, warns_bind]
  constructor
  · rintro (h | ⟨l, hl, h⟩)
    · exact absurd h (combined_not_warns w a mark)
    · exact ⟨l, hl, build_warns.mp h⟩
  · rintro ⟨l, hl, h⟩
    exact .inr ⟨l, hl, build_warns.mpr h⟩

/-- A check gets a warning instead of its settings exactly when its output is refused. -/
theorem settings_warns {w : Surroundings} {a : Arguments} :
    Warns (Command.settings w a) ↔ OutputRefused w a := by
  unfold Command.settings OutputRefused
  rw [warns_then (checkArguments_not_warns w.disk a), load_warns]
  simp only [check_warns]

end EditionCheck
