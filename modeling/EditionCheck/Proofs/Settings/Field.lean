import EditionCheck.Settings.Source

/-!
  The fields of the settings, one by one.

  A `Field` stands for one of the things that a run can be told. What a layer, settings, the command
  line and the environment say about it are functions of the field, so what holds of every field is
  one statement. Laying layers on one another and settling them is done field by field
  (`inLayer_above`, `inSettings_settle`), and the command line and the environment make layers that
  say of each field what they say about it (`inLayer_arguments`, `layer_of_valid`).
-/

namespace EditionCheck.Settings

/-! ## Words that may be invalid -/

section Words

variable {value : Option String}

/-- Two steps give something if the first does and the second does from there. -/
theorem bind_eq_ok {ε β γ : Type} {x : Except ε β} {f : β → Except ε γ} {c : γ} :
    (x >>= f) = .ok c ↔ ∃ b, x = .ok b ∧ f b = .ok c := by
  cases x with
  | error e => exact ⟨nofun, nofun⟩
  | ok b => exact ⟨fun h => ⟨b, rfl, h⟩, fun ⟨_, hb, h⟩ => by cases hb; exact h⟩

/-- A value that has to be a word of some kind, if there is a value. -/
def word {ε α : Type} (read : String → Except ε α) (refuse : ε → Problem) (value : Option String) :
    Except Problem (Option α) :=
  match value.map read with
  | none => .ok none
  | some (.ok a) => .ok (some a)
  | some (.error e) => .error (refuse e)

theorem edition_eq : Environment.edition value = word Edition.ofText .unknownEdition value := by
  cases value with
  | none => rfl
  | some s => cases hs : Edition.ofText s <;> simp [Environment.edition, word, hs]

theorem format_eq :
    Environment.format value = word OutputFormat.ofText (fun e => .config e.message) value := by
  cases value with
  | none => rfl
  | some s => cases hs : OutputFormat.ofText s <;> simp [Environment.format, word, hs]

variable {ε α : Type} {read : String → Except ε α} {refuse : ε → Problem}

theorem word_eq_ok {a : Option α} (h : word read refuse value = .ok a) :
    a = value.bind fun s => (read s).toOption := by
  cases value with
  | none =>
    cases h
    rfl
  | some s =>
    rw [Option.bind_some]
    cases hs : read s with
    | error e => simp [word, hs] at h
    | ok v =>
      simp only [word, Option.map_some, hs, Except.ok.injEq] at h
      exact h.symm

theorem word_eq_error :
    (∃ e, word read refuse value = .error e) ↔ ∃ s, value = some s ∧ (read s).toOption = none := by
  cases value with
  | none => simp [word]
  | some s => cases hs : read s <;> simp [word, hs, Except.toOption]

/-- Colors can only be switched off, and only a value that says so does it. -/
theorem colors_eq (value : Option String) [Decidable (value.map Environment.isYes = some true)] :
    (if value.map Environment.isYes = some true then some false else none) =
      value.bind fun s => (some (if Environment.isYes s then some false else none)).join := by
  cases value <;> simp

end Words

/-! ## Fields -/

/-- A field of the settings, by the values that it takes. -/
inductive Field : Type → Type where
  | projectPath : Field Path
  | target : Field Edition
  | logConforming : Field Bool
  | development : Field Bool
  | optional : Field Bool
  | ignore : Field (List String)
  | modulesDir : Field String
  | outputFormat : Field OutputFormat
  | outputFile : Field Path
  | useColors : Field Bool
  | showProgress : Field Bool
  | quiet : Field Bool
  | verbose : Field Bool
  | failOnNonConforming : Field Bool

namespace Field

/-- What a layer sets a field to. -/
def inLayer : Field α → Layer → Option α
  | projectPath, l => l.projectPath
  | target, l => l.target
  | logConforming, l => l.logConforming
  | development, l => l.development
  | optional, l => l.optional
  | ignore, l => l.ignore
  | modulesDir, l => l.modulesDir
  | outputFormat, l => l.outputFormat
  | outputFile, l => l.outputFile
  | useColors, l => l.useColors
  | showProgress, l => l.showProgress
  | quiet, l => l.quiet
  | verbose, l => l.verbose
  | failOnNonConforming, l => l.failOnNonConforming

/-- The value of a field in settings. Only the output file may have none. -/
def inSettings (f : Field α) (s : Settings) : Option α := f.inLayer s.asLayer

theorem inLayer_above (f : Field α) (upper lower : Layer) :
    f.inLayer (upper.above lower) = (f.inLayer upper <|> f.inLayer lower) := by
  cases f <;> rfl

theorem inLayer_empty (f : Field α) : f.inLayer .empty = none := by
  cases f <;> rfl

/-- Settling a layer fills in the standard value of each field that it does not set. -/
theorem inSettings_settle (f : Field α) (l : Layer) :
    f.inSettings l.settle = (f.inLayer l <|> f.inSettings standard) := by
  have fills : ∀ {β : Type} (x : Option β) (y : β), some (x.getD y) = (x <|> some y) := by
    intro β x y
    cases x <;> rfl
  cases f <;> first | exact fills _ _ | rfl

/-- Settings that agree in every field are the same. -/
theorem inSettings_ext {s t : Settings}
    (h : ∀ {α : Type} (f : Field α), f.inSettings s = f.inSettings t) : s = t := by
  rw [← settle_asLayer s, ← settle_asLayer t]
  congr 1
  rw [Layer.mk.injEq]
  exact ⟨h projectPath, h target, h logConforming, h development, h optional, h ignore,
    h modulesDir, h outputFormat, h outputFile, h useColors, h showProgress, h quiet, h verbose,
    h failOnNonConforming⟩

/-! ## The command line -/

/-- What arguments set a field to. -/
def onCommandLine : Field α → Arguments → Option α
  | projectPath, a => a.path
  | target, a => a.target.bind fun t => (Edition.ofText t).toOption
  | logConforming, a => if .logConforming ∈ a.switches then some true else none
  | development, a => if .devDeps ∈ a.switches then some true else none
  | optional, a => if .optionalDeps ∈ a.switches then some true else none
  | ignore, a => if a.ignore = [] then none else some a.ignore
  | modulesDir, _ => none
  | outputFormat, a => a.output
  | outputFile, a => a.outputFile
  | useColors, a => if .noColors ∈ a.switches then some false else none
  | showProgress, a => if .noProgress ∈ a.switches then some false else none
  | quiet, a => if .quiet ∈ a.switches then some true else none
  | verbose, a => if .verbose ∈ a.switches then some true else none
  | failOnNonConforming, a => if .noFail ∈ a.switches then some false else none

/-- The layer of the command line says what the arguments say. -/
theorem inLayer_arguments {a : Arguments} {l : Layer} (h : a.layer = .ok l) (f : Field α) :
    f.inLayer l = f.onCommandLine a := by
  unfold Arguments.layer at h
  obtain ⟨t, ht, h⟩ := bind_eq_ok.1 h
  cases h
  cases f with
  | target => exact word_eq_ok (edition_eq.symm.trans ht)
  | ignore => simp only [inLayer, onCommandLine, List.isEmpty_iff]
  | logConforming | development | optional | useColors | showProgress | quiet | verbose
    | failOnNonConforming => simp only [inLayer, onCommandLine, Arguments.onSwitch, Arguments.has,
      decide_eq_true_eq]
  | projectPath | modulesDir | outputFormat | outputFile => rfl

/-! ## The environment -/

/-- A variable that sets a field: its name behind the mark, and what a value of it stands for. An
invalid value stands for nothing, and a valid one may still leave the field unset. -/
structure Variable (α : Type) where
  name : String
  read : String → Option (Option α)

namespace Variable

/-- A variable every value of which is valid and sets its field. -/
def total (name : String) (read : String → α) : Variable α :=
  ⟨name, fun s => some (some (read s))⟩

/-- A variable every valid value of which sets its field. -/
def checked (name : String) (read : String → Option α) : Variable α :=
  ⟨name, fun s => (read s).map some⟩

theorem checked_read_eq_none {name s : String} {read : String → Option α} :
    (checked name read).read s = none ↔ read s = none := Option.map_eq_none_iff

end Variable

/-- The variable that sets a field, if there is one. -/
def setBy? : Field α → Option (Variable α)
  | projectPath => some (.total "PROJECT_PATH" Path.ofString)
  | target => some (.checked "TARGET" fun s => (Edition.ofText s).toOption)
  | logConforming => some (.total "LOG_CONFORMING" Environment.isYes)
  | development => some (.total "DEV_DEPS" Environment.isYes)
  | optional => some (.total "OPTIONAL_DEPS" Environment.isYes)
  | ignore => some (.total "IGNORE" Environment.list)
  | modulesDir => some (.total "MODULES_DIR" id)
  | outputFormat => some (.checked "OUTPUT_FORMAT" fun s => (OutputFormat.ofText s).toOption)
  | outputFile => some (.total "OUTPUT_FILE" Path.ofString)
  | useColors =>
    some ⟨"NO_COLORS", fun s => some (if Environment.isYes s then some false else none)⟩
  | showProgress | quiet | verbose | failOnNonConforming => none

/-- What the variables behind a mark set a field to. -/
def inEnvironment (f : Field α) (env : Environment) (mark : String) : Option α :=
  f.setBy?.bind fun v => (env.get? (Environment.marked mark v.name)).bind fun s =>
    (v.read s).join

/-- Some value of a variable is invalid. -/
def Invalid (env : Environment) (mark : String) : Prop :=
  ∃ (α : Type) (f : Field α) (v : Variable α) (s : String), f.setBy? = some v ∧
    env.get? (Environment.marked mark v.name) = some s ∧ v.read s = none

section Environment

variable {env : Environment} {mark : String}

theorem inEnvironment_total {f : Field α} {name : String} {read : String → α}
    (h : f.setBy? = some (.total name read)) :
    f.inEnvironment env mark = (env.get? (Environment.marked mark name)).map read := by
  rw [inEnvironment, h, Option.bind_some, Option.map_eq_bind]
  rfl

theorem inEnvironment_checked {f : Field α} {name : String} {read : String → Option α}
    (h : f.setBy? = some (.checked name read)) :
    f.inEnvironment env mark = (env.get? (Environment.marked mark name)).bind read := by
  have hjoin : ∀ x : Option α, (x.map some).join = x := fun x => by cases x <;> rfl
  simp only [inEnvironment, h, Option.bind_some, Variable.checked, hjoin]

/-- The two variables that have invalid values. -/
theorem invalid_iff :
    Invalid env mark ↔
      (∃ s, env.get? (Environment.marked mark "TARGET") = some s ∧
        (Edition.ofText s).toOption = none) ∨
      ∃ s, env.get? (Environment.marked mark "OUTPUT_FORMAT") = some s ∧
        (OutputFormat.ofText s).toOption = none := by
  constructor
  · rintro ⟨α, f, v, s, hv, hs, hread⟩
    cases f with
    | target =>
      cases hv
      exact .inl ⟨s, hs, Variable.checked_read_eq_none.1 hread⟩
    | outputFormat =>
      cases hv
      exact .inr ⟨s, hs, Variable.checked_read_eq_none.1 hread⟩
    | showProgress | quiet | verbose | failOnNonConforming => cases hv
    | projectPath | logConforming | development | optional | ignore | modulesDir | outputFile
      | useColors =>
      cases hv
      cases hread
  · rintro (⟨s, hs, hnone⟩ | ⟨s, hs, hnone⟩)
    · exact ⟨_, target, _, s, rfl, hs, Variable.checked_read_eq_none.2 hnone⟩
    · exact ⟨_, outputFormat, _, s, rfl, hs, Variable.checked_read_eq_none.2 hnone⟩

/-- A variable has an invalid value exactly if the reading of one of them is refused. -/
theorem invalid_iff_refused :
    Invalid env mark ↔
      (∃ e, Environment.edition (env.get? (Environment.marked mark "TARGET")) = .error e) ∨
      ∃ e, Environment.format (env.get? (Environment.marked mark "OUTPUT_FORMAT")) = .error e := by
  rw [invalid_iff, edition_eq, format_eq, word_eq_error, word_eq_error]

/-- The variables of all fields are among those by which it is judged whether any are given. -/
theorem setBy?_mem_names {f : Field α} {v : Variable α} (h : f.setBy? = some v) :
    v.name ∈ Environment.names := by
  cases f <;> cases h <;> decide

/-- An environment that is passed over would not have set a field. -/
theorem inEnvironment_of_not_given (h : env.isGiven mark = false) (f : Field α) :
    f.inEnvironment env mark = none := by
  cases hv : f.setBy? with
  | none => rw [inEnvironment, hv, Option.bind_none]
  | some v =>
    have habsent := List.any_eq_false.1 h v.name (setBy?_mem_names hv)
    rw [inEnvironment, hv, Option.bind_some, Option.not_isSome_iff_eq_none.1 habsent,
      Option.bind_none]

/-- Where an environment is passed over, no variable has an invalid value. -/
theorem not_invalid_of_not_given (h : env.isGiven mark = false) : ¬Invalid env mark := by
  rintro ⟨α, f, v, s, hv, hs, -⟩
  have habsent := List.any_eq_false.1 h v.name (setBy?_mem_names hv)
  rw [hs] at habsent
  exact habsent rfl

/-- With an invalid value among them the variables give no layer. -/
theorem layer_of_invalid (h : Invalid env mark) : ∃ e, env.layer mark = .error e := by
  rw [invalid_iff_refused] at h
  cases ht : Environment.edition (env.get? (Environment.marked mark "TARGET")) with
  | error e =>
    simp only [Environment.layer, ht]
    exact ⟨e, rfl⟩
  | ok t =>
    obtain ⟨e, he⟩ := h.resolve_left (by simp [ht])
    simp only [Environment.layer, ht, he]
    exact ⟨e, rfl⟩

/-- Without an invalid value they give a layer that says what each of them says. -/
theorem layer_of_valid (h : ¬Invalid env mark) :
    ∃ l, env.layer mark = .ok l ∧
      ∀ {α : Type} (f : Field α), f.inLayer l = f.inEnvironment env mark := by
  rw [invalid_iff_refused, not_or] at h
  cases ht : Environment.edition (env.get? (Environment.marked mark "TARGET")) with
  | error e => exact absurd ⟨e, ht⟩ h.1
  | ok t =>
    cases ho : Environment.format (env.get? (Environment.marked mark "OUTPUT_FORMAT")) with
    | error e => exact absurd ⟨e, ho⟩ h.2
    | ok o =>
      simp only [Environment.layer, ht, ho]
      refine ⟨_, rfl, fun f => ?_⟩
      cases f with
      | target =>
        rw [inEnvironment_checked rfl]
        exact word_eq_ok (edition_eq.symm.trans ht)
      | outputFormat =>
        rw [inEnvironment_checked rfl]
        exact word_eq_ok (format_eq.symm.trans ho)
      | useColors =>
        exact colors_eq _
      | showProgress | quiet | verbose | failOnNonConforming => rfl
      | projectPath | logConforming | development | optional | ignore | modulesDir
        | outputFile =>
        rw [inEnvironment_total rfl]
        simp [inLayer]

end Environment

end Field
end EditionCheck.Settings
