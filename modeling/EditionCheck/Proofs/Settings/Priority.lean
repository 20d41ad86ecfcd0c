import EditionCheck.Proofs.Settings.Precedence

/-!
  The numbers that sources declare, and which source decides.

  Each source declares a number for its weight against others. The layers are laid on one another in
  an order of their own: the file lies lowest, then come the variables, then the arguments
  (`load_field`). The number of a file is above that of the variables, so the numbers say which
  source decides a field unless the variables set it over another value of the file and the
  arguments do not set it; then the variables decide (`byNumber_iff`).
-/

namespace EditionCheck.Settings

/-! ## Sources and what they set -/

/-- The configuration file of a run: the one that is asked for, or else the first among the usual
places. -/
def configuration? (w : Surroundings) (a : Arguments) : Option Path :=
  a.config <|> w.locations.find? w.disk.isFile

/-- The sources of a run. -/
def sources (w : Surroundings) (a : Arguments) (mark : String) : List Source :=
  ((configuration? w a).map fun p => .file (some p)).toList ++ [.environment mark, .commandLine a]

/-- A source can be loaded and sets a field to a value. -/
def Source.Sets (w : Surroundings) (source : Source) (f : Field α) (x : α) : Prop :=
  ∃ l, source.load w = .ok l ∧ f.inLayer l = some x

/-- The configuration file sets a field to a value. -/
def FileSets (w : Surroundings) (a : Arguments) (f : Field α) (x : α) : Prop :=
  ∃ p, configuration? w a = some p ∧ (Source.file (some p)).Sets w f x

/-- Two sources set a field. -/
def Contested (w : Surroundings) (a : Arguments) (mark : String) (f : Field α) : Prop :=
  ∃ source ∈ sources w a mark, ∃ other ∈ sources w a mark, source ≠ other ∧
    (∃ x, source.Sets w f x) ∧ ∃ y, other.Sets w f y

/-- Of the sources that set a contested field, the one with the highest number decides it. -/
def ByNumber (w : Surroundings) (a : Arguments) (mark : String) (s : Settings) (f : Field α) :
    Prop :=
  Contested w a mark f → ∀ source ∈ sources w a mark, ∀ x, source.Sets w f x →
    (∀ other ∈ sources w a mark, ∀ y, other.Sets w f y → other.priority ≤ source.priority) →
      f.inSettings s = some x

/-- The variables set a field to a value over another one of the configuration file, and the
arguments leave it at that. -/
structure Overruled (w : Surroundings) (a : Arguments) (mark : String) (f : Field α) (y : α) :
    Prop where
  file : ∃ x, FileSets w a f x ∧ x ≠ y
  environment : (Source.environment mark).Sets w f y
  arguments : ∀ z, ¬(Source.commandLine a).Sets w f z

section Sources

variable {w : Surroundings} {a : Arguments} {mark : String} {f : Field α} {x : α} {source : Source}

theorem mem_sources :
    source ∈ sources w a mark ↔ (∃ p, configuration? w a = some p ∧ source = .file (some p)) ∨
      source = .environment mark ∨ source = .commandLine a := by
  unfold sources
  rw [List.mem_append, Option.mem_toList, Option.map_eq_some_iff]
  simp only [List.mem_cons, List.not_mem_nil, or_false, eq_comm (b := source)]

theorem Source.sets_iff :
    source.Sets w f x ↔ (source.load w).toOption.bind f.inLayer = some x := by
  unfold Source.Sets
  cases source.load w <;> simp [Except.toOption]

/-- What a source sets if it is loaded. -/
theorem Source.sets_of_load {l : Layer} (h : source.load w = .ok l) :
    source.Sets w f x ↔ f.inLayer l = some x := by
  rw [Source.sets_iff, h]
  rfl

/-- A source that cannot be loaded sets nothing. -/
theorem Source.not_sets_of_error {e : Problem} (h : source.load w = .error e) :
    ¬source.Sets w f x := by
  rw [Source.sets_iff, h]
  nofun

/-- The lowest layer says what the configuration file sets. -/
theorem fileSets_iff {lowest : Layer} (h : fileLayer w a.config = .ok lowest) :
    FileSets w a f x ↔ f.inLayer lowest = some x := by
  have hsets : ∀ p, configuration? w a = some p →
      (FileSets w a f x ↔ (Source.file (some p)).Sets w f x) := by
    intro p hp
    constructor
    · rintro ⟨p', hp', hx⟩
      cases hp.symm.trans hp'
      exact hx
    · exact fun hx => ⟨p, hp, hx⟩
  cases hconfig : a.config with
  | some p =>
    rw [hconfig] at h
    rw [hsets p (by rw [configuration?, hconfig]; rfl)]
    exact Source.sets_of_load h
  | none =>
    have hfile : configuration? w a = w.locations.find? w.disk.isFile := by
      rw [configuration?, hconfig]
      rfl
    rw [hconfig, fileLayer_none] at h
    cases h
    cases hfind : w.locations.find? w.disk.isFile with
    | none =>
      rw [Option.elim_none, Field.inLayer_empty]
      refine iff_of_false ?_ nofun
      rintro ⟨p, hp, -⟩
      rw [hfile, hfind] at hp
      cases hp
    | some p =>
      have hload : (Source.file (some p)).load w = ConfigFile.read w.disk p :=
        if_pos (List.find?_some hfind)
      rw [hsets p (hfile.trans hfind), Option.elim_some]
      cases hr : ConfigFile.read w.disk p with
      | ok l => exact Source.sets_of_load (hload.trans hr)
      | error e =>
        have hempty : f.inLayer ((Except.error e : Except Problem Layer).toOption.getD .empty) = none :=
          Field.inLayer_empty f
        rw [hempty]
        exact iff_of_false (Source.not_sets_of_error (hload.trans hr)) nofun

/-- The middle layer says what the variables set, whether or not they are looked at. -/
theorem variables_set_iff :
    (Source.environment mark).Sets w f x ↔
      f.inLayer ((Source.environment mark).loadOrNothing w) = some x := by
  cases hg : w.environment.isGiven mark with
  | false =>
    obtain ⟨l, hl, hsays⟩ := Field.layer_of_valid (Field.not_invalid_of_not_given hg)
    have hload : (Source.environment mark).load w = .ok l := hl
    have hempty : (Source.environment mark).loadOrNothing w = .empty := by
      simp [Source.loadOrNothing, Source.isAvailable, hg]
    rw [Source.sets_of_load hload, hempty, hsays, Field.inLayer_empty,
      Field.inEnvironment_of_not_given hg]
  | true =>
    have hlayer : (Source.environment mark).loadOrNothing w =
        ((Source.environment mark).load w).toOption.getD .empty := by
      simp [Source.loadOrNothing, Source.isAvailable, hg]
    rw [hlayer]
    cases hload : (Source.environment mark).load w with
    | ok l => exact Source.sets_of_load hload
    | error e =>
      refine iff_of_false (Source.not_sets_of_error hload) ?_
      simp [Except.toOption, Field.inLayer_empty]

end Sources

/-! ## Which source decides -/

section Loaded

variable {w : Surroundings} {a : Arguments} {mark : String} {s : Settings} {f : Field α}

/-- A field of settings that are loaded is what the arguments set, or else the variables, or else
the configuration file, or else standard. -/
theorem load_field (h : load w a mark = .ok s) (f : Field α) :
    ∃ low middle top : Option α,
      (∀ x, FileSets w a f x ↔ low = some x) ∧
      (∀ x, (Source.environment mark).Sets w f x ↔ middle = some x) ∧
      (∀ x, (Source.commandLine a).Sets w f x ↔ top = some x) ∧
      f.inSettings s = (top <|> middle <|> low <|> f.inSettings standard) := by
  obtain ⟨lowest, top, hlowest, htop, rfl⟩ := load_eq_ok_layers h
  have hload : (Source.commandLine a).load w = .ok top := htop
  refine ⟨_, _, _, fun _ => fileSets_iff hlowest, fun _ => variables_set_iff,
    fun _ => Source.sets_of_load hload, ?_⟩
  rw [Field.inSettings_settle, Field.inLayer_above, Field.inLayer_above]
  cases f.inLayer top with
  | some x => rfl
  | none => cases f.inLayer ((Source.environment mark).loadOrNothing w) <;> rfl

theorem inSettings_of_overruled (h : load w a mark = .ok s) {y : α}
    (ho : Overruled w a mark f y) : f.inSettings s = some y := by
  obtain ⟨low, middle, top, -, hmiddle, htop, hvalue⟩ := load_field h f
  obtain rfl : middle = some y := (hmiddle y).1 ho.environment
  have hnone : top = none :=
    Option.eq_none_iff_forall_ne_some.2 fun z hz => ho.arguments z ((htop z).2 hz)
  rw [hvalue, hnone]
  rfl

/-- Where the variables overrule the file, the number of the file is the highest all the same. -/
theorem not_byNumber_of_overruled (h : load w a mark = .ok s) {y : α}
    (ho : Overruled w a mark f y) : ¬ByNumber w a mark s f := by
  intro hnumber
  obtain ⟨x, ⟨p, hp, hx⟩, hne⟩ := ho.file
  have hfile : Source.file (some p) ∈ sources w a mark := mem_sources.2 (.inl ⟨p, hp, rfl⟩)
  have hcontested : Contested w a mark f :=
    ⟨_, hfile, _, mem_sources.2 (.inr (.inl rfl)), nofun, ⟨x, hx⟩, y, ho.environment⟩
  have hdecides : f.inSettings s = some x := by
    refine hnumber hcontested _ hfile x hx fun other hother z hz => ?_
    obtain ⟨p', -, rfl⟩ | rfl | rfl := mem_sources.1 hother
    · exact Nat.le_refl _
    · simp [Source.priority]
    · exact absurd hz (ho.arguments z)
  rw [inSettings_of_overruled h ho] at hdecides
  exact hne (Option.some.inj hdecides).symm

theorem byNumber_of_not_overruled (h : load w a mark = .ok s)
    (ho : ∀ y, ¬Overruled w a mark f y) : ByNumber w a mark s f := by
  obtain ⟨low, middle, top, hlow, hmiddle, htop, hvalue⟩ := load_field h f
  intro _ source hsource x hx hhighest
  -- the arguments have the highest number of all
  have hnone : source.priority < 30 → top = none := by
    intro hlt
    refine Option.eq_none_iff_forall_ne_some.2 fun z hz => ?_
    have hle := hhighest _ (mem_sources.2 (.inr (.inr rfl))) z ((htop z).2 hz)
    exact absurd hle (Nat.not_le.2 hlt)
  obtain ⟨p, hp, rfl⟩ | rfl | rfl := mem_sources.1 hsource
  · have hfile : FileSets w a f x := ⟨p, hp, hx⟩
    rw [hvalue, hnone (by simp [Source.priority]), (hlow x).1 hfile]
    cases hm : middle with
    | none => rfl
    | some y =>
      by_cases hxy : x = y
      · rw [hxy]
        rfl
      · refine absurd ⟨⟨x, hfile, hxy⟩, (hmiddle y).2 hm, fun z hz => ?_⟩ (ho y)
        cases (hnone (by simp [Source.priority])).symm.trans ((htop z).1 hz)
  · rw [hvalue, hnone (by simp [Source.priority]), (hmiddle x).1 hx]
    rfl
  · rw [hvalue, (htop x).1 hx]
    rfl

end Loaded

/-- The numbers say which source decides a field of settings that are loaded, exactly unless the
variables set it over another value of the configuration file and the arguments do not set it; and
then the variables decide. -/
theorem byNumber_iff {w : Surroundings} {a : Arguments} {mark : String} {s : Settings}
    (h : load w a mark = .ok s) (f : Field α) :
    (ByNumber w a mark s f ↔ ∀ y, ¬Overruled w a mark f y) ∧
      ∀ y, Overruled w a mark f y → f.inSettings s = some y :=
  ⟨⟨fun hnumber _ ho => not_byNumber_of_overruled h ho hnumber, byNumber_of_not_overruled h⟩,
    fun _ ho => inSettings_of_overruled h ho⟩

/-- The arguments decide about the target, as their number says. Nobody but the file and the
variables sets the directory; there the variables decide. -/
theorem byNumber_iff_layered :
    ∃ s, load layeredSurroundings layeredArguments Source.standardMark = .ok s ∧
      ByNumber layeredSurroundings layeredArguments Source.standardMark s .target ∧
      Overruled layeredSurroundings layeredArguments Source.standardMark .modulesDir "vendor" ∧
      s.modulesDir = "vendor" := by
  have hsome : (load layeredSurroundings layeredArguments Source.standardMark).isOk = true := by
    decide +kernel
  cases hload : load layeredSurroundings layeredArguments Source.standardMark with
  | error e =>
    rw [hload] at hsome
    cases hsome
  | ok s =>
    have htarget : (Source.commandLine layeredArguments).Sets layeredSurroundings .target .es2018 :=
      Source.sets_iff.2 (by decide +kernel)
    have hfile : FileSets layeredSurroundings layeredArguments .modulesDir "lib" :=
      ⟨ConfigFile.fileName, by decide +kernel, Source.sets_iff.2 (by decide +kernel)⟩
    have hoverruled : Overruled layeredSurroundings layeredArguments Source.standardMark .modulesDir
        "vendor" :=
      ⟨⟨"lib", hfile, by decide⟩, Source.sets_iff.2 (by decide +kernel),
        fun z hz => by cases Source.sets_iff.1 hz⟩
    have hdecides := (byNumber_iff hload .modulesDir).2 "vendor" hoverruled
    exact ⟨s, rfl, (byNumber_iff hload .target).1.2 fun _ ho => ho.arguments _ htarget, hoverruled,
      Option.some.inj hdecides⟩

/-- The numbers that sources declare say which of them decides each contested field. -/
def NumberRule (w : Surroundings) (a : Arguments) (mark : String) : Prop :=
  ∀ s, load w a mark = .ok s → ∀ {α : Type} (f : Field α), ByNumber w a mark s f

/-- Without arguments the variables decide about the target, though the number of the file is
higher. -/
theorem numberRule_fails_variables :
    ¬NumberRule layeredSurroundings Arguments.none Source.standardMark := by
  have hsome : (load layeredSurroundings Arguments.none Source.standardMark).isOk = true := by
    decide +kernel
  intro hrule
  cases hload : load layeredSurroundings Arguments.none Source.standardMark with
  | error e =>
    rw [hload] at hsome
    cases hsome
  | ok s =>
    have hfile : FileSets layeredSurroundings Arguments.none .target .es2016 :=
      ⟨ConfigFile.fileName, by decide +kernel, Source.sets_iff.2 (by decide +kernel)⟩
    have hoverruled : Overruled layeredSurroundings Arguments.none Source.standardMark .target
        .es2017 :=
      ⟨⟨.es2016, hfile, by decide⟩, Source.sets_iff.2 (by decide +kernel),
        fun z hz => by cases Source.sets_iff.1 hz⟩
    exact not_byNumber_of_overruled hload hoverruled (hrule s hload .target)

end EditionCheck.Settings
