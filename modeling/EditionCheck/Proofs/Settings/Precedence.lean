import EditionCheck.Proofs.Settings.Field

/-!
  Which source decides a field of the settings.

  The command line comes first, then the environment, then the configuration file, and the standard
  settings fill what is left. The environment gives all or nothing (`EnvironmentGives`). A file that
  is asked for has to hold a sound layer; one that is found by itself gives what it can
  (`FileGives`). `load_precedence` says this of every field of every settings that are loaded.
-/

namespace EditionCheck.Settings

open File (Disk)

/-! ## The layer of a file -/

/-- A path leads to a file whose text is that of a sound layer. -/
structure Holds (d : Disk) (p : Path) (l : Layer) : Prop where
  file : d.isFile p = true
  text : ∃ text, d.readStrict p = .ok text ∧ Layer.ofTomlText? text = some l
  sound : l.check p = .ok ()

/-- What comes from a configuration file: the layer of the file that is asked for, or else that of
the first file among the usual places, or nothing. -/
inductive FileGives (w : Surroundings) : Option Path → Layer → Prop where
  | asked {p : Path} {l : Layer} (h : Holds w.disk p l) : FileGives w (some p) l
  | found {before after : List Path} {p : Path} {l : Layer}
      (hat : w.locations = before ++ p :: after)
      (hbefore : ∀ q ∈ before, w.disk.isFile q = false) (h : Holds w.disk p l) :
      FileGives w none l
  | spoilt {before after : List Path} {p : Path}
      (hat : w.locations = before ++ p :: after)
      (hbefore : ∀ q ∈ before, w.disk.isFile q = false) (hfile : w.disk.isFile p = true)
      (h : ∀ l, ¬Holds w.disk p l) : FileGives w none .empty
  | nowhere (h : ∀ q ∈ w.locations, w.disk.isFile q = false) :
      FileGives w none .empty

variable {w : Surroundings} {a : Arguments} {mark : String} {d : Disk} {p : Path} {l : Layer}

theorem present_of_isFile (h : d.isFile p = true) : d.present p = true := by
  unfold Disk.isFile at h
  unfold Disk.present
  cases ht : d.target? p with
  | none => rw [ht] at h; cases h
  | some i => rfl

theorem ofFileText_eq_ok {text : String} :
    Layer.ofFileText p text = .ok l ↔ Layer.ofTomlText? text = some l ∧ l.check p = .ok () := by
  unfold Layer.ofFileText
  cases ht : Layer.ofTomlText? text with
  | none => exact ⟨nofun, nofun⟩
  | some l' =>
    rw [bind_eq_ok]
    constructor
    · rintro ⟨_, hc, hl⟩
      cases hl
      exact ⟨rfl, hc⟩
    · rintro ⟨hl, hc⟩
      cases hl
      exact ⟨(), hc, rfl⟩

/-- A file gives the sound layer that it holds. -/
theorem read_eq_ok (h : d.isFile p = true) : ConfigFile.read d p = .ok l ↔ Holds d p l := by
  unfold ConfigFile.read
  simp only [present_of_isFile h, Bool.not_true, Bool.false_eq_true, if_false]
  cases hr : d.readStrict p with
  | error e =>
    refine ⟨nofun, ?_⟩
    rintro ⟨-, ⟨text, htext, -⟩, -⟩
    rw [hr] at htext
    cases htext
  | ok text =>
    rw [ofFileText_eq_ok]
    constructor
    · rintro ⟨ht, hc⟩
      exact ⟨h, ⟨text, hr, ht⟩, hc⟩
    · rintro ⟨-, ⟨text', htext, ht⟩, hc⟩
      rw [hr] at htext
      cases htext
      exact ⟨ht, hc⟩

theorem load_eq_ok : ConfigFile.load d p = .ok l ↔ Holds d p l := by
  unfold ConfigFile.load
  by_cases h : d.isFile p = true
  · rw [if_pos h, read_eq_ok h]
  · rw [if_neg h]
    exact ⟨nofun, fun hl => absurd hl.file h⟩

/-- A file that is found by itself gives what it can. -/
theorem fileLayer_none (w : Surroundings) :
    fileLayer w none =
      .ok ((w.locations.find? w.disk.isFile).elim .empty fun p =>
        (ConfigFile.read w.disk p).toOption.getD .empty) := by
  have hlocations : @ConfigFile.locations w.account w.environment = w.locations := rfl
  unfold fileLayer ConfigFile.loadDefault
  rw [hlocations]
  cases w.locations.find? w.disk.isFile with
  | none => rfl
  | some p =>
    dsimp only [Option.elim]
    cases ConfigFile.read w.disk p <;> rfl

/-- The lowest layer is what comes from a configuration file. -/
theorem fileLayer_gives {config : Option Path} (h : fileLayer w config = .ok l) :
    FileGives w config l := by
  cases config with
  | some p => exact .asked (load_eq_ok.1 h)
  | none =>
    rw [fileLayer_none] at h
    cases h
    cases hfind : w.locations.find? w.disk.isFile with
    | none => exact .nowhere fun q hq => Bool.eq_false_iff.2 (List.find?_eq_none.1 hfind q hq)
    | some p =>
      obtain ⟨hfile, before, after, hat, hbefore⟩ := List.find?_eq_some_iff_append.1 hfind
      have hnone : ∀ q ∈ before, w.disk.isFile q = false := by simpa using hbefore
      dsimp only [Option.elim]
      cases hr : ConfigFile.read w.disk p with
      | ok l' => exact .found hat hnone ((read_eq_ok hfile).1 hr)
      | error e =>
        refine .spoilt hat hnone hfile fun l hl => ?_
        rw [(read_eq_ok hfile).2 hl] at hr
        cases hr

/-! ## The layer of the environment -/

/-- What comes from the variables behind a mark: what each of them says, unless a value among them
is invalid, and then nothing. -/
structure EnvironmentGives (env : Environment) (mark : String) (l : Layer) : Prop where
  valid : ¬Field.Invalid env mark →
    ∀ {α : Type} (f : Field α), f.inLayer l = f.inEnvironment env mark
  invalid : Field.Invalid env mark → l = .empty

/-- The middle layer is what comes from the variables. -/
theorem loadOrNothing_gives (w : Surroundings) (mark : String) :
    EnvironmentGives w.environment mark ((Source.environment mark).loadOrNothing w) := by
  cases hg : w.environment.isGiven mark with
  | false =>
    have hempty : (Source.environment mark).loadOrNothing w = .empty := by
      simp [Source.loadOrNothing, Source.isAvailable, hg]
    rw [hempty]
    refine ⟨fun _ α f => ?_, fun h => absurd h (Field.not_invalid_of_not_given hg)⟩
    rw [Field.inLayer_empty, Field.inEnvironment_of_not_given hg]
  | true =>
    have hload : (Source.environment mark).loadOrNothing w =
        (w.environment.layer mark).toOption.getD .empty := by
      simp [Source.loadOrNothing, Source.isAvailable, Source.load, hg]
    rw [hload]
    constructor
    · intro h α f
      obtain ⟨l, hl, hsays⟩ := Field.layer_of_valid h
      rw [hl]
      exact hsays f
    · intro h
      obtain ⟨e, he⟩ := Field.layer_of_invalid h
      rw [he]
      rfl

/-! ## All layers -/

/-- Settings that are loaded are settled from the three layers, and can be used. -/
theorem load_eq_ok_layers {s : Settings} (h : load w a mark = .ok s) :
    ∃ lowest top, fileLayer w a.config = .ok lowest ∧ a.layer = .ok top ∧
      s = (top.above (((Source.environment mark).loadOrNothing w).above lowest)).settle := by
  obtain ⟨whole, hwhole, hbuild⟩ := bind_eq_ok.1 h
  obtain ⟨lowest, hlowest, hwhole⟩ := bind_eq_ok.1 hwhole
  obtain ⟨top, htop, hwhole⟩ := bind_eq_ok.1 hwhole
  obtain ⟨-, -, hs⟩ := bind_eq_ok.1 hbuild
  cases hwhole
  cases hs
  exact ⟨lowest, top, hlowest, htop, rfl⟩

/-- How the sources of settings rank. -/
structure Precedence (w : Surroundings) (a : Arguments) (mark : String) : Prop where
  /-- Each field is decided by the first source that sets it. -/
  fields : ∀ s, load w a mark = .ok s → ∃ middle lowest,
    EnvironmentGives w.environment mark middle ∧ FileGives w a.config lowest ∧
      ∀ {α : Type} (f : Field α),
        f.inSettings s =
          (f.onCommandLine a <|> f.inLayer middle <|> f.inLayer lowest <|> f.inSettings standard)
  /-- A file that is asked for has to hold a sound layer. -/
  asked : ∀ p, a.config = some p → (∀ l, ¬Holds w.disk p l) → ∃ e, load w a mark = .error e
  /-- Variables that are passed over would not have set a field. -/
  passed : w.environment.isGiven mark = false →
    ∀ {α : Type} (f : Field α), f.inEnvironment w.environment mark = none

/-- The command line outranks the environment, the environment outranks the configuration file, and
the standard settings come last, in every field. -/
theorem load_precedence (w : Surroundings) (a : Arguments) (mark : String) :
    Precedence w a mark where
  fields s h := by
    obtain ⟨lowest, top, hlowest, htop, rfl⟩ := load_eq_ok_layers h
    refine ⟨_, lowest, loadOrNothing_gives w mark, fileLayer_gives hlowest, fun f => ?_⟩
    rw [Field.inSettings_settle, Field.inLayer_above, Field.inLayer_above,
      Field.inLayer_arguments htop]
    cases f.onCommandLine a with
    | some x => rfl
    | none => cases f.inLayer ((Source.environment mark).loadOrNothing w) <;> rfl
  asked p hp hnone := by
    cases h : load w a mark with
    | error e => exact ⟨e, rfl⟩
    | ok s =>
      obtain ⟨lowest, -, hlowest, -, -⟩ := load_eq_ok_layers h
      rw [hp] at hlowest
      exact absurd (load_eq_ok.1 hlowest) (hnone lowest)
  passed h _ f := Field.inEnvironment_of_not_given h f

/-- Surroundings with a configuration file and variables. -/
def layeredSurroundings : Surroundings where
  disk :=
    ⟨[], [([".es5check.toml".toList], .newFile (Text.Utf8.encode
      "target = \"es2016\"\nmodules_dir = \"lib\"\nquiet = true\n".toList))]⟩
  environment := [("ES5CHECK_TARGET", "es2017"), ("ES5CHECK_MODULES_DIR", "vendor")]

/-- Arguments that give a target. -/
def layeredArguments : Arguments := { Arguments.none with target := some "es2018" }

/-- The target of the command line, the directory of the environment, and what else the file sets;
nothing when another file is asked for and is not there, and nothing from no variables. -/
theorem load_precedence_layered :
    (∃ s middle lowest, load layeredSurroundings layeredArguments Source.standardMark = .ok s ∧
      EnvironmentGives layeredSurroundings.environment Source.standardMark middle ∧
      FileGives layeredSurroundings none lowest ∧
      (some s.quiet = (none <|> middle.quiet <|> lowest.quiet <|> some false)) ∧
      s.target = .es2018 ∧ s.modulesDir = "vendor" ∧ s.quiet = true) ∧
    (∃ e, load layeredSurroundings
      { layeredArguments with config := some (Path.ofString "other.toml") }
      Source.standardMark = .error e) ∧
    Field.target.inEnvironment [] Source.standardMark = none := by
  have hcomputed :
      ((load layeredSurroundings layeredArguments Source.standardMark).toOption.map fun s =>
        (s.target, s.modulesDir, s.quiet)) = some (.es2018, "vendor", true) := by decide +kernel
  refine ⟨?_, ?_, ?_⟩
  · cases hload : load layeredSurroundings layeredArguments Source.standardMark with
    | error e => rw [hload] at hcomputed; cases hcomputed
    | ok s =>
      obtain ⟨middle, lowest, hmiddle, hlowest, hfields⟩ :=
        (load_precedence layeredSurroundings layeredArguments Source.standardMark).fields s hload
      rw [hload] at hcomputed
      simp only [Except.toOption, Option.map_some, Option.some.injEq, Prod.mk.injEq] at hcomputed
      exact ⟨s, middle, lowest, rfl, hmiddle, hlowest, hfields .quiet, hcomputed⟩
  · have hmissing : layeredSurroundings.disk.isFile (Path.ofString "other.toml") = false := by
      decide +kernel
    refine (load_precedence _ _ _).asked _ rfl fun l hl => ?_
    rw [hl.file] at hmissing
    cases hmissing
  · exact (load_precedence { layeredSurroundings with environment := [] } layeredArguments _).passed
      (by decide +kernel) .target

end EditionCheck.Settings
