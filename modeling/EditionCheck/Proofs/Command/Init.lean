import EditionCheck.Proofs.Settings.NewFile

/-!
  Making a configuration file.

  A file is made where none is there (`makeFile_absent`); otherwise nothing changes
  (`makeFile_present`). Whatever was on the disk stays there, a second time changes nothing, and
  the settings of a check come out as before (`init_harmless`).
-/

namespace EditionCheck

open File (Disk)

/-- What surrounds a run after a command. -/
def Surroundings.after (w : Surroundings) (e : Ending) : Surroundings := { w with disk := e.disk }

namespace Command

variable {d : Disk} {w : Surroundings}

/-! ## What a command leaves -/

/-- Nothing has to be made in order to hold a file with this name. -/
theorem create_fileName (d : Disk) :
    ConfigFile.create d ConfigFile.fileName =
      match d.write ConfigFile.fileName ConfigFile.newText with
      | .ok made => .ok made
      | .error e => .error (.io e) := by
  have hheld : (ConfigFile.fileName.parent?.getD default).text.isEmpty = true := by decide +kernel
  unfold ConfigFile.create
  simp only [hheld, Bool.true_or, if_true]
  rfl

theorem makeFile_present (h : d.present ConfigFile.fileName = true) :
    (makeFile d).status = 0 ∧ (makeFile d).disk = d := by
  simp [makeFile, h]

/-- The file is made, or it cannot be written and nothing changes. -/
theorem makeFile_absent (h : d.present ConfigFile.fileName = false) :
    ((makeFile d).status = 0 ∧
      d.Gains (makeFile d).disk ConfigFile.fileName ConfigFile.newText) ∨
    ((makeFile d).status = 2 ∧ (makeFile d).disk = d ∧
      ∃ e, d.write ConfigFile.fileName ConfigFile.newText = .error e) := by
  cases hwrite : d.write ConfigFile.fileName ConfigFile.newText with
  | ok made =>
    have hmade : (makeFile d).status = 0 ∧ (makeFile d).disk = made := by
      simp [makeFile, h, create_fileName, hwrite]
    rw [hmade.2]
    exact .inl ⟨hmade.1, Disk.gains_of_write h (by decide +kernel) hwrite⟩
  | error e =>
    have hfails : makeFile d = .ofProblem d (.io e) false := by
      simp [makeFile, h, create_fileName, hwrite]
    rw [hfails]
    exact .inr ⟨rfl, rfl, e, rfl⟩

theorem makeFile_extends (d : Disk) : d.Extends (makeFile d).disk := by
  cases h : d.present ConfigFile.fileName with
  | true =>
    rw [(makeFile_present h).2]
    exact .refl d
  | false =>
    obtain ⟨-, hgains⟩ | ⟨-, hsame, -⟩ := makeFile_absent h
    · exact hgains.extends
    · rw [hsame]
      exact .refl d

theorem makeFile_again (d : Disk) : (makeFile (makeFile d).disk).disk = (makeFile d).disk := by
  cases h : d.present ConfigFile.fileName with
  | true => rw [(makeFile_present h).2, (makeFile_present h).2]
  | false =>
    obtain ⟨-, hgains⟩ | ⟨-, hsame, -⟩ := makeFile_absent h
    · exact (makeFile_present (Settings.present_of_isFile hgains.file)).2
    · rw [hsame, hsame]

/-! ## No harm -/

/-- Making a configuration file does no harm. -/
structure Harmless (w : Surroundings) (now : Moment) (lasting : Duration) : Prop where
  /-- Where something has the name of the file, the command succeeds and changes nothing. -/
  kept : w.disk.present ConfigFile.fileName = true →
    (run w now lasting .init).status = 0 ∧ (run w now lasting .init).disk = w.disk
  /-- Otherwise the file is made and nothing else, or it cannot be written and nothing changes. -/
  made : w.disk.present ConfigFile.fileName = false →
    ((run w now lasting .init).status = 0 ∧
      w.disk.Gains (run w now lasting .init).disk ConfigFile.fileName ConfigFile.newText) ∨
    ((run w now lasting .init).status = 2 ∧ (run w now lasting .init).disk = w.disk ∧
      ∃ e, w.disk.write ConfigFile.fileName ConfigFile.newText = .error e)
  /-- The second time it changes nothing. -/
  again : ∀ now' lasting', (run (w.after (run w now lasting .init)) now' lasting' .init).disk =
    (run w now lasting .init).disk
  /-- What a path led to it still leads to. -/
  stands : ∀ p i, w.disk.target? p = some i → (run w now lasting .init).disk.target? p = some i
  /-- Where there was no configuration file, settings that could be loaded stay what they are. -/
  neutral : ∀ a mark s, a.config = none →
    (∀ p ∈ w.locations, w.disk.isFile p = false) →
    Settings.load w a mark = .ok s → (run w now lasting .init).status = 0 →
    Settings.load (w.after (run w now lasting .init)) a mark = .ok s

theorem load_makeFile {a : Arguments} {mark : String} {s : Settings} (hconfig : a.config = none)
    (hnowhere : ∀ p ∈ w.locations, w.disk.isFile p = false)
    (hload : Settings.load w a mark = .ok s) (hstatus : (makeFile w.disk).status = 0) :
    Settings.load { w with disk := (makeFile w.disk).disk } a mark = .ok s := by
  cases h : w.disk.present ConfigFile.fileName with
  | true =>
    -- something that is no file, such as a directory, has the name
    rw [(makeFile_present h).2]
    exact hload
  | false =>
    obtain ⟨-, hgains⟩ | ⟨hfails, -⟩ := makeFile_absent h
    · exact Settings.load_of_gains hgains hconfig hnowhere hload
    · cases hstatus.symm.trans hfails

/-- Making a configuration file destroys nothing and changes no settings, whatever is on the disk. -/
theorem init_harmless (w : Surroundings) (now : Moment) (lasting : Duration) :
    Harmless w now lasting where
  kept := makeFile_present
  made := makeFile_absent
  again _ _ := makeFile_again w.disk
  stands _ _ := (makeFile_extends w.disk).leads
  neutral _ _ _ := load_makeFile

/-- A directory, and a variable that sets the target; no configuration file. -/
def bareSurroundings : Surroundings where
  disk := ⟨[], [(["app".toList], .newDirectory)]⟩
  environment := [("HOME", "/home"), ("ES5CHECK_TARGET", "es2017")]

/-- Arguments that give the directory. -/
def bareArguments : Arguments := { Arguments.none with path := some (Path.ofString "app") }

/-- The file is made, does not change the target that the variable sets, and is kept the second
time. -/
theorem init_harmless_bare :
    ∃ (s : Settings) (w' : Surroundings),
      w' = bareSurroundings.after (run bareSurroundings .epoch default .init) ∧
      bareSurroundings.disk.isFile ConfigFile.fileName = false ∧
      w'.disk.isFile ConfigFile.fileName = true ∧ s.target = .es2017 ∧
      Settings.load bareSurroundings bareArguments Settings.Source.standardMark = .ok s ∧
      Settings.load w' bareArguments Settings.Source.standardMark = .ok s ∧
      w'.disk.target? (Path.ofString "app") = some .newDirectory ∧
      (run w' .epoch default .init).status = 0 ∧ (run w' .epoch default .init).disk = w'.disk := by
  have hcomputed : ((Settings.load bareSurroundings bareArguments
      Settings.Source.standardMark).toOption.map Settings.target) = some .es2017 := by
    decide +kernel
  cases hload : Settings.load bareSurroundings bareArguments Settings.Source.standardMark with
  | error e =>
    rw [hload] at hcomputed
    cases hcomputed
  | ok s =>
    rw [hload] at hcomputed
    have hharmless := init_harmless bareSurroundings .epoch default
    have hnowhere : ∀ p ∈ bareSurroundings.locations,
        bareSurroundings.disk.isFile p = false := by decide +kernel
    have hfile : (run bareSurroundings .epoch default .init).disk.isFile ConfigFile.fileName =
        true := by decide +kernel
    have hkept := (init_harmless (bareSurroundings.after
      (run bareSurroundings .epoch default .init)) .epoch default).kept
      (Settings.present_of_isFile hfile)
    exact ⟨s, _, rfl, hnowhere _ List.mem_cons_self, hfile, Option.some.inj hcomputed, rfl,
      hharmless.neutral _ _ s rfl hnowhere hload (by decide +kernel),
      hharmless.stands _ _ (by decide +kernel), hkept⟩

end Command
end EditionCheck
