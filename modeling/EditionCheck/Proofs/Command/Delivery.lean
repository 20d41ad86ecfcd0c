import EditionCheck.Proofs.Command.ExitStatus
import EditionCheck.Proofs.Settings.Acceptance

/-!
  The directory of the output file, looked at twice.

  Before a check, the settings are refused unless something that its owner may write stands where the
  directory of the output file should be (`checkOutput_eq_ok`); when the report is written, it is
  refused unless that is a directory (`deliver_lacksDirectory`). Between the two lies what may be
  written and is no directory (`Blocked`): with it in the way a check is made to its end, and then
  its report is lost (`run_of_blocked`). Nothing else loses a report to its directory
  (`lacksDirectory_iff`).
-/

namespace EditionCheck

open File (Disk)

variable {d : Disk} {s : Settings} {out above : Path} {text : String}

/-! ## Writing the report -/

/-- Both looks are at one place, if the path of the file names its directory. -/
theorem holderOf_of_heldBy (h : Report.heldBy out = some above) :
    Settings.holderOf out = above := by
  obtain ⟨hparent, hne⟩ := Option.filter_eq_some_iff.1 h
  unfold Settings.holderOf
  simp only [hparent]
  exact if_neg (by simpa using hne)

/-- It ends with a directory that is missing. -/
def LacksDirectory {α : Type} (x : Except Problem α) : Prop :=
  ∃ above, x = .error (.outputDirectoryMissing above)

/-- The path of a file names a directory, which is none. -/
def Unheld (d : Disk) (out : Path) : Prop :=
  ∃ above, Report.heldBy out = some above ∧ d.isDirectory above = false

theorem deliver_of_unheld (h : Unheld d out) :
    LacksDirectory (Report.deliver d (some out) text) := by
  obtain ⟨above, hheld, hdirectory⟩ := h
  have hfound : (Report.heldBy out).filter (fun above => !d.isDirectory above) = some above :=
    Option.filter_eq_some_iff.2 ⟨hheld, by simp [hdirectory]⟩
  refine ⟨above, ?_⟩
  simp only [Report.deliver, hfound]

/-- A report whose directory is there is delivered, or writing the file itself fails. -/
theorem deliver_of_held (h : ¬Unheld d out) (text : String) :
    (∃ made, Report.deliver d (some out) text = .ok made) ∨
      ∃ e, Report.deliver d (some out) text = .error (.reportUnwritten out e) := by
  have hfound : (Report.heldBy out).filter (fun above => !d.isDirectory above) = none := by
    refine Option.filter_eq_none_iff.2 fun above hheld hmissing => h ⟨above, hheld, ?_⟩
    simpa using hmissing
  simp only [Report.deliver, hfound]
  cases d.write out text with
  | ok written => exact .inl ⟨_, rfl⟩
  | error e => exact .inr ⟨e, rfl⟩

theorem deliver_lacksDirectory :
    LacksDirectory (Report.deliver d (some out) text) ↔ Unheld d out := by
  by_cases h : Unheld d out
  · exact iff_of_true (deliver_of_unheld h) h
  · refine iff_of_false ?_ h
    rintro ⟨above, hmissing⟩
    obtain ⟨made, hmade⟩ | ⟨e, he⟩ := deliver_of_held h text
    · cases hmissing.symm.trans hmade
    · cases hmissing.symm.trans he

/-! ## Between the two -/

/-- Something other than a directory stands where the directory of the output file should be. -/
def Blocked (d : Disk) (s : Settings) : Prop :=
  ∃ out above i, s.outputFile = some out ∧ Report.heldBy out = some above ∧
    d.target? above = some i ∧ i.kind ≠ .directory

/-- With settings that are in order, the directory is missing only if something is in the way. -/
theorem unheld_iff (h : s.check d = .ok ()) (hout : s.outputFile = some out) :
    Unheld d out ↔ Blocked d s := by
  obtain ⟨i, hi, -⟩ := (Settings.check_eq_ok.1 h).2 out hout
  constructor
  · rintro ⟨above, hheld, hdirectory⟩
    rw [holderOf_of_heldBy hheld] at hi
    refine ⟨out, above, i, hout, hheld, hi, ?_⟩
    simpa [Disk.isDirectory, hi] using hdirectory
  · rintro ⟨out', above, i', hout', hheld, hi', hkind⟩
    obtain rfl : out = out' := Option.some.inj (hout.symm.trans hout')
    exact ⟨above, hheld, by simpa [Disk.isDirectory, hi'] using hkind⟩

theorem lacksDirectory_iff (h : s.check d = .ok ()) (text : String) :
    LacksDirectory (Report.deliver d s.outputFile text) ↔ Blocked d s := by
  cases hout : s.outputFile with
  | none =>
    refine iff_of_false ?_ ?_
    · rintro ⟨above, hmissing⟩
      cases hmissing
    · rintro ⟨out, above, i, hsome, -⟩
      cases hout.symm.trans hsome
  | some out => rw [deliver_lacksDirectory, unheld_iff h hout]

theorem conclude_lacksDirectory {r : Results} :
    LacksDirectory (Command.conclude d s r) ↔
      LacksDirectory (Report.deliver d s.outputFile (Command.written s r)) := by
  unfold LacksDirectory Command.conclude
  cases Report.deliver d s.outputFile (Command.written s r) <;> simp

/-- What becomes of a report. -/
structure Delivers (d : Disk) (s : Settings) : Prop where
  /-- It is lost to its directory exactly if something is in the way, whatever it says. -/
  lost : ∀ text, LacksDirectory (Report.deliver d s.outputFile text) ↔ Blocked d s
  /-- The same goes for the report of any check. -/
  concluded : ∀ r, LacksDirectory (Command.conclude d s r) ↔ Blocked d s
  /-- Otherwise it is delivered, or writing the file itself fails. -/
  otherwise : ¬Blocked d s → ∀ text, (∃ made, Report.deliver d s.outputFile text = .ok made) ∨
    ∃ out e, s.outputFile = some out ∧
      Report.deliver d s.outputFile text = .error (.reportUnwritten out e)

/-- What becomes of a report if the settings are in order. -/
theorem delivers_of_check (h : s.check d = .ok ()) : Delivers d s where
  lost := lacksDirectory_iff h
  concluded r := conclude_lacksDirectory.trans (lacksDirectory_iff h _)
  otherwise hblocked text := by
    cases hout : s.outputFile with
    | none => exact .inl ⟨_, rfl⟩
    | some out =>
      have hheld : ¬Unheld d out := fun hunheld => hblocked ((unheld_iff h hout).1 hunheld)
      obtain hmade | ⟨e, he⟩ := deliver_of_held hheld text
      · exact .inl hmade
      · exact .inr ⟨out, e, rfl, he⟩

/-- A file, under which a report is asked for. -/
def fileAbove : Disk := ⟨[], [(["f".toList], .newFile [])]⟩

/-- The settings that ask for it. -/
def reportBelow : Settings := { Settings.standard with outputFile := some (Path.ofString "f/r.txt") }

/-- The file may be written, and that is all that is asked of it. -/
theorem reportBelow_check : reportBelow.check fileAbove = .ok () := by
  refine Settings.check_eq_ok.2 ⟨⟨by decide +kernel, nofun, by decide +kernel⟩, ?_⟩
  rintro out ⟨rfl⟩
  exact ⟨.newFile [], by decide +kernel, by decide +kernel⟩

theorem delivers_of_check_file :
    reportBelow.check fileAbove = .ok () ∧ Delivers fileAbove reportBelow :=
  ⟨reportBelow_check, delivers_of_check reportBelow_check⟩

/-- What the first look is there for: settings that are in order never lose a report to its
directory. -/
def OutputRule (d : Disk) (s : Settings) : Prop :=
  s.check d = .ok () → ∀ text, ¬LacksDirectory (Report.deliver d s.outputFile text)

/-- The first look takes a file for the directory. -/
theorem outputRule_fails_file : ¬OutputRule fileAbove reportBelow := by
  intro hrule
  have hunheld : Unheld fileAbove (Path.ofString "f/r.txt") :=
    ⟨Path.ofString "f", by decide +kernel, by decide +kernel⟩
  exact hrule reportBelow_check "" (deliver_of_unheld hunheld)

/-! ## Whole runs -/

/-- With something in the way, a check is made and told about, and ends with 2; nothing is written and
nothing printed. -/
theorem run_of_blocked {w : Surroundings} {a : Arguments} (now : Moment) (lasting : Duration)
    (hs : Command.settings w a = .ok s) (h : Blocked w.disk s) :
    ∃ above, Command.run w now lasting (.check a) =
      ⟨2, w.disk, "", Command.told s (Command.inspect w.disk s now) ++
        (Problem.outputDirectoryMissing above).report (a.has .verbose)⟩ := by
  obtain ⟨_, -, hload⟩ := Settings.bind_eq_ok.1 hs
  obtain ⟨above, he⟩ : LacksDirectory (Command.conclude w.disk s
      ((Command.inspect w.disk s now).results.lasting lasting)) :=
    conclude_lacksDirectory.2 ((lacksDirectory_iff (Settings.check_of_load hload) _).2 h)
  refine ⟨above, ?_⟩
  simp only [Command.run, hs, Command.finish, he]
  rfl

end EditionCheck
