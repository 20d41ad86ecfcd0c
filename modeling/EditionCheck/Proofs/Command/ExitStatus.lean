import EditionCheck.Proofs.Check.Results
import EditionCheck.Proofs.Settings.Warning

/-!
  The status with which a check ends.

  The rule (`ExitRule`) is that 0 stands for a check that came to its end with nothing that counts,
  1 for one that found a dependency that fails, and 2 for a check that did not come to its end. A
  check that was stopped by a mere warning ends with 0 all the same. There is one way to that, a
  directory of the output file in which its owner may not write (`OutputRefused`), so the rule holds
  of all other runs and of no such run (`exitRule_iff`).
-/

namespace EditionCheck.Command

open File (Disk)

variable {w : Surroundings} {now : Moment} {lasting : Duration} {a : Arguments} {s : Settings}

/-! ## The rule -/

/-- The results of a check with these settings, with the time that it took. -/
def results (w : Surroundings) (now : Moment) (lasting : Duration) (s : Settings) : Results :=
  (inspect w.disk s now).results.lasting lasting

/-- The check came to its end: its settings were loaded, the manifest of the project could be read,
and the results were delivered. -/
structure Completes (w : Surroundings) (now : Moment) (lasting : Duration) (a : Arguments)
    (s : Settings) : Prop where
  loaded : settings w a = .ok s
  rooted : Check.Loads w.disk.lookup (s.projectPath.absoluteFrom (workingDirectory w.disk)) s.options
  delivered : ∃ made,
    Report.deliver w.disk s.outputFile (written s (results w now lasting s)) = .ok made

/-- What the status of a check is to say. -/
structure ExitRule (w : Surroundings) (now : Moment) (lasting : Duration) (a : Arguments) :
    Prop where
  ok : (run w now lasting (check a)).status = 0 ↔
    ∃ s, Completes w now lasting a s ∧
      ((∀ f ∈ (results w now lasting s).findings, f.verdict.isNonConforming = false) ∨
        s.failOnNonConforming = false)
  nonConforming : (run w now lasting (check a)).status = 1 ↔
    ∃ s, Completes w now lasting a s ∧
      (∃ f ∈ (results w now lasting s).findings, f.verdict.isNonConforming = true) ∧
        s.failOnNonConforming = true
  failure : (run w now lasting (check a)).status = 2 ↔ ¬∃ s, Completes w now lasting a s

/-! ## The ways in which a check ends -/

theorem results_rootError :
    (results w now lasting s).rootError = none ↔
      Check.Loads w.disk.lookup (s.projectPath.absoluteFrom (workingDirectory w.disk)) s.options :=
  Check.run_rootError

theorem results_hasNonConforming :
    (results w now lasting s).hasNonConforming = true ↔ (results w now lasting s).Fails :=
  Check.run_hasNonConforming

theorem results_allConform :
    (results w now lasting s).hasNonConforming = false ↔
      ∀ f ∈ (results w now lasting s).findings, f.verdict.isNonConforming = false := by
  rw [← Bool.not_eq_true, results_hasNonConforming]
  simp [Results.Fails]

theorem deliver_not_warns (d : Disk) (file : Option Path) (text : String) :
    ¬Warns (Report.deliver d file text) := by
  unfold Report.deliver
  split
  · exact not_warns_ok
  · split
    · simp [Problem.severity]
    · split <;> simp [Problem.severity]

/-- Settings belong to one check only. -/
theorem Completes.settings_eq {s' : Settings} (h : Completes w now lasting a s)
    (hs : settings w a = .ok s') : s = s' := by
  have heq : Except.ok s = (Except.ok s' : Except Problem Settings) := h.loaded.symm.trans hs
  cases heq
  rfl

/-- A check that gets no settings does not come to its end. -/
theorem not_completes_of_error {e : Problem} (h : settings w a = .error e) :
    ¬∃ s, Completes w now lasting a s := by
  rintro ⟨s, hs⟩
  have heq := hs.loaded.symm.trans h
  cases heq

theorem run_of_error {e : Problem} (h : settings w a = .error e) :
    run w now lasting (check a) = .ofProblem w.disk e (a.has .verbose) := by
  simp only [run, h]

theorem run_of_settings (h : settings w a = .ok s) :
    (run w now lasting (check a)).status =
      match conclude w.disk s (results w now lasting s) with
      | .error e => (Ending.ofProblem w.disk e (a.has .verbose)).status
      | .ok ending => ending.status := by
  have hrun : run w now lasting (check a) =
      finish w.disk s (inspect w.disk s now) lasting (a.has .verbose) := by
    simp only [run, h]
  rw [hrun]
  unfold finish Ending.after results
  cases conclude w.disk s ((inspect w.disk s now).results.lasting lasting) with
  | error e => rfl
  | ok ending => rfl

/-- A check with settings ends with 2 unless it comes to its end. -/
theorem status_of_not_completes (h : settings w a = .ok s) (hc : ¬Completes w now lasting a s) :
    (run w now lasting (check a)).status = 2 := by
  rw [run_of_settings h]
  unfold conclude
  cases hd : Report.deliver w.disk s.outputFile (written s (results w now lasting s)) with
  | error e =>
    have hw : e.severity ≠ .warning := fun hw => deliver_not_warns _ _ _ ⟨e, hd, hw⟩
    simp [Ending.ofProblem, hw]
  | ok made =>
    have hroot : (results w now lasting s).rootError ≠ none := by
      intro hroot
      exact hc ⟨h, results_rootError.mp hroot, made, hd⟩
    simp [Results.exitStatus, Option.isSome_iff_ne_none.mpr hroot]

/-- A check that comes to its end tells by its status whether a failure counts. -/
theorem status_of_completes (h : Completes w now lasting a s) :
    (run w now lasting (check a)).status =
      if (results w now lasting s).hasNonConforming && s.failOnNonConforming then 1 else 0 := by
  obtain ⟨made, hd⟩ := h.delivered
  have hroot : (results w now lasting s).rootError = none := results_rootError.mpr h.rooted
  rw [run_of_settings h.loaded]
  unfold conclude
  simp [hd, Results.exitStatus, hroot]

/-- A refused output ends the check with 0, though nothing was looked at and nothing written. -/
theorem run_of_outputRefused (now : Moment) (lasting : Duration) (h : OutputRefused w a) :
    (run w now lasting (check a)).status = 0 ∧ (run w now lasting (check a)).disk = w.disk ∧
      (run w now lasting (check a)).output = "" ∧ ¬∃ s, Completes w now lasting a s := by
  obtain ⟨e, he, hw⟩ := settings_warns.mpr h
  rw [run_of_error he]
  exact ⟨by simp [Ending.ofProblem, hw], rfl, rfl, not_completes_of_error he⟩

/-- Any other problem with the settings ends the check with 2. -/
theorem status_of_error {e : Problem} (h : ¬OutputRefused w a) (he : settings w a = .error e) :
    (run w now lasting (check a)).status = 2 := by
  have hw : e.severity ≠ .warning := fun hw => h (settings_warns.mp ⟨e, he, hw⟩)
  rw [run_of_error he]
  simp [Ending.ofProblem, hw]

/-- Unless its output is refused, a check ends with 2 exactly if it does not come to its end. -/
theorem completes_or_status (now : Moment) (lasting : Duration) (h : ¬OutputRefused w a) :
    (∃ s, Completes w now lasting a s) ∨
      (¬∃ s, Completes w now lasting a s) ∧ (run w now lasting (check a)).status = 2 := by
  cases hs : settings w a with
  | error e => exact .inr ⟨not_completes_of_error hs, status_of_error h hs⟩
  | ok s =>
    by_cases hc : Completes w now lasting a s
    · exact .inl ⟨s, hc⟩
    · refine .inr ⟨?_, status_of_not_completes hs hc⟩
      rintro ⟨s', hs'⟩
      exact hc (hs'.settings_eq hs ▸ hs')

/-! ## The rule and where it fails -/

/-- What holds of the settings of a check that came to its end holds of some. -/
theorem Completes.exists_iff {P : Settings → Prop} (h : Completes w now lasting a s) :
    (∃ s, Completes w now lasting a s ∧ P s) ↔ P s := by
  constructor
  · rintro ⟨s', hs', hP⟩
    exact hs'.settings_eq h.loaded ▸ hP
  · intro hP
    exact ⟨s, h, hP⟩

/-- The rule holds of a check that comes to its end. -/
theorem exitRule_of_completes (h : Completes w now lasting a s) : ExitRule w now lasting a where
  ok := by
    rw [h.exists_iff, status_of_completes h]
    rw [← results_allConform]
    cases (results w now lasting s).hasNonConforming <;> cases s.failOnNonConforming <;> simp
  nonConforming := by
    rw [h.exists_iff, status_of_completes h, ← Results.Fails, ← results_hasNonConforming]
    simp [Bool.and_eq_true]
  failure := by
    have hne : (run w now lasting (check a)).status ≠ 2 := by
      rw [status_of_completes h]
      split <;> decide
    exact iff_of_false hne (not_not_intro ⟨s, h⟩)

/-- The rule holds of a check that does not come to its end and ends with 2. -/
theorem exitRule_of_not_completes (h : ¬∃ s, Completes w now lasting a s)
    (hstatus : (run w now lasting (check a)).status = 2) : ExitRule w now lasting a where
  ok := by
    rw [hstatus]
    exact iff_of_false (by decide) fun ⟨s, hs, _⟩ => h ⟨s, hs⟩
  nonConforming := by
    rw [hstatus]
    exact iff_of_false (by decide) fun ⟨s, hs, _⟩ => h ⟨s, hs⟩
  failure := iff_of_true hstatus h

/-- The status of a check says what it is to say exactly if its output is not refused. -/
theorem exitRule_iff (w : Surroundings) (now : Moment) (lasting : Duration) (a : Arguments) :
    ExitRule w now lasting a ↔ ¬OutputRefused w a := by
  constructor
  · intro hrule hrefused
    obtain ⟨hstatus, -, -, hnone⟩ := run_of_outputRefused now lasting hrefused
    obtain ⟨s, hs, -⟩ := hrule.ok.mp hstatus
    exact hnone ⟨s, hs⟩
  · intro h
    obtain ⟨s, hs⟩ | ⟨hnone, hstatus⟩ := completes_or_status now lasting h
    · exact exitRule_of_completes hs
    · exact exitRule_of_not_completes hnone hstatus

/-- A project that has a manifest, and a directory in which its owner may not write. -/
def lockedDirectory : Surroundings where
  disk :=
    ⟨[], [(["package.json".toList], .newFile [0x7b, 0x7d]), (["out".toList], .directory 0o555)]⟩
  environment := []

/-- The arguments that ask for a report in that directory. -/
def lockedReport : Arguments := { Arguments.none with outputFile := some (Path.ofString "out/r.txt") }

/-- The check of that project says by its status that all is well, without having settings. -/
theorem exitRule_fails_locked : ¬ExitRule lockedDirectory .epoch default lockedReport := by
  have hnone : (settings lockedDirectory lockedReport).isOk = false := by decide +kernel
  have hstatus : (run lockedDirectory .epoch default (check lockedReport)).status = 0 := by
    decide +kernel
  intro hrule
  obtain ⟨s, hs, -⟩ := hrule.ok.mp hstatus
  rw [hs.loaded] at hnone
  cases hnone

end EditionCheck.Command
