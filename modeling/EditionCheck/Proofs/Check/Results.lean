import EditionCheck.Check.Run

/-!
  What the results of a check say about its findings.

  Findings are added one by one, and the report of failing names follows along: it is empty exactly
  while no finding fails (`addAll_hasNonConforming`). A check whose project has a manifest that loads
  has one finding for each declared dependency and no error (`run_of_loaded`); the others have an
  error and no findings (`run_of_unloaded`).
-/

namespace EditionCheck

namespace Results

variable (r : Results) (f : Finding) (fs : List Finding)

/-- Some finding fails. -/
def Fails (r : Results) : Prop := ∃ f ∈ r.findings, f.verdict.isNonConforming = true

theorem add_hasNonConforming :
    (r.add f).hasNonConforming = (r.hasNonConforming || f.verdict.isNonConforming) := by
  unfold hasNonConforming add
  cases hf : f.verdict.isNonConforming with
  | false => simp
  | true =>
    -- a name that is in the report already is not put there again, but then there is one
    by_cases h : f.name ∈ r.report.names
    · have hne : r.report.names ≠ [] := List.ne_nil_of_mem h
      simp [Report.push, Report.contains, h, hne]
    · simp [Report.push, Report.contains, h]

theorem addAll_hasNonConforming :
    (r.addAll fs).hasNonConforming =
      (r.hasNonConforming || fs.any fun f => f.verdict.isNonConforming) := by
  unfold addAll
  induction fs generalizing r with
  | nil => simp
  | cons f fs ih => rw [List.foldl_cons, ih, add_hasNonConforming, List.any_cons, Bool.or_assoc]

theorem addAll_findings : (r.addAll fs).findings = r.findings ++ fs := by
  unfold addAll
  induction fs generalizing r with
  | nil => simp
  | cons f fs ih => rw [List.foldl_cons, ih, add, List.append_assoc, List.singleton_append]

theorem addAll_rootError : (r.addAll fs).rootError = r.rootError := by
  unfold addAll
  induction fs generalizing r with
  | nil => rfl
  | cons f fs ih => rw [List.foldl_cons, ih, add]

/-- The report of results that start from nothing names somebody exactly if a finding fails. -/
theorem start_addAll_hasNonConforming (project : Path) (target : Edition) (now : Moment) :
    ((start project target now).addAll fs).hasNonConforming = true ↔
      ((start project target now).addAll fs).Fails := by
  have hstart : (start project target now).hasNonConforming = false := rfl
  rw [Fails, addAll_hasNonConforming, addAll_findings, hstart, Bool.false_or, List.any_eq_true]
  rfl

end Results

namespace Check

variable {files : File.Lookup} {oracle : Oracle} {o : Options} {project : Path} {now : Moment}

/-- The manifest of the project can be read, so that it is known what it declares. -/
def Loads (files : File.Lookup) (project : Path) (o : Options) : Prop :=
  ∃ declared, (Declared.load files project o.selection).1 = .ok declared

theorem run_of_loaded {declared : List Declared}
    (h : (Declared.load files project o.selection).1 = .ok declared) :
    (run files oracle o project now).results =
      (Results.start project o.target now).addAll
        (declared.map fun d => (judge files oracle o project (validPatterns o.ignore) d).1) := by
  unfold run
  split
  · next e said hl => rw [hl] at h; cases h
  · next ds said hl =>
    rw [hl] at h
    cases h
    simp only [List.map_map, Function.comp_def]

theorem run_of_unloaded {e : Problem}
    (h : (Declared.load files project o.selection).1 = .error e) :
    (run files oracle o project now).results =
      { Results.start project o.target now with rootError := some e.userMessage } := by
  unfold run
  split
  · next e' said hl => rw [hl] at h; cases h; rfl
  · next ds said hl => rw [hl] at h; cases h

theorem run_rootError :
    (run files oracle o project now).results.rootError = none ↔ Loads files project o := by
  unfold Loads
  cases h : (Declared.load files project o.selection).1 with
  | ok declared => simp [run_of_loaded h, Results.addAll_rootError, Results.start]
  | error e => simp [run_of_unloaded h]

/-- The report of a check names somebody exactly if a finding fails. -/
theorem run_hasNonConforming :
    (run files oracle o project now).results.hasNonConforming = true ↔
      (run files oracle o project now).results.Fails := by
  cases h : (Declared.load files project o.selection).1 with
  | ok declared =>
    rw [run_of_loaded h]
    exact Results.start_addAll_hasNonConforming _ _ _ _
  | error e =>
    rw [run_of_unloaded h]
    simp [Results.Fails, Results.start, Results.hasNonConforming, Report.empty]

end Check
end EditionCheck
