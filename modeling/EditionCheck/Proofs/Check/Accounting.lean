import EditionCheck.Proofs.Check.Lead
import EditionCheck.Proofs.Package.Declared

/-!
  The books of a check.

  The outcomes of a check are kept three times: as findings, as counts in the summary, and as names
  in the report. `Balanced` says that the three agree. One more finding keeps them balanced if its
  name is new (`Balanced.add`), and the names that a project declares are distinct; so the books are
  balanced at the end of every check that knows what the project declares, and empty otherwise
  (`run_accounts`).
-/

namespace EditionCheck

namespace Verdict

/-- The dependency passes. -/
def isConforming : Verdict → Bool
  | conforming => true
  | _ => false

/-- The dependency was left unjudged. -/
def isUnchecked : Verdict → Bool
  | unchecked _ => true
  | _ => false

end Verdict

/-! ## One more outcome -/

namespace Summary

variable (s : Summary) (v : Verdict)

theorem count_total : (s.count v).total = s.total + 1 := by
  cases v <;> rfl

theorem count_conforming :
    (s.count v).conforming = s.conforming + if v.isConforming then 1 else 0 := by
  cases v <;> rfl

theorem count_nonConforming :
    (s.count v).nonConforming = s.nonConforming + if v.isNonConforming then 1 else 0 := by
  cases v <;> rfl

theorem count_unchecked :
    (s.count v).unchecked = s.unchecked + if v.isUnchecked then 1 else 0 := by
  cases v <;> rfl

/-- An outcome is counted in one place besides the total. -/
theorem count_sum (h : s.total = s.conforming + s.nonConforming + s.unchecked) :
    (s.count v).total =
      (s.count v).conforming + (s.count v).nonConforming + (s.count v).unchecked := by
  cases v <;> simp only [count] <;> omega

end Summary

/-- The names of the findings that fail, in order. -/
def failingNames (fs : List Finding) : List String :=
  (fs.filter fun f => f.verdict.isNonConforming).map Finding.name

/-- The names that fail are among those of the findings, in the same order. -/
theorem failingNames_sublist (fs : List Finding) :
    (failingNames fs).Sublist (fs.map Finding.name) :=
  List.filter_sublist.map Finding.name

theorem length_failingNames (fs : List Finding) :
    (failingNames fs).length = fs.countP fun f => f.verdict.isNonConforming := by
  rw [failingNames, List.length_map, List.countP_eq_length_filter]

theorem failingNames_append (fs gs : List Finding) :
    failingNames (fs ++ gs) = failingNames fs ++ failingNames gs := by
  rw [failingNames, List.filter_append, List.map_append, ← failingNames, ← failingNames]

theorem failingNames_concat (fs : List Finding) (f : Finding) :
    failingNames (fs ++ [f]) =
      failingNames fs ++ if f.verdict.isNonConforming then [f.name] else [] := by
  have hone : failingNames [f] = if f.verdict.isNonConforming then [f.name] else [] := by
    cases hf : f.verdict.isNonConforming <;> simp [failingNames, hf]
  rw [failingNames_append, hone]

theorem Report.push_names {report : Report} {name : String} (h : name ∉ report.names) :
    (report.push name).names = report.names ++ [name] := by
  have hc : report.contains name = false := decide_eq_false h
  rw [push, hc]
  rfl

/-! ## Balanced books -/

namespace Results

/-- The counts and the report say what the findings say. -/
structure Balanced (r : Results) : Prop where
  total : r.summary.total = r.findings.length
  sum : r.summary.total = r.summary.conforming + r.summary.nonConforming + r.summary.unchecked
  conforming : r.summary.conforming = r.findings.countP fun f => f.verdict.isConforming
  nonConforming : r.summary.nonConforming = r.findings.countP fun f => f.verdict.isNonConforming
  unchecked : r.summary.unchecked = r.findings.countP fun f => f.verdict.isUnchecked
  report : r.report.names = failingNames r.findings

theorem start_balanced (project : Path) (target : Edition) (now : Moment) :
    (start project target now).Balanced :=
  ⟨rfl, rfl, rfl, rfl, rfl, rfl⟩

variable {r : Results} {f : Finding} {fs : List Finding}

theorem add_summary : (r.add f).summary = r.summary.count f.verdict := rfl

theorem add_findings : (r.add f).findings = r.findings ++ [f] := rfl

theorem add_report_names (h : f.name ∉ r.report.names) :
    (r.add f).report.names =
      r.report.names ++ if f.verdict.isNonConforming then [f.name] else [] := by
  unfold add
  cases f.verdict.isNonConforming with
  | true => exact Report.push_names h
  | false => exact (List.append_nil _).symm

/-- A finding with a new name keeps the books balanced. Without a new name they would not stay so:
the report takes a name once, and the counts count it twice. -/
theorem Balanced.add (h : r.Balanced) (hf : f.name ∉ r.findings.map Finding.name) :
    (r.add f).Balanced where
  total := by rw [add_summary, Summary.count_total, h.total, add_findings, List.length_append,
    List.length_singleton]
  sum := by rw [add_summary]; exact Summary.count_sum _ _ h.sum
  conforming := by
    rw [add_summary, Summary.count_conforming, h.conforming, add_findings, List.countP_append,
      List.countP_singleton]
  nonConforming := by
    rw [add_summary, Summary.count_nonConforming, h.nonConforming, add_findings, List.countP_append,
      List.countP_singleton]
  unchecked := by
    rw [add_summary, Summary.count_unchecked, h.unchecked, add_findings, List.countP_append,
      List.countP_singleton]
  report := by
    have hnew : f.name ∉ r.report.names := by
      rw [h.report]
      exact fun hmem => hf ((failingNames_sublist r.findings).subset hmem)
    rw [add_report_names hnew, h.report, add_findings, failingNames_concat]

/-- Findings with distinct new names keep the books balanced. -/
theorem Balanced.addAll (h : r.Balanced) (hfs : ((r.findings ++ fs).map Finding.name).Nodup) :
    (r.addAll fs).Balanced := by
  induction fs generalizing r with
  | nil => exact h
  | cons f fs ih =>
    have hf : f.name ∉ r.findings.map Finding.name := by
      rw [List.map_append, List.map_cons, List.nodup_append] at hfs
      intro hmem
      exact hfs.2.2 f.name hmem f.name List.mem_cons_self rfl
    apply ih (h.add hf)
    rw [add_findings, List.append_assoc]
    exact hfs

/-- In balanced books the report has no name twice if the findings have none. -/
theorem Balanced.report_nodup (h : r.Balanced) (hr : (r.findings.map Finding.name).Nodup) :
    r.report.names.Nodup := by
  rw [h.report]
  exact hr.sublist (failingNames_sublist r.findings)

theorem Balanced.report_length (h : r.Balanced) :
    r.report.names.length = r.summary.nonConforming := by
  rw [h.report, length_failingNames, h.nonConforming]

end Results

/-! ## The books at the end of a check -/

namespace Check

variable {files : File.Lookup} {oracle : Oracle} {o : Options} {project : Path} {now : Moment}
  {declared : List Declared}

/-- The findings of a check bear the declared names. -/
theorem run_findings_names (h : (Declared.load files project o.selection).1 = .ok declared) :
    (run files oracle o project now).results.findings.map Finding.name =
      declared.map Declared.name := by
  rw [run_findings h, List.map_map]
  rfl

theorem run_balanced (h : (Declared.load files project o.selection).1 = .ok declared) :
    (run files oracle o project now).results.Balanced := by
  have hnames : (run files oracle o project now).results.findings.map Finding.name =
      declared.map Declared.name := run_findings_names h
  rw [run_of_loaded h] at hnames ⊢
  apply (Results.start_balanced _ _ _).addAll
  rw [Results.addAll_findings] at hnames
  rw [hnames]
  exact Declared.load_names_nodup h

/-- The results of a check that knows what the project declares: one finding for each declared
dependency, in order, and counts and a report that agree with the findings. -/
structure Complete (declared : List Declared) (r : Results) : Prop where
  noError : r.rootError = none
  findings : r.findings.map (fun f => (f.name, f.kind)) = declared.map fun d => (d.name, d.kind)
  balanced : r.Balanced
  distinct : r.report.names.Nodup
  length : r.report.names.length = r.summary.nonConforming

/-- The results of a check that does not: they tell what is wrong with the project and nothing
else. -/
structure Void (e : Problem) (r : Results) : Prop where
  error : r.rootError = some e.userMessage
  findings : r.findings = []
  report : r.report.names = []
  summary : r.summary = .zero

theorem run_complete (h : (Declared.load files project o.selection).1 = .ok declared) :
    Complete declared (run files oracle o project now).results where
  noError := run_rootError.2 ⟨declared, h⟩
  findings := by
    rw [run_findings h, List.map_map]
    rfl
  balanced := run_balanced h
  distinct := by
    apply (run_balanced h).report_nodup
    rw [run_findings_names h]
    exact Declared.load_names_nodup h
  length := (run_balanced h).report_length

theorem run_void {e : Problem} (h : (Declared.load files project o.selection).1 = .error e) :
    Void e (run files oracle o project now).results := by
  rw [run_of_unloaded h]
  exact ⟨rfl, rfl, rfl, rfl⟩

theorem questions_of_unloaded {e : Problem}
    (h : (Declared.load files project o.selection).1 = .error e) :
    questions files o project = [] := by
  unfold questions
  rw [h]

/-- Whatever the files and the oracle answer, the books of a check are complete and balanced, and
the names it gives are those of the failing findings. If it is not known what the project declares,
they are empty but for the error, and the oracle, which has not been asked anything, has no part in
what comes out. -/
theorem run_accounts (files : File.Lookup) (oracle : Oracle) (o : Options) (project : Path)
    (now : Moment) :
    match (Declared.load files project o.selection).1 with
    | .ok declared =>
      Complete declared (run files oracle o project now).results ∧
        failing files oracle o project now =
          failingNames (run files oracle o project now).results.findings
    | .error e =>
      Void e (run files oracle o project now).results ∧
        failing files oracle o project now = [] ∧
        questions files o project = [] ∧
        ∀ oracle', run files oracle' o project now = run files oracle o project now := by
  cases h : (Declared.load files project o.selection).1 with
  | ok declared => exact ⟨run_complete h, (run_balanced h).report⟩
  | error e =>
    have hnone := questions_of_unloaded h
    refine ⟨run_void h, (run_void h).report, hnone, fun oracle' => ?_⟩
    apply run_congr
    rw [hnone]
    exact fun q hq => absurd hq List.not_mem_nil

end Check
end EditionCheck
