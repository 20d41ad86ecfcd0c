import Mathlib.Data.List.Forall2
import EditionCheck.Proofs.Check.Isolation

/-!
  Checks with more ignore patterns.

  A name is left out by the first of the patterns that is valid and covers it (`lead_validPatterns`);
  everything else about a dependency is found out as if there were no patterns. So more patterns at
  the end change a finding only if none before them covers the name and one of them does, and then
  to nothing but the first of these (`OnlyIgnores`); patterns that are not valid change none; and
  what is found out about a name that is left out depends on no file but the manifest that declares
  it (`run_ignoring`).
-/

namespace EditionCheck

open File.Lookup (SameAt)

namespace Glob

/-- The pattern can be read. -/
def isValid (raw : String) : Bool := (ofString raw).toOption.isSome

/-- The pattern is valid and covers the name. -/
def covers (name raw : String) : Bool := (ofString raw).toOption.any fun g => g.accepts name

theorem text_of_ofString {raw : String} {g : Glob} (h : ofString raw = .ok g) : g.text = raw := by
  unfold ofString at h
  split at h
  · cases h
    rfl
  · cases h

end Glob

/-- The dependency was left out because of a pattern. -/
def Finding.IsIgnored (f : Finding) : Prop := ∃ raw, f.verdict = .unchecked (.ignored raw)

namespace Check

/-- How a finding under some patterns compares with that under `more` patterns behind them. -/
structure OnlyIgnores (patterns more : List String) (before after : Finding) : Prop where
  name : after.name = before.name
  kind : after.kind = before.kind
  /-- It is another one exactly if none of the first patterns covers the name and a further one
  does. -/
  changed : after ≠ before ↔
    (∀ raw ∈ patterns, Glob.covers before.name raw = false) ∧
      ∃ raw ∈ more, Glob.covers before.name raw = true
  /-- Then the first of those that do is told, and no entry script. -/
  ignored : after ≠ before → ∃ raw, more.find? (Glob.covers before.name) = some raw ∧
    after.entryScript = none ∧ after.verdict = .unchecked (.ignored raw)

/-- Findings about one name that are the same if either of them is an ignored one. -/
def SameIfIgnored (f f' : Finding) : Prop :=
  f'.name = f.name ∧ (f.IsIgnored ∨ f'.IsIgnored → f' = f)

/-- The options with other patterns. -/
def Options.ignoring (o : Options) (patterns : List String) : Options := { o with ignore := patterns }

/-! ## The first pattern that covers a name -/

/-- The patterns that are not valid play no part in which one is found. -/
theorem find?_validPatterns (raws : List String) (name : String) :
    ((validPatterns raws).find? fun g => g.accepts name).map Glob.text =
      raws.find? (Glob.covers name) := by
  induction raws with
  | nil => rfl
  | cons raw raws ih =>
    unfold validPatterns at ih ⊢
    cases h : Glob.ofString raw with
    | error e =>
      have hcovers : Glob.covers name raw = false := by rw [Glob.covers, h]; rfl
      rw [List.filterMap_cons_none (by rw [h]; rfl), List.find?_cons_of_neg (by simp [hcovers]), ih]
    | ok g =>
      have hcovers : Glob.covers name raw = g.accepts name := by rw [Glob.covers, h]; rfl
      rw [List.filterMap_cons_some (by rw [h]; rfl), List.find?_cons, List.find?_cons, hcovers]
      cases g.accepts name with
      | true => exact congrArg some (Glob.text_of_ofString h)
      | false => exact ih

/-- Patterns that are all valid are all used, in order. -/
theorem validPatterns_of_valid {raws : List String}
    (h : ∀ raw ∈ raws, ∃ g, Glob.ofString raw = .ok g) :
    (validPatterns raws).map Except.ok = raws.map Glob.ofString := by
  induction raws with
  | nil => rfl
  | cons raw raws ih =>
    obtain ⟨⟨g, hg⟩, hraws⟩ := List.forall_mem_cons.1 h
    have hcons : validPatterns (raw :: raws) = g :: validPatterns raws :=
      List.filterMap_cons_some (by rw [hg]; rfl)
    rw [hcons, List.map_cons, List.map_cons, hg, ih hraws]

theorem validPatterns_filter (raws : List String) :
    validPatterns (raws.filter Glob.isValid) = validPatterns raws := by
  unfold validPatterns
  rw [List.filterMap_filter]
  refine List.filterMap_congr fun raw _ => ?_
  unfold Glob.isValid
  cases Glob.ofString raw <;> rfl

/-! ## One dependency -/

section Dependency

variable {files files' : File.Lookup} {oracle oracle' : Oracle} {target target' : Edition}
  {root root' : Path} {patterns more : List String} {d : Declared}

/-- A dependency is left out because of the first pattern that covers it, if there is one; otherwise
it is as if there were no patterns. -/
theorem lead_validPatterns :
    lead files root (validPatterns patterns) d =
      match patterns.find? (Glob.covers d.name) with
      | some raw => .stopped none (.ignored raw)
      | none => lead files root [] d := by
  rw [← find?_validPatterns]
  unfold lead
  cases (validPatterns patterns).find? fun g => g.accepts d.name <;> rfl

/-- Without patterns nothing is left out because of one. -/
theorem lead_nil_ne_ignored (raw : String) :
    (lead files root [] d).verdict oracle target ≠ .unchecked (.ignored raw) := by
  unfold lead packageLead
  cases Manifest.ofPackage files (root.child d.name) with
  | error e => simp [Lead.verdict]
  | ok m =>
    cases hscript : Entry.resolve files m (root.child d.name) with
    | none => simp [hscript, Lead.verdict]
    | some script =>
      cases hread : files.read script with
      | error e => simp [hscript, hread, Lead.verdict]
      | ok text =>
        simp only [hscript, hread, List.find?_nil, Lead.verdict]
        exact Lead.verdictOf_ne_unchecked

/-- A finding is ignored because of a pattern exactly if that is the first that covers the name. -/
theorem finding_ignored {raw : String} :
    ((lead files root (validPatterns patterns) d).finding oracle target d).verdict =
        .unchecked (.ignored raw) ↔ patterns.find? (Glob.covers d.name) = some raw := by
  rw [lead_validPatterns]
  cases patterns.find? (Glob.covers d.name) with
  | some first => simp [Lead.finding, Lead.verdict]
  | none => exact iff_of_false (lead_nil_ne_ignored raw) (Option.some_ne_none raw).symm

/-- A finding is an ignored one exactly if a pattern covers the name. -/
theorem finding_isIgnored :
    ((lead files root (validPatterns patterns) d).finding oracle target d).IsIgnored ↔
      (patterns.find? (Glob.covers d.name)).isSome = true := by
  rw [Option.isSome_iff_exists]
  exact exists_congr fun _ => finding_ignored

theorem OnlyIgnores.same {f : Finding}
    (h : ¬((∀ raw ∈ patterns, Glob.covers f.name raw = false) ∧
      ∃ raw ∈ more, Glob.covers f.name raw = true)) : OnlyIgnores patterns more f f :=
  ⟨rfl, rfl, iff_of_false (fun hne => hne rfl) h, fun hne => absurd rfl hne⟩

theorem finding_onlyIgnores :
    OnlyIgnores patterns more ((lead files root (validPatterns patterns) d).finding oracle target d)
      ((lead files root (validPatterns (patterns ++ more)) d).finding oracle target d) := by
  have hcovers {raws : List String} :
      (∃ raw ∈ raws, Glob.covers d.name raw = true) ↔
        (raws.find? (Glob.covers d.name)).isSome = true := List.find?_isSome.symm
  have hnone {raws : List String} :
      (∀ raw ∈ raws, Glob.covers d.name raw = false) ↔ raws.find? (Glob.covers d.name) = none := by
    simp [List.find?_eq_none]
  rw [lead_validPatterns, lead_validPatterns, List.find?_append]
  cases hold : patterns.find? (Glob.covers d.name) with
  | some raw =>
    -- what is told is a pattern from before, whatever comes behind it
    refine .same fun h => ?_
    cases hold.symm.trans (hnone.1 h.1)
  | none =>
    cases hnew : more.find? (Glob.covers d.name) with
    | none =>
      refine .same fun h => ?_
      have hsome := hcovers.1 h.2
      rw [hnew] at hsome
      cases hsome
    | some raw =>
      refine ⟨rfl, rfl, iff_of_true (fun heq => ?_) ⟨hnone.2 hold, hcovers.2 ?_⟩,
        fun _ => ⟨raw, hnew, rfl, rfl⟩⟩
      · exact lead_nil_ne_ignored raw (congrArg Finding.verdict heq).symm
      · rw [hnew]
        rfl

theorem finding_sameIfIgnored :
    SameIfIgnored ((lead files root (validPatterns patterns) d).finding oracle target d)
      ((lead files' root' (validPatterns patterns) d).finding oracle' target' d) := by
  refine ⟨rfl, fun h => ?_⟩
  rw [finding_isIgnored, finding_isIgnored, or_self] at h
  obtain ⟨raw, hraw⟩ := Option.isSome_iff_exists.1 h
  rw [lead_validPatterns, lead_validPatterns, hraw]
  rfl

end Dependency

/-! ## Two runs -/

section Runs

variable {files files' : File.Lookup} {oracle oracle' : Oracle} {o o' : Options} {project : Path}
  {now now' : Moment}

/-- A run leaves a dependency out because of the first pattern that covers its name, and otherwise
not because of a pattern. -/
theorem run_ignored {f : Finding} (hf : f ∈ (run files oracle o project now).results.findings)
    (raw : String) :
    f.verdict = .unchecked (.ignored raw) ↔ o.ignore.find? (Glob.covers f.name) = some raw := by
  cases hl : (Declared.load files project o.selection).1 with
  | error e =>
    rw [run_of_unloaded hl] at hf
    cases hf
  | ok declared =>
    rw [run_findings hl] at hf
    obtain ⟨d, -, rfl⟩ := List.mem_map.1 hf
    exact finding_ignored

/-- Two runs with the same declared dependencies compare as the findings about each of them do. -/
theorem run_compare {R : Finding → Finding → Prop}
    (hload : (Declared.load files' project o'.selection).1 =
      (Declared.load files project o.selection).1)
    (h : ∀ d,
      R ((lead files (modulesRoot o project) (validPatterns o.ignore) d).finding oracle o.target d)
        ((lead files' (modulesRoot o' project) (validPatterns o'.ignore) d).finding oracle' o'.target
          d)) :
    (run files' oracle' o' project now').results.rootError =
        (run files oracle o project now).results.rootError ∧
      List.Forall₂ R (run files oracle o project now).results.findings
        (run files' oracle' o' project now').results.findings := by
  cases hl : (Declared.load files project o.selection).1 with
  | error e =>
    rw [run_of_unloaded hl, run_of_unloaded (hload.trans hl)]
    exact ⟨rfl, .nil⟩
  | ok declared =>
    refine ⟨(run_rootError.2 ⟨_, hload.trans hl⟩).trans (run_rootError.2 ⟨_, hl⟩).symm, ?_⟩
    rw [run_findings hl, run_findings (hload.trans hl), List.forall₂_map_left_iff,
      List.forall₂_map_right_iff, List.forall₂_same]
    exact fun d _ => h d

/-- Of a run, only its events know the patterns that are not valid. -/
theorem run_ignoring_filter :
    (run files oracle (o.ignoring (o.ignore.filter Glob.isValid)) project now).results =
      (run files oracle o project now).results := by
  have hvalid := validPatterns_filter o.ignore
  cases h : (Declared.load files project o.selection).1 with
  | error e =>
    have h' : (Declared.load files project
        (o.ignoring (o.ignore.filter Glob.isValid)).selection).1 = .error e := h
    rw [run_of_unloaded h, run_of_unloaded h']
    rfl
  | ok declared =>
    have h' : (Declared.load files project
        (o.ignoring (o.ignore.filter Glob.isValid)).selection).1 = .ok declared := h
    rw [run_of_loaded h, run_of_loaded h']
    simp only [judge_eq, Options.ignoring, hvalid, modulesRoot]

end Runs

/-- More patterns at the end only ignore: the same dependencies are listed in the same order, and a
finding becomes an ignored one if none of the patterns before covers the name and a further one
does, and stays as it is otherwise. The patterns that are not valid have no part in the results. And
an ignored finding is the same for all files that agree on the manifest of the project, whatever the
oracle. -/
theorem run_ignoring (files : File.Lookup) (oracle : Oracle) (o : Options) (project : Path)
    (now now' : Moment) :
    (∀ more,
      (run files oracle (o.ignoring (o.ignore ++ more)) project now').results.rootError =
        (run files oracle o project now).results.rootError ∧
      List.Forall₂ (OnlyIgnores o.ignore more) (run files oracle o project now).results.findings
        (run files oracle (o.ignoring (o.ignore ++ more)) project now').results.findings) ∧
    (run files oracle (o.ignoring (o.ignore.filter Glob.isValid)) project now).results =
      (run files oracle o project now).results ∧
    ∀ files' oracle', SameAt files files' (manifestPath project) →
      List.Forall₂ SameIfIgnored (run files oracle o project now).results.findings
        (run files' oracle' o project now').results.findings := by
  refine ⟨fun more => ?_, run_ignoring_filter, fun files' oracle' hroot => ?_⟩
  · exact run_compare rfl fun d => finding_onlyIgnores
  · have hload := congrArg Prod.fst (load_congr hroot o.selection).symm
    exact (run_compare hload fun d => finding_sameIfIgnored).2

/-- Of two dependencies one is left out by the second pattern, the first not being valid. Its script
is another one in the second tree. -/
theorem run_ignoring_far :
    let project := Path.ofString "/p"
    let files := (nearAndFar "var y = 1").lookup
    let files' := (nearAndFar "let y = 1").lookup
    let o := nearOptions.ignoring ["[", "f*"]
    SameAt files files' (manifestPath project) ∧
      (run files Script.judge o project .epoch).results.findings.getLast? =
        some ⟨"far", .production, none, .unchecked (.ignored "f*")⟩ ∧
      List.Forall₂ SameIfIgnored (run files Script.judge o project .epoch).results.findings
        (run files' Script.judge o project .epoch).results.findings := by
  intro project files files' o
  have hroot : SameAt files files' (manifestPath project) := by
    have hne : (Path.ofString "/p/node_modules/far/index.js").normal ≠
        (manifestPath project).normal := by decide +kernel
    exact File.Tree.sameAt_set hne _ _ _
  have hsame := (run_ignoring files Script.judge o project .epoch .epoch).2.2 files' Script.judge hroot
  exact ⟨hroot, by decide +kernel, hsame⟩

end Check
end EditionCheck
