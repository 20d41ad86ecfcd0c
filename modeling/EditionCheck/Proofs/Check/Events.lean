import Mathlib.Data.List.Forall2
import EditionCheck.Proofs.Check.Lead

/-!
  What a check tells, in order.

  `Log` lays down the events of the dependencies one by one: each is announced with its number, and
  then there is one remark about it, or none (`Remark`). The events of a run are such a log behind
  what there is to say about the manifest of the project and about the ignore patterns; if the
  manifest cannot be loaded, a single error is all (`run_log`).
-/

namespace EditionCheck

theorem DependencyKind.mem_all (kind : DependencyKind) : kind ∈ all := by
  cases kind <;> decide

namespace Check

/-! ## What may be told -/

/-- The remark that follows the announcement of a finding: one if the dependency fails or was left
out, and one if it conforms and that is to be told. -/
inductive Remark (o : Options) (f : Finding) : Option Diagnostic → Prop where
  | nonConforming (failure : Failure) (h : f.verdict = .nonConforming failure) :
      Remark o f (some ⟨.nonConforming, some f.name, f.name ++ " is not " ++ o.target.label⟩)
  | unchecked (reason : Reason) (h : f.verdict = .unchecked reason) :
      Remark o f
        (some ⟨.warning, some f.name, f.name ++ " was not checked because " ++ Lead.why reason⟩)
  | conforming (h : f.verdict = .conforming) (ho : o.logConforming = true) :
      Remark o f (some ⟨.conforming, some f.name, f.name ++ " is " ++ o.target.label⟩)
  | silent (h : f.verdict = .conforming) (ho : o.logConforming = false) : Remark o f none

/-- The events of the dependencies from number `i` of `n` on, and the end of the run. -/
inductive Log (o : Options) (n : Nat) : Nat → List Finding → List Event → Prop where
  | done : Log o n n [] [.reached ⟨n, n, "done"⟩]
  | next {i : Nat} {f : Finding} {said : Option Diagnostic} {fs : List Finding} {es : List Event}
      (h : Remark o f said) (hrest : Log o n (i + 1) fs es) :
      Log o n i (f :: fs) (.reached ⟨i, n, f.name⟩ :: ((said.map Event.said).toList ++ es))

/-- The warning that a pattern is passed over, with what is wrong with it. -/
def PatternRefused (raw : String) (d : Diagnostic) : Prop :=
  ∃ e, Glob.ofString raw = .error e ∧ d = invalidPattern raw e

/-- The patterns that are not valid. -/
def invalidPatterns (raw : List String) : List String :=
  raw.filter fun s => (Glob.ofString s).toOption.isNone

/-- The manifest has none of the mappings that are looked at. -/
def NothingSelected (m : Manifest) (s : Selection) : Prop :=
  ∀ kind, s.admits kind = true → m.requirements? kind = none

instance (m : Manifest) (s : Selection) : Decidable (NothingSelected m s) :=
  decidable_of_iff (∀ kind ∈ DependencyKind.all, s.admits kind = true → m.requirements? kind = none)
    ⟨fun h kind => h kind (DependencyKind.mem_all kind), fun h kind _ => h kind⟩

/-- What is said before the dependencies: that there is nothing to check, if that is so, and which
patterns are passed over. -/
def Opening (o : Options) (project : Path) (m : Manifest) (said : List Diagnostic) : Prop :=
  ∃ warnings, List.Forall₂ PatternRefused (invalidPatterns o.ignore) warnings ∧
    said = (if NothingSelected m o.selection then [.ofWarning (Declared.emptyMessage project)]
      else []) ++ warnings

/-! ## Before the dependencies -/

theorem noneSelected_iff (m : Manifest) (s : Selection) :
    Declared.noneSelected m s = true ↔ NothingSelected m s := by
  unfold Declared.noneSelected NothingSelected Selection.kinds
  simp only [List.all_eq_true, List.mem_filter, Option.isNone_iff_eq_none]
  exact ⟨fun h kind hk => h kind ⟨DependencyKind.mem_all kind, hk⟩, fun h kind hk => h kind hk.2⟩

theorem patternWarnings_refused (raw : List String) :
    List.Forall₂ PatternRefused (invalidPatterns raw) (patternWarnings raw) := by
  induction raw with
  | nil => exact .nil
  | cons s rest ih =>
    unfold invalidPatterns patternWarnings at ih ⊢
    cases hs : Glob.ofString s with
    | ok g =>
      rw [List.filter_cons, List.filterMap_cons, hs]
      exact ih
    | error e =>
      rw [List.filter_cons, List.filterMap_cons, hs]
      exact .cons ⟨e, hs, rfl⟩ ih

theorem invalidPatterns_of_valid {raws : List String}
    (h : ∀ raw ∈ raws, ∃ g, Glob.ofString raw = .ok g) : invalidPatterns raws = [] := by
  unfold invalidPatterns
  rw [List.filter_eq_nil_iff]
  intro raw hraw
  obtain ⟨g, hg⟩ := h raw hraw
  simp [hg, Except.toOption]

theorem head?_append_text {s : String} {c : Char} (h : s.toList.head? = some c) (t : String) :
    (s ++ t).toList.head? = some c := by
  rw [String.toList_append, List.head?_append, h, Option.some_or]

/-- The two warnings about a run as a whole begin with different letters. -/
theorem invalidPattern_ne_emptyMessage {project : Path} (raw : String) (e : Glob.Fault) :
    invalidPattern raw e ≠ .ofWarning (Declared.emptyMessage project) := by
  have hpattern : "Ignoring invalid ignore pattern '".toList.head? = some 'I' := by decide +kernel
  have hempty : "package.json in ".toList.head? = some 'p' := by decide +kernel
  have hfirst : (invalidPattern raw e).message.toList.head? = some 'I' :=
    head?_append_text (head?_append_text (head?_append_text hpattern raw) _) _
  have hsecond : (Declared.emptyMessage project).toList.head? = some 'p' :=
    head?_append_text (head?_append_text hempty _) _
  intro h
  rw [h] at hfirst
  cases hfirst.symm.trans hsecond

/-! ## One dependency after the other -/

theorem Lead.remark (oracle : Oracle) (o : Options) (d : Declared) (l : Lead) :
    Remark o (l.finding oracle o.target d) (l.said oracle o d.name) := by
  cases l with
  | stopped known reason => exact .unchecked reason rfl
  | ready path kind text =>
    have hverdict : ((ready path kind text).finding oracle o.target d).verdict =
        verdictOf (oracle kind text o.target) := rfl
    have hsaid : (ready path kind text).said oracle o d.name =
        (judgeScript oracle o d.name kind text).2 := rfl
    rw [hsaid, judgeScript]
    cases ho : oracle kind text o.target with
    | ok u =>
      rw [ho] at hverdict
      cases hlog : o.logConforming with
      | true => exact .conforming hverdict hlog
      | false => exact .silent hverdict hlog
    | error failure =>
      rw [ho] at hverdict
      exact .nonConforming failure hverdict

/-- Events that go with remarks are a log, if the numbers come out. -/
theorem eventsFrom_log {o : Options} {n i : Nat} {judged : List (Finding × Option Diagnostic)}
    (h : ∀ x ∈ judged, Remark o x.1 x.2) (hn : i + judged.length = n) :
    Log o n i (judged.map Prod.fst) (eventsFrom n i judged ++ [.reached ⟨n, n, "done"⟩]) := by
  induction judged generalizing i with
  | nil =>
    have hi : i = n := hn
    rw [hi]
    exact .done
  | cons x rest ih =>
    have hrest : Log o n (i + 1) (rest.map Prod.fst)
        (eventsFrom n (i + 1) rest ++ [.reached ⟨n, n, "done"⟩]) := by
      apply ih fun y hy => h y (List.mem_cons_of_mem x hy)
      rw [List.length_cons] at hn
      omega
    have hx : Remark o x.1 x.2 := h x List.mem_cons_self
    have hevents : eventsFrom n i (x :: rest) ++ [.reached ⟨n, n, "done"⟩] =
        .reached ⟨i, n, x.1.name⟩ :: ((x.2.map Event.said).toList ++
          (eventsFrom n (i + 1) rest ++ [.reached ⟨n, n, "done"⟩])) := by
      rw [eventsFrom, List.cons_append, List.cons_append, List.append_assoc]
    rw [hevents, List.map_cons]
    exact .next hx hrest

/-- Whatever is said in a log is said about a dependency. -/
theorem Log.about_dependency {o : Options} {n i : Nat} {fs : List Finding} {es : List Event}
    (h : Log o n i fs es) {d : Diagnostic} (hd : .said d ∈ es) : d.dependency ≠ none := by
  induction h with
  | done => simp at hd
  | @next i f said fs es hremark hrest ih =>
    rcases List.mem_cons.1 hd with hd | hd
    · cases hd
    rcases List.mem_append.1 hd with hd | hd
    · obtain ⟨d', rfl, hd'⟩ := Option.map_eq_some_iff.1 (Option.mem_toList.1 hd)
      cases hd'
      cases hremark <;> simp
    · exact ih hd

/-! ## The whole run -/

section Run

variable {files : File.Lookup} {oracle : Oracle} {o : Options} {project : Path} {now : Moment}
  {m : Manifest}

theorem load_of_ok (h : Manifest.ofPackage files project = .ok m) (s : Selection) :
    Declared.load files project s = (.ok (Declared.ofManifest m s),
      if NothingSelected m s then [.ofWarning (Declared.emptyMessage project)] else []) := by
  unfold Declared.load
  rw [h]
  by_cases hnone : NothingSelected m s
  · rw [if_pos hnone]
    simp only [(noneSelected_iff m s).2 hnone, if_true]
  · rw [if_neg hnone]
    simp only [mt (noneSelected_iff m s).1 hnone]
    rfl

theorem run_events_of_ok (h : Manifest.ofPackage files project = .ok m) :
    ∃ said body, (run files oracle o project now).events = said.map Event.said ++ body ∧
      Opening o project m said ∧
      Log o (Declared.ofManifest m o.selection).length 0
        (run files oracle o project now).results.findings body := by
  have hload : (Declared.load files project o.selection).1 =
      .ok (Declared.ofManifest m o.selection) := by rw [load_of_ok h]
  have hjudged : ∀ x ∈ (Declared.ofManifest m o.selection).map
      (judge files oracle o project (validPatterns o.ignore)), Remark o x.1 x.2 := by
    intro x hx
    obtain ⟨d, -, rfl⟩ := List.mem_map.1 hx
    rw [judge_eq]
    exact Lead.remark oracle o d _
  have hlog := eventsFrom_log hjudged (Nat.zero_add _)
  rw [List.length_map] at hlog
  have hfindings : (run files oracle o project now).results.findings =
      ((Declared.ofManifest m o.selection).map
        (judge files oracle o project (validPatterns o.ignore))).map Prod.fst := by
    rw [run_of_loaded hload, Results.addAll_findings, List.map_map]
    rfl
  rw [hfindings]
  refine ⟨_, _, ?_, ⟨_, patternWarnings_refused o.ignore, rfl⟩, hlog⟩
  unfold run
  rw [load_of_ok h]
  simp only [List.length_map, List.append_assoc]

/-- A run whose patterns are all valid refuses none. -/
theorem not_said_of_valid (hvalid : ∀ raw ∈ o.ignore, ∃ g, Glob.ofString raw = .ok g)
    (raw : String) (e : Glob.Fault) :
    .said (invalidPattern raw e) ∉ (run files oracle o project now).events := by
  intro h
  cases hm : Manifest.ofPackage files project with
  | error e =>
    unfold run Declared.load at h
    rw [hm] at h
    have heq := Event.said.inj (List.mem_singleton.1 h)
    cases congrArg Diagnostic.level heq
  | ok m =>
    obtain ⟨said, body, hevents, ⟨warnings, hwarnings, rfl⟩, hlog⟩ :=
      @run_events_of_ok files oracle o project now m hm
    rw [invalidPatterns_of_valid hvalid, List.forall₂_nil_left_iff] at hwarnings
    rw [hevents, hwarnings, List.append_nil] at h
    rcases List.mem_append.1 h with h | h
    · obtain ⟨d, hd, heq⟩ := List.mem_map.1 h
      cases heq
      split at hd
      · exact invalidPattern_ne_emptyMessage raw e (List.mem_singleton.1 hd)
      · cases hd
    · exact hlog.about_dependency h rfl

/-- The events of a check are: one error and nothing else if the manifest of the project cannot be
loaded; otherwise the opening, then for each declared dependency in order its announcement with its
number and the remark on it, and at last that all is done. -/
theorem run_log (files : File.Lookup) (oracle : Oracle) (o : Options) (project : Path)
    (now : Moment) :
    match Manifest.ofPackage files project with
    | .error e =>
      (run files oracle o project now).events =
        [.said (.ofError (Declared.unloadableMessage project e))]
    | .ok m =>
      (∃ said body, (run files oracle o project now).events = said.map Event.said ++ body ∧
        Opening o project m said ∧
        Log o (Declared.ofManifest m o.selection).length 0
          (run files oracle o project now).results.findings body) ∧
      (run files oracle o project now).results.findings.map Finding.name =
        (Declared.ofManifest m o.selection).map Declared.name := by
  cases h : Manifest.ofPackage files project with
  | error e =>
    unfold run Declared.load
    rw [h]
    rfl
  | ok m =>
    refine ⟨run_events_of_ok h, ?_⟩
    have hload : (Declared.load files project o.selection).1 =
        .ok (Declared.ofManifest m o.selection) := by rw [load_of_ok h]
    rw [run_findings hload, List.map_map]
    rfl

end Run

end Check
end EditionCheck
