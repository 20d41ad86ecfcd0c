import EditionCheck.Proofs.Check.Results

/-!
  What a check does before it asks its oracle.

  All that happens to a dependency before its script is judged is a `Lead`: either it stops for some
  reason, or a script is ready to be judged. Neither the oracle nor the target plays a part in it,
  and what is found out and said about the dependency is a function of the lead (`judge_eq`). So a
  check asks its oracle about the scripts of its leads (`questions`) and about nothing else
  (`run_congr`).
-/

namespace EditionCheck.Check

/-- How far a dependency comes without the oracle. -/
inductive Lead where
  /-- It is left unjudged, with its entry script as far as that is known. -/
  | stopped (known : Option Path) (reason : Reason)
  /-- Its entry script has been read and is to be loaded as a kind of source. -/
  | ready (path : Path) (kind : SourceKind) (text : String)
  deriving DecidableEq

namespace Lead

/-- The outcome that the answer of an oracle stands for. -/
def verdictOf : Except Failure Unit → Verdict
  | .ok () => .conforming
  | .error failure => .nonConforming failure

/-- Whatever an oracle answers, the dependency has been judged. -/
theorem verdictOf_ne_unchecked {x : Except Failure Unit} {reason : Reason} :
    verdictOf x ≠ .unchecked reason := by
  cases x <;> simp [verdictOf]

/-- The entry script. -/
def entryScript : Lead → Option Path
  | stopped known _ => known
  | ready path _ _ => some path

/-- The outcome, once the oracle has been asked where it has to be. -/
def verdict (oracle : Oracle) (target : Edition) : Lead → Verdict
  | stopped _ reason => .unchecked reason
  | ready _ kind text => verdictOf (oracle kind text target)

/-- The finding about the dependency of a lead. -/
def finding (oracle : Oracle) (target : Edition) (d : Declared) (l : Lead) : Finding :=
  ⟨d.name, d.kind, l.entryScript, l.verdict oracle target⟩

/-- Why a dependency is left out, as it is told. -/
def why : Reason → String
  | .manifestUnreadable _ => "its package.json could not be loaded"
  | .noEntryScript => "no entry script was found"
  | .scriptUnreadable _ => "its entry script could not be read"
  | .ignored pattern => "it matches ignore pattern '" ++ pattern ++ "'"

/-- What is said about the dependency of a lead. -/
def said (oracle : Oracle) (o : Options) (name : String) : Lead → Option Diagnostic
  | stopped _ reason => some (leftOut name (why reason))
  | ready _ kind text => (judgeScript oracle o name kind text).2

/-- What the oracle is asked about: a text and how it is loaded. -/
def question? : Lead → Option (SourceKind × String)
  | stopped _ _ => none
  | ready _ kind text => some (kind, text)

end Lead

/-! ## The lead of a dependency -/

/-- The lead of a dependency installed at a path with a given manifest. -/
def packageLead (files : File.Lookup) (installed : Path) (m : Manifest) : Lead :=
  match Entry.resolve files m installed with
  | none => .stopped none .noEntryScript
  | some script =>
    match files.read script with
    | .error e =>
      .stopped (some script) (.scriptUnreadable (Problem.scriptUnreadable script e).userMessage)
    | .ok text => .ready script (Entry.sourceKind script m) text

/-- The lead of a dependency among those installed under a directory. -/
def lead (files : File.Lookup) (root : Path) (patterns : List Glob) (d : Declared) : Lead :=
  match patterns.find? fun g => g.accepts d.name with
  | some g => .stopped none (.ignored g.text)
  | none =>
    match Manifest.ofPackage files (root.child d.name) with
    | .error e => .stopped none (.manifestUnreadable e.userMessage)
    | .ok m => packageLead files (root.child d.name) m

section Judging

variable (files : File.Lookup) (oracle : Oracle) (o : Options) (d : Declared)

theorem judgeScript_verdict (name : String) (kind : SourceKind) (text : String) :
    (judgeScript oracle o name kind text).1 = Lead.verdictOf (oracle kind text o.target) := by
  unfold judgeScript Lead.verdictOf
  cases oracle kind text o.target <;> rfl

theorem judgePackage_eq (installed : Path) (m : Manifest) :
    judgePackage files oracle o d installed m =
      ((packageLead files installed m).finding oracle o.target d,
        (packageLead files installed m).said oracle o d.name) := by
  unfold judgePackage packageLead
  cases Entry.resolve files m installed with
  | none => rfl
  | some script =>
    cases hread : files.read script with
    | error e => simp only [hread]; rfl
    | ok text =>
      simp only [hread, Lead.finding, Lead.entryScript, Lead.verdict, Lead.said]
      rw [← judgeScript_verdict oracle o d.name]

/-- What is found out and said about a dependency is what the oracle makes of its lead. -/
theorem judge_eq (project : Path) (patterns : List Glob) :
    judge files oracle o project patterns d =
      ((lead files (modulesRoot o project) patterns d).finding oracle o.target d,
        (lead files (modulesRoot o project) patterns d).said oracle o d.name) := by
  unfold judge lead judgeInstalled
  cases patterns.find? fun g => g.accepts d.name with
  | some g => rfl
  | none =>
    cases hm : Manifest.ofPackage files ((modulesRoot o project).child d.name) with
    | error e => simp only [hm]; rfl
    | ok m => simp only [hm, judgePackage_eq]

end Judging

/-! ## A run and its oracle -/

/-- What the oracle is asked about in a run: the scripts of the leads, and nothing when it is not
known what the project declares. -/
def questions (files : File.Lookup) (o : Options) (project : Path) : List (SourceKind × String) :=
  match (Declared.load files project o.selection).1 with
  | .error _ => []
  | .ok declared =>
    declared.filterMap fun d =>
      (lead files (modulesRoot o project) (validPatterns o.ignore) d).question?

variable {files : File.Lookup} {oracle oracle' : Oracle} {o : Options} {project : Path}
  {now : Moment} {declared : List Declared}

/-- The findings of a run, one for each declared dependency. -/
theorem run_findings (h : (Declared.load files project o.selection).1 = .ok declared) :
    (run files oracle o project now).results.findings =
      declared.map fun d =>
        (lead files (modulesRoot o project) (validPatterns o.ignore) d).finding oracle o.target d := by
  rw [run_of_loaded h, Results.addAll_findings]
  simp only [judge_eq, Results.start, List.nil_append]

theorem Lead.said_congr {l : Lead} {name : String}
    (h : ∀ q, l.question? = some q → oracle q.1 q.2 o.target = oracle' q.1 q.2 o.target) :
    l.said oracle o name = l.said oracle' o name := by
  cases l with
  | stopped known reason => rfl
  | ready path kind text =>
    have hq := h (kind, text) rfl
    simp only [said, judgeScript, hq]

theorem Lead.finding_congr {l : Lead} {d : Declared}
    (h : ∀ q, l.question? = some q → oracle q.1 q.2 o.target = oracle' q.1 q.2 o.target) :
    l.finding oracle o.target d = l.finding oracle' o.target d := by
  cases l with
  | stopped known reason => rfl
  | ready path kind text =>
    have hq := h (kind, text) rfl
    simp only [finding, verdict, hq]

/-- A run depends on its oracle only through the answers to its questions. -/
theorem run_congr (h : ∀ q ∈ questions files o project,
      oracle q.1 q.2 o.target = oracle' q.1 q.2 o.target) (now : Moment) :
    run files oracle o project now = run files oracle' o project now := by
  unfold questions at h
  unfold run
  cases hl : Declared.load files project o.selection with
  | mk result said =>
    rw [hl] at h
    cases result with
    | error e => rfl
    | ok declared =>
      have hjudge : ∀ d ∈ declared,
          judge files oracle o project (validPatterns o.ignore) d =
            judge files oracle' o project (validPatterns o.ignore) d := by
        intro d hd
        have hq : ∀ q, (lead files (modulesRoot o project) (validPatterns o.ignore) d).question? =
            some q → oracle q.1 q.2 o.target = oracle' q.1 q.2 o.target :=
          fun q hq => h q (List.mem_filterMap.2 ⟨d, hd, hq⟩)
        rw [judge_eq, judge_eq, Lead.finding_congr hq, Lead.said_congr hq]
      simp only [List.map_congr_left hjudge]

end EditionCheck.Check
