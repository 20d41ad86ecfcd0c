import EditionCheck.Proofs.Check.Accounting

/-!
  Checks of more mappings.

  The mappings of a manifest are read in one order, whichever of them are selected, and a name
  counts where it is declared first. What is found out about a dependency does not depend on the
  others. So selecting a mapping that comes after those selected already leaves all findings as they
  are, and whatever it adds comes behind them (`run_selection_appends`).
-/

namespace EditionCheck.Check

/-- How the results for some mappings compare with those for `more` mappings besides. -/
structure Appends (more : List DependencyKind) (fewer wider : Results) : Prop where
  rootError : wider.rootError = fewer.rootError
  findings : ∃ added, wider.findings = fewer.findings ++ added ∧ ∀ f ∈ added, f.kind ∈ more
  report : fewer.report.names <+: wider.report.names

/-- The options with other mappings selected. -/
def Options.selecting (o : Options) (development optional : Bool) : Options :=
  { o with development := development, optional := optional }

/-! ## Kinds in order -/

theorem kinds_production (development optional : Bool) :
    (Selection.mk development optional).kinds = Selection.productionOnly.kinds ++
      ((if development then [.development] else []) ++ if optional then [.optional] else []) := by
  cases development <;> cases optional <;> rfl

theorem kinds_optional (development : Bool) :
    (Selection.mk development true).kinds =
      (Selection.mk development false).kinds ++ [.optional] := by
  cases development <;> rfl

/-! ## Two runs -/

section Runs

variable {files : File.Lookup} {project : Path} {dev opt dev' opt' : Bool}
  {declared : List Declared} {more : List DependencyKind}

/-- What is selected decides which dependencies there are, and nothing about any of them. -/
theorem run_findings_selecting (h : (Declared.load files project ⟨dev, opt⟩).1 = .ok declared)
    (oracle : Oracle) (o : Options) (now : Moment) :
    (run files oracle (o.selecting dev opt) project now).results.findings =
      declared.map fun d =>
        (lead files (modulesRoot o project) (validPatterns o.ignore) d).finding oracle o.target d :=
  run_findings h

/-- Two checks, of which one selects mappings besides those of the other that are read after
them. -/
theorem run_appends (hkinds : (Selection.mk dev' opt').kinds = (Selection.mk dev opt).kinds ++ more)
    (files : File.Lookup) (oracle : Oracle) (o : Options) (project : Path) (now now' : Moment) :
    Appends more (run files oracle (o.selecting dev opt) project now).results
      (run files oracle (o.selecting dev' opt') project now').results := by
  cases h : (Declared.load files project ⟨dev, opt⟩).1 with
  | error e =>
    have h' : (Declared.load files project ⟨dev', opt'⟩).1 = .error e := Declared.load_error h _
    rw [run_of_unloaded (o := o.selecting dev opt) h,
      run_of_unloaded (o := o.selecting dev' opt') h']
    exact ⟨rfl, ⟨[], rfl, by simp⟩, List.prefix_rfl⟩
  | ok declared =>
    obtain ⟨added, h', hadded⟩ := Declared.load_append hkinds h
    have hfindings := run_findings_selecting h oracle o now
    have hfindings' := run_findings_selecting h' oracle o now'
    rw [List.map_append, ← hfindings] at hfindings'
    constructor
    · rw [run_rootError.2 ⟨_, h'⟩, run_rootError.2 ⟨_, h⟩]
    · refine ⟨_, hfindings', fun f hf => ?_⟩
      obtain ⟨d, hd, rfl⟩ := List.mem_map.1 hf
      exact hadded d hd
    · rw [(run_balanced h).report, (run_balanced h').report, hfindings', failingNames_append]
      exact List.prefix_append _ _

end Runs

/-- Selecting more mappings only appends. Whichever mappings are selected besides the dependencies
proper, the findings about these and the names of those that fail come first and are the same; and
with or without the development dependencies, the optional ones come last and change nothing before
them. Whether the project's own manifest can be loaded is the same in all of these checks. A name
that several mappings declare is no exception. -/
theorem run_selection_appends (files : File.Lookup) (oracle : Oracle) (o : Options) (project : Path)
    (now now' : Moment) :
    (∀ dev opt, Appends ((if dev then [.development] else []) ++ if opt then [.optional] else [])
      (run files oracle (o.selecting false false) project now).results
      (run files oracle (o.selecting dev opt) project now').results) ∧
    ∀ dev, Appends [.optional]
      (run files oracle (o.selecting dev false) project now).results
      (run files oracle (o.selecting dev true) project now').results :=
  ⟨fun dev opt => run_appends (kinds_production dev opt) files oracle o project now now',
    fun dev => run_appends (kinds_optional dev) files oracle o project now now'⟩

end EditionCheck.Check
