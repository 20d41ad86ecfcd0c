import EditionCheck.File.Tree
import EditionCheck.Proofs.Check.Accounting
import EditionCheck.Proofs.Report.Json
import EditionCheck.Proofs.Report.Table
import EditionCheck.Report.Format

/-!
  The views of the results of a check.

  Results are shown as a list of names, as text, as JSON and as a table, and a status goes with
  them. The views read different parts of the results, some the findings and some the report or the
  counts. `Results.Shows` says which names each of them gives as failing; in balanced books all give
  the same (`Results.Balanced.shows`), and the books of a check are balanced (`Check.run_shows`).
-/

namespace EditionCheck

namespace Report

/-! ## Text -/

/-- How the line of a failing finding starts. -/
def failMark (colors : Bool) : String := if colors then "  [\x1b[1;31mFAIL\x1b[0m] " else "  [FAIL] "

/-- What is told about a finding starts with the mark of a failing one and its name. -/
def hasFailLine (colors verbose : Bool) (f : Finding) : Bool :=
  (failMark colors ++ f.name).toList.isPrefixOf (findingText colors verbose f).toList

/-- The text before the entries. Of the findings it knows their counts, and whether it lists any. -/
def opening (colors verbose : Bool) (target : Edition) (project : Path) (s : Summary)
    (lists : Bool) : String :=
  heading colors target project ++ countLines s ++
    if lists then if verbose then "\nDependencies:\n" else "\nNon-conforming dependencies:\n"
    else if s.nonConforming == 0 && s.total > 0 then
      let line := "\nAll checked dependencies conform to " ++ target.label ++ "\n"
      if colors then Style.green.paint line else line
    else ""

/-- A text is its opening and one entry for each finding that is listed. -/
theorem text_eq {r : Results} (hroot : r.rootError = none) (colors verbose : Bool) :
    r.text colors verbose false =
      opening colors verbose r.target r.project r.summary
        (!(listed verbose r.findings).isEmpty) ++
      String.join ((listed verbose r.findings).map (findingText colors verbose)) := by
  have htext : r.text colors verbose false = summaryText colors verbose r := rfl
  rw [htext]
  -- the last line of the opening depends on whether anything is listed
  simp only [summaryText, hroot, closing, opening]
  cases hl : (listed verbose r.findings).isEmpty with
  | true =>
    have hnil : listed verbose r.findings = [] := List.isEmpty_iff.1 hl
    simp [hnil]
  | false => exact (String.append_assoc ..).symm

/-- What stands before the name in an entry. -/
def lead (colors : Bool) (v : Verdict) : String := "  [" ++ mark colors v ++ "] "

theorem findingText_eq (colors verbose : Bool) (f : Finding) :
    ∃ rest, findingText colors verbose f = lead colors f.verdict ++ f.name ++ rest := by
  unfold findingText lead
  simp only [String.append_assoc]
  exact ⟨_, rfl⟩

theorem lead_nonConforming (colors : Bool) (e : Failure) :
    lead colors (.nonConforming e) = failMark colors := by
  cases colors <;> rfl

/-- The mark of a failing finding differs from the others in its first letters. -/
theorem lead_take_ne {v : Verdict} (hv : v.isNonConforming = false) (colors : Bool) :
    (lead colors v).toList.take 6 ≠ (failMark colors).toList.take 6 ∧
      6 ≤ (lead colors v).toList.length := by
  cases v with
  | nonConforming e => cases hv
  | conforming => cases colors <;> decide
  | unchecked reason =>
    have hany : lead colors (.unchecked reason) = lead colors (.unchecked .noEntryScript) := rfl
    rw [hany]
    cases colors <;> decide

theorem isPrefixOf_lead {v : Verdict} (hv : v.isNonConforming = false) (colors : Bool)
    (name rest : String) :
    (failMark colors ++ name).toList.isPrefixOf (lead colors v ++ rest).toList = false := by
  obtain ⟨hne, hlength⟩ := lead_take_ne hv colors
  have hlength' : 6 ≤ (failMark colors).toList.length := by cases colors <;> decide
  rw [Bool.eq_false_iff, Ne, List.isPrefixOf_iff_prefix]
  rintro ⟨more, hmore⟩
  have htake := congrArg (List.take 6) hmore
  rw [String.toList_append, String.toList_append, List.append_assoc,
    List.take_append_of_le_length hlength', List.take_append_of_le_length hlength] at htake
  exact hne htake.symm

/-- Exactly the failing findings have a failing line. -/
theorem hasFailLine_eq (colors verbose : Bool) (f : Finding) :
    hasFailLine colors verbose f = f.verdict.isNonConforming := by
  obtain ⟨rest, hentry⟩ := findingText_eq colors verbose f
  unfold hasFailLine
  rw [hentry]
  cases hv : f.verdict with
  | nonConforming e =>
    have hchars : (failMark colors ++ f.name ++ rest).toList =
        (failMark colors ++ f.name).toList ++ rest.toList := String.toList_append
    rw [lead_nonConforming, hchars]
    exact List.isPrefixOf_iff_prefix.2 (List.prefix_append _ _)
  | conforming =>
    rw [String.append_assoc]
    exact isPrefixOf_lead rfl colors f.name (f.name ++ rest)
  | unchecked reason =>
    rw [String.append_assoc]
    exact isPrefixOf_lead rfl colors f.name (f.name ++ rest)

/-! ## The table -/

/-- The cell of a record under a column of the table. -/
def cell (column : String) (record : List String) : Option String :=
  record[tableHeader.idxOf column]?

/-- The cells under `Dependency` of the records that have `non-conforming` under `Status`. -/
def failingCells (records : List (List String)) : List (Option String) :=
  (records.filter fun record => cell "Status" record == some "non-conforming").map
    (cell "Dependency")

theorem failingCells_findings (fs : List Finding) :
    failingCells (fs.map findingFields) = (failingNames fs).map some := by
  have hname : ∀ f, cell "Dependency" (findingFields f) = some f.name := fun f => rfl
  have hstatus : ∀ f : Finding, (cell "Status" (findingFields f) == some "non-conforming") =
      f.verdict.isNonConforming := by
    intro f
    have hcell : cell "Status" (findingFields f) = some f.verdict.label := rfl
    rw [hcell]
    cases f.verdict <;> rfl
  simp only [failingCells, failingNames, List.filter_map, List.map_map, Function.comp_def, hname,
    hstatus]

end Report

namespace Results

open Report

/-- Every view of the results gives `names` as those that fail, in this order. -/
structure Shows (r : Results) (names : List String) : Prop where
  /-- The quiet text has one line for each name and nothing else. -/
  quiet : ∀ colors verbose, r.text colors verbose true = String.join (names.map fun n => n ++ "\n")
  /-- The text in JSON is an object with the names as its report. -/
  json : ∀ pretty, ∃ members, Json.read (r.jsonText pretty) .whole = .ok (.object members) ∧
    Keyed.get? "report" members = some (.array (names.map .string))
  /-- The table has a header and records, and the names stand in the records that fail. -/
  table : ∃ records, Csv.read (Report.table r) = some (tableHeader :: records) ∧
    failingCells records = names.map some
  /-- The text is an opening and one entry for each of some findings, and the names are those of the
  entries with a failing line. -/
  text : ∀ colors verbose, ∃ shown : List Finding, shown.Sublist r.findings ∧
    r.text colors verbose false =
      opening colors verbose r.target r.project r.summary (!shown.isEmpty) ++
        String.join (shown.map (findingText colors verbose)) ∧
    (shown.filter (hasFailLine colors verbose)).map Finding.name = names
  /-- The status is that of a failure if there is a name and failures count. -/
  status : ∀ fail, r.exitStatus fail = 1 ↔ names ≠ [] ∧ fail = true

/-- What is listed and fails is what fails. -/
theorem listed_failing (verbose : Bool) (fs : List Finding) :
    failingNames (listed verbose fs) = failingNames fs := by
  cases verbose with
  | true => rfl
  | false => simp [failingNames, listed]

/-- In balanced books all views give the names of the findings that fail. -/
theorem Balanced.shows {r : Results} (h : r.Balanced) (hroot : r.rootError = none)
    (hbounded : r.Bounded) : r.Shows (failingNames r.findings) where
  quiet := by
    intro colors verbose
    rw [← h.report]
    have htext : r.text colors verbose true = namesOnly r := rfl
    rw [htext, namesOnly, hroot, String.empty_append]
  json := fun pretty => by
    rw [read_jsonText hbounded, ← h.report]
    exact ⟨_, rfl, rfl⟩
  table := ⟨_, read_table r, failingCells_findings r.findings⟩
  text := by
    intro colors verbose
    refine ⟨listed verbose r.findings, ?_, text_eq hroot colors verbose, ?_⟩
    · cases verbose with
      | true => exact List.Sublist.refl _
      | false => exact List.filter_sublist
    · have hfail : hasFailLine colors verbose = fun f => f.verdict.isNonConforming :=
        funext fun f => hasFailLine_eq colors verbose f
      rw [hfail]
      exact listed_failing verbose r.findings
  status := by
    intro fail
    have hnames : r.hasNonConforming = true ↔ failingNames r.findings ≠ [] := by
      rw [hasNonConforming, h.report]
      simp
    rw [exitStatus, hroot, ← hnames]
    cases r.hasNonConforming <;> cases fail <;> simp

end Results

namespace Check

/-- All views of the results of a check give the names of its failing findings, if the manifest of
the project could be loaded. -/
theorem run_shows (files : File.Lookup) (oracle : Oracle) (o : Options) (project : Path)
    (now : Moment) (d : Duration)
    (hroot : (run files oracle o project now).results.rootError = none)
    (hbounded : (run files oracle o project now).results.Bounded) :
    ((run files oracle o project now).results.lasting d).Shows
      (failingNames (run files oracle o project now).results.findings) := by
  obtain ⟨declared, hdeclared⟩ := run_rootError.1 hroot
  have hbalanced : (run files oracle o project now).results.Balanced := run_balanced hdeclared
  have hlasting : ((run files oracle o project now).results.lasting d).Balanced := by
    obtain ⟨htotal, hsum, hconforming, hnonConforming, hunchecked, hreport⟩ := hbalanced
    exact ⟨htotal, hsum, hconforming, hnonConforming, hunchecked, hreport⟩
  have hbounded' : ((run files oracle o project now).results.lasting d).Bounded := by
    obtain ⟨hfindings, hcounts⟩ := hbounded
    obtain ⟨htotal, hconforming, hnonConforming, hunchecked⟩ := hcounts
    exact ⟨hfindings, htotal, hconforming, hnonConforming, hunchecked⟩
  exact hlasting.shows hroot hbounded'

/-- A project with a script that is accepted, one that is not and one that is missing. -/
def shownProject : File.Tree :=
  [("package.json", "\x7b\"dependencies\":\x7b\"a\":\"1\",\"b,b\":\"1\",\"c\":\"1\"\x7d\x7d"),
    ("node_modules/a/package.json", "\x7b\x7d"), ("node_modules/a/index.js", "good"),
    ("node_modules/b,b/package.json", "\x7b\x7d"), ("node_modules/b,b/index.js", "bad")].foldl
    (fun tree file => tree.add (Path.ofString file.1) (.file file.2)) .empty

/-- An oracle that accepts one text. -/
def goodOnly : Oracle := fun _ text target =>
  if text == "good" then .ok () else .error (.unsupported .letConst target 1 1)

/-- The check of that project. -/
def shownOptions : Options := ⟨false, .es5, false, false, [], "node_modules"⟩

theorem run_shows_missing :
    let results := (run shownProject.lookup goodOnly shownOptions default .epoch).results
    results.rootError = none ∧ results.Bounded ∧ results.summary.unchecked = 1 ∧
      (results.lasting (.ofMillis 5)).Shows ["b,b"] := by
  intro results
  have hcomputed : (Declared.load shownProject.lookup default shownOptions.selection).1 =
        .ok [⟨"a", .production⟩, ⟨"b,b", .production⟩, ⟨"c", .production⟩] ∧
      results.findings =
        [⟨"a", .production, some (Path.ofString "node_modules/a/index.js"), .conforming⟩,
          ⟨"b,b", .production, some (Path.ofString "node_modules/b,b/index.js"),
            .nonConforming (.unsupported .letConst .es5 1 1)⟩,
          ⟨"c", .production, none, .unchecked (.manifestUnreadable
            (Problem.manifestMissing (Path.ofString "node_modules/c")).userMessage)⟩] := by
    decide +kernel
  obtain ⟨hload, hfindings⟩ := hcomputed
  have hroot : results.rootError = none := run_rootError.2 ⟨_, hload⟩
  have hbooks : results.Balanced := run_balanced hload
  have hunchecked : results.summary.unchecked = 1 := by
    rw [hbooks.unchecked, hfindings]
    rfl
  have hbounded : results.Bounded := by
    constructor
    · intro f hf e he
      rw [hfindings] at hf
      simp only [List.mem_cons, List.not_mem_nil, or_false] at hf
      rcases hf with rfl | rfl | rfl
      · cases he
      · cases he
        constructor <;> simp [Failure.unsupported]
      · cases he
    · have htotal : results.summary.total = 3 := by
        rw [hbooks.total, hfindings]
        rfl
      have hsum := hbooks.sum
      constructor <;> omega
  have hshows : (results.lasting (.ofMillis 5)).Shows (failingNames results.findings) :=
    run_shows shownProject.lookup goodOnly shownOptions default .epoch (.ofMillis 5) hroot hbounded
  rw [hfindings] at hshows
  exact ⟨hroot, hbounded, hunchecked, hshows⟩

end Check
end EditionCheck
