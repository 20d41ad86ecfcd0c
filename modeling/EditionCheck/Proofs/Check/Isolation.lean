import EditionCheck.File.Tree
import EditionCheck.Check.Scope
import EditionCheck.Proofs.Check.Lead
import EditionCheck.Proofs.Package.Declared
import EditionCheck.Proofs.Package.Entry
import EditionCheck.Proofs.File.Path

/-!
  Packages apart from each other.

  What a check finds out about a dependency it finds out from the manifest of the project and from
  the places at and inside the directory in which the dependency is installed, unless the main
  script that the dependency declares leads out of it. So two collections of files that agree on
  these give the same finding about the dependency, however they differ elsewhere
  (`run_isolated`).
-/

namespace EditionCheck

namespace File.Lookup

/-- Two collections of files give the same answers about a path. -/
structure SameAt (files files' : Lookup) (p : Path) : Prop where
  present : files.present p = files'.present p
  kind : files.kind? p = files'.kind? p
  read : files.read p = files'.read p

/-- They do so at and inside a directory. -/
def SameWithin (files files' : Lookup) (directory : Path) : Prop :=
  ∀ p, Path.Within directory p → SameAt files files' p

end File.Lookup

namespace File.Tree

/-- Two trees that differ in one entry only give the same answers about every other place. -/
theorem sameAt_set {n : Path.Normal} {p : Path} (h : n ≠ p.normal) (t : Tree) (e e' : Entry) :
    Lookup.SameAt (t.set n e).lookup (t.set n e').lookup p := by
  have hat : (t.set n e).at? p = (t.set n e').at? p := by
    rw [at?, at?, get?_set_of_ne h, get?_set_of_ne h]
  refine ⟨congrArg Option.isSome hat, congrArg (Option.map Entry.kind) hat, ?_⟩
  change (t.set n e).read p = (t.set n e').read p
  rw [read, read, hat]

end File.Tree

open File.Lookup (SameAt SameWithin)

variable {files files' : File.Lookup}

/-! ## Manifests and entry scripts -/

theorem Manifest.load_congr {p : Path} (h : SameAt files files' p) :
    load files p = load files' p := by
  unfold load
  rw [h.present, h.read]

/-- The main script that a package declares does not lead out of its directory at any point. -/
def Manifest.MainInside (m : Manifest) : Prop :=
  ∀ main, m.mainScript? = some main → Path.NeverClimbs (Path.ofString main).parts

/-- What results say about the dependencies of a name. -/
def Results.findingsOn (r : Results) (name : String) : List Finding :=
  r.findings.filter fun f => f.name == name

namespace Entry

theorem existing?_congr {p : Path} (h : files.present p = files'.present p) :
    existing? files p = existing? files' p := by
  unfold existing?
  rw [h]

theorem index_within {directory p : Path} (h : Path.Within directory p) :
    Path.Within directory (p.child indexName) :=
  h.push (n := "index.js".toList) (by decide)

variable {m : Manifest} {installed : Path}

/-- All places at which an entry script is looked for lie inside the package. -/
theorem candidates_within (hm : m.MainInside) {p : Path} (hp : p ∈ candidates m installed) :
    Path.Within installed p := by
  unfold candidates at hp
  rcases List.mem_cons.1 hp with rfl | hp
  · exact index_within (Path.Within.refl installed)
  · cases hmain : m.mainScript? with
    | none =>
      rw [hmain] at hp
      cases hp
    | some main =>
      have hscript : Path.Within installed (installed.joined main) :=
        Path.joined_within installed (hm main hmain)
      simp only [hmain, Option.map_some, Option.getD_some, List.mem_cons, List.not_mem_nil,
        or_false] at hp
      rcases hp with rfl | rfl
      · exact hscript
      · exact index_within hscript

/-- The entry script is one of the places at which it is looked for. -/
theorem resolve_mem_candidates {script : Path} (h : resolve files m installed = some script) :
    script ∈ candidates m installed :=
  (resolve_eq_some.1 h).mem_candidates

/-- Only the places at which an entry script is looked for decide which one it is, and not by what
they hold. -/
theorem resolve_congr (h : ∀ p ∈ candidates m installed,
      files.present p = files'.present p ∧ files.kind? p = files'.kind? p) :
    resolve files m installed = resolve files' m installed := by
  have hindex : existing? files (installed.child indexName) =
      existing? files' (installed.child indexName) := existing?_congr (h _ List.mem_cons_self).1
  unfold resolve
  cases hmain : m.mainScript? with
  | none => exact hindex
  | some main =>
    have hmem : ∀ p ∈ [installed.joined main, (installed.joined main).child indexName],
        files.present p = files'.present p ∧ files.kind? p = files'.kind? p := by
      intro p hp
      apply h
      unfold candidates
      rw [hmain]
      exact List.mem_cons_of_mem _ hp
    obtain ⟨hpresent, hkind⟩ := hmem _ List.mem_cons_self
    have hinner := existing?_congr (hmem _ (List.mem_cons_of_mem _ List.mem_cons_self)).1
    simp only [hpresent, hkind, hinner, hindex]

end Entry

namespace Check

variable {oracle : Oracle} {o : Options} {project : Path} {now now' : Moment}
  {declared : List Declared} {d : Declared} {root : Path}

/-! ## One dependency -/

theorem packageLead_congr {m : Manifest} {installed : Path} (hm : m.MainInside)
    (h : SameWithin files files' installed) :
    packageLead files installed m = packageLead files' installed m := by
  have hresolve : Entry.resolve files m installed = Entry.resolve files' m installed :=
    Entry.resolve_congr fun p hp =>
      have hsame := h p (Entry.candidates_within hm hp)
      ⟨hsame.present, hsame.kind⟩
  unfold packageLead
  rw [← hresolve]
  cases hscript : Entry.resolve files m installed with
  | none => rfl
  | some script =>
    have hin : Path.Within installed script :=
      Entry.candidates_within hm (Entry.resolve_mem_candidates hscript)
    simp only [(h script hin).read]

theorem manifest_within (installed : Path) : Path.Within installed (manifestPath installed) :=
  (Path.Within.refl installed).push (n := "package.json".toList) (by decide)

/-- Before its script is judged, a dependency depends on its own directory only. -/
theorem lead_congr (patterns : List Glob)
    (hmain : ∀ m, Manifest.ofPackage files (root.child d.name) = .ok m → m.MainInside)
    (h : SameWithin files files' (root.child d.name)) :
    lead files root patterns d = lead files' root patterns d := by
  have hmanifest : Manifest.ofPackage files (root.child d.name) =
      Manifest.ofPackage files' (root.child d.name) :=
    Manifest.load_congr (h _ (manifest_within _))
  unfold lead
  rw [← hmanifest]
  cases hm : Manifest.ofPackage files (root.child d.name) with
  | error e => rfl
  | ok m => simp only [packageLead_congr (hmain m hm) h]

/-! ## Two runs -/

theorem load_congr (h : SameAt files files' (manifestPath project)) (s : Selection) :
    Declared.load files project s = Declared.load files' project s := by
  have hmanifest : Manifest.ofPackage files project = Manifest.ofPackage files' project :=
    Manifest.load_congr h
  unfold Declared.load
  rw [hmanifest]

/-- A declared dependency is the only one of its name. -/
theorem filter_name_eq (h : (declared.map Declared.name).Nodup) (hd : d ∈ declared) :
    declared.filter (fun e => e.name == d.name) = [d] := by
  induction declared with
  | nil => cases hd
  | cons e rest ih =>
    rw [List.map_cons, List.nodup_cons] at h
    rcases List.mem_cons.1 hd with rfl | hrest
    · have hnone : rest.filter (fun e => e.name == d.name) = [] := by
        rw [List.filter_eq_nil_iff]
        intro e he hname
        exact h.1 (List.mem_map.2 ⟨e, he, beq_iff_eq.1 hname⟩)
      rw [List.filter_cons, if_pos (beq_self_eq_true d.name), hnone]
    · have hne : ¬(e.name == d.name) = true := by
        intro hname
        exact h.1 (List.mem_map.2 ⟨d, hrest, (beq_iff_eq.1 hname).symm⟩)
      rw [List.filter_cons, if_neg hne, ih h.2 hrest]

/-- A run says about a declared dependency what its lead comes to, and says it once. -/
theorem run_findingsOn (h : (Declared.load files project o.selection).1 = .ok declared)
    (hd : d ∈ declared) :
    (run files oracle o project now).results.findingsOn d.name =
      [(lead files (modulesRoot o project) (validPatterns o.ignore) d).finding oracle o.target d] := by
  have hcomp : (fun f : Finding => f.name == d.name) ∘ (fun e : Declared =>
      (lead files (modulesRoot o project) (validPatterns o.ignore) e).finding oracle o.target e) =
        fun e : Declared => e.name == d.name := rfl
  rw [Results.findingsOn, run_findings h, List.filter_map, hcomp,
    filter_name_eq (Declared.load_names_nodup h) hd]
  rfl

/-- A check says the same about a dependency whatever stands outside the directory in which the
dependency is installed: two collections of files that agree on the manifest of the project and on
all places at and inside that directory lead to one and the same finding, whether or not they agree
on anything else, the other dependencies included. The main script of the dependency must not lead
out of the directory; its name may be any. -/
theorem run_isolated (oracle : Oracle) (now now' : Moment)
    (hload : (Declared.load files project o.selection).1 = .ok declared) (hd : d ∈ declared)
    (hroot : SameAt files files' (manifestPath project))
    (hown : SameWithin files files' ((modulesRoot o project).child d.name))
    (hmain : ∀ m, Manifest.ofPackage files ((modulesRoot o project).child d.name) = .ok m →
      m.MainInside) :
    ∃ f : Finding, f.name = d.name ∧
      (run files oracle o project now).results.findingsOn d.name = [f] ∧
      (run files' oracle o project now').results.findingsOn d.name = [f] := by
  have hload' : (Declared.load files' project o.selection).1 = .ok declared := by
    rw [← load_congr hroot]
    exact hload
  refine ⟨_, rfl, run_findingsOn hload hd, ?_⟩
  rw [run_findingsOn hload' hd, lead_congr _ hmain hown]

/-! ## Two packages -/

/-- A project with two dependencies. The main script of `near` takes a step back; the script of
`far` is given. -/
def nearAndFar (script : String) : File.Tree :=
  [("/p/package.json", "\x7b\"dependencies\":\x7b\"near\":\"1\",\"far\":\"1\"\x7d\x7d"),
    ("/p/node_modules/near/package.json", "\x7b\"main\":\"lib/../start.js\"\x7d"),
    ("/p/node_modules/near/start.js", "let x = 1"),
    ("/p/node_modules/far/package.json", "\x7b\x7d"),
    ("/p/node_modules/far/index.js", script)].foldl
    (fun tree file => tree.add (Path.ofString file.1) (.file file.2)) .empty

/-- The check of that project. -/
def nearOptions : Options := ⟨false, .es5, false, false, [], "node_modules"⟩

/-- Whatever the script of `far` holds, the finding about `near` is the same. -/
theorem run_isolated_near :
    let project := Path.ofString "/p"
    let files := (nearAndFar "var y = 1").lookup
    let files' := (nearAndFar "let y = 1").lookup
    let installed := (modulesRoot nearOptions project).child "near"
    (Declared.load files project nearOptions.selection).1 =
        .ok [⟨"near", .production⟩, ⟨"far", .production⟩] ∧
      SameAt files files' (manifestPath project) ∧ SameWithin files files' installed ∧
      (∀ m, Manifest.ofPackage files installed = .ok m → m.MainInside) ∧
      (∃ f : Finding, f.name = "near" ∧
        (run files Script.judge nearOptions project .epoch).results.findingsOn "near" = [f] ∧
        (run files' Script.judge nearOptions project .epoch).results.findingsOn "near" = [f]) ∧
      (run files Script.judge nearOptions project .epoch).results.report.names = ["near"] ∧
      (run files' Script.judge nearOptions project .epoch).results.report.names =
        ["near", "far"] := by
  intro project files files' installed
  have hcomputed : (Declared.load files project nearOptions.selection).1 =
        .ok [⟨"near", .production⟩, ⟨"far", .production⟩] ∧
      (run files Script.judge nearOptions project .epoch).results.report.names = ["near"] ∧
      (run files' Script.judge nearOptions project .epoch).results.report.names =
        ["near", "far"] := by decide +kernel
  obtain ⟨hload, hfiles, hfiles'⟩ := hcomputed
  have hsame : ∀ p : Path, (Path.ofString "/p/node_modules/far/index.js").normal ≠ p.normal →
      SameAt files files' p := fun p hp => File.Tree.sameAt_set hp _ _ _
  have hroot : SameAt files files' (manifestPath project) := hsame _ (by decide +kernel)
  have hown : SameWithin files files' installed := by
    intro p hp
    obtain ⟨names, hnormal⟩ := Path.normal_within hp
    have hdirectory : installed.normal =
        ⟨true, ["p".toList, "node_modules".toList, "near".toList]⟩ := by decide +kernel
    have hfar : (Path.ofString "/p/node_modules/far/index.js").normal =
        ⟨true, ["p".toList, "node_modules".toList, "far".toList, "index.js".toList]⟩ := by
      decide +kernel
    apply hsame
    rw [hnormal, hdirectory, hfar]
    simp
  have hmain : ∀ m, Manifest.ofPackage files installed = .ok m → m.MainInside := by
    have hm : Manifest.ofPackage files installed =
        .ok ⟨none, none, some "lib/../start.js", none, none, none, none⟩ := by decide +kernel
    rintro m h main hmain
    rw [hm] at h
    cases h
    cases hmain
    decide +kernel
  have hisolated := run_isolated Script.judge .epoch .epoch hload List.mem_cons_self hroot hown hmain
  exact ⟨hload, hroot, hown, hmain, hisolated, hfiles, hfiles'⟩

end Check
end EditionCheck
