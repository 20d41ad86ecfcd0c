import EditionCheck.File.Disk
import EditionCheck.Package.Entry
import EditionCheck.Proofs.File.Spelling
import EditionCheck.Proofs.File.Tree

/-!
  The table by which the entry script of a package is found.

  The table (`Chosen`) has three rows: a main script that is a file, the index script of a main
  script that is a directory, and the index script of the package where no main script is declared or
  the declared one does not exist. `resolve` gives what the table gives and nothing else, whatever
  the files answer (`resolve_follows_table`). Two spellings of a main script lead to the same place
  unless the place of the package is itself written with something behind its last component; then
  files that tell a path with a slash at its end from one without may tell them apart
  (`spellingRule_fails_slash`).
-/

namespace EditionCheck

/-- The answers do not depend on how a path is written. -/
def File.Lookup.IgnoresSpelling (files : File.Lookup) : Prop :=
  ∀ p q, Path.Same p q → files.present p = files.present q ∧ files.kind? p = files.kind? q

/-- Files in memory are found under any spelling. -/
theorem File.Tree.ignoresSpelling (t : File.Tree) : t.lookup.IgnoresSpelling := by
  intro p q h
  have hnormal : p.normal = q.normal := congrArg (List.foldl Path.Normal.step ⟨false, []⟩) h
  have halike := (t.tells p).alike (hnormal ▸ t.tells q)
  exact ⟨halike.present, halike.kind⟩

namespace Manifest

variable {m : Manifest}

theorem mainScript?_eq_some {main : String} :
    m.mainScript? = some main ↔ m.main = some main ∧ main ≠ "" := by
  simp [mainScript?, Option.filter_eq_some_iff]

theorem mainScript?_eq_none : m.mainScript? = none ↔ ∀ main, m.main = some main → main = "" := by
  simp [mainScript?, Option.filter_eq_none_iff]

/-- The manifest with another main script. -/
def withMain (m : Manifest) (main : String) : Manifest := { m with main := some main }

end Manifest

namespace Entry

open File (Lookup)

variable {files files' : Lookup} {m : Manifest} {installed script : Path} {main main' : String}

theorem existing?_eq_some {p : Path} :
    existing? files p = some script ↔ script = p ∧ files.present p = true := by
  unfold existing?
  split
  · next h => simp [h, eq_comm]
  · next h => simp [h]

/-- Where the entry script of a package is. -/
inductive Chosen (files : Lookup) (m : Manifest) (installed : Path) : Path → Prop
  /-- The main script is a file. -/
  | main {main : String} (declared : m.main = some main) (nonempty : main ≠ "")
      (present : files.present (installed.joined main) = true)
      (kind : files.kind? (installed.joined main) = some .file) :
      Chosen files m installed (installed.joined main)
  /-- The main script is a directory that has an index script. -/
  | inside {main : String} (declared : m.main = some main) (nonempty : main ≠ "")
      (present : files.present (installed.joined main) = true)
      (kind : files.kind? (installed.joined main) = some .directory)
      (index : files.present ((installed.joined main).child indexName) = true) :
      Chosen files m installed ((installed.joined main).child indexName)
  /-- No main script is declared, or an empty one, or one that does not exist. -/
  | index (missing : ∀ main, m.main = some main →
        main = "" ∨ files.present (installed.joined main) = false)
      (index : files.present (installed.child indexName) = true) :
      Chosen files m installed (installed.child indexName)

theorem Chosen.present (h : Chosen files m installed script) : files.present script = true := by
  cases h with
  | main _ _ present _ => exact present
  | inside _ _ _ _ index => exact index
  | index _ index => exact index

/-- A script that is chosen is one of the candidates. -/
theorem Chosen.mem_candidates (h : Chosen files m installed script) :
    script ∈ candidates m installed := by
  unfold candidates
  cases h with
  | main declared nonempty _ _ =>
    rw [Manifest.mainScript?_eq_some.2 ⟨declared, nonempty⟩]
    exact List.mem_cons_of_mem _ List.mem_cons_self
  | inside declared nonempty _ _ _ =>
    rw [Manifest.mainScript?_eq_some.2 ⟨declared, nonempty⟩]
    exact List.mem_cons_of_mem _ (List.mem_cons_of_mem _ List.mem_cons_self)
  | index _ _ => exact List.mem_cons_self

/-! ## The rows of the table -/

/-- What becomes of a main script that exists. -/
def fromMain (files : Lookup) (script : Path) : Option Path :=
  match files.kind? script with
  | some .file => some script
  | some .directory => existing? files (script.child indexName)
  | _ => none

theorem resolve_of_none (hm : m.mainScript? = none) :
    resolve files m installed = existing? files (installed.child indexName) := by
  unfold resolve
  rw [hm]

theorem resolve_of_main (hm : m.mainScript? = some main) :
    resolve files m installed =
      if files.present (installed.joined main) = true then fromMain files (installed.joined main)
      else existing? files (installed.child indexName) := by
  unfold resolve
  rw [hm]
  rfl

theorem resolve_withMain (hmain : main ≠ "") :
    resolve files (m.withMain main) installed =
      if files.present (installed.joined main) = true then fromMain files (installed.joined main)
      else existing? files (installed.child indexName) :=
  resolve_of_main (Manifest.mainScript?_eq_some.2 ⟨rfl, hmain⟩)

theorem fromMain_eq_some {p : Path} :
    fromMain files p = some script ↔
      (files.kind? p = some .file ∧ script = p) ∨
      (files.kind? p = some .directory ∧ script = p.child indexName ∧
        files.present (p.child indexName) = true) := by
  unfold fromMain
  split
  · next h => simp only [h, Option.some.injEq, reduceCtorEq, true_and, false_and, or_false, eq_comm]
  · next h =>
    rw [existing?_eq_some]
    simp only [h, Option.some.injEq, reduceCtorEq, true_and, false_and, false_or]
  · next hfile hdirectory =>
    constructor
    · exact fun h => absurd h (by simp)
    · rintro (⟨hkind, -⟩ | ⟨hkind, -⟩)
      · exact absurd hkind hfile
      · exact absurd hkind hdirectory

theorem resolve_eq_some :
    resolve files m installed = some script ↔ Chosen files m installed script := by
  cases hm : m.mainScript? with
  | none =>
    rw [resolve_of_none hm, existing?_eq_some]
    rw [Manifest.mainScript?_eq_none] at hm
    constructor
    · rintro ⟨rfl, hindex⟩
      exact .index (fun main hmain => .inl (hm main hmain)) hindex
    · rintro (⟨hmain, hne, -, -⟩ | ⟨hmain, hne, -, -, -⟩ | ⟨-, hindex⟩)
      · exact absurd (hm _ hmain) hne
      · exact absurd (hm _ hmain) hne
      · exact ⟨rfl, hindex⟩
  | some main =>
    obtain ⟨hmain, hne⟩ := Manifest.mainScript?_eq_some.1 hm
    have honly : ∀ main', m.main = some main' → main' = main := fun main' h =>
      Option.some.inj (h.symm.trans hmain)
    cases hpresent : files.present (installed.joined main) with
    | false =>
      rw [resolve_of_main hm, hpresent, if_neg (by decide), existing?_eq_some]
      constructor
      · rintro ⟨rfl, hindex⟩
        exact .index (fun main' h => .inr (honly main' h ▸ hpresent)) hindex
      · rintro (⟨h, -, hscript, -⟩ | ⟨h, -, hscript, -, -⟩ | ⟨-, hindex⟩)
        · rw [honly _ h, hpresent] at hscript
          cases hscript
        · rw [honly _ h, hpresent] at hscript
          cases hscript
        · exact ⟨rfl, hindex⟩
    | true =>
      rw [resolve_of_main hm, if_pos hpresent, fromMain_eq_some]
      constructor
      · rintro (⟨hkind, rfl⟩ | ⟨hkind, rfl, hindex⟩)
        · exact .main hmain hne hpresent hkind
        · exact .inside hmain hne hpresent hkind hindex
      · rintro (⟨h, -, -, hkind⟩ | ⟨h, -, -, hkind, hindex⟩ | ⟨hmissing, -⟩)
        · rw [honly _ h] at hkind ⊢
          exact .inl ⟨hkind, rfl⟩
        · rw [honly _ h] at hkind hindex ⊢
          exact .inr ⟨hkind, rfl, hindex⟩
        · rcases hmissing main hmain with h | h
          · exact absurd h hne
          · rw [hpresent] at h
            cases h

/-! ## Other files, other spellings -/

/-- A main script that exists is all that counts, with what stands inside it. -/
theorem fromMain_congr {p : Path}
    (h : ∀ q ∈ [p, p.child indexName],
      files.present q = files'.present q ∧ files.kind? q = files'.kind? q) :
    fromMain files p = fromMain files' p := by
  have hindex := (h _ (List.mem_cons_of_mem _ List.mem_cons_self)).1
  unfold fromMain existing?
  rw [(h p List.mem_cons_self).2, hindex]

section Spelling

variable {p q : Path} (hfiles : files.IgnoresSpelling) (h : Path.Same p q)
include hfiles h

theorem existing?_same : (existing? files p).map Path.parts = (existing? files q).map Path.parts := by
  have hparts : p.parts = q.parts := h
  unfold existing?
  rw [(hfiles p q h).1]
  split <;> simp [hparts]

theorem fromMain_same : (fromMain files p).map Path.parts = (fromMain files q).map Path.parts := by
  have hparts : p.parts = q.parts := h
  have hindex : Path.Same (p.child indexName) (q.child indexName) :=
    h.push (by decide) (by decide)
  unfold fromMain
  rw [(hfiles p q h).2]
  split
  · simp [hparts]
  · exact existing?_same hfiles hindex
  · rfl

end Spelling

/-- Where files are found under any spelling, main scripts that lead to the same components lead to
the same entry script. -/
theorem resolve_withMain_same (hmain : main ≠ "") (hmain' : main' ≠ "") (hfiles : files.IgnoresSpelling)
    (h : Path.Same (installed.joined main) (installed.joined main')) :
    (resolve files (m.withMain main) installed).map Path.parts =
      (resolve files (m.withMain main') installed).map Path.parts := by
  rw [resolve_withMain hmain, resolve_withMain hmain', (hfiles _ _ h).1]
  split
  · exact fromMain_same hfiles h
  · rfl

/-! ## The table -/

/-- What is known about the entry script of the package installed at a path. -/
structure ResolvesByTable (files : Lookup) (m : Manifest) (installed : Path) : Prop where
  table : ∀ script, resolve files m installed = some script ↔ Chosen files m installed script
  present : ∀ script, resolve files m installed = some script → files.present script = true
  /-- Once the main script exists, nothing but it and the index script inside it counts. -/
  noFallback : ∀ main, m.main = some main → main ≠ "" →
    files.present (installed.joined main) = true →
    (∀ script, resolve files m installed = some script →
      script ∈ [installed.joined main, (installed.joined main).child indexName]) ∧
    ∀ files' : Lookup, (∀ p ∈ [installed.joined main, (installed.joined main).child indexName],
        files.present p = files'.present p ∧ files.kind? p = files'.kind? p) →
      resolve files m installed = resolve files' m installed
  /-- Spellings of one main script lead to the same entry script. -/
  respelled : ∀ main main', main ≠ "" → main' ≠ "" → Path.SpelledAlike installed main main' →
    resolve files (m.withMain main) installed = resolve files (m.withMain main') installed
  /-- Where files are found under any spelling, main scripts that fold to the same path are alike,
  however the place of the package is written. -/
  alike : files.IgnoresSpelling → ∀ main main', main ≠ "" → main' ≠ "" →
    Path.Same (installed.joined main) (installed.joined main') →
    (resolve files (m.withMain main) installed).map Path.parts =
      (resolve files (m.withMain main') installed).map Path.parts

/-- The entry script follows the table, for all files, manifests and places. -/
theorem resolve_follows_table (files : Lookup) (m : Manifest) (installed : Path) :
    ResolvesByTable files m installed where
  table _ := resolve_eq_some
  present _ h := (resolve_eq_some.1 h).present
  noFallback main hmain hne hpresent := by
    have hm : m.mainScript? = some main := Manifest.mainScript?_eq_some.2 ⟨hmain, hne⟩
    constructor
    · intro script hscript
      rw [resolve_of_main hm, if_pos hpresent, fromMain_eq_some] at hscript
      rcases hscript with ⟨-, rfl⟩ | ⟨-, rfl, -⟩
      · exact List.mem_cons_self
      · exact List.mem_cons_of_mem _ List.mem_cons_self
    · intro files' h
      have hpresent' : files'.present (installed.joined main) = true :=
        (h _ List.mem_cons_self).1 ▸ hpresent
      rw [resolve_of_main hm, resolve_of_main hm, if_pos hpresent, if_pos hpresent']
      exact fromMain_congr h
  respelled _ _ hmain hmain' h := by
    rw [resolve_withMain hmain, resolve_withMain hmain', h.joined_eq]
  alike hfiles _ _ hmain hmain' h := resolve_withMain_same hmain hmain' hfiles h

/-- Main scripts that fold to the same path lead to the same entry script, however the place of the
package is written and whatever the files make of it. -/
def SpellingRule (files : Lookup) (m : Manifest) (installed : Path) : Prop :=
  ∀ main main', main ≠ "" → main' ≠ "" →
    Path.foldParts (Path.steps main) = Path.foldParts (Path.steps main') →
    Path.Same (installed.joined main) (installed.joined main') →
    (resolve files (m.withMain main) installed).map Path.parts =
      (resolve files (m.withMain main') installed).map Path.parts

/-- A package that is linked into its place: with a slash at its end the place is a directory,
without one it is a link. -/
def linked : File.Disk where
  here := []
  items := [(["s".toList], .newDirectory), (["s".toList, "index.js".toList], .newFile []),
    (["n".toList], .newDirectory), (["n".toList, "d".toList], .link (Path.ofString "/s"))]

/-- A step up takes the slash at the end of the place away as well, and a dot leaves it. -/
theorem spellingRule_fails_slash :
    ¬SpellingRule linked.lookup ⟨none, none, none, none, none, none, none⟩ (Path.ofString "/n/d/") := by
  intro h
  have hsame := h "." "x/.." (by decide) (by decide) (by decide +kernel) (by decide +kernel)
  revert hsame
  decide +kernel

end Entry
end EditionCheck
