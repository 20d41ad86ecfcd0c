import EditionCheck.Proofs.Check.Events
import EditionCheck.Proofs.Keyed
import EditionCheck.Proofs.Package.Declared

/-!
  Which dependencies a project declares.

  `Lists` says of the declared dependencies what a reader of the manifest can check mapping by
  mapping: their names are those of the selected mappings in the order in which they come first, and
  the kind of each is the first mapping that has the name. Only one list does so (`Lists.eq`), and
  it is the one that is loaded (`load_lists`).
-/

namespace EditionCheck

/-- The names in a mapping of a manifest, none if it has no such mapping. -/
def Manifest.names (m : Manifest) (kind : DependencyKind) : List String :=
  ((m.requirements? kind).getD []).map Requirement.name

namespace Declared

/-- The names in the selected mappings of a manifest, one mapping after the other. -/
def selectedNames (m : Manifest) (s : Selection) : List String :=
  m.names .production ++ (if s.development then m.names .development else []) ++
    if s.optional then m.names .optional else []

/-- The first selected mapping that has a name. -/
def firstKind? (m : Manifest) (s : Selection) (name : String) : Option DependencyKind :=
  DependencyKind.all.find? fun kind => s.admits kind && name ∈ m.names kind

/-- What the declared dependencies are to be. -/
structure Lists (m : Manifest) (s : Selection) (ds : List Declared) : Prop where
  names : FirstOrder (ds.map name) (selectedNames m s)
  kinds : ∀ d ∈ ds, firstKind? m s d.name = some d.kind

variable {m : Manifest} {s : Selection} {d : Declared} {ds ds' : List Declared}

theorem Lists.eq (h : Lists m s ds) (h' : Lists m s ds') : ds = ds' := by
  refine h.names.eq_of_map h'.names fun d hd d' hd' hname => ?_
  have hkind : some d.kind = some d'.kind := by
    rw [← h.kinds d hd, ← h'.kinds d' hd', hname]
  cases d
  cases d'
  cases hname
  cases hkind
  rfl

/-! ## Where a name counts -/

/-- A walk over the declarations adds the names that it has not seen. -/
theorem firstOnly_firstOrder (ds : List Declared) :
    FirstOrder ((firstOnly [] ds).map name) (ds.map name) := by
  induction ds using List.reverseRecOn with
  | nil => exact .nil
  | append_singleton ds d ih =>
    have hstep : (firstOnly [] (ds ++ [d])).map name =
        if d.name ∈ (firstOnly [] ds).map name then (firstOnly [] ds).map name
        else (firstOnly [] ds).map name ++ [d.name] := by
      rw [firstOnly_append, List.append_nil, List.map_append, firstOnly]
      simp only [List.mem_reverse]
      split
      · exact List.append_nil _
      · rfl
    rw [hstep, List.map_append]
    exact ih.concat d.name

/-- What counts is the first declaration of a name. -/
theorem find?_of_mem_firstOnly {seen : List String} (h : d ∈ firstOnly seen ds) :
    (ds.find? fun e => e.name == d.name) = some d := by
  induction ds generalizing seen with
  | nil => cases h
  | cons e ds ih =>
    have hlater (hne : e.name ≠ d.name) {seen : List String} (h : d ∈ firstOnly seen ds) :
        ((e :: ds).find? fun e => e.name == d.name) = some d := by
      rw [List.find?_cons_of_neg (by simpa using hne)]
      exact ih h
    rw [firstOnly] at h
    split at h
    · next he => exact hlater (fun heq => name_not_mem_seen h (heq ▸ he)) h
    · rcases List.mem_cons.1 h with rfl | h
      · exact List.find?_cons_of_pos (beq_self_eq_true _)
      · exact hlater (fun heq => name_not_mem_seen h (heq ▸ List.mem_cons_self)) h

/-! ## One mapping after the other -/

theorem listed_names (m : Manifest) (ks : List DependencyKind) :
    (listed m ks).map name = ks.flatMap m.names := by
  unfold listed Manifest.names
  rw [List.map_flatMap]
  simp [Function.comp_def]

theorem find?_mapping (m : Manifest) (kind : DependencyKind) (n : String) :
    ((((m.requirements? kind).getD []).map fun r => Declared.mk r.name kind).find?
        fun d => d.name == n) = if n ∈ m.names kind then some ⟨n, kind⟩ else none := by
  unfold Manifest.names
  induction (m.requirements? kind).getD [] with
  | nil => rfl
  | cons r rs ih =>
    by_cases hr : r.name = n
    · rw [List.map_cons, List.find?_cons_of_pos (by simpa using hr), List.map_cons, hr,
        if_pos List.mem_cons_self]
    · rw [List.map_cons, List.find?_cons_of_neg (by simpa using hr), ih, List.map_cons]
      simp only [List.mem_cons, Ne.symm hr, false_or]

/-- The first declaration of a name in some mappings is the one in the first of them that has the
name. -/
theorem find?_listed (m : Manifest) (ks : List DependencyKind) (n : String) :
    ((listed m ks).find? fun d => d.name == n) =
      (ks.find? fun kind => n ∈ m.names kind).map (Declared.mk n) := by
  induction ks with
  | nil => rfl
  | cons kind ks ih =>
    have hcons : listed m (kind :: ks) =
        ((m.requirements? kind).getD []).map (fun r => ⟨r.name, kind⟩) ++ listed m ks := rfl
    rw [hcons, List.find?_append, find?_mapping, ih]
    by_cases hn : n ∈ m.names kind
    · rw [if_pos hn, List.find?_cons_of_pos (by simpa using hn)]
      rfl
    · rw [if_neg hn, List.find?_cons_of_neg (by simpa using hn)]
      rfl

theorem selected_flatMap (m : Manifest) (s : Selection) :
    s.kinds.flatMap m.names = selectedNames m s := by
  obtain ⟨development, optional⟩ := s
  cases development <;> cases optional <;>
    simp [Selection.kinds, DependencyKind.all, List.filter_cons, Selection.admits, selectedNames]

theorem ofManifest_lists (m : Manifest) (s : Selection) : Lists m s (ofManifest m s) := by
  constructor
  · rw [← selected_flatMap, ← listed_names]
    exact firstOnly_firstOrder _
  · intro d hd
    have hfind := find?_of_mem_firstOnly hd
    rw [find?_listed, Selection.kinds, List.find?_filter] at hfind
    obtain ⟨kind, hkind, heq⟩ := Option.map_eq_some_iff.1 hfind
    rw [← congrArg Declared.kind heq, ← hkind, firstKind?]
    simp

/-- For every project and selection: if the manifest cannot be loaded, that is the result, and one
error is all that is said. Otherwise the declared dependencies are those that the selected mappings
list, and one warning is said if the manifest has none of these mappings. -/
theorem load_lists (files : File.Lookup) (project : Path) (s : Selection) :
    match Manifest.ofPackage files project with
    | .error e =>
      load files project s = (.error e, [.ofError (unloadableMessage project e)])
    | .ok m =>
      ∃ ds, load files project s = (.ok ds,
          if Check.NothingSelected m s then [.ofWarning (emptyMessage project)] else []) ∧
        ∀ ds', Lists m s ds' ↔ ds' = ds := by
  cases h : Manifest.ofPackage files project with
  | error e =>
    unfold load
    rw [h]
  | ok m =>
    refine ⟨ofManifest m s, Check.load_of_ok h s, fun ds' => ⟨fun h' => ?_, ?_⟩⟩
    · exact h'.eq (ofManifest_lists m s)
    · rintro rfl
      exact ofManifest_lists m s

/-- A name in two mappings is declared by the first of them. -/
example :
    let m : Manifest := ⟨none, none, none, none, some [⟨"a", "1"⟩, ⟨"b", "1"⟩],
      some [⟨"b", "2"⟩, ⟨"c", "2"⟩], none⟩
    ofManifest m ⟨true, true⟩ = [⟨"a", .production⟩, ⟨"b", .production⟩, ⟨"c", .development⟩] := by
  decide

end Declared
end EditionCheck
