import EditionCheck.Package.Declared

/-!
  The names that a project declares.

  A name counts where it is declared first, so however the mappings overlap, no name is declared
  twice (`load_names_nodup`), and the mappings that are read later take nothing away from what those
  before them declare (`load_append`).
-/

namespace EditionCheck.Declared

variable {seen : List String} {d : Declared} {ds : List Declared}

/-- What was declared before does not count again. -/
theorem name_not_mem_seen (h : d ∈ firstOnly seen ds) : d.name ∉ seen := by
  induction ds generalizing seen with
  | nil => cases h
  | cons e ds ih =>
    rw [firstOnly] at h
    split at h
    · exact ih h
    · next he =>
      rcases List.mem_cons.1 h with rfl | h
      · exact he
      · exact fun hd => ih h (List.mem_cons_of_mem e.name hd)

theorem firstOnly_names_nodup (seen : List String) (ds : List Declared) :
    ((firstOnly seen ds).map name).Nodup := by
  induction ds generalizing seen with
  | nil => exact List.nodup_nil
  | cons e ds ih =>
    rw [firstOnly]
    split
    · exact ih seen
    · rw [List.map_cons, List.nodup_cons]
      refine ⟨?_, ih (e.name :: seen)⟩
      intro he
      obtain ⟨d, hd, hname⟩ := List.mem_map.1 he
      exact name_not_mem_seen hd (hname ▸ List.mem_cons_self)

/-! ## More mappings -/

theorem firstOnly_sublist (seen : List String) (ds : List Declared) :
    (firstOnly seen ds).Sublist ds := by
  induction ds generalizing seen with
  | nil => exact List.Sublist.refl _
  | cons e ds ih =>
    rw [firstOnly]
    split
    · exact (ih seen).cons e
    · exact (ih (e.name :: seen)).cons_cons e

/-- What follows does not matter to the declarations before it. -/
theorem firstOnly_append (seen : List String) (ds es : List Declared) :
    firstOnly seen (ds ++ es) =
      firstOnly seen ds ++ firstOnly (((firstOnly seen ds).map name).reverse ++ seen) es := by
  induction ds generalizing seen with
  | nil => rfl
  | cons e ds ih =>
    rw [List.cons_append, firstOnly, firstOnly]
    split
    · exact ih seen
    · rw [ih (e.name :: seen), List.map_cons, List.reverse_cons, List.append_assoc]
      rfl

theorem listed_append (m : Manifest) (ks more : List DependencyKind) :
    listed m (ks ++ more) = listed m ks ++ listed m more :=
  List.flatMap_append

theorem kind_mem_of_mem_listed {m : Manifest} {ks : List DependencyKind} (h : d ∈ listed m ks) :
    d.kind ∈ ks := by
  obtain ⟨k, hk, hd⟩ := List.mem_flatMap.1 h
  obtain ⟨r, -, rfl⟩ := List.mem_map.1 hd
  exact hk

variable {s s' : Selection}

/-- Mappings that are read after all others only add declarations, of their own kinds. -/
theorem ofManifest_append {more : List DependencyKind} (hkinds : s'.kinds = s.kinds ++ more)
    (m : Manifest) :
    ∃ added, ofManifest m s' = ofManifest m s ++ added ∧ ∀ d ∈ added, d.kind ∈ more := by
  have hlisted : listed m s'.kinds = listed m s.kinds ++ listed m more := by
    rw [hkinds, listed_append]
  refine ⟨_, (congrArg (firstOnly []) hlisted).trans (firstOnly_append _ _ _), fun d hd => ?_⟩
  exact kind_mem_of_mem_listed ((firstOnly_sublist _ _).subset hd)

/-! ## The dependencies of a project -/

variable {files : File.Lookup} {project : Path}

/-- Whether a manifest can be loaded does not depend on what is selected. -/
theorem load_error {e : Problem} (h : (load files project s).1 = .error e) (s' : Selection) :
    (load files project s').1 = .error e := by
  unfold load at h ⊢
  split at h
  · exact h
  · cases h

theorem load_append {more : List DependencyKind} (hkinds : s'.kinds = s.kinds ++ more)
    (h : (load files project s).1 = .ok ds) :
    ∃ added, (load files project s').1 = .ok (ds ++ added) ∧ ∀ d ∈ added, d.kind ∈ more := by
  unfold load at h ⊢
  split at h
  · cases h
  · next m _ =>
    cases h
    obtain ⟨added, hadded, hmore⟩ := ofManifest_append hkinds m
    exact ⟨added, by rw [hadded], hmore⟩

/-- The declared dependencies of a project have distinct names. -/
theorem load_names_nodup (h : (load files project s).1 = .ok ds) : (ds.map name).Nodup := by
  unfold load at h
  split at h
  · cases h
  · next m _ =>
    cases h
    exact firstOnly_names_nodup [] (listed m s.kinds)

end EditionCheck.Declared
