import Mathlib.Tactic.ByContra
import EditionCheck.File.Disk
import EditionCheck.Proofs.File.Straight
import EditionCheck.Proofs.File.Tree
import EditionCheck.Proofs.Text.Utf8

/-!
  One layout of files, on a disk and in memory.

  A `Layout` is a finite tree of directories and text files. It can be put on a disk (`onDisk`),
  where a path is walked name by name, or added to a tree in memory (`inMemory`), where a path is
  folded and looked up at once. Both give the same answers about a path from the root that ends in a
  name (`agreeAt_of_endsInName`) or leads to a directory (`agreeAt_of_directory`). They need not
  about others: a slash behind the name of a file makes a walk fail and is lost when the path is
  folded.
-/

namespace EditionCheck.File

/-- Two collections of files give the same answers about a path, except for the wording of
failures. -/
structure Lookup.AgreeAt (files files' : Lookup) (p : Path) : Prop where
  present : files.present p = files'.present p
  kind : files.kind? p = files'.kind? p
  text : (files.read p).toOption = (files'.read p).toOption

/-- Something that an item of a directory can be called. -/
def IsName (s : List Char) : Prop := s ≠ [] ∧ s ≠ ['.'] ∧ s ≠ ['.', '.'] ∧ '/' ∉ s

instance (s : List Char) : Decidable (IsName s) :=
  inferInstanceAs (Decidable (_ ∧ _ ∧ _ ∧ _))

theorem IsName.part?_eq {s : List Char} (h : IsName s) : Path.part? false s = some (.name s) :=
  Path.part?_eq_self.2 ⟨h.1, h.2.1, h.2.2.1⟩

/-- Appended to a path from the root, it comes last. -/
theorem IsName.push {s : List Char} {p : Path} (h : IsName s) (hp : p.Straight) :
    (p.push ⟨s⟩).Straight ∧ (p.push ⟨s⟩).normal.names = p.normal.names ++ [s] :=
  hp.names_push h.2.2.2 h.part?_eq

/-- What a layout has at a place; the permission bits matter on a disk only. -/
inductive Stock where
  | file (text : String) (mode : Nat)
  | directory (mode : Nat)
  deriving DecidableEq, Repr

namespace Stock

/-- As an item of a disk, with the text as bytes. -/
def item : Stock → Item
  | file text mode => .file (Text.Utf8.encode text.toList) mode
  | directory mode => .directory mode

/-- As an entry of a tree in memory. -/
def entry : Stock → Entry
  | file text _ => .file text
  | directory _ => .directory

/-- It is a directory. -/
def isDirectory : Stock → Bool
  | file _ _ => false
  | directory _ => true

end Stock

/-- A finite tree of directories and text files: what stands at places that are all different, each
in a directory of the layout or in the root. -/
structure Layout where
  stock : List (Place × Stock)
  names : ∀ e ∈ stock, e.1 ≠ [] ∧ ∀ s ∈ e.1, IsName s
  apart : (stock.map Prod.fst).Nodup
  closed : ∀ e ∈ stock, e.1.dropLast ≠ [] →
    ∃ above ∈ stock, above.1 = e.1.dropLast ∧ above.2.isDirectory = true

namespace Layout

/-- The layout on a disk, with a working directory. -/
def onDisk (l : Layout) (here : Place) : Disk := ⟨here, l.stock.map fun e => (e.1, e.2.item)⟩

/-- What is added to a tree in memory, each thing under its path from the root. -/
def added (l : Layout) : List (Path × Entry) :=
  l.stock.map fun e => (Path.ofPieces true e.1, e.2.entry)

/-- The layout in memory. -/
def inMemory (l : Layout) : Tree := Tree.empty.addAll l.added

/-- What stands at a place; the root is a directory. -/
def at? (l : Layout) (at_ : Place) : Option Stock :=
  if at_ = [] then some (.directory 0o755) else (l.stock.find? fun e => e.1 = at_).map Prod.snd

variable {l : Layout} {here at_ rest : Place} {s : Stock}

@[simp] theorem at?_nil (l : Layout) : l.at? [] = some (.directory 0o755) := rfl

theorem at?_eq_some (hat : at_ ≠ []) : l.at? at_ = some s ↔ (at_, s) ∈ l.stock := by
  unfold at?
  rw [if_neg hat]
  simp only [Option.map_eq_some_iff, Keyed.find?_key_eq_some l.apart, Prod.exists]
  exact ⟨fun ⟨_, _, ⟨he, ha⟩, hs⟩ => ha ▸ hs ▸ he, fun he => ⟨at_, s, ⟨he, rfl⟩, rfl⟩⟩

/-- Every place above something is a directory. -/
theorem directory_above (hs : l.at? (at_ ++ rest) = some s) (hrest : rest ≠ []) :
    ∃ mode, l.at? at_ = some (.directory mode) := by
  induction rest using List.reverseRecOn generalizing s with
  | nil => exact absurd rfl hrest
  | append_singleton rest x ih =>
    by_cases hnil : at_ ++ rest = []
    · obtain ⟨rfl, -⟩ := List.append_eq_nil_iff.1 hnil
      exact ⟨_, l.at?_nil⟩
    have hplace : at_ ++ (rest ++ [x]) ≠ [] := by simp
    have hdrop : (at_ ++ (rest ++ [x])).dropLast = at_ ++ rest := by
      rw [← List.append_assoc, List.dropLast_concat]
    obtain ⟨⟨above, s'⟩, hmem, habove, hdir⟩ :=
      l.closed _ ((at?_eq_some hplace).1 hs) (by rwa [hdrop])
    obtain rfl : above = at_ ++ rest := habove.trans hdrop
    have hs' := (at?_eq_some hnil).2 hmem
    by_cases hrest' : rest = []
    · rw [hrest', List.append_nil] at hs'
      cases s' with
      | file => cases hdir
      | directory mode => exact ⟨mode, hs'⟩
    · exact ih hs' hrest'

/-! ## The two ways to keep it -/

theorem item?_onDisk (l : Layout) (here at_ : Place) :
    (l.onDisk here).item? at_ = (l.at? at_).map Stock.item := by
  unfold Disk.item? onDisk at?
  split
  · rfl
  · rw [List.find?_map, Option.map_map, Option.map_map]
    rfl

/-- Names are folded into themselves. -/
theorem partsOf_of_isName {names : List (List Char)} (h : ∀ s ∈ names, IsName s) :
    Path.partsOf false names = names.map .name := by
  induction names with
  | nil => rfl
  | cons s rest ih =>
    obtain ⟨hs, hrest⟩ := List.forall_mem_cons.1 h
    rw [Path.partsOf_cons, hs.part?_eq, ih hrest]
    rfl

theorem parts_ofPieces {names : List (List Char)} (h : ∀ s ∈ names, IsName s) :
    (Path.ofPieces true names).parts = .root :: names.map .name := by
  have hslash : ∀ s ∈ names, '/' ∉ s := fun s hs => (h s hs).2.2.2
  have hhead : true = false → names.head? ≠ some [] := nofun
  rw [(Path.parts_ofPieces hslash hhead).2, ← partsOf_of_isName h]
  rfl

theorem normal_of_mem {e : Place × Stock} (he : e ∈ l.stock) :
    (Path.ofPieces true e.1).normal = ⟨true, e.1⟩ :=
  Path.normal_of_parts (parts_ofPieces (l.names e he).2)

theorem mem_added {p : Path} {x : Entry} :
    (p, x) ∈ l.added ↔ ∃ e ∈ l.stock, Path.ofPieces true e.1 = p ∧ e.2.entry = x := by
  simp only [added, List.mem_map, Prod.mk.injEq]

theorem apart_added (l : Layout) : (l.added.map fun e => e.1.normal).Nodup := by
  have hnormal : l.added.map (fun e => e.1.normal) =
      (l.stock.map Prod.fst).map fun at_ => ⟨true, at_⟩ := by
    unfold added
    rw [List.map_map, List.map_map]
    exact List.map_congr_left fun e he => normal_of_mem he
  rw [hnormal]
  exact l.apart.map fun _ _ h => (Path.Normal.mk.inj h).2

theorem named?_added (l : Layout) (hat : at_ ≠ []) :
    Tree.named? l.added ⟨true, at_⟩ = (l.at? at_).map Stock.entry := by
  refine Option.ext fun x => ?_
  simp only [Tree.named?_eq_some l.apart_added, mem_added, Option.map_eq_some_iff, at?_eq_some hat]
  constructor
  · rintro ⟨_, ⟨e, he, rfl, rfl⟩, hnormal⟩
    rw [normal_of_mem he] at hnormal
    cases hnormal
    exact ⟨e.2, he, rfl⟩
  · rintro ⟨s, hs, rfl⟩
    exact ⟨_, ⟨_, hs, rfl, rfl⟩, normal_of_mem hs⟩

/-- Above what is added stand the places above what the layout has. -/
theorem exists_added_below (l : Layout) (at_ : Place) :
    (∃ e ∈ l.added, ⟨true, at_⟩ ∈ e.1.normal.ancestors) ↔
      ∃ e ∈ l.stock, ∃ rest, rest ≠ [] ∧ e.1 = at_ ++ rest := by
  constructor
  · rintro ⟨⟨p, x⟩, hpx, hmem⟩
    obtain ⟨e, he, rfl, rfl⟩ := mem_added.1 hpx
    rw [normal_of_mem he, Path.Normal.mem_ancestors] at hmem
    exact ⟨e, he, hmem.2.1⟩
  · rintro ⟨e, he, hrest⟩
    refine ⟨_, mem_added.2 ⟨e, he, rfl, rfl⟩, ?_⟩
    rw [normal_of_mem he, Path.Normal.mem_ancestors]
    exact ⟨rfl, hrest, .inl rfl⟩

/-- The root comes to stand in memory with the first thing that is added. -/
theorem get?_inMemory_root (hne : l.stock ≠ []) :
    l.inMemory.get? ⟨true, []⟩ = some .directory := by
  obtain ⟨e, rest, hstock⟩ := List.exists_cons_of_ne_nil hne
  have he : e ∈ l.stock := hstock ▸ List.mem_cons_self
  have hbelow := (l.exists_added_below []).2 ⟨e, he, e.1, (l.names e he).1, rfl⟩
  have hnone : Tree.named? l.added ⟨true, []⟩ = none := by
    refine Option.eq_none_iff_forall_ne_some.2 fun x hx => ?_
    obtain ⟨p, hp, hnormal⟩ := (Tree.named?_eq_some l.apart_added).1 hx
    obtain ⟨e, he, rfl, -⟩ := mem_added.1 hp
    rw [normal_of_mem he] at hnormal
    exact (l.names e he).1 (Path.Normal.mk.inj hnormal).2
  rw [inMemory, Tree.get?_addAll, hnone, Tree.directoryIf, if_pos hbelow]
  rfl

theorem get?_inMemory (hroot : at_ = [] → l.stock ≠ []) :
    l.inMemory.get? ⟨true, at_⟩ = (l.at? at_).map Stock.entry := by
  by_cases hat : at_ = []
  · rw [hat, get?_inMemory_root (hroot hat)]
    rfl
  rw [inMemory, Tree.get?_addAll, named?_added l hat]
  cases hs : l.at? at_ with
  | some s => rfl
  | none =>
    -- what stands above something is a directory of the layout itself
    have hbelow : ¬∃ e ∈ l.added, ⟨true, at_⟩ ∈ e.1.normal.ancestors := by
      rw [exists_added_below]
      rintro ⟨⟨place, s⟩, he, rest, hrest, rfl⟩
      have hplace : at_ ++ rest ≠ [] := List.append_ne_nil_of_left_ne_nil hat rest
      obtain ⟨mode, hmode⟩ := directory_above ((at?_eq_some hplace).2 he) hrest
      rw [hs] at hmode
      cases hmode
    exact if_neg hbelow

/-! ## Walking -/

section Walking

variable {d : Disk} {follow : Bool} {jump : Place → Path → Place → Except Trouble Disk.Spot}
  {piece : List Char} {ps : List (List Char)} {names : Place} {i : Item}

theorem walkPieces_of_none (h : Path.part? false piece = none) :
    d.walkPieces follow jump at_ (piece :: ps) = d.walkPieces follow jump at_ ps := by
  rw [Disk.walkPieces, if_pos (by simpa using Path.part?_eq_none.1 h)]

theorem walkPieces_of_name (h : Path.part? false piece = some (.name piece)) :
    d.walkPieces follow jump at_ (piece :: ps) =
      match d.item? (at_ ++ [piece]) with
      | none => if ps.isEmpty then .ok (.vacant (at_ ++ [piece])) else .error .notFound
      | some (.directory _) => d.walkPieces follow jump (at_ ++ [piece]) ps
      | some (.file _ _) =>
        if ps.isEmpty then .ok (.found (at_ ++ [piece])) else .error .notADirectory
      | some (.link target) =>
        if ps.isEmpty && !follow then .ok (.found (at_ ++ [piece])) else jump at_ target ps := by
  obtain ⟨hnil, hdot, hup⟩ := Path.part?_eq_self.1 h
  rw [Disk.walkPieces, if_neg (by simp [hnil, hdot])]
  exact if_neg hup

/-- The first of the names that pieces stand for. -/
theorem partsOf_cons_cases (h : Path.partsOf false (piece :: ps) = names.map .name) :
    (Path.part? false piece = none ∧ Path.partsOf false ps = names.map .name) ∨
      ∃ names', names = piece :: names' ∧ Path.part? false piece = some (.name piece) ∧
        Path.partsOf false ps = names'.map .name := by
  rw [Path.partsOf_cons] at h
  rcases Path.part?_false_cases piece with hpiece | hpiece | hpiece
  · rw [hpiece] at h
    exact .inl ⟨hpiece, h⟩
  · rw [hpiece] at h
    cases names <;> simp at h
  · rw [hpiece] at h
    cases names with
    | nil => cases h
    | cons n names =>
      obtain ⟨hn, hps⟩ := List.cons.inj h
      cases hn
      exact .inr ⟨names, rfl, hpiece, hps⟩

theorem item?_above (hi : (l.onDisk here).item? (at_ ++ rest) = some i) (hrest : rest ≠ []) :
    ∃ mode, (l.onDisk here).item? at_ = some (.directory mode) := by
  rw [item?_onDisk] at hi ⊢
  obtain ⟨s, hs, -⟩ := Option.map_eq_some_iff.1 hi
  obtain ⟨mode, hmode⟩ := directory_above hs hrest
  exact ⟨mode, by rw [hmode]; rfl⟩

theorem item?_ne_link {target : Path} : (l.onDisk here).item? at_ ≠ some (.link target) := by
  rw [item?_onDisk, Ne, Option.map_eq_some_iff]
  rintro ⟨_ | _, -, hs⟩ <;> cases hs

/-- Pieces that end in a name stand for something. -/
theorem eq_nil_of_partsOf (hps : Path.partsOf false ps = [])
    (hends : ∀ n, ps.getLast? = some n → Path.part? false n = some (.name n)) : ps = [] := by
  by_contra hne
  have hname := hends _ (List.getLast?_eq_getLast_of_ne_nil hne)
  rw [Path.partsOf_false_eq] at hps
  exact List.not_mem_nil (hps ▸ List.mem_filterMap.2 ⟨_, List.getLast_mem hne, hname⟩)

/-- A walk comes to what stands at its end, unless pieces behind a file ask for a directory. -/
theorem walkPieces_found (at_ : Place) (hps : Path.partsOf false ps = names.map .name)
    (hi : (l.onDisk here).item? (at_ ++ names) = some i)
    (hends : i.kind = .directory ∨
      ∀ n, ps.getLast? = some n → Path.part? false n = some (.name n)) :
    (l.onDisk here).walkPieces follow jump at_ ps = .ok (.found (at_ ++ names)) := by
  induction ps generalizing at_ names with
  | nil =>
    cases names with
    | nil => rw [List.append_nil]; rfl
    | cons => cases hps
  | cons piece ps ih =>
    have hends' : i.kind = .directory ∨
        ∀ n, ps.getLast? = some n → Path.part? false n = some (.name n) := by
      refine hends.imp_right fun h n hn => h n ?_
      rw [List.getLast?_cons_of_ne_nil (by rintro rfl; cases hn), hn]
    obtain ⟨hpiece, hps⟩ | ⟨names, rfl, hpiece, hps⟩ := partsOf_cons_cases hps
    · rw [walkPieces_of_none hpiece]
      exact ih _ hps hi hends'
    · have hplace : at_ ++ piece :: names = at_ ++ [piece] ++ names :=
        List.append_cons at_ piece names
      rw [hplace] at hi ⊢
      rw [walkPieces_of_name hpiece]
      cases names with
      | nil =>
        have hnext : (l.onDisk here).item? (at_ ++ [piece]) = some i := by
          rw [← hi, List.append_nil]
        rw [hnext]
        cases i with
        | directory mode => exact ih _ hps hi hends'
        | file bytes mode =>
          have hlast := eq_nil_of_partsOf hps (hends'.resolve_left nofun)
          rw [hlast, List.append_nil]
          rfl
        | link target => exact absurd hnext item?_ne_link
      | cons n names =>
        obtain ⟨mode, hmode⟩ := item?_above hi (List.cons_ne_nil n names)
        rw [hmode]
        exact ih _ hps hi hends'

/-- A walk comes to nothing where nothing stands. -/
theorem walkPieces_not_found (at_ : Place) (hps : Path.partsOf false ps = names.map .name)
    (hat : (l.onDisk here).item? at_ ≠ none)
    (hi : (l.onDisk here).item? (at_ ++ names) = none) (place : Place) :
    (l.onDisk here).walkPieces follow jump at_ ps ≠ .ok (.found place) := by
  induction ps generalizing at_ names with
  | nil =>
    cases names with
    | nil => exact absurd (List.append_nil at_ ▸ hi) hat
    | cons => cases hps
  | cons piece ps ih =>
    obtain ⟨hpiece, hps⟩ | ⟨names, rfl, hpiece, hps⟩ := partsOf_cons_cases hps
    · rw [walkPieces_of_none hpiece]
      exact ih _ hps hat hi
    · rw [walkPieces_of_name hpiece]
      rw [List.append_cons at_ piece names] at hi
      cases hnext : (l.onDisk here).item? (at_ ++ [piece]) with
      | none => cases ps <;> nofun
      | some next =>
        cases next with
        | directory mode => exact ih _ hps (by rw [hnext]; nofun) hi
        | file bytes mode =>
          cases ps with
          | nil =>
            cases names with
            | nil => rw [List.append_nil, hnext] at hi; cases hi
            | cons => cases hps
          | cons => nofun
        | link target => exact absurd hnext item?_ne_link

end Walking

/-! ## The same answers -/

section Answers

variable {p : Path} {follow : Bool} {i : Item}

/-- A walk along a path from the root starts at the root. -/
theorem exists_walk_eq (d : Disk) (follow : Bool) (hp : p.Straight) :
    ∃ jump, d.walk follow p = d.walkPieces follow jump [] p.body := by
  rw [Disk.walk, Disk.walkFrom.eq_def]
  dsimp only
  rw [if_neg hp.text_ne_nil, if_pos hp.absolute, List.append_nil]
  exact ⟨_, rfl⟩

theorem partsOf_body (hp : p.Straight) :
    Path.partsOf false p.body = p.normal.names.map .name := by
  rw [← hp.inner_eq, Path.inner, hp.absolute]
  rfl

theorem locate_found (hp : p.Straight) (hi : (l.onDisk here).item? p.normal.names = some i)
    (hends : i.kind = .directory ∨ p.EndsInName) :
    (l.onDisk here).locate follow p = .ok (p.normal.names, i) := by
  have hlast : i.kind = .directory ∨
      ∀ n, p.body.getLast? = some n → Path.part? false n = some (.name n) := by
    refine hends.imp_right ?_
    rintro ⟨m, hm, hpart⟩ n hn
    obtain rfl : m = n := Option.some.inj (hm.symm.trans hn)
    exact hpart
  obtain ⟨jump, hwalk⟩ := exists_walk_eq (l.onDisk here) follow hp
  rw [walkPieces_found [] (partsOf_body hp) hi hlast] at hwalk
  rw [Disk.locate, hwalk]
  simp [hi]

theorem locate_not_found (hp : p.Straight) (hi : (l.onDisk here).item? p.normal.names = none)
    (follow : Bool) : ∃ t, (l.onDisk here).locate follow p = .error t := by
  obtain ⟨jump, hwalk⟩ := exists_walk_eq (l.onDisk here) follow hp
  have hroot : (l.onDisk here).item? [] ≠ none := by rw [item?_onDisk]; nofun
  rw [Disk.locate, hwalk]
  split
  · exact ⟨_, rfl⟩
  · exact ⟨_, rfl⟩
  · next place hfound =>
    exact absurd hfound (walkPieces_not_found [] (partsOf_body hp) hroot hi place)

/-- Where nothing stands, both say so. -/
theorem agreeAt_of_none (hp : p.Straight) (hs : l.at? p.normal.names = none)
    (hmemory : l.inMemory.at? p = none) :
    Lookup.AgreeAt (l.onDisk here).lookup l.inMemory.lookup p := by
  have hi : (l.onDisk here).item? p.normal.names = none := by rw [item?_onDisk, hs]; rfl
  obtain ⟨t, ht⟩ := locate_not_found hp hi true
  obtain ⟨t', ht'⟩ := locate_not_found hp hi false
  constructor
  · simp [Disk.lookup, Tree.lookup, Disk.present, Disk.target?, Except.toOption, ht, hmemory]
  · simp [Disk.lookup, Tree.lookup, Except.toOption, ht', hmemory]
  · simp [Disk.lookup, Tree.lookup, Disk.readLossy, Disk.bytes, Tree.read, Except.toOption,
      Except.map, ht, hmemory]

/-- What stands at the end of a path, both find there. -/
theorem agreeAt_of_some (hp : p.Straight) (hs : l.at? p.normal.names = some s)
    (hends : s.isDirectory = true ∨ p.EndsInName)
    (hmemory : l.inMemory.at? p = some s.entry) :
    Lookup.AgreeAt (l.onDisk here).lookup l.inMemory.lookup p := by
  have hi : (l.onDisk here).item? p.normal.names = some s.item := by rw [item?_onDisk, hs]; rfl
  have hkind : s.isDirectory = true → s.item.kind = .directory := by
    cases s <;> simp [Stock.isDirectory, Stock.item, Item.kind]
  have hlocate : ∀ follow, (l.onDisk here).locate follow p = .ok (p.normal.names, s.item) :=
    fun follow => locate_found hp hi (hends.imp_left hkind)
  constructor
  · simp [Disk.lookup, Tree.lookup, Disk.present, Disk.target?, Except.toOption, hlocate, hmemory]
  · cases s <;> simp [Disk.lookup, Tree.lookup, Except.toOption, hlocate, hmemory, Stock.item,
      Stock.entry, Item.kind, Entry.kind]
  · cases s <;> simp [Disk.lookup, Tree.lookup, Disk.readLossy, Disk.bytes, Tree.read,
      Except.toOption, Except.map, hlocate, hmemory, Stock.item, Stock.entry,
      Text.Utf8.decodeLossy_encode]

theorem at?_inMemory (hp : p.Straight) (hroot : p.normal.names = [] → l.stock ≠ []) :
    l.inMemory.at? p = (l.at? p.normal.names).map Stock.entry := by
  rw [Tree.at?, hp.normal_eq, get?_inMemory hroot]

/-- On a disk and in memory a layout gives the same answers about a path from the root that ends in
a name. -/
theorem agreeAt_of_endsInName (hp : p.Straight) (hends : p.EndsInName) :
    Lookup.AgreeAt (l.onDisk here).lookup l.inMemory.lookup p := by
  have hmemory := at?_inMemory (l := l) hp fun hnil => absurd hnil (hp.names_ne_nil hends)
  cases hs : l.at? p.normal.names with
  | none => exact agreeAt_of_none hp hs (by rw [hmemory, hs]; rfl)
  | some s => exact agreeAt_of_some hp hs (.inr hends) (by rw [hmemory, hs]; rfl)

/-- They do so about one that leads to a directory, if anything stands in memory. -/
theorem agreeAt_of_directory (hp : p.Straight) (hne : l.stock ≠ []) {mode : Nat}
    (hs : l.at? p.normal.names = some (.directory mode)) :
    Lookup.AgreeAt (l.onDisk here).lookup l.inMemory.lookup p := by
  have hmemory := at?_inMemory (l := l) hp fun _ => hne
  exact agreeAt_of_some hp hs (.inl rfl) (by rw [hmemory, hs]; rfl)

/-- A walk that comes to something shows that something stands there. -/
theorem at?_of_present (hp : p.Straight) (h : (l.onDisk here).lookup.present p = true) :
    ∃ s, l.at? p.normal.names = some s := by
  by_contra hnone
  have hi : (l.onDisk here).item? p.normal.names = none := by
    rw [item?_onDisk, Option.eq_none_iff_forall_ne_some.2 fun s hs => hnone ⟨s, hs⟩]
    rfl
  obtain ⟨t, ht⟩ := locate_not_found hp hi true
  simp [Disk.lookup, Disk.present, Disk.target?, Except.toOption, ht] at h

end Answers

end Layout
end EditionCheck.File
