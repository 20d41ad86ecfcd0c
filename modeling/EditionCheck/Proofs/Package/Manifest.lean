import EditionCheck.Package.Manifest
import EditionCheck.Proofs.Json.Written
import EditionCheck.Proofs.Keyed

/-!
  What the text of a manifest says.

  A text is read to an object with all of its members, repeated keys included. Of the values of a
  key the last one counts (`Keyed.Effective`), in the object itself and in its mappings. `Describes`
  says of a manifest what it is to have for each of the seven keys in terms of these values; there
  is one such manifest and the text is parsed to it (`parse_describes`), so nothing else about the
  object matters.
-/

namespace EditionCheck

open Keyed (Effective)

namespace Json

/-! ## Settled values -/

theorem settleMembers_eq_map (members : List (String × Value)) :
    settleMembers members = members.map fun e => (e.1, e.2.settle) := by
  induction members with
  | nil => rfl
  | cons e rest ih => rw [settleMembers, ih, List.map_cons]

theorem Value.settle_eq_string {v : Value} {s : String} : v.settle = .string s ↔ v = .string s := by
  cases v <;> simp [settle]

theorem Value.settle_eq_object {v : Value} {members : List (String × Value)} :
    v.settle = .object members ↔
      ∃ raw, v = .object raw ∧ members = Keyed.settle (settleMembers raw) := by
  cases v <;> simp [settle, eq_comm]

theorem settleMembers_keys (members : List (String × Value)) :
    (settleMembers members).map Prod.fst = members.map Prod.fst := by
  rw [settleMembers_eq_map]
  simp

/-- The value found in a settled object is the settled value that counts. -/
theorem get?_settleMembers {members : List (String × Value)} {key : String} {w : Value} :
    Keyed.get? key (Keyed.settle (settleMembers members)) = some w ↔
      ∃ v, Effective members key v ∧ w = v.settle := by
  rw [Keyed.get?_settle, settleMembers_eq_map, Keyed.effective_map]

end Json

namespace Manifest

/-- The requirements of a mapping: one for each name, in the order in which the names come first,
with the text of the value that counts. -/
structure Requires (entries : List (String × Json.Value)) (rs : List Requirement) : Prop where
  names : FirstOrder (rs.map Requirement.name) (entries.map Prod.fst)
  versions : ∀ r ∈ rs, ∃ v, Effective entries r.name v ∧ r.version = versionText v.settle

/-- What a manifest is to have if the members of its text are these. -/
structure Describes (m : Manifest) (members : List (String × Json.Value)) : Prop where
  name : ∀ s, m.name = some s ↔ Effective members "name" (.string s)
  version : ∀ s, m.version = some s ↔ Effective members "version" (.string s)
  main : ∀ s, m.main = some s ↔ Effective members "main" (.string s)
  packageType : ∀ s, m.packageType = some s ↔ Effective members "type" (.string s)
  requirements : ∀ kind rs, m.requirements? kind = some rs ↔
    ∃ entries, Effective members kind.manifestKey (.object entries) ∧ Requires entries rs

/-- The keys that matter. -/
def keys : List String :=
  ["name", "version", "main", "type"] ++ DependencyKind.all.map DependencyKind.manifestKey

variable {m m' : Manifest} {members members' entries : List (String × Json.Value)}
  {rs rs' : List Requirement}

/-! ## Mappings -/

theorem Requires.eq (h : Requires entries rs) (h' : Requires entries rs') : rs = rs' := by
  refine h.names.eq_of_map h'.names fun r hr r' hr' hname => ?_
  obtain ⟨v, hv, hversion⟩ := h.versions r hr
  obtain ⟨v', hv', hversion'⟩ := h'.versions r' hr'
  have hsome : some v = some v' := by
    rw [← Keyed.get?_settle.2 hv, ← Keyed.get?_settle.2 hv', hname]
  cases hsome
  have htext : r.version = r'.version := hversion.trans hversion'.symm
  cases r
  cases r'
  cases hname
  cases htext
  rfl

/-- The requirements that are taken from the settled entries of a mapping. -/
theorem requires_settle (entries : List (String × Json.Value)) :
    Requires entries ((Keyed.settle (Json.settleMembers entries)).map
      fun e => ⟨e.1, versionText e.2⟩) := by
  have horder := Keyed.firstOrder_settle (Json.settleMembers entries)
  rw [Json.settleMembers_keys] at horder
  constructor
  · rwa [List.map_map]
  · intro r hr
    obtain ⟨⟨key, w⟩, he, rfl⟩ := List.mem_map.1 hr
    obtain ⟨v, hv, rfl⟩ := Json.get?_settleMembers.1 ((Keyed.get?_eq_some horder.nodup).2 he)
    exact ⟨v, hv, rfl⟩

theorem requires_iff : Requires entries rs ↔
    rs = (Keyed.settle (Json.settleMembers entries)).map fun e => ⟨e.1, versionText e.2⟩ :=
  ⟨fun h => h.eq (requires_settle entries), fun h => h ▸ requires_settle entries⟩

/-! ## Single members -/

theorem textMember?_eq_some {key s : String} :
    textMember? key (Keyed.settle (Json.settleMembers members)) = some s ↔
      Effective members key (.string s) := by
  have htext {w : Json.Value} : w.text? = some s ↔ w = .string s := by
    cases w <;> simp [Json.Value.text?]
  rw [textMember?, Option.bind_eq_some_iff]
  simp only [Json.get?_settleMembers, htext]
  constructor
  · rintro ⟨_, ⟨v, hv, rfl⟩, hs⟩
    exact Json.Value.settle_eq_string.1 hs ▸ hv
  · intro h
    exact ⟨_, ⟨_, h, rfl⟩, rfl⟩

theorem mappingMember?_eq_some {kind : DependencyKind} :
    mappingMember? kind (Keyed.settle (Json.settleMembers members)) = some rs ↔
      ∃ entries, Effective members kind.manifestKey (.object entries) ∧ Requires entries rs := by
  unfold mappingMember?
  constructor
  · intro h
    split at h
    · next settled hget =>
      obtain ⟨v, hv, hobject⟩ := Json.get?_settleMembers.1 hget
      obtain ⟨entries, rfl, rfl⟩ := Json.Value.settle_eq_object.1 hobject.symm
      cases h
      exact ⟨entries, hv, requires_settle entries⟩
    · cases h
  · rintro ⟨entries, hentries, hrs⟩
    rw [Json.get?_settleMembers.2 ⟨_, hentries, rfl⟩, requires_iff.1 hrs]
    rfl

/-! ## The manifest of a text -/

theorem ofMembers_describes (members : List (String × Json.Value)) :
    Describes (ofMembers (Keyed.settle (Json.settleMembers members))) members where
  name _ := textMember?_eq_some
  version _ := textMember?_eq_some
  main _ := textMember?_eq_some
  packageType _ := textMember?_eq_some
  requirements kind _ := by cases kind <;> exact mappingMember?_eq_some

theorem Describes.eq (h : Describes m members) (h' : Describes m' members) : m = m' := by
  have hrequirements (kind : DependencyKind) : m.requirements? kind = m'.requirements? kind :=
    Option.ext fun rs => (h.requirements kind rs).trans (h'.requirements kind rs).symm
  have hname : m.name = m'.name := Option.ext fun s => (h.name s).trans (h'.name s).symm
  have hversion : m.version = m'.version :=
    Option.ext fun s => (h.version s).trans (h'.version s).symm
  have hmain : m.main = m'.main := Option.ext fun s => (h.main s).trans (h'.main s).symm
  have htype : m.packageType = m'.packageType :=
    Option.ext fun s => (h.packageType s).trans (h'.packageType s).symm
  have hproduction := hrequirements .production
  have hdevelopment := hrequirements .development
  have hoptional := hrequirements .optional
  cases m
  cases m'
  simp_all [requirements?]

/-- Members that have the same effective values under the keys that matter are described alike. -/
theorem Describes.congr
    (h : ∀ key ∈ keys, ∀ v, Effective members key v ↔ Effective members' key v)
    (hm : Describes m members) : Describes m members' where
  name s := (hm.name s).trans (h "name" (by simp [keys]) _)
  version s := (hm.version s).trans (h "version" (by simp [keys]) _)
  main s := (hm.main s).trans (h "main" (by simp [keys]) _)
  packageType s := (hm.packageType s).trans (h "type" (by simp [keys]) _)
  requirements kind rs := by
    have hkey : kind.manifestKey ∈ keys := by cases kind <;> decide
    rw [hm.requirements]
    exact exists_congr fun entries => and_congr_left' (h _ hkey _)

theorem parse_of_object {text : String} (h : Json.read text .whole = .ok (.object members))
    (file : Path) :
    parse file text = .ok (ofMembers (Keyed.settle (Json.settleMembers members))) := by
  unfold parse Json.parse
  rw [h]
  rfl

/-- Every text that is read to an object has a manifest, the only one that its members describe; of
a text that is read to something else, or not at all, the error tells which. Two objects with the
same effective values under the keys that matter have the same manifest, whatever other members
they have and in whatever order their members come. -/
theorem parse_describes (file : Path) (text : String) :
    (match Json.read text .whole with
      | .error e => parse file text = .error (.badJson file e)
      | .ok (.object members) =>
        ∃ m, parse file text = .ok m ∧ ∀ m', Describes m' members ↔ m' = m
      | .ok _ => parse file text = .error (.manifestShape file "Root value is not an object")) ∧
    ∀ text' members members', Json.read text .whole = .ok (.object members) →
      Json.read text' .whole = .ok (.object members') →
      (∀ key ∈ keys, ∀ v, Effective members key v ↔ Effective members' key v) →
      parse file text' = parse file text := by
  constructor
  · cases h : Json.read text .whole with
    | error e =>
      unfold parse Json.parse
      rw [h]
    | ok v =>
      cases v with
      | object members =>
        refine ⟨_, parse_of_object h file, fun m' => ⟨fun h' => h'.eq (ofMembers_describes _), ?_⟩⟩
        rintro rfl
        exact ofMembers_describes members
      | null | bool | number | string | array =>
        unfold parse Json.parse
        rw [h]
        rfl
  · intro text' members members' h h' hkeys
    rw [parse_of_object h, parse_of_object h',
      ((ofMembers_describes members).congr hkeys).eq (ofMembers_describes members')]

/-- A main script and a name in a mapping that are given again keep their last values, the name its
first place too. The same without the repetition of the main script, in another order and with a
further member, is the same manifest. -/
theorem parse_describes_repeated :
    let file := Path.ofString "package.json"
    let text := fun members => String.ofList (Json.Value.object members).compact
    let mapping := Json.Value.object [("b", .string "1"), ("c", .array []), ("b", .string "2")]
    let members := [("main", .string "a"), ("dependencies", mapping), ("main", .string "d")]
    let members' := [("dependencies", mapping), ("x", .null), ("main", .string "d")]
    parse file (text members) =
        .ok ⟨none, none, some "d", none, some [⟨"b", "2"⟩, ⟨"c", "[]"⟩], none, none⟩ ∧
      parse file (text members') = parse file (text members) := by
  intro file text mapping members members'
  have hread (ms : List (String × Json.Value)) (h : Json.Fits 3 (.object ms)) :
      Json.read (text ms) .whole = .ok (.object ms) :=
    Json.read_of_writes (Json.writes_compact h) (by decide) .whole
  have h : Json.read (text members) .whole = .ok (.object members) :=
    hread members (by simp [members, mapping, Json.Fits])
  have h' : Json.read (text members') .whole = .ok (.object members') :=
    hread members' (by simp [members', mapping, Json.Fits])
  constructor
  · rw [parse_of_object h]
    rfl
  · apply (parse_describes file _).2 _ _ _ h h'
    intro key hkey v
    rw [← Keyed.get?_settle, ← Keyed.get?_settle]
    revert key
    simp [members, members', keys, DependencyKind.all, DependencyKind.manifestKey, Keyed.settle,
      Keyed.put, Keyed.get?_cons]

end Manifest
end EditionCheck
