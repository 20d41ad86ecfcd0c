import EditionCheck.Proofs.Json.Written
import EditionCheck.Proofs.Time.Moment
import EditionCheck.Report.Json

/-!
  Results, written as JSON and read back.

  Each part of the results is read back from the value that it is written as, outcomes with two tags
  in one object included (`Verdict.ofJson?_toJson`), and the value is read back from either of its
  texts; together that is `Results.ofText?_jsonText`. Numbers are kept in 64 bits, and a duration is
  kept in milliseconds.
-/

namespace EditionCheck

open Json (Value)

/-! ## Names in data files -/

theorem Edition.ofKey?_key (v : Edition) : Edition.ofKey? v.key = some v := by
  cases v <;> decide

theorem Feature.ofKey?_key (f : Feature) : Feature.ofKey? f.key = some f := by
  cases f <;> decide

theorem DependencyKind.ofLabel?_label (k : DependencyKind) : DependencyKind.ofLabel? k.label = some k := by
  cases k <;> decide

/-! ## Decoding what was encoded -/

namespace Json

theorem Value.fields?_object {names : List String} {members : List (String × Value)}
    (h : members.map (·.1) = names) (hnames : names.Nodup) :
    (Value.object members).fields? names = some members := by
  have hknown : members.filter (fun m => m.1 ∈ names) = members := by
    rw [List.filter_eq_self]
    intro m hm
    rw [← h, decide_eq_true_eq]
    exact List.mem_map_of_mem hm
  simp only [Value.fields?]
  rw [hknown, if_pos (h ▸ hnames)]

theorem le_maxSignificand {n : Nat} (h : n < 2 ^ 64) : n ≤ maxSignificand := by
  unfold maxSignificand
  omega

theorem Value.nat?_integer {n : Nat} (h : n < 2 ^ 64) :
    Value.nat? (.number (.integer n)) = some n :=
  if_pos (le_maxSignificand h)

theorem nullable?_ofText? {decode : Value → Option α} {encode : α → String}
    (h : ∀ a, decode (.string (encode a)) = some a) (o : Option α) :
    nullable? decode (ofText? (o.map encode)) = some o := by
  cases o with
  | none => rfl
  | some a => exact congrArg (Option.map some) (h a)

theorem nullable?_ofNat? {o : Option Nat} (h : ∀ n ∈ o, n < 2 ^ 64) :
    nullable? Value.nat? (ofNat? o) = some o := by
  cases o with
  | none => rfl
  | some n => exact congrArg (Option.map some) (Value.nat?_integer (h n rfl))

theorem Value.list?_map {decode : Value → Option α} {encode : α → Value} {as : List α}
    (h : ∀ a ∈ as, decode (encode a) = some a) :
    Value.list? decode (.array (as.map encode)) = some as := by
  change (as.map encode).mapM decode = some as
  induction as with
  | nil => rfl
  | cons a as ih =>
    have has : (as.map encode).mapM decode = some as :=
      ih fun x hx => h x (List.mem_cons_of_mem a hx)
    rw [List.map_cons, List.mapM_cons, h a List.mem_cons_self, has]
    rfl

end Json

/-! ## Failures -/

/-- The numbers of a failure fit the 64 bits in which they are kept. -/
structure Failure.Bounded (e : Failure) : Prop where
  line : ∀ n ∈ e.line, n < 2 ^ 64
  column : ∀ n ∈ e.column, n < 2 ^ 64

theorem Failure.ofJson?_toJson {e : Failure} (h : e.Bounded) :
    Failure.ofJson? e.toJson = some e := by
  have hfields : e.toJson.fields? ["message", "feature", "line", "column"] = some
      [("message", .string e.message), ("feature", Json.ofText? (e.feature.map Feature.key)),
        ("line", Json.ofNat? e.line), ("column", Json.ofNat? e.column)] :=
    Value.fields?_object rfl (by decide)
  have hfeature : Json.nullable? (Value.word? Feature.ofKey?)
      (Json.ofText? (e.feature.map Feature.key)) = some e.feature :=
    Json.nullable?_ofText? Feature.ofKey?_key e.feature
  simp [Failure.ofJson?, hfields, Json.field?, Json.optional?, Keyed.get?_cons, Value.text?,
    hfeature, Json.nullable?_ofNat? h.line, Json.nullable?_ofNat? h.column]

/-! ## Outcomes -/

theorem tagged?_object {tag : String} {v : Value} {rest : List (String × Value)}
    (h : ∀ m ∈ rest, m.1 ≠ tag) :
    tagged? tag (.object ((tag, v) :: rest)) = some (v, .object rest) := by
  have hnone : rest.filter (fun m => m.1 == tag) = [] := by
    rw [List.filter_eq_nil_iff]
    intro m hm
    simp [h m hm]
  have hall : rest.filter (fun m => m.1 != tag) = rest := by
    rw [List.filter_eq_self]
    intro m hm
    simp [h m hm]
  simp [tagged?, hnone, hall]

theorem single?_object (key : String) (decode : Value → Option α) (v : Value) :
    single? key decode (.object [(key, v)]) = decode v := by
  have hfields : (Value.object [(key, v)]).fields? [key] = some [(key, v)] :=
    Value.fields?_object rfl (by simp)
  simp [single?, hfields, Json.field?, Keyed.get?_cons]

theorem Reason.ofJson?_members (r : Reason) : Reason.ofJson? (.object r.members) = some r := by
  have htag : ∀ (word : String) (rest : List (String × Value)), (∀ m ∈ rest, m.1 ≠ "reason") →
      tagged? "reason" (.object (("reason", .string word) :: rest)) =
        some (.string word, .object rest) := fun _ _ h => tagged?_object h
  cases r with
  | manifestUnreadable m =>
    simp [Reason.ofJson?, Reason.members, htag, Reason.word?, Reason.words, single?_object,
      Value.text?]
  | noEntryScript =>
    simp [Reason.ofJson?, Reason.members, htag, Reason.word?, Reason.words, bare?]
  | scriptUnreadable m =>
    simp [Reason.ofJson?, Reason.members, htag, Reason.word?, Reason.words, single?_object,
      Value.text?]
  | ignored p =>
    simp [Reason.ofJson?, Reason.members, htag, Reason.word?, Reason.words, single?_object,
      Value.text?]

/-- No member of a reason has the tag of an outcome. -/
theorem Reason.members_ne_status (r : Reason) : ∀ m ∈ r.members, m.1 ≠ "status" := by
  cases r <;> simp [Reason.members]

/-- The numbers of an outcome fit the 64 bits in which they are kept. -/
def Verdict.Bounded (v : Verdict) : Prop := ∀ e, v = .nonConforming e → e.Bounded

/-- An outcome is read back, also from the two tags that an unjudged one has. -/
theorem Verdict.ofJson?_toJson {v : Verdict} (h : v.Bounded) : Verdict.ofJson? v.toJson = some v := by
  cases v with
  | conforming =>
    have htag : tagged? "status" Verdict.conforming.toJson =
        some (.string "conforming", .object []) := tagged?_object (by simp)
    simp [Verdict.ofJson?, htag, bare?]
  | nonConforming e =>
    have htag : tagged? "status" (Verdict.nonConforming e).toJson =
        some (.string "non_conforming", .object [("failure", e.toJson)]) :=
      tagged?_object (by simp)
    have he : Failure.ofJson? e.toJson = some e := Failure.ofJson?_toJson (h e rfl)
    simp [Verdict.ofJson?, htag, single?_object, he]
  | unchecked reason =>
    have htag : tagged? "status" (Verdict.unchecked reason).toJson =
        some (.string "unchecked", .object reason.members) :=
      tagged?_object reason.members_ne_status
    simp [Verdict.ofJson?, htag, Reason.ofJson?_members]

/-! ## Findings -/

theorem Path.ofString_display (p : Path) : Path.ofString p.display = p := by
  simp [Path.ofString, Path.display]

theorem Path.ofJson?_display (p : Path) : Path.ofJson? (.string p.display) = some p :=
  congrArg some p.ofString_display

theorem Finding.ofJson?_toJson {f : Finding} (h : f.verdict.Bounded) :
    Finding.ofJson? f.toJson = some f := by
  have hfields : f.toJson.fields? Finding.fields = some
      [("name", .string f.name), ("kind", .string f.kind.label),
        ("entry_script", Json.ofText? (f.entryScript.map Path.display)),
        ("verdict", f.verdict.toJson)] :=
    Value.fields?_object rfl (by decide)
  have hscript : Json.nullable? Path.ofJson? (Json.ofText? (f.entryScript.map Path.display)) =
      some f.entryScript := Json.nullable?_ofText? Path.ofJson?_display f.entryScript
  simp [Finding.ofJson?, hfields, Json.field?, Json.optional?, Keyed.get?_cons, Value.text?,
    Value.word?, DependencyKind.ofLabel?_label, hscript, Verdict.ofJson?_toJson h]

/-! ## Summaries -/

/-- The counts of a summary fit the 64 bits in which they are kept. -/
structure Summary.Bounded (s : Summary) : Prop where
  total : s.total < 2 ^ 64
  conforming : s.conforming < 2 ^ 64
  nonConforming : s.nonConforming < 2 ^ 64
  unchecked : s.unchecked < 2 ^ 64

/-- A duration that comes back: a whole number of milliseconds that 64 bits hold. -/
def Duration.Storable (d : Duration) : Prop := ∃ n < 2 ^ 64, d = .ofMillis n

theorem Summary.ofJson?_toJson {s : Summary} (h : s.Bounded) (hd : s.duration.Storable) :
    Summary.ofJson? s.toJson = some s := by
  obtain ⟨n, hn, hduration⟩ := hd
  have hstored : s.duration.storedMillis = n := by
    rw [hduration, Duration.storedMillis_ofMillis hn]
  have hfields : s.toJson.fields? Summary.fields = some
      [("total_dependencies", .number (.integer s.total)),
        ("conforming", .number (.integer s.conforming)),
        ("non_conforming", .number (.integer s.nonConforming)),
        ("unchecked", .number (.integer s.unchecked)),
        ("duration", .number (.integer n))] := by
    rw [← hstored]
    exact Value.fields?_object rfl (by decide)
  simp [Summary.ofJson?, hfields, Json.field?, Keyed.get?_cons, Json.Value.nat?_integer h.total,
    Json.Value.nat?_integer h.conforming, Json.Value.nat?_integer h.nonConforming,
    Json.Value.nat?_integer h.unchecked, Json.Value.nat?_integer hn, ← hduration]

/-! ## Results -/

theorem Moment.ofJson?_render (m : Moment) :
    Moment.ofJson? (.string (String.ofList m.render)) = some m := by
  simp [Moment.ofJson?, Value.text?, Moment.parse?_render]

namespace Results

/-- The numbers of the results fit the 64 bits in which they are kept. -/
structure Bounded (r : Results) : Prop where
  findings : ∀ f ∈ r.findings, f.verdict.Bounded
  summary : r.summary.Bounded

theorem ofJson?_toJson {r : Results} (h : r.Bounded) (hd : r.summary.duration.Storable) :
    ofJson? r.toJson = some r := by
  have hfields : r.toJson.fields? fields = some
      [("project_dir", .string r.project.display), ("target", .string r.target.key),
        ("report", r.report.toJson), ("dependencies", .array (r.findings.map Finding.toJson)),
        ("summary", r.summary.toJson), ("root_manifest_error", Json.ofText? r.rootError),
        ("checked_at", .string (String.ofList r.checkedAt.render))] :=
    Value.fields?_object rfl (by decide)
  have hreport : Value.list? Value.text? r.report.toJson = some r.report.names :=
    Value.list?_map fun _ _ => rfl
  have hfindings : Value.list? Finding.ofJson? (.array (r.findings.map Finding.toJson)) =
      some r.findings := Value.list?_map fun f hf => Finding.ofJson?_toJson (h.findings f hf)
  have hroot : Json.nullable? Value.text? (Json.ofText? r.rootError) = some r.rootError := by
    cases r.rootError <;> rfl
  simp [ofJson?, hfields, Json.field?, Json.optional?, Keyed.get?_cons, Value.word?,
    Path.ofJson?_display, Edition.ofKey?_key, hreport, hfindings, Summary.ofJson?_toJson h.summary hd,
    hroot, Moment.ofJson?_render]

end Results

/-! ## Written text -/

namespace Json

theorem fits_array (d : Nat) (vs : List Value) :
    Fits (d + 1) (.array vs) ↔ ∀ v ∈ vs, Fits d v := by rw [Fits]

theorem fits_object (d : Nat) (ms : List (String × Value)) :
    Fits (d + 1) (.object ms) ↔ ∀ m ∈ ms, Fits d m.2 := by rw [Fits]

theorem fits_string (d : Nat) (s : String) : Fits d (.string s) := by simp [Fits]

theorem fits_natCast (d : Nat) {n : Nat} (h : n < 2 ^ 64) : Fits d (.number (.integer n)) := by
  simpa [Fits] using le_maxSignificand h

theorem fits_ofText? (d : Nat) (o : Option String) : Fits d (ofText? o) := by
  cases o <;> simp [ofText?, Fits]

theorem fits_ofNat? (d : Nat) {o : Option Nat} (h : ∀ n ∈ o, n < 2 ^ 64) : Fits d (ofNat? o) := by
  cases o with
  | none => simp [ofNat?, Fits]
  | some n => exact fits_natCast d (h n rfl)

end Json

open Json (fits_array fits_object fits_string fits_natCast fits_ofText? fits_ofNat?)

theorem Failure.fits {e : Failure} (h : e.Bounded) (d : Nat) : Json.Fits (d + 1) e.toJson := by
  simp [Failure.toJson, fits_object, fits_string, fits_ofText?, fits_ofNat? d h.line,
    fits_ofNat? d h.column]

theorem Verdict.fits {v : Verdict} (h : v.Bounded) (d : Nat) : Json.Fits (d + 2) v.toJson := by
  cases v with
  | conforming => simp [Verdict.toJson, fits_object, fits_string]
  | nonConforming e =>
    simp [Verdict.toJson, fits_object, fits_string, Failure.fits (h e rfl) d]
  | unchecked reason =>
    cases reason <;> simp [Verdict.toJson, Reason.members, fits_object, fits_string]

theorem Finding.fits {f : Finding} (h : f.verdict.Bounded) (d : Nat) :
    Json.Fits (d + 3) f.toJson := by
  simp [Finding.toJson, fits_object, fits_string, fits_ofText?, Verdict.fits h d]

theorem Report.fits (r : Report) (d : Nat) : Json.Fits (d + 1) r.toJson := by
  simp [Report.toJson, fits_array, fits_string]

theorem Summary.fits {s : Summary} (h : s.Bounded) (d : Nat) : Json.Fits (d + 1) s.toJson := by
  have hmillis : s.duration.storedMillis < 2 ^ 64 := Nat.mod_lt _ (by decide)
  simp [Summary.toJson, Summary.fields, fits_object, fits_natCast d h.total,
    fits_natCast d h.conforming, fits_natCast d h.nonConforming, fits_natCast d h.unchecked,
    fits_natCast d hmillis]

namespace Results

theorem fits {r : Results} (h : r.Bounded) : Json.Fits 5 r.toJson := by
  have hfindings : ∀ f ∈ r.findings, Json.Fits 3 f.toJson := fun f hf =>
    Finding.fits (h.findings f hf) 0
  simpa [toJson, fits_object, fits_array, fits_string, fits_ofText?, Report.fits r.report 3,
    Summary.fits h.summary 3] using hfindings

/-- The value of results is read from their text, over several lines or in one, whatever shape is
read for. -/
theorem read_jsonText {r : Results} (h : r.Bounded) (pretty : Bool) (shape : Json.Shape) :
    Json.read (r.jsonText pretty) shape = .ok r.toJson :=
  Json.read_written (fits h) (by decide) pretty shape

/-- Results are read back from their text, over several lines or in one. -/
theorem ofText?_jsonText {r : Results} (h : r.Bounded) (hd : r.summary.duration.Storable)
    (pretty : Bool) : ofText? (r.jsonText pretty) = some r := by
  rw [ofText?, read_jsonText h]
  exact ofJson?_toJson h hd

/-- Results with a failing name that has to be escaped, and with reasons that have a text of their
own and that have none. -/
def mixed : Results where
  project := .ofString "/проект/日本"
  target := .es2015
  report := ⟨["b\"\n"]⟩
  findings :=
    [⟨"a", .production, some (.ofString "/p/a/index.js"), .conforming⟩,
      ⟨"b\"\n", .development, none, .nonConforming (.unsupported .bigInt .es2015 3 7)⟩,
      ⟨"c", .optional, none, .unchecked (.ignored "c*")⟩,
      ⟨"d", .production, none, .unchecked .noEntryScript⟩]
  summary := ⟨4, 1, 1, 2, .ofMillis 1500⟩
  rootError := none
  checkedAt := .epoch

theorem mixed_bounded : mixed.Bounded where
  findings := by
    intro f hf e he
    simp only [mixed, List.mem_cons, List.not_mem_nil, or_false] at hf
    rcases hf with rfl | rfl | rfl | rfl
    · cases he
    · cases he
      constructor <;> simp [Failure.unsupported]
    · cases he
    · cases he
  summary := ⟨by decide, by decide, by decide, by decide⟩

theorem mixed_storable : mixed.summary.duration.Storable := ⟨1500, by decide, rfl⟩

theorem ofText?_jsonText_mixed :
    mixed.Bounded ∧ mixed.summary.duration.Storable ∧ ofText? (mixed.jsonText true) = some mixed ∧
      ofText? (mixed.jsonText false) = some mixed :=
  ⟨mixed_bounded, mixed_storable, ofText?_jsonText mixed_bounded mixed_storable true,
    ofText?_jsonText mixed_bounded mixed_storable false⟩

end Results

end EditionCheck
