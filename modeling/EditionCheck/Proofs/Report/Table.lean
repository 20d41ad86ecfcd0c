import Mathlib.Data.List.Forall2
import EditionCheck.Report.Format

/-!
  Comma-separated values, written and read back.

  `Csv.Writes` is the common rules for such a text: commas part the fields of a record and line ends
  the records; a field in quotes holds anything, a quote in it written twice, and a field without
  quotes holds no comma, quote or line end. `Csv.read` takes a text apart; it gives back the records
  of every text written by the rules (`Csv.read_of_writes`), so no text has two readings. The table
  of any results is written by them (`table_writes`), whatever characters its fields have, and every
  reader that follows the rules finds in it the header and one record for each finding
  (`formatted_table`).
-/

namespace EditionCheck

namespace Csv

/-! ## How records are written -/

/-- The character may stand in a field without quotes. -/
def Plain (c : Char) : Prop := c ≠ '"' ∧ c ≠ ',' ∧ c ≠ '\n' ∧ c ≠ '\r'

/-- A character as it is written between quotes. -/
def inQuotes (c : Char) : List Char := if c = '"' then ['"', '"'] else [c]

/-- The written forms of a field: as it is, where all of its characters may stand so, or in
quotes. -/
inductive WritesField : List Char → List Char → Prop
  | bare {cs : List Char} (h : ∀ c ∈ cs, Plain c) : WritesField cs cs
  | quoted {cs : List Char} : WritesField cs ('"' :: (cs.flatMap inQuotes ++ ['"']))

/-- The written forms of fields, of which there is one at least. -/
inductive WritesFields : List String → List Char → Prop
  | last {f : String} {t : List Char} (h : WritesField f.toList t) : WritesFields [f] t
  | more {f : String} {fs : List String} {t u : List Char} (h : WritesField f.toList t)
      (hs : WritesFields fs u) : WritesFields (f :: fs) (t ++ ',' :: u)

/-- The two line ends. -/
inductive LineEnd : List Char → Prop
  | feed : LineEnd ['\n']
  | returnFeed : LineEnd ['\r', '\n']

/-- The written forms of records. The last one may lack its line end, unless nothing else of it is
to be seen. -/
inductive Writes : List (List String) → List Char → Prop
  | none : Writes [] []
  | unended {r : List String} {t : List Char} (h : WritesFields r t) (hne : t ≠ []) : Writes [r] t
  | record {r : List String} {rs : List (List String)} {t e u : List Char} (h : WritesFields r t)
      (he : LineEnd e) (hs : Writes rs u) : Writes (r :: rs) (t ++ e ++ u)

/-! ## A reader -/

/-- Where a reader stands. -/
inductive Stand where
  /-- Before a record. -/
  | fresh
  /-- Before another field of a record. -/
  | start
  /-- In a field without quotes. -/
  | bare
  /-- In a field with quotes. -/
  | quoted
  /-- Behind a quote in such a field. -/
  | closed
  /-- Behind a carriage return that ends a record. -/
  | returned
  deriving DecidableEq, Repr

/-- What a character does. -/
inductive Move where
  /-- It belongs to the field. -/
  | take (next : Stand)
  /-- It is a mark. -/
  | pass (next : Stand)
  /-- It ends the field. -/
  | endField
  /-- It ends the record. -/
  | endRecord
  deriving DecidableEq, Repr

/-- What a character does where a field may end. -/
def moveAtEnd (otherwise : Option Move) (c : Char) : Option Move :=
  if c = ',' then some .endField
  else if c = '\n' then some .endRecord
  else if c = '\r' then some (.pass .returned)
  else otherwise

/-- What a character does; nothing where it may not stand. -/
def move : Stand → Char → Option Move
  | .quoted, c => if c = '"' then some (.pass .closed) else some (.take .quoted)
  | .closed, c => if c = '"' then some (.take .quoted) else moveAtEnd none c
  | .returned, c => if c = '\n' then some .endRecord else none
  | .bare, c => if c = '"' then none else moveAtEnd (some (.take .bare)) c
  | .fresh, c | .start, c =>
    if c = '"' then some (.pass .quoted) else moveAtEnd (some (.take .bare)) c

/-- The records of a text. `field` is what has been read of the current field, and `record` the
fields before it. -/
def records : Stand → List Char → List String → List Char → Option (List (List String))
  | .fresh, _, _, [] => some []
  | .quoted, _, _, [] | .returned, _, _, [] => none
  | _, field, record, [] => some [record ++ [String.ofList field]]
  | s, field, record, c :: cs =>
    match move s c with
    | none => none
    | some (.take next) => records next (field ++ [c]) record cs
    | some (.pass next) => records next field record cs
    | some .endField => records .start [] (record ++ [String.ofList field]) cs
    | some .endRecord =>
      (records .fresh [] [] cs).map fun rest => (record ++ [String.ofList field]) :: rest

/-- The records of a whole text. -/
def read (text : String) : Option (List (List String)) := records .fresh [] [] text.toList

/-! ## Steps of the reader -/

variable {s next : Stand} {field cs : List Char} {record : List String} {c : Char}

theorem records_cons (s : Stand) (field : List Char) (record : List String) (c : Char)
    (cs : List Char) : records s field record (c :: cs) =
      match move s c with
      | none => none
      | some (.take next) => records next (field ++ [c]) record cs
      | some (.pass next) => records next field record cs
      | some .endField => records .start [] (record ++ [String.ofList field]) cs
      | some .endRecord =>
        (records .fresh [] [] cs).map fun rest => (record ++ [String.ofList field]) :: rest := by
  cases s <;> rfl

theorem records_take (h : move s c = some (.take next)) :
    records s field record (c :: cs) = records next (field ++ [c]) record cs := by
  rw [records_cons, h]

theorem records_pass (h : move s c = some (.pass next)) :
    records s field record (c :: cs) = records next field record cs := by
  rw [records_cons, h]

theorem records_endField (h : move s c = some .endField) :
    records s field record (c :: cs) = records .start [] (record ++ [String.ofList field]) cs := by
  rw [records_cons, h]

theorem records_endRecord (h : move s c = some .endRecord) :
    records s field record (c :: cs) =
      (records .fresh [] [] cs).map fun rest => (record ++ [String.ofList field]) :: rest := by
  rw [records_cons, h]

/-! ## Fields -/

/-- A field may end here. -/
def MayEnd (s : Stand) : Prop := s ≠ .quoted ∧ s ≠ .returned

theorem MayEnd.move_comma (h : MayEnd s) : move s ',' = some .endField := by
  obtain ⟨hquoted, hreturned⟩ := h
  cases s with
  | quoted => exact absurd rfl hquoted
  | returned => exact absurd rfl hreturned
  | fresh | start | bare | closed => rfl

theorem MayEnd.move_newline (h : MayEnd s) : move s '\n' = some .endRecord := by
  obtain ⟨hquoted, hreturned⟩ := h
  cases s with
  | quoted => exact absurd rfl hquoted
  | returned => exact absurd rfl hreturned
  | fresh | start | bare | closed => rfl

theorem MayEnd.move_return (h : MayEnd s) : move s '\r' = some (.pass .returned) := by
  obtain ⟨hquoted, hreturned⟩ := h
  cases s with
  | quoted => exact absurd rfl hquoted
  | returned => exact absurd rfl hreturned
  | fresh | start | bare | closed => rfl

theorem records_inQuotes (field : List Char) (record : List String) (cs rest : List Char) :
    records .quoted field record (cs.flatMap inQuotes ++ rest) =
      records .quoted (field ++ cs) record rest := by
  induction cs generalizing field with
  | nil => rw [List.flatMap_nil, List.nil_append, List.append_nil]
  | cons c cs ih =>
    have happend : field ++ c :: cs = (field ++ [c]) ++ cs := List.append_cons field c cs
    rw [List.flatMap_cons, List.append_assoc, happend, ← ih, inQuotes]
    by_cases hc : c = '"'
    · rw [if_pos hc, hc, List.cons_append, List.singleton_append, records_pass rfl,
        records_take rfl]
    · have hmove : move .quoted c = some (.take .quoted) := if_neg hc
      rw [if_neg hc, List.singleton_append, records_take hmove]

/-- Where no quote has been seen, a character that needs none belongs to the field. -/
theorem move_plain (hs : s = .fresh ∨ s = .start ∨ s = .bare) (hc : Plain c) :
    move s c = some (.take .bare) := by
  obtain ⟨hquote, hcomma, hline, hreturn⟩ := hc
  rcases hs with rfl | rfl | rfl <;>
    rw [move, if_neg hquote, moveAtEnd, if_neg hcomma, if_neg hline, if_neg hreturn]

theorem records_bare (field : List Char) (record : List String) {cs : List Char}
    (h : ∀ c ∈ cs, Plain c) (rest : List Char) :
    records .bare field record (cs ++ rest) = records .bare (field ++ cs) record rest := by
  induction cs generalizing field with
  | nil => rw [List.nil_append, List.append_nil]
  | cons c cs ih =>
    have hmove : move .bare c = some (.take .bare) :=
      move_plain (.inr (.inr rfl)) (h c List.mem_cons_self)
    rw [List.cons_append, records_take hmove, ih _ fun x hx => h x (List.mem_cons_of_mem c hx),
      ← List.append_cons]

/-- A written field is read up to where it may end. Nothing has been read only if nothing was
written. -/
theorem records_field (hs : s = .fresh ∨ s = .start) {cs t : List Char} (h : WritesField cs t) :
    ∃ s', MayEnd s' ∧ (s' = .fresh → s = .fresh ∧ t = []) ∧
      ∀ record rest, records s [] record (t ++ rest) = records s' cs record rest := by
  cases h with
  | quoted =>
    have hquote : move s '"' = some (.pass .quoted) := by rcases hs with rfl | rfl <;> rfl
    refine ⟨.closed, ⟨by decide, by decide⟩, nofun, fun record rest => ?_⟩
    rw [List.cons_append, records_pass hquote, List.append_assoc, records_inQuotes,
      List.nil_append, List.singleton_append, records_pass rfl]
  | bare hplain =>
    cases cs with
    | nil =>
      refine ⟨s, ?_, fun hfresh => ⟨hfresh, rfl⟩, fun record rest => rfl⟩
      rcases hs with rfl | rfl <;> exact ⟨by decide, by decide⟩
    | cons c cs =>
      have hmove : move s c = some (.take .bare) := by
        apply move_plain _ (hplain c List.mem_cons_self)
        rcases hs with rfl | rfl
        · exact .inl rfl
        · exact .inr (.inl rfl)
      refine ⟨.bare, ⟨by decide, by decide⟩, nofun, fun record rest => ?_⟩
      rw [List.cons_append, records_take hmove,
        records_bare _ _ fun x hx => hplain x (List.mem_cons_of_mem c hx)]
      rfl

/-! ## Records -/

/-- Written fields are read up to where the last of them may end. -/
theorem records_fields (hs : s = .fresh ∨ s = .start) {fs : List String} {t : List Char}
    (h : WritesFields fs t) :
    ∃ s' init last, fs = init ++ [String.ofList last] ∧ MayEnd s' ∧
      (s' = .fresh → s = .fresh ∧ t = []) ∧
      ∀ record rest, records s [] record (t ++ rest) = records s' last (record ++ init) rest := by
  induction h generalizing s with
  | @last f t hfield =>
    obtain ⟨s', hend, hfresh, hread⟩ := records_field hs hfield
    refine ⟨s', [], f.toList, by simp, hend, hfresh, fun record rest => ?_⟩
    rw [hread, List.append_nil]
  | @more f fs t u hfield _ ih =>
    obtain ⟨s₁, hend₁, -, hread₁⟩ := records_field hs hfield
    obtain ⟨s', init, last, hfs, hend, hfresh, hread⟩ := ih (.inr rfl)
    refine ⟨s', f :: init, last, by rw [hfs]; rfl, hend, fun h => ?_, fun record rest => ?_⟩
    · cases (hfresh h).1
    · rw [List.append_assoc, hread₁, List.cons_append, records_endField hend₁.move_comma, hread,
        String.ofList_toList, List.append_assoc]
      rfl

/-- A line end ends the record. -/
theorem records_lineEnd (hs : MayEnd s) {e : List Char} (h : LineEnd e) (rest : List Char) :
    records s field record (e ++ rest) =
      (records .fresh [] [] rest).map fun rs => (record ++ [String.ofList field]) :: rs := by
  cases h with
  | feed => exact records_endRecord hs.move_newline
  | returnFeed =>
    have hreturned : move .returned '\n' = some .endRecord := rfl
    rw [List.cons_append, records_pass hs.move_return, List.singleton_append,
      records_endRecord hreturned]

/-- So does the end of the text, unless nothing of the record has been seen. -/
theorem records_nil (hs : MayEnd s) (hfresh : s ≠ .fresh) :
    records s field record [] = some [record ++ [String.ofList field]] := by
  obtain ⟨hquoted, hreturned⟩ := hs
  cases s with
  | fresh => exact absurd rfl hfresh
  | quoted => exact absurd rfl hquoted
  | returned => exact absurd rfl hreturned
  | start | bare | closed => rfl

theorem records_of_writes {rs : List (List String)} {t : List Char} (h : Writes rs t) :
    records .fresh [] [] t = some rs := by
  induction h with
  | none => rfl
  | @unended r t hfields hne =>
    obtain ⟨s', init, last, rfl, hend, hfresh, hread⟩ := records_fields (.inl rfl) hfields
    have hread := hread [] []
    rw [List.append_nil] at hread
    rw [hread, records_nil hend fun h => hne (hfresh h).2]
    rfl
  | @record r rs t e u hfields hline _ ih =>
    obtain ⟨s', init, last, rfl, hend, -, hread⟩ := records_fields (.inl rfl) hfields
    rw [List.append_assoc, hread, records_lineEnd hend hline, ih]
    rfl

/-- A reader gives back the records of every text that is written by the rules. -/
def Reads (reader : String → Option (List (List String))) : Prop :=
  ∀ rs text, Writes rs text.toList → reader text = some rs

theorem read_of_writes : Reads read := fun _ _ h => records_of_writes h

end Csv

namespace Verdict

/-- Why a script was refused, if it was. -/
def failure? : Verdict → Option Failure
  | nonConforming e => some e
  | _ => none

/-- What there is to say about an outcome. -/
def detail : Verdict → String
  | conforming => ""
  | nonConforming e => e.message
  | unchecked reason => reason.describe

end Verdict

namespace Report

/-! ## Tables -/

theorem doubled_eq (cs : List Char) : doubled cs = cs.flatMap Csv.inQuotes := by
  induction cs with
  | nil => rfl
  | cons c cs ih =>
    rw [doubled, List.flatMap_cons, ih, Csv.inQuotes]
    split <;> rfl

theorem plain_of_not_special {c : Char} (h : ¬isSpecial c = true) : Csv.Plain c := by
  simpa [isSpecial, Csv.Plain, and_assoc] using h

theorem fieldText_writes (cs : List Char) : Csv.WritesField cs (fieldText cs) := by
  unfold fieldText
  split
  · rw [doubled_eq]
    exact .quoted
  · next h =>
    exact .bare fun c hc => plain_of_not_special fun hspecial =>
      h (List.any_eq_true.2 ⟨c, hc, hspecial⟩)

theorem fieldsText_writes {fs : List String} (hne : fs ≠ []) :
    Csv.WritesFields fs (fieldsText (fs.map String.toList)) := by
  induction fs with
  | nil => exact absurd rfl hne
  | cons f fs ih =>
    cases fs with
    | nil => exact .last (fieldText_writes f.toList)
    | cons g gs => exact .more (fieldText_writes f.toList) (ih (List.cons_ne_nil g gs))

theorem recordText_writes {fields : List String} (hne : fields ≠ []) {rs : List (List String)}
    {t : List Char} (h : Csv.Writes rs t) : Csv.Writes (fields :: rs) (recordText fields ++ t) :=
  .record (fieldsText_writes hne) .feed h

theorem findings_writes (fs : List Finding) :
    Csv.Writes (fs.map findingFields) (fs.flatMap fun f => recordText (findingFields f)) := by
  induction fs with
  | nil => exact .none
  | cons f fs ih =>
    rw [List.map_cons, List.flatMap_cons]
    exact recordText_writes (List.cons_ne_nil _ _) ih

/-- A table is written by the rules: its header, and the fields of each finding in order. -/
theorem table_writes (r : Results) :
    Csv.Writes (tableHeader :: r.findings.map findingFields) (table r).toList := by
  rw [table, String.toList_ofList]
  exact recordText_writes (by decide) (findings_writes r.findings)

theorem read_table (r : Results) :
    Csv.read (table r) = some (tableHeader :: r.findings.map findingFields) :=
  Csv.read_of_writes _ _ (table_writes r)

/-! ## What a record tells -/

/-- A record tells a finding in eight fields; what the finding does not have is left empty. -/
structure Tells (record : List String) (f : Finding) : Prop where
  width : record.length = 8
  name : record[0]? = some f.name
  kind : record[1]? = some f.kind.manifestKey
  label : record[2]? = some f.verdict.label
  script : record[3]? = some ((f.entryScript.map Path.display).getD "")
  feature : record[4]? =
    some (((f.verdict.failure?.bind Failure.feature).map Feature.description).getD "")
  line : record[5]? = some (((f.verdict.failure?.bind Failure.line).map Nat.repr).getD "")
  column : record[6]? = some (((f.verdict.failure?.bind Failure.column).map Nat.repr).getD "")
  detail : record[7]? = some f.verdict.detail

theorem optionalNumber_eq (n : Option Nat) : optionalNumber n = (n.map Nat.repr).getD "" := by
  cases n <;> rfl

theorem findingFields_tells (f : Finding) : Tells (findingFields f) f := by
  obtain ⟨name, kind, script, verdict⟩ := f
  cases verdict with
  | conforming | unchecked reason => constructor <;> rfl
  | nonConforming e =>
    constructor
    case line => exact congrArg some (optionalNumber_eq e.line)
    case column => exact congrArg some (optionalNumber_eq e.column)
    all_goals rfl

/-- Whatever characters names, paths and messages have, the table of results takes apart into one
record of headings and, in order, one record for each finding that tells the finding: `Csv.read`
finds these, and every reader that follows the rules does. -/
theorem formatted_table (r : Results) (colors verbose quiet : Bool) :
    ∃ rows, List.Forall₂ Tells rows r.findings ∧
      let records := ["Dependency", "Kind", "Status", "Entry Script", "Feature", "Line", "Column",
        "Detail"] :: rows
      Csv.read (r.formatted .csv colors verbose quiet) = some records ∧
        ∀ reader, Csv.Reads reader →
          reader (r.formatted .csv colors verbose quiet) = some records := by
  refine ⟨r.findings.map findingFields, ?_, read_table r, fun reader h => h _ _ (table_writes r)⟩
  rw [List.forall₂_map_left_iff, List.forall₂_same]
  exact fun f _ => findingFields_tells f

end Report
end EditionCheck
