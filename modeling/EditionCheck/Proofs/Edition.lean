import EditionCheck.Edition
import EditionCheck.Proofs.Text.Trim

/-!
  The texts that name an edition.

  An edition goes by its number and by its year, each with one `es` in front or without
  (`spellings`). A text names the edition if it is one of these once it is trimmed and its letters
  are lowered, and no other text does (`ofText_eq_ok`). So what stands around a text and the case of
  its letters do not matter, and the labels of editions and their names in data files are read as
  they should be (`ofText_reads`).
-/

namespace EditionCheck.Edition

open Text (Blank)

/-- The number of an edition: the fifth was followed by one every year from 2015 on. -/
def number : Edition → Nat
  | es5 => 5
  | v => v.year - 2009

/-- The texts that name an edition, trimmed and in lower case. -/
def spellings (v : Edition) : List String :=
  [toString v.number, "es" ++ toString v.number, toString v.year, "es" ++ toString v.year]

/-- A text without the white space around it, its ASCII letters in lower case. -/
def lowered (text : String) : String := String.ofList ((Text.trim text.toList).map Char.toLower)

/-! ## Reading -/

theorem ofNumeral?_eq_some {s : String} {v : Edition} :
    ofNumeral? s = some v ↔ s = toString v.number ∨ s = toString v.year := by
  constructor
  · intro h
    unfold ofNumeral? at h
    split at h <;> cases h <;> decide
  · rintro (rfl | rfl) <;> cases v <;> decide

/-- What is left without the mark was there before, behind a mark or without one. -/
theorem dropMark_eq {n : List Char} (hn : n.head? ≠ some 'e') (cs : List Char) :
    dropMark cs = n ↔ cs = n ∨ cs = 'e' :: 's' :: n := by
  constructor
  · rintro rfl
    fun_cases dropMark cs with
    | case1 rest => exact .inr rfl
    | case2 => exact .inl rfl
  · rintro (rfl | rfl)
    · fun_cases dropMark cs with
      | case1 rest => exact absurd rfl hn
      | case2 => rfl
    · rfl

theorem numeral_eq {text n : String} (hn : n.toList.head? ≠ some 'e') :
    numeral text = n ↔ lowered text = n ∨ lowered text = "es" ++ n := by
  rw [← String.toList_inj, ← String.toList_inj, ← String.toList_inj, numeral, lowered,
    String.toList_ofList, String.toList_ofList, String.toList_append]
  exact dropMark_eq hn _

/-- A text names an edition exactly if it is one of its spellings, once trimmed and lowered. -/
theorem ofText_eq_ok {text : String} {v : Edition} :
    ofText text = .ok v ↔ lowered text ∈ v.spellings := by
  have hnumber : (toString v.number).toList.head? ≠ some 'e' := by cases v <;> decide
  have hyear : (toString v.year).toList.head? ≠ some 'e' := by cases v <;> decide
  have hread : ofText text = .ok v ↔ ofNumeral? (numeral text) = some v := by
    unfold ofText
    cases ofNumeral? (numeral text) <;> simp
  rw [hread, ofNumeral?_eq_some, numeral_eq hnumber, numeral_eq hyear]
  simp only [spellings, List.mem_cons, List.not_mem_nil, or_false, or_assoc]

/-- Any other text is refused as it was given. -/
theorem ofText_eq_error {text : String} {e : Unknown} :
    ofText text = .error e ↔ (∀ v : Edition, lowered text ∉ v.spellings) ∧ e.text = text := by
  simp only [← ofText_eq_ok]
  unfold ofText
  cases ofNumeral? (numeral text) with
  | some v => simp
  | none =>
    cases e
    simp [eq_comm]

/-! ## Padding and case -/

/-- Two texts are the same but for the white space around them and the case of their letters. -/
def Alike (s t : String) : Prop :=
  ∃ before core after before' core' after', Blank before ∧ Blank after ∧ Blank before' ∧
    Blank after' ∧ s.toList = before ++ core ++ after ∧ t.toList = before' ++ core' ++ after' ∧
    core.map Char.toLower = core'.map Char.toLower

theorem Alike.lowered_eq {s t : String} (h : Alike s t) : lowered s = lowered t := by
  obtain ⟨before, core, after, before', core', after', hb, ha, hb', ha', hs, ht, hcore⟩ := h
  rw [lowered, lowered, hs, ht, Text.trim_padded hb ha, Text.trim_padded hb' ha',
    ← Text.trim_map_toLower, ← Text.trim_map_toLower, hcore]

/-- Texts that are alike are read alike. -/
theorem Alike.ofText_eq {s t : String} (h : Alike s t) :
    (ofText s).toOption = (ofText t).toOption := by
  have hread (u : String) : (ofText u).toOption = ofNumeral? (numeral u) := by
    unfold ofText
    cases ofNumeral? (numeral u) <;> rfl
  have hlowered : (Text.trim s.toList).map Char.toLower = (Text.trim t.toList).map Char.toLower :=
    String.ofList_injective h.lowered_eq
  rw [hread, hread, numeral, hlowered, ← numeral]

/-- A label in whatever case, with whatever white space around it, is read as its edition. -/
theorem Alike.ofText_label {s : String} {v : Edition} (h : Alike s v.label) :
    ofText s = .ok v := by
  have hlabel : lowered v.label ∈ v.spellings := by cases v <;> decide
  rwa [← h.lowered_eq, ← ofText_eq_ok] at hlabel

theorem ofText_of_ofKey? {name : String} {v : Edition} (h : ofKey? name = some v) :
    ofText name = .ok v := by
  rw [ofText_eq_ok]
  unfold ofKey? at h
  split at h <;> cases h <;> decide

/-- A text is read as an edition exactly if, without the white space around it and in lower case, it
is the number or the year of that edition, with one `es` in front or without; all other texts are
refused, and the message quotes them as they are. Texts that differ only in white space around them
and in the case of ASCII letters are read alike. What is like the label of an edition in this way is
read as that edition, and so is each of its names in data files. -/
theorem ofText_reads (text : String) :
    (∀ v, ofText text = .ok v ↔ lowered text ∈ v.spellings) ∧
    (∀ e, ofText text = .error e ↔ (∀ v : Edition, lowered text ∉ v.spellings) ∧ e.text = text) ∧
    (∀ e, ofText text = .error e → e.message = "Invalid ECMAScript target: " ++ text) ∧
    (∀ text', Alike text text' → (ofText text).toOption = (ofText text').toOption) ∧
    (∀ v, Alike text v.label → ofText text = .ok v) ∧
    ∀ v, ofKey? text = some v → ofText text = .ok v := by
  have hmessage (e : Unknown) (he : ofText text = .error e) :
      e.message = "Invalid ECMAScript target: " ++ text := by
    have htext : e.text = text := (ofText_eq_error.1 he).2
    exact congrArg ("Invalid ECMAScript target: " ++ ·) htext
  exact ⟨fun v => ofText_eq_ok, fun e => ofText_eq_error, hmessage, fun _ h => h.ofText_eq,
    fun _ h => h.ofText_label, fun _ h => ofText_of_ofKey? h⟩

/-- A label in mixed case with an ideographic space in front and a tab behind; a name in data files
that is a number; a text with two marks, which no edition has. -/
theorem ofText_reads_padded :
    let text := "\u3000eS2017\t"
    (Alike text (label es2017) ∧ ofText text = .ok es2017) ∧
      (Alike text "es2017" ∧ (ofText text).toOption = (ofText "es2017").toOption) ∧
      (ofKey? "es6" = some es2015 ∧ ofText "es6" = .ok es2015) ∧
      (ofText "eses6" = .error ⟨"eses6"⟩ ∧
        Unknown.message ⟨"eses6"⟩ = "Invalid ECMAScript target: eses6") := by
  intro text
  have halike (plain : String) (h : plain.toList.map Char.toLower = "es2017".toList) :
      Alike text plain :=
    ⟨['\u3000'], "eS2017".toList, ['\t'], [], plain.toList, [], by decide, by decide, by decide,
      by decide, by decide, by simp, by rw [h]; decide⟩
  have hlabel : Alike text (label es2017) := halike _ (by decide)
  have hlower : Alike text "es2017" := halike _ (by decide)
  obtain ⟨-, -, -, hpadded, hlabels, -⟩ := ofText_reads text
  obtain ⟨-, -, -, -, -, hkeys⟩ := ofText_reads "es6"
  obtain ⟨-, hrefused, hquoted, -⟩ := ofText_reads "eses6"
  have hnone : ∀ v : Edition, lowered "eses6" ∉ v.spellings := by
    intro v
    cases v <;> decide
  have herror : ofText "eses6" = .error ⟨"eses6"⟩ := (hrefused ⟨"eses6"⟩).2 ⟨hnone, rfl⟩
  have hkey : ofKey? "es6" = some es2015 := by decide
  exact ⟨⟨hlabel, hlabels _ hlabel⟩, ⟨hlower, hpadded _ hlower⟩, ⟨hkey, hkeys _ hkey⟩, herror,
    hquoted _ herror⟩

end EditionCheck.Edition
