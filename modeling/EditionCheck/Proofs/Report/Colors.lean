import EditionCheck.Report.Console
import EditionCheck.Report.Format

/-!
  Colours never change what a text says.

  A terminal takes `ESC [`, what follows and the next `m` as one sequence; `uncolored` leaves these
  out. A painted text reads as a plain one if it is that text without its sequences, whatever stands
  behind it (`ReadsAs`). That holds of a painted piece whose text has no escape character of its own
  (`Style.readsAs_paint`), and it survives putting texts together (`ReadsAs.append`,
  `ReadsAs.join`). The two texts of the same results are put together from such pieces
  (`Report.readsAs_summaryText`): names, paths and messages, which come from outside, and words and
  numbers, which have no escape character.
-/

namespace EditionCheck

/-! ## Sequences -/

/-- How many characters at the start of a text a terminal takes as one sequence: `ESC [` and what
follows, up to and with the first `m`. It is zero where no sequence starts. -/
def sequenceLength : List Char → Nat
  | '\x1b' :: '[' :: cs => if 'm' ∈ cs then (cs.takeWhile (· ≠ 'm')).length + 3 else 0
  | _ => 0

/-- The text without its sequences, where `n` characters of one are still to be skipped. -/
def dropSequences : Nat → List Char → List Char
  | _, [] => []
  | n + 1, _ :: cs => dropSequences n cs
  | 0, c :: cs =>
    match sequenceLength (c :: cs) with
    | 0 => c :: dropSequences 0 cs
    | n + 1 => dropSequences n cs

/-- A text without its sequences. -/
def uncolored (s : String) : String := String.ofList (dropSequences 0 s.toList)

theorem sequenceLength_of_ne {c : Char} (h : c ≠ '\x1b') (cs : List Char) :
    sequenceLength (c :: cs) = 0 := by
  unfold sequenceLength
  split
  · next heq => exact absurd (List.cons.inj heq).1 h
  · rfl

/-- Characters that are to be skipped go. -/
theorem dropSequences_length_append (xs ys : List Char) :
    dropSequences xs.length (xs ++ ys) = dropSequences 0 ys := by
  induction xs with
  | nil => rfl
  | cons x xs ih => exact ih

/-- What has no escape character stays. -/
theorem dropSequences_append {xs : List Char} (h : '\x1b' ∉ xs) (ys : List Char) :
    dropSequences 0 (xs ++ ys) = xs ++ dropSequences 0 ys := by
  induction xs with
  | nil => rfl
  | cons c cs ih =>
    simp only [List.mem_cons, not_or] at h
    obtain ⟨hc, hcs⟩ := h
    rw [List.cons_append, dropSequences, sequenceLength_of_ne (Ne.symm hc), ih hcs,
      List.cons_append]

/-- A sequence goes, whatever stands behind it. -/
theorem dropSequences_sequence {ps : List Char} (h : 'm' ∉ ps) (ys : List Char) :
    dropSequences 0 ('\x1b' :: '[' :: (ps ++ 'm' :: ys)) = dropSequences 0 ys := by
  have hps : ∀ c ∈ ps, decide (c ≠ 'm') = true := fun c hc => decide_eq_true fun e => h (e ▸ hc)
  have hlength : sequenceLength ('\x1b' :: '[' :: (ps ++ 'm' :: ys)) = ps.length + 3 := by
    rw [sequenceLength, if_pos (by simp), List.takeWhile_append_of_pos hps]
    simp
  have hskipped : dropSequences (ps.length + 2) ('[' :: (ps ++ 'm' :: ys)) =
      dropSequences 0 ys := by
    have hall : '[' :: (ps ++ 'm' :: ys) = '[' :: (ps ++ ['m']) ++ ys := by simp
    have hcount : ps.length + 2 = ('[' :: (ps ++ ['m'])).length := by simp
    rw [hall, hcount, dropSequences_length_append]
  rw [dropSequences, hlength]
  exact hskipped

/-! ## Texts without escape characters -/

/-- The text has no escape character. -/
def NoEscape (s : String) : Prop := '\x1b' ∉ s.toList

instance (s : String) : Decidable (NoEscape s) := inferInstanceAs (Decidable (_ ∉ _))

theorem NoEscape.append {s t : String} (hs : NoEscape s) (ht : NoEscape t) : NoEscape (s ++ t) := by
  unfold NoEscape
  rw [String.toList_append, List.mem_append]
  exact not_or.2 ⟨hs, ht⟩

theorem noEscape_ofList {cs : List Char} (h : ∀ c ∈ cs, c ≠ '\x1b') :
    NoEscape (String.ofList cs) := by
  unfold NoEscape
  rw [String.toList_ofList]
  exact fun hmem => h _ hmem rfl

theorem ne_escape_of_mem_toDigits {n : Nat} {c : Char} (h : c ∈ Nat.toDigits 10 n) : c ≠ '\x1b' :=
  Text.ne_of_isDigit (Nat.isDigit_of_mem_toDigits (by decide) (by decide) h) rfl

theorem noEscape_toString (n : Nat) : NoEscape (toString n) :=
  noEscape_ofList fun _ => ne_escape_of_mem_toDigits

/-- A span of time is shown with digits, a point and letters. -/
theorem Duration.noEscape_display (d : Duration) : NoEscape d.display := by
  have hpadded : ∀ width n, ∀ c ∈ Decimal.padded width n, c ≠ '\x1b' := by
    intro width n c hc
    rcases List.mem_append.1 hc with hc | hc
    · rw [List.eq_of_mem_replicate hc]
      decide
    · exact ne_escape_of_mem_toDigits hc
  unfold display
  split
  · exact (noEscape_toString _).append (by decide)
  · refine noEscape_ofList fun c hc => ?_
    simp only [Decimal.fixedText, Decimal.withPoint, List.mem_append, List.mem_cons] at hc
    rcases hc with (hc | rfl | hc) | rfl | hc
    · exact ne_escape_of_mem_toDigits hc
    · decide
    · exact hpadded _ _ c hc
    · decide
    · cases hc

theorem Edition.noEscape_label (v : Edition) : NoEscape v.label := by
  cases v <;> decide

/-! ## Painted texts -/

/-- Without its sequences the first text is the second, whatever stands behind it. -/
def ReadsAs (painted plain : String) : Prop :=
  ∀ ys, dropSequences 0 (painted.toList ++ ys) = plain.toList ++ dropSequences 0 ys

theorem NoEscape.readsAs_self {s : String} (h : NoEscape s) : ReadsAs s s := dropSequences_append h

theorem ReadsAs.append {s s' t t' : String} (hs : ReadsAs s s') (ht : ReadsAs t t') :
    ReadsAs (s ++ t) (s' ++ t') := by
  intro ys
  rw [String.toList_append, List.append_assoc, hs, ht, String.toList_append, List.append_assoc]

theorem ReadsAs.join {α : Type} {f g : α → String} {xs : List α}
    (h : ∀ x ∈ xs, ReadsAs (f x) (g x)) :
    ReadsAs (String.join (xs.map f)) (String.join (xs.map g)) := by
  induction xs with
  | nil => exact fun _ => rfl
  | cons x xs ih =>
    obtain ⟨hx, hxs⟩ := List.forall_mem_cons.1 h
    rw [List.map_cons, List.map_cons, String.join_cons, String.join_cons]
    exact hx.append (ih hxs)

theorem ReadsAs.uncolored_eq {s t : String} (h : ReadsAs s t) : uncolored s = t := by
  have hall := h []
  rw [List.append_nil, dropSequences, List.append_nil] at hall
  rw [uncolored, hall, String.ofList_toList]

/-- The parameters of a style do not end its sequence early. -/
theorem Style.not_mem_code (style : Style) : 'm' ∉ style.code.toList := by
  cases style <;> decide

/-- A painted text has one sequence in front and one behind. -/
theorem Style.readsAs_paint (style : Style) {s : String} (h : NoEscape s) :
    ReadsAs (style.paint s) s := by
  intro ys
  have hpainted : (style.paint s).toList ++ ys =
      '\x1b' :: '[' :: (style.code.toList ++ 'm' ::
        (s.toList ++ '\x1b' :: '[' :: (['0'] ++ 'm' :: ys))) := by
    simp [paint]
  rw [hpainted, dropSequences_sequence style.not_mem_code, dropSequences_append h,
    dropSequences_sequence (by decide)]

/-! ## Names, paths and messages -/

/-- The message, or the pattern, that a reason quotes. -/
def Reason.texts : Reason → List String
  | manifestUnreadable m => [m]
  | noEntryScript => []
  | scriptUnreadable m => [m]
  | ignored p => [p]

/-- The message of an outcome. -/
def Verdict.texts : Verdict → List String
  | conforming => []
  | nonConforming failure => [failure.message]
  | unchecked reason => reason.texts

/-- The name, the path and the message of a finding. -/
def Finding.texts (f : Finding) : List String :=
  f.name :: (f.entryScript.map Path.display).toList ++ f.verdict.texts

/-- The names, paths and messages in results. -/
def Results.texts (r : Results) : List String :=
  r.project.display :: r.rootError.toList ++ r.findings.flatMap Finding.texts

theorem Reason.noEscape_describe {r : Reason} (h : ∀ s ∈ r.texts, NoEscape s) :
    NoEscape r.describe := by
  cases r with
  | manifestUnreadable m => exact NoEscape.append (by decide) (h m (by simp [texts]))
  | noEntryScript => decide
  | scriptUnreadable m => exact NoEscape.append (by decide) (h m (by simp [texts]))
  | ignored p => exact (NoEscape.append (by decide) (h p (by simp [texts]))).append (by decide)

theorem Failure.noEscape_render {e : Failure} (h : NoEscape e.message) : NoEscape e.render := by
  unfold render
  split
  · next line column _ _ =>
    have hline : NoEscape (e.message ++ " at " ++ toString line) :=
      (h.append (by decide)).append (noEscape_toString line)
    exact (hline.append (by decide)).append (noEscape_toString column)
  · exact (h.append (by decide)).append (noEscape_toString _)
  · exact h

/-! ## The summary -/

namespace Report

theorem noEscape_remark {v : Verdict} (h : ∀ s ∈ v.texts, NoEscape s) : NoEscape (remark v) := by
  cases v with
  | conforming => decide
  | nonConforming failure =>
    have hmessage : NoEscape failure.message := h _ (by simp [Verdict.texts])
    exact NoEscape.append (by decide) (Failure.noEscape_render hmessage)
  | unchecked reason => exact NoEscape.append (by decide) (Reason.noEscape_describe h)

theorem readsAs_mark (v : Verdict) : ReadsAs (mark true v) (mark false v) := by
  cases v <;> exact Style.readsAs_paint _ (by decide)

theorem readsAs_findingText (verbose : Bool) {f : Finding} (h : ∀ s ∈ f.texts, NoEscape s) :
    ReadsAs (findingText true verbose f) (findingText false verbose f) := by
  have hname : NoEscape f.name := h _ (by simp [Finding.texts])
  have hremark : NoEscape (remark f.verdict) :=
    noEscape_remark fun s hs => h s (by simp [Finding.texts, hs])
  have hopen := (NoEscape.readsAs_self (s := "  [") (by decide)).append (readsAs_mark f.verdict)
  have hmark := hopen.append (NoEscape.readsAs_self (s := "] ") (by decide))
  have hline := (hmark.append hname.readsAs_self).append hremark.readsAs_self
  unfold findingText
  refine (hline.append ?_).append (NoEscape.readsAs_self (by decide))
  split
  · next p hp =>
    have hpath : NoEscape p.display := h _ (by simp [Finding.texts, hp])
    exact (NoEscape.readsAs_self (by decide)).append (Style.dimmed.readsAs_paint hpath)
  · exact NoEscape.readsAs_self (by decide)

theorem noEscape_countLines (s : Summary) : NoEscape (countLines s) := by
  have hcount : ∀ (above what : String) (n : Nat), NoEscape above → NoEscape what →
      NoEscape (above ++ what ++ toString n ++ "\n") :=
    fun _ _ n habove hwhat =>
      ((habove.append hwhat).append (noEscape_toString n)).append (by decide)
  have htotal : NoEscape ("Dependencies checked: " ++ toString s.total ++ "\n") :=
    (NoEscape.append (by decide) (noEscape_toString s.total)).append (by decide)
  have hconforming := hcount _ "Conforming: " s.conforming htotal (by decide)
  have hfailing := hcount _ "Non-conforming: " s.nonConforming hconforming (by decide)
  have hunchecked := hcount _ "Unchecked: " s.unchecked hfailing (by decide)
  exact ((hunchecked.append (by decide)).append s.duration.noEscape_display).append (by decide)

theorem readsAs_closing (verbose : Bool) {r : Results} (h : ∀ s ∈ r.texts, NoEscape s) :
    ReadsAs (closing true verbose r) (closing false verbose r) := by
  have hlisted : ∀ f ∈ listed verbose r.findings,
      ReadsAs (findingText true verbose f) (findingText false verbose f) := by
    intro f hf
    have hmem : f ∈ r.findings := by
      unfold listed at hf
      split at hf
      · exact hf
      · exact (List.mem_filter.1 hf).1
    refine readsAs_findingText verbose fun s hs => h s ?_
    exact List.mem_append.2 (.inr (List.mem_flatMap.2 ⟨f, hmem, hs⟩))
  have hlabel := r.target.noEscape_label
  unfold closing
  dsimp only
  split
  · refine ReadsAs.append ?_ (ReadsAs.join hlisted)
    split <;> exact NoEscape.readsAs_self (by decide)
  split
  · exact Style.green.readsAs_paint ((NoEscape.append (by decide) hlabel).append (by decide))
  · exact NoEscape.readsAs_self (by decide)

theorem readsAs_heading (target : Edition) {project : Path} (h : NoEscape project.display) :
    ReadsAs (heading true target project) (heading false target project) := by
  have htitle : NoEscape ("Dependency Check Summary (" ++ target.label ++ ")") :=
    (NoEscape.append (by decide) target.noEscape_label).append (by decide)
  have htop := (Style.boldBlue.readsAs_paint htitle).append
    (NoEscape.readsAs_self (s := "\n\n") (by decide))
  have hlabel := htop.append (NoEscape.readsAs_self (s := "Project: ") (by decide))
  exact (hlabel.append h.readsAs_self).append (NoEscape.readsAs_self (by decide))

theorem readsAs_summaryText (verbose : Bool) {r : Results} (h : ∀ s ∈ r.texts, NoEscape s) :
    ReadsAs (summaryText true verbose r) (summaryText false verbose r) := by
  have hheading := readsAs_heading r.target (h r.project.display (by simp [Results.texts]))
  unfold summaryText
  split
  · next e he =>
    have herror : NoEscape ("Could not load package.json: " ++ e) :=
      NoEscape.append (by decide) (h e (by simp [Results.texts, he]))
    have hnewline : ReadsAs "\n" "\n" := NoEscape.readsAs_self (by decide)
    exact hheading.append ((hnewline.append (Style.boldRed.readsAs_paint herror)).append hnewline)
  · exact (hheading.append (noEscape_countLines _).readsAs_self).append (readsAs_closing verbose h)

end Report

/-! ## Messages on the console -/

theorem Diagnostic.readsAs_rendered {d : Diagnostic} (h : NoEscape d.message) :
    ReadsAs (d.rendered true) (d.rendered false) := by
  have hmarker : NoEscape d.level.marker := by cases d.level <;> decide
  exact ((Style.bold.readsAs_paint hmarker).append (NoEscape.readsAs_self (by decide))).append
    (d.level.style.readsAs_paint h)

/-- Whatever the results and however long their list, and in both forms, the text with colours is
the text without them once its sequences are taken out, as long as no name, path or message has an
escape character. The same holds of a message on the console. -/
theorem uncolored_text :
    (∀ (r : Results) (verbose : Bool), (∀ s ∈ r.texts, NoEscape s) →
      uncolored (r.text true verbose false) = r.text false verbose false) ∧
    ∀ d : Diagnostic, NoEscape d.message → uncolored (d.rendered true) = d.rendered false :=
  ⟨fun _ verbose h => (Report.readsAs_summaryText verbose h).uncolored_eq,
    fun _ h => (Diagnostic.readsAs_rendered h).uncolored_eq⟩

/-- Results and a message with parts that would belong to a sequence if an escape character stood in
front of them. -/
theorem uncolored_text_brackets :
    let r : Results := ⟨⟨"/p".toList⟩, .es5, ⟨["[0m"]⟩,
      [⟨"[0m", .production, some ⟨"/p/a.js".toList⟩, .nonConforming ⟨"let", none, some 1, some 2⟩⟩,
        ⟨"b", .production, none, .unchecked (.ignored "b*")⟩],
      ⟨2, 0, 1, 1, .ofMillis 5⟩, none, default⟩
    let d : Diagnostic := .ofWarning "[31mcareful"
    ((∀ s ∈ r.texts, NoEscape s) ∧ NoEscape d.message) ∧
      (r.text true true false ≠ r.text false true false ∧
        uncolored (r.text true true false) = r.text false true false) ∧
      d.rendered true ≠ d.rendered false ∧ uncolored (d.rendered true) = d.rendered false := by
  intro r d
  have hresults : ∀ s ∈ r.texts, NoEscape s := by decide
  have hmessage : NoEscape d.message := by decide
  have hpainted : r.text true true false ≠ r.text false true false := by decide +kernel
  have hstyled : d.rendered true ≠ d.rendered false := by decide +kernel
  exact ⟨⟨hresults, hmessage⟩, ⟨hpainted, uncolored_text.1 r true hresults⟩, hstyled,
    uncolored_text.2 d hmessage⟩

end EditionCheck
