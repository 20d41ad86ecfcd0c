import EditionCheck.Proofs.Script.Lexing
import EditionCheck.Script.RegExp.Pattern
import EditionCheck.Script.Use

/-!
  What the scan for groups passes over.

  The scan of the body of a regular expression knows escapes, brackets and parentheses, and nothing
  else. Between two cursors it skips what the grammar reads as a quantifier, a name or an escape:
  the same groups are found from either cursor, inside a class and outside (`Skips`). There is one
  lemma for each reader of the grammar that takes such a piece; here are those for quantifiers,
  names and modifiers.
-/

namespace EditionCheck.Script.RegExp

/-- The characters that mean something to the scan. -/
def scanMarks : List Char := ['\\', '[', ']', '(']

/-- A character that means nothing to the scan. -/
def Neutral (c : Char) : Prop := c ∉ scanMarks

/-- A character of one byte that means nothing to the scan. -/
structure Plain (c : Char) : Prop where
  narrow : c.utf8Size = 1
  neutral : Neutral c

instance : DecidablePred Neutral := fun c => inferInstanceAs (Decidable (c ∉ scanMarks))

instance : DecidablePred Plain := fun c =>
  decidable_of_iff (c.utf8Size = 1 ∧ Neutral c) ⟨fun h => ⟨h.1, h.2⟩, fun h => ⟨h.1, h.2⟩⟩

/-- So many characters of one byte lead from a text to what follows them: plain ones, and
backslashes with the characters that they take along. -/
inductive Run : Nat → List Char → List Char → Prop where
  | nil {cs : List Char} : Run 0 cs cs
  | cons {c : Char} {cs rest : List Char} {k : Nat} (h : Plain c) (more : Run k cs rest) :
      Run (k + 1) (c :: cs) rest
  | escape {c : Char} {cs rest : List Char} {k : Nat} (h : c.utf8Size = 1) (more : Run k cs rest) :
      Run (k + 2) ('\\' :: c :: cs) rest

/-- The scan finds the same from either cursor, whether or not it is inside a class. -/
def Skips (at_ next : Cursor) : Prop :=
  ∀ inClass, newGroups inClass at_.offset at_.rest = newGroups inClass next.offset next.rest

/-! ## Rules -/

section Rules

variable {at_ next last : Cursor} {c : Char} {cs rest : List Char} {n k : Nat} {inClass : Bool}

/-- A predicate that none of the marks satisfies picks neutral characters. -/
theorem neutral_of {p : Char → Bool} (hp : scanMarks.any p = false) (h : p c = true) :
    Neutral c :=
  fun hc => List.any_eq_false.1 hp c hc h

theorem Neutral.ne_backslash (h : Neutral c) : c ≠ '\\' := fun e => h (e ▸ by decide)

theorem Neutral.ne_open (h : Neutral c) : c ≠ '[' := fun e => h (e ▸ by decide)

theorem Neutral.ne_close (h : Neutral c) : c ≠ ']' := fun e => h (e ▸ by decide)

theorem Neutral.ne_group (h : Neutral c) : c ≠ '(' := fun e => h (e ▸ by decide)

theorem newGroups_nil : newGroups inClass n [] = [] := by
  unfold newGroups
  rfl

theorem newGroups_escape :
    newGroups inClass n ('\\' :: c :: cs) = newGroups inClass (n + 1 + c.utf8Size) cs := by
  rw [newGroups]

/-- What starts with another character than a parenthesis opens no group. -/
theorem newGroup?_of_ne (h : c ≠ '(') : newGroup? (c :: cs) = none := by
  unfold newGroup?
  split <;> simp_all

/-- A character that is neither an escape nor opens a group may open or close a class. -/
theorem newGroups_char (hb : c ≠ '\\') (hg : c ≠ '(') :
    newGroups inClass n (c :: cs) =
      newGroups (if c = '[' then true else if c = ']' then false else inClass) (n + c.utf8Size)
        cs := by
  rw [newGroups]
  · rw [newGroup?_of_ne hg]
  · rintro _ _ rfl
    exact absurd rfl hb

theorem Skips.refl (at_ : Cursor) : Skips at_ at_ := fun _ => rfl

theorem Skips.trans (h : Skips at_ next) (h' : Skips next last) : Skips at_ last :=
  fun inClass => (h inClass).trans (h' inClass)

theorem Skips.char (h : Neutral c) : Skips ⟨c :: cs, n⟩ ⟨cs, n + c.utf8Size⟩ := by
  intro inClass
  rw [newGroups_char h.ne_backslash h.ne_group, if_neg h.ne_open, if_neg h.ne_close]

theorem Skips.escape : Skips ⟨'\\' :: c :: cs, n⟩ ⟨cs, n + 1 + c.utf8Size⟩ :=
  fun _ => newGroups_escape

theorem Skips.symm (h : Skips at_ next) : Skips next at_ := fun inClass => (h inClass).symm

/-- A backslash in front of a character that means nothing to the scan means nothing itself. -/
theorem Skips.backslash (h : Neutral c) : Skips ⟨'\\' :: c :: cs, n⟩ ⟨c :: cs, n + 1⟩ :=
  escape.trans (char h).symm

theorem Run.trans {j : Nat} {xs ys zs : List Char} (h : Run j xs ys)
    (h' : Run k ys zs) : Run (j + k) xs zs := by
  induction h with
  | nil =>
    rw [Nat.zero_add]
    exact h'
  | cons hc _ ih =>
    rw [Nat.add_right_comm]
    exact .cons hc (ih h')
  | escape hc _ ih =>
    rw [Nat.add_right_comm]
    exact .escape hc (ih h')

theorem Run.of_eq {j : Nat} (h : Run j cs rest) (e : j = k) : Run k cs rest := e ▸ h

theorem Run.takeWhile {p : Char → Bool} (hp : ∀ c, p c = true → Plain c) (cs : List Char) :
    Run (cs.takeWhile p).length cs (cs.dropWhile p) := by
  induction cs with
  | nil => exact .nil
  | cons c cs ih =>
    cases h : p c with
    | false =>
      rw [List.takeWhile_cons_of_neg (by simp [h]), List.dropWhile_cons_of_neg (by simp [h])]
      exact .nil
    | true =>
      rw [List.takeWhile_cons_of_pos h, List.dropWhile_cons_of_pos h]
      exact .cons (hp c h) ih

theorem Run.of_forall {pre : List Char} (h : ∀ c ∈ pre, Plain c) :
    Run pre.length (pre ++ rest) rest := by
  induction pre with
  | nil => exact .nil
  | cons c pre ih =>
    obtain ⟨hc, hpre⟩ := List.forall_mem_cons.1 h
    exact .cons hc (ih hpre)

theorem advance_cons (c : Char) (cs : List Char) (n k : Nat) :
    Cursor.advance ⟨c :: cs, n⟩ (k + 1) = Cursor.advance ⟨cs, n + 1⟩ k := by
  rw [Cursor.advance, Cursor.advance, List.drop_succ_cons, Nat.add_right_comm]
  rfl

/-- A run is passed over. -/
theorem Run.skips (h : Run k at_.rest rest) : Skips at_ (at_.advance k) := by
  obtain ⟨cs, n⟩ := at_
  change Run k cs rest at h
  induction h generalizing n with
  | nil => exact .refl _
  | @cons c cs rest k hc _ ih =>
    have hstep : Skips ⟨c :: cs, n⟩ ⟨cs, n + 1⟩ := by
      rw [← hc.narrow]
      exact .char hc.neutral
    rw [advance_cons]
    exact hstep.trans (ih (n + 1))
  | @escape c cs rest k hc _ ih =>
    have hstep : Skips ⟨'\\' :: c :: cs, n⟩ ⟨cs, n + 1 + c.utf8Size⟩ := .escape
    rw [hc] at hstep
    rw [advance_cons, advance_cons]
    exact hstep.trans (ih (n + 1 + 1))

theorem Skips.one (hc : Plain c) (h : at_.rest = c :: cs) : Skips at_ (at_.advance 1) := by
  have hrun : Run 1 at_.rest cs := h ▸ .cons hc .nil
  exact hrun.skips

end Rules

/-! ## Characters -/

section Characters

variable {c : Char}

theorem plain_of_isHexDigit (h : Text.isHexDigit c = true) : Plain c :=
  ⟨Text.utf8Size_of_isHexDigit h, neutral_of (by decide) h⟩

theorem plain_of_isDigit (h : c.isDigit = true) : Plain c :=
  ⟨Text.utf8Size_of_isDigit h, neutral_of (by decide) h⟩

theorem plain_of_isAlphanum (h : c.isAlphanum = true) : Plain c := by
  refine ⟨Lexeme.isFlag_narrow c ?_, neutral_of (by decide) h⟩
  rw [h]
  rfl

theorem plain_of_isPart (h : (c.isAlphanum || c == '_') = true) : Plain c := by
  rcases Bool.or_eq_true_iff.1 h with h | h
  · exact plain_of_isAlphanum h
  · cases beq_iff_eq.1 h
    decide

theorem neutral_of_isNameStart (h : Text.isNameStart c = true) : Neutral c :=
  neutral_of (by decide) h

theorem neutral_of_isNamePart (h : Text.isNamePart c = true) : Neutral c :=
  neutral_of (by decide) h

theorem plain_of_hexNumber? {cs : List Char} {n : Nat} (h : Text.hexNumber? cs = some n) :
    ∀ c ∈ cs, Plain c :=
  fun c hc => plain_of_isHexDigit (Text.isHexDigit_of_hexNumber? h c hc)

end Characters

/-! ## Quantifiers -/

section Quantifiers

variable {at_ next : Cursor} {m : Mode}

theorem lazy_skips (at_ : Cursor) : Skips at_ (lazy at_) := by
  unfold lazy
  split
  · next rest h => exact .one (by decide) h
  · exact .refl at_

theorem digits_run (cs : List Char) :
    Run (cs.takeWhile Char.isDigit).length cs (cs.dropWhile Char.isDigit) :=
  .takeWhile (fun _ => plain_of_isDigit) cs

/-- What stands in braces behind a term. -/
theorem braces?_run {cs rest : List Char} {low width : Nat} {high : Option Nat}
    (h : braces? cs = some (low, high, width, rest)) : Run width cs rest := by
  unfold braces? at h
  split at h
  · next cs =>
    have hlow := digits_run cs
    dsimp only at h
    split at h
    · cases h
    split at h
    · next rest' hdrop =>
      cases h
      rw [hdrop] at hlow
      exact .cons (by decide) (hlow.trans (.cons (by decide) .nil))
    · next cs' hdrop =>
      have hhigh := digits_run cs'
      rw [hdrop] at hlow
      split at h
      · next rest' hdrop' =>
        cases h
        rw [hdrop'] at hhigh
        have hrun := hlow.trans (.cons (by decide) (hhigh.trans (.cons (by decide) .nil)))
        exact (Run.cons (by decide) hrun).of_eq (by omega)
      · cases h
    · cases h
  · cases h

theorem quantifier_skips {q : Quantifiable} (h : quantifier m q at_ = some next) :
    Skips at_ next := by
  have hmark : ∀ {c : Char} {cs : List Char}, Plain c → at_.rest = c :: cs →
      Skips at_ (lazy (at_.advance 1)) :=
    fun hc hrest => (Skips.one hc hrest).trans (lazy_skips _)
  unfold quantifier at h
  dsimp only at h
  split at h
  · next hrest =>
    cases (Option.ite_none_right_eq_some.1 h).2
    exact hmark (by decide) hrest
  · next hrest =>
    cases (Option.ite_none_right_eq_some.1 h).2
    exact hmark (by decide) hrest
  · next hrest =>
    cases (Option.ite_none_right_eq_some.1 h).2
    exact hmark (by decide) hrest
  · split at h
    · next low high width rest hbraces =>
      cases (Option.ite_none_right_eq_some.1 h).2
      exact (braces?_run hbraces).skips.trans (lazy_skips _)
    · cases h
      exact .refl at_

end Quantifiers

/-! ## Code points and names -/

section Names

variable {at_ next : Cursor} {m : Mode}

/-- What writes a code point behind `\u`. -/
theorem codePointEscape?_run {cs rest : List Char} {n width : Nat}
    (h : codePointEscape? cs = some (n, width, rest)) : Run width cs rest := by
  unfold codePointEscape? at h
  split at h
  · next cs =>
    have hdigits : Run (cs.takeWhile Text.isHexDigit).length cs
        (cs.dropWhile Text.isHexDigit) := .takeWhile (fun _ => plain_of_isHexDigit) cs
    dsimp only at h
    split at h
    · next hrest _ =>
      split at h
      · cases h
        rw [hrest] at hdigits
        exact .cons (by decide) (hdigits.trans (.cons (by decide) .nil))
      · cases h
    · cases h
  · next a b c d rest' _ =>
    obtain ⟨_, hn, heq⟩ := Option.map_eq_some_iff.1 h
    cases heq
    exact .of_forall (plain_of_hexNumber? hn)
  · cases h

/-- A name goes on behind a character that may stand in names. -/
theorem add_eq_some {acc : List Char} {c : Char} {x : Option (String × Cursor)}
    {r : String × Cursor}
    (h : (if (if acc.isEmpty then Text.isNameStart c else Text.isNamePart c) then x else none) =
      some r) : Neutral c ∧ x = some r := by
  obtain ⟨hc, hx⟩ := Option.ite_none_right_eq_some.1 h
  refine ⟨?_, hx⟩
  split at hc
  · exact neutral_of_isNameStart hc
  · exact neutral_of_isNamePart hc

theorem groupName_go_skips {fuel : Nat} {acc : List Char} {name : String}
    (h : groupName.go fuel acc at_ = some (name, next)) : Skips at_ next := by
  induction fuel generalizing acc at_ with
  | zero => cases h
  | succ fuel ih =>
    unfold groupName.go at h
    dsimp only at h
    split at h
    · next rest hrest =>
      cases (Option.ite_none_left_eq_some.1 h).2
      exact .one (by decide) hrest
    -- one escape, and one of two halves
    · next cs hrest =>
      split at h
      · next high width rest hhigh =>
        have hfirst : Run (2 + width) at_.rest rest := by
          rw [hrest, Nat.add_comm]
          exact .escape rfl (codePointEscape?_run hhigh)
        split at h
        · exact hfirst.skips.trans (ih (add_eq_some h).2)
        · next cs' _ =>
          split at h
          · next low width' rest' hlow =>
            have hrun : Run (4 + width + width') at_.rest rest' :=
              (hfirst.trans (.escape rfl (codePointEscape?_run hlow))).of_eq (by omega)
            obtain ⟨_, hadd⟩ := Option.ite_none_right_eq_some.1 h
            exact hrun.skips.trans (ih (add_eq_some hadd).2)
          · cases h
        · cases h
      · cases h
    · next c cs _ hrest =>
      obtain ⟨hc, hgo⟩ := add_eq_some h
      refine Skips.trans ?_ (ih hgo)
      intro inClass
      rw [hrest]
      exact Skips.char hc inClass
    · cases h

theorem groupName_skips {fuel : Nat} {name : String} (h : groupName fuel at_ = some (name, next)) :
    Skips at_ next := by
  unfold groupName at h
  split at h
  · next cs hrest => exact (Skips.one (by decide) hrest).trans (groupName_go_skips h)
  · cases h

/-- Flags in front of a colon, in one group or in two. -/
theorem modifiers_skips (h : modifiers at_ = some next) : Skips at_ next := by
  have hflag : ∀ c : Char, (c == 'i' || c == 'm' || c == 's') = true → Plain c := by
    intro c hc
    simp only [Bool.or_eq_true, beq_iff_eq] at hc
    rcases hc with (rfl | rfl) | rfl <;> decide
  have hplus := Run.takeWhile hflag at_.rest
  unfold modifiers at h
  dsimp only at h
  split at h
  · next rest hdrop =>
    cases (Option.ite_none_right_eq_some.1 h).2
    rw [hdrop] at hplus
    exact (hplus.trans (.cons (by decide) .nil)).skips
  · next cs hdrop =>
    have hminus := Run.takeWhile hflag cs
    split at h
    · next rest hdrop' =>
      cases (Option.ite_none_right_eq_some.1 h).2
      rw [hdrop] at hplus
      rw [hdrop'] at hminus
      have hrun := hplus.trans (.cons (by decide) (hminus.trans (.cons (by decide) .nil)))
      rw [List.length_append]
      exact (hrun.of_eq (by omega)).skips
    · cases h
  · cases h

end Names

end EditionCheck.Script.RegExp
