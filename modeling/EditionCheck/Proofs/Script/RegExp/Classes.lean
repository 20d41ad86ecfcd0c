import EditionCheck.Proofs.Script.RegExp.Escaping

/-!
  Classes in a regular expression and the scan for groups.

  The scan only knows whether it is inside a class, so a class is the part of a pattern where it can
  go wrong. In a plain class a parenthesis may stand for itself, but no bracket ends the class too
  early: the scan is inside up to the bracket that the grammar stops at (`classRest_outside`). A set
  may hold sets, and behind the first bracket that closes one the scan takes itself to be outside;
  but there a parenthesis never stands for itself, so what the scan believes does not matter, and
  the last bracket puts it right (`setContents_leaves`). Either way it is outside again behind the
  whole class (`characterClass_outside`).
-/

namespace EditionCheck.Script.RegExp

variable {at_ next last : Cursor} {m : Mode} {fuel : Nat} {c : Char} {cs : List Char} {n v : Nat}

/-! ## Brackets -/

/-- Inside a class a parenthesis means nothing. -/
theorem newGroups_inside (hb : c ≠ '\\') (hc : c ≠ ']') :
    newGroups true n (c :: cs) = newGroups true (n + c.utf8Size) cs := by
  rw [newGroups]
  · have hin : (if c = '[' then true else if c = ']' then false else true) = true := by simp [hc]
    simp only [hin]
    split <;> rfl
  · rintro _ _ rfl
    exact absurd rfl hb

/-- A closing bracket leads outside. -/
theorem newGroups_close {inClass : Bool} :
    newGroups inClass n (']' :: cs) = newGroups false (n + 1) cs :=
  newGroups_char (by decide) (by decide)

/-- An opening bracket leads inside, with the sign of a complement behind it. -/
theorem newGroups_open (inClass : Bool) (cs : List Char) (n : Nat) :
    let inside := Cursor.advance ⟨'[' :: cs, n⟩ (if cs.head? == some '^' then 2 else 1)
    newGroups inClass n ('[' :: cs) = newGroups true inside.offset inside.rest := by
  have hopen : newGroups inClass n ('[' :: cs) = newGroups true (n + 1) cs :=
    newGroups_char (by decide) (by decide)
  refine hopen.trans ?_
  split
  · next hnegated =>
    obtain ⟨cs', rfl⟩ := List.head?_eq_some_iff.1 (beq_iff_eq.1 hnegated)
    have hcaret : Skips ⟨'^' :: cs', n + 1⟩ (Cursor.advance ⟨'^' :: cs', n + 1⟩ 1) :=
      .one (by decide) rfl
    exact hcaret true
  · rfl

/-! ## Plain classes -/

/-- An atom of a class that is no bracket leaves the scan inside. -/
theorem classAtom_inside {a : ClassAtom} (h : classAtom m ⟨c :: cs, n⟩ = some (a, next))
    (hc : c ≠ ']') : newGroups true n (c :: cs) = newGroups true next.offset next.rest := by
  unfold classAtom at h
  dsimp only at h
  split at h
  · next heq =>
    cases heq
    exact classAtomEscape_skips h true
  · next hb heq =>
    cases heq
    cases h
    exact newGroups_inside hb hc
  · next heq => cases heq

/-- The rest of a class leads from the inside out. -/
theorem classRest_outside {before : Option ClassAtom} (h : classRest m fuel before at_ = some next) :
    newGroups true at_.offset at_.rest = newGroups false next.offset next.rest := by
  induction fuel generalizing before at_ with
  | zero => cases h
  | succ fuel ih =>
    obtain ⟨text, n⟩ := at_
    unfold classRest at h
    dsimp only at h
    split at h
    · cases h
    · cases h
      exact newGroups_close
    -- a dash behind an atom: in front of the bracket, or of another atom
    · next c cs low =>
      have hdash : newGroups true n ('-' :: c :: cs) = newGroups true (n + 1) (c :: cs) :=
        Skips.char (by decide) true
      rw [hdash]
      split at h
      · next hc =>
        cases beq_iff_eq.1 hc
        cases h
        exact newGroups_close
      · next hc =>
        split at h
        · next high after hatom =>
          rw [classAtom_inside hatom (by simpa using hc)]
          exact ih (Option.ite_none_right_eq_some.1 h).2
        · cases h
    · next hnil hclose _ =>
      split at h
      · next a after hatom =>
        cases text with
        | nil => exact absurd rfl hnil
        | cons c cs =>
          rw [classAtom_inside hatom (by rintro rfl; exact hclose _ rfl)]
          exact ih h
      · cases h

/-! ## Sets -/

/-- At the second cursor the scan is outside of classes, whether or not it is at the first, and
finds the same from there. -/
def Leaves (at_ next : Cursor) : Prop :=
  ∀ inClass, newGroups inClass at_.offset at_.rest = newGroups false next.offset next.rest

theorem Skips.then_leaves (h : Skips at_ next) (h' : Leaves next last) : Leaves at_ last :=
  fun inClass => (h inClass).trans (h' inClass)

theorem neutral_of_not_isSetMark (h : isSetMark c = false) : Neutral c :=
  neutral_of (p := fun c => !isSetMark c) (by decide) (by simp [h])

/-- A character of a set is no bracket and no parenthesis, unless it is escaped. -/
theorem setCharacter_skips (h : setCharacter m at_ = some (v, next)) : Skips at_ next := by
  obtain ⟨text, n⟩ := at_
  unfold setCharacter at h
  dsimp only at h
  split at h
  · split at h
    · cases h
      exact .escape
    split at h
    · cases h
      exact .escape
    · exact characterEscape_skips h
  · obtain ⟨hmark, hnext⟩ := Option.ite_none_left_eq_some.1 h
    cases hnext
    simp only [Bool.or_eq_true, not_or, Bool.not_eq_true] at hmark
    exact .char (neutral_of_not_isSetMark hmark.1)
  · cases h

theorem setStrings_skips {count : Nat} {sequences found : Bool}
    (h : setStrings m fuel count sequences at_ = some (found, next)) : Skips at_ next := by
  induction fuel generalizing count sequences at_ with
  | zero => cases h
  | succ fuel ih =>
    unfold setStrings at h
    split at h
    · next hrest =>
      cases h
      exact .one (by decide) hrest
    · next hrest => exact (Skips.one (by decide) hrest).trans (ih h)
    · split at h
      · next hcharacter => exact (setCharacter_skips hcharacter).trans (ih h)
      · cases h

/-- The contents of a set lead outside. That is so from the inside and from the outside, since
behind a set in the set the scan goes on as if it were outside. -/
theorem setContents_leaves {form : SetForm} {needs sequences found : Bool}
    (h : setContents m fuel form needs sequences at_ = some (found, next)) : Leaves at_ next := by
  induction fuel generalizing form needs sequences found at_ next with
  | zero => cases h
  | succ fuel ih =>
    obtain ⟨text, n⟩ := at_
    have hmore : ∀ {admitted : Bool} {form : SetForm} {needs sequences : Bool} {after : Cursor},
        (if admitted then setContents m fuel form needs sequences after else none) =
          some (found, next) → Leaves after next :=
      fun h => ih (Option.ite_none_right_eq_some.1 h).2
    have hoperator : ∀ {c d : Char} {cs : List Char}, Plain c → Plain d →
        Skips ⟨c :: d :: cs, n⟩ (Cursor.advance ⟨c :: d :: cs, n⟩ 2) :=
      fun hc hd => (Run.cons hc (.cons hd .nil)).skips
    unfold setContents at h
    dsimp only at h
    split at h
    · cases h
    · cases (Option.ite_none_left_eq_some.1 h).2
      exact fun _ => newGroups_close
    · exact (hoperator (by decide) (by decide)).then_leaves (hmore h)
    · exact (hoperator (by decide) (by decide)).then_leaves (hmore h)
    -- a set in the set, and strings
    · split at h
      · next inner after hinner =>
        have hrest := hmore (Option.ite_none_left_eq_some.1 h).2
        exact fun inClass => (newGroups_open inClass _ n).trans ((ih hinner true).trans (hrest false))
      · cases h
    · next cs =>
      split at h
      · next inner after hstrings =>
        have hmark : Run 3 ('\\' :: 'q' :: '{' :: cs) cs :=
          .escape rfl (.cons (by decide) .nil)
        have hopen : Skips ⟨'\\' :: 'q' :: '{' :: cs, n⟩
            (Cursor.advance ⟨'\\' :: 'q' :: '{' :: cs, n⟩ 3) := hmark.skips
        exact (hopen.trans (setStrings_skips hstrings)).then_leaves (hmore h)
      · cases h
    -- a class of its own, a character, and a range
    · split at h
      · next inner after hescape =>
        split at hescape
        · exact (classEscape_skips hescape).then_leaves (hmore h)
        · cases hescape
      · split at h
        · cases h
        · next low after hlow =>
          have hfirst := setCharacter_skips hlow
          split at h
          · next c cs hdash =>
            split at h
            · exact hfirst.then_leaves (hmore h)
            · split at h
              · next high after' hhigh =>
                have hrange := (Skips.one (by decide) hdash).trans (setCharacter_skips hhigh)
                exact (hfirst.trans hrange).then_leaves (hmore h)
              · cases h
          · exact hfirst.then_leaves (hmore h)

/-! ## Both -/

/-- Behind a class the scan is outside again, and it has found no group in the class. -/
theorem characterClass_outside (h : characterClass m fuel at_ = some next) :
    newGroups false at_.offset at_.rest = newGroups false next.offset next.rest := by
  obtain ⟨text, n⟩ := at_
  unfold characterClass at h
  dsimp only at h
  split at h
  · next cs =>
    refine (newGroups_open false cs n).trans ?_
    split at h
    · split at h
      · next hcontents =>
        cases (Option.ite_none_left_eq_some.1 h).2
        exact setContents_leaves hcontents true
      · cases h
    · exact classRest_outside h
  · cases h

end EditionCheck.Script.RegExp
