import EditionCheck.Proofs.Script.RegExp.Skipping

/-!
  Escapes in a regular expression and the scan for groups.

  The scan takes any character along behind a backslash. What the grammar reads as an escape may be
  longer, but goes on with characters that mean nothing to the scan, so it is skipped as a whole:
  `atomEscape_skips` outside a class, `classAtomEscape_skips` inside one. Each escape is looked at
  from its backslash on.
-/

namespace EditionCheck.Script.RegExp

variable {at_ next : Cursor} {m : Mode} {c : Char} {cs : List Char} {n v : Nat}

theorem propertyEscape_skips {negated sequences : Bool}
    (h : propertyEscape m negated at_ = some (sequences, next)) : Skips at_ next := by
  unfold propertyEscape at h
  split at h
  · next cs hrest =>
    have hname := Run.takeWhile (fun _ => plain_of_isPart) cs
    dsimp only at h
    split at h
    · next rest hdrop =>
      have hwhole : Skips at_
          (at_.advance ((cs.takeWhile fun c => c.isAlphanum || c == '_').length + 2)) := by
        apply Run.skips
        rw [hdrop] at hname
        rw [hrest]
        exact .cons (by decide) (hname.trans (.cons (by decide) .nil))
      split at h
      · cases h
        exact hwhole
      · cases (Option.ite_none_right_eq_some.1 h).2
        exact hwhole
    · next cs' hdrop =>
      have hvalue := Run.takeWhile (fun _ => plain_of_isPart) cs'
      split at h
      · next rest hdrop' =>
        cases (Option.ite_none_right_eq_some.1 h).2
        apply Run.skips
        rw [hdrop] at hname
        rw [hdrop'] at hvalue
        rw [hrest]
        have hrun := hname.trans (.cons (by decide) (hvalue.trans (.cons (by decide) .nil)))
        exact (Run.cons (by decide) hrun).of_eq (by omega)
      · cases h
    · cases h
  · cases h

theorem unicodeEscape_skips (h : unicodeEscape m ⟨cs, n + 1⟩ = some (v, next)) :
    Skips ⟨'\\' :: cs, n⟩ next := by
  unfold unicodeEscape at h
  split at h
  · next cs hrest =>
    cases hrest
    refine (Skips.backslash (by decide)).trans ?_
    split at h
    · split at h
      · next high width rest hescape =>
        have hrun := codePointEscape?_run hescape
        have hwhole : Skips ⟨'u' :: cs, n + 1⟩ (Cursor.advance ⟨'u' :: cs, n + 1⟩ (width + 1)) :=
          (Run.cons (by decide) hrun).skips
        split at h
        · next a b c d rest' =>
          split at h
          · next low hlow =>
            split at h
            · cases h
              have hhalf : Run 4 (a :: b :: c :: d :: rest') rest' :=
                .of_forall (plain_of_hexNumber? hlow)
              exact (Run.cons (by decide) (hrun.trans (.escape rfl hhalf))).skips
            · cases h
              exact hwhole
          · cases h
            exact hwhole
        · cases h
          exact hwhole
      · cases h
    · split at h
      · obtain ⟨_, hn, heq⟩ := Option.map_eq_some_iff.1 h
        cases heq
        exact (Run.cons (by decide) (.of_forall (plain_of_hexNumber? hn))).skips
      · cases h
  · cases h

theorem plain_of_isOctal (h : (decide ('0' ≤ c) && decide (c ≤ '7')) = true) : Plain c :=
  ⟨Numeral.octal_narrow c h, neutral_of (p := fun c => '0' ≤ c && c ≤ '7') (by decide) h⟩

/-- The first of the characters that a predicate takes off a text. -/
theorem map_takeWhile_eq_cons {α : Type} {p : Char → Bool} {f : Char → α} {a : α} {l : List α}
    (h : (cs.takeWhile p).map f = a :: l) :
    ∃ c rest, cs = c :: rest ∧ p c = true ∧ (rest.takeWhile p).map f = l := by
  cases cs with
  | nil => cases h
  | cons c rest =>
    cases hc : p c with
    | false =>
      rw [List.takeWhile_cons_of_neg (by simp [hc])] at h
      cases h
    | true =>
      rw [List.takeWhile_cons_of_pos hc, List.map_cons, List.cons.injEq] at h
      exact ⟨c, rest, rfl, hc, h.2⟩

theorem octalEscape_skips (h : octalEscape ⟨cs, n + 1⟩ = some (v, next)) :
    Skips ⟨'\\' :: cs, n⟩ next := by
  unfold octalEscape at h
  dsimp only at h
  split at h
  · next hds =>
    obtain ⟨x, cs₁, rfl, hx, hds⟩ := map_takeWhile_eq_cons hds
    obtain ⟨y, cs₂, rfl, hy, hds⟩ := map_takeWhile_eq_cons hds
    obtain ⟨z, cs₃, rfl, hz, -⟩ := map_takeWhile_eq_cons hds
    refine (Skips.backslash (plain_of_isOctal hx).neutral).trans ?_
    split at h
    · cases h
      exact (Run.cons (plain_of_isOctal hx)
        (.cons (plain_of_isOctal hy) (.cons (plain_of_isOctal hz) .nil))).skips
    · cases h
      exact (Run.cons (plain_of_isOctal hx) (.cons (plain_of_isOctal hy) .nil)).skips
  · next hds =>
    obtain ⟨x, cs₁, rfl, hx, hds⟩ := map_takeWhile_eq_cons hds
    obtain ⟨y, cs₂, rfl, hy, -⟩ := map_takeWhile_eq_cons hds
    cases h
    exact (Skips.backslash (plain_of_isOctal hx).neutral).trans
      (Run.cons (plain_of_isOctal hx) (.cons (plain_of_isOctal hy) .nil)).skips
  · next hds =>
    obtain ⟨x, cs₁, rfl, hx, -⟩ := map_takeWhile_eq_cons hds
    cases h
    exact (Skips.backslash (plain_of_isOctal hx).neutral).trans (.one (plain_of_isOctal hx) rfl)
  · cases h

theorem classEscape_skips {sequences : Bool}
    (h : classEscape m ⟨cs, n + 1⟩ = some (sequences, next)) : Skips ⟨'\\' :: cs, n⟩ next := by
  have hletter : ∀ {c : Char} {rest : List Char}, Plain c →
      Skips ⟨'\\' :: c :: rest, n⟩ (Cursor.advance ⟨c :: rest, n + 1⟩ 1) :=
    fun hc => (Skips.backslash hc.neutral).trans (.one hc rfl)
  unfold classEscape at h
  dsimp only at h
  split at h
  iterate 6
    · cases h
      exact hletter (by decide)
  iterate 2
    · split at h
      · exact (hletter (by decide)).trans (propertyEscape_skips h)
      · cases h
  · cases h

theorem characterEscape_skips
    (h : characterEscape m c ⟨c :: cs, n + 1⟩ ⟨cs, n + 1 + c.utf8Size⟩ = some (v, next)) :
    Skips ⟨'\\' :: c :: cs, n⟩ next := by
  have hidentity : (if (m.named && c == 'k') = true then none
      else some (c.toNat, (⟨cs, n + 1 + c.utf8Size⟩ : Cursor))) = some (v, next) →
        Skips ⟨'\\' :: c :: cs, n⟩ next := by
    intro hi
    cases (Option.ite_none_left_eq_some.1 hi).2
    exact .escape
  unfold characterEscape at h
  dsimp only at h
  split at h
  iterate 5
    · cases h
      exact .escape
  -- `x`, `u`, `c`, zero, and any other character
  · split at h
    · next a b rest =>
      split at h
      · next value hvalue =>
        cases h
        exact Skips.escape.trans (Run.of_forall (plain_of_hexNumber? hvalue)).skips
      · exact hidentity (Option.ite_none_left_eq_some.1 h).2
    · exact hidentity (Option.ite_none_left_eq_some.1 h).2
  · split at h
    · next p hp =>
      cases h
      exact unicodeEscape_skips hp
    · exact hidentity (Option.ite_none_left_eq_some.1 h).2
  · split at h
    · next l rest =>
      obtain ⟨hl, hnext⟩ := Option.ite_none_right_eq_some.1 h
      cases hnext
      have hplain := plain_of_isAlphanum (Bool.or_eq_true_iff.2 (.inl hl))
      exact Skips.escape.trans (.one hplain rfl)
    · cases h
  · split at h
    · cases (Option.ite_none_left_eq_some.1 h).2
      exact .escape
    · exact octalEscape_skips h
  · split at h
    · cases (Option.ite_none_right_eq_some.1 h).2
      exact .escape
    · split at h
      · next p hp =>
        cases h
        exact octalEscape_skips hp
      · exact hidentity h

/-- A backslash that stands for itself leaves the letter behind it to be read. -/
theorem loneBackslash_skips (h : loneBackslash m ⟨cs, n + 1⟩ = some (v, next)) :
    Skips ⟨'\\' :: cs, n⟩ next := by
  unfold loneBackslash at h
  dsimp only at h
  split at h
  · cases (Option.ite_none_left_eq_some.1 h).2
    exact .backslash (by decide)
  · cases h

theorem atomEscape_skips {fuel : Nat} {t : Term} {q : Quantifiable}
    (h : atomEscape m fuel ⟨cs, n + 1⟩ = some (t, q, next)) : Skips ⟨'\\' :: cs, n⟩ next := by
  unfold atomEscape at h
  dsimp only at h
  split at h
  · cases h
  split at h
  · cases h
    exact .escape
  split at h
  · obtain ⟨p, hp, heq⟩ := Option.map_eq_some_iff.1 h
    cases heq
    exact Skips.escape.trans (groupName_skips hp)
  split at h
  · next c cs _ _ hdigit =>
    cases h
    have hc : Neutral c := neutral_of (p := fun c => '1' ≤ c && c ≤ '9') (by decide) hdigit
    exact (Skips.backslash hc).trans (digits_run (c :: cs)).skips
  split at h
  · next hclass =>
    cases h
    exact classEscape_skips hclass
  split at h
  · cases h
  split at h
  · next hcharacter =>
    cases h
    exact characterEscape_skips hcharacter
  · obtain ⟨p, hp, heq⟩ := Option.map_eq_some_iff.1 h
    cases heq
    exact loneBackslash_skips hp

theorem classAtomEscape_skips {a : ClassAtom}
    (h : classAtomEscape m ⟨cs, n + 1⟩ = some (a, next)) : Skips ⟨'\\' :: cs, n⟩ next := by
  unfold classAtomEscape at h
  dsimp only at h
  split at h
  · cases h
  split at h
  · cases h
    exact .escape
  split at h
  · cases h
    exact .escape
  split at h
  · next hclass =>
    cases h
    exact classEscape_skips hclass
  split at h
  · cases h
  split at h
  · next hcharacter =>
    cases h
    exact characterEscape_skips hcharacter
  -- a control letter that is none: a digit or an underscore, or else the backslash stands alone
  split at h
  · next d rest _ _ _ _ _ =>
    have h := (Option.ite_none_left_eq_some.1 h).2
    split at h
    · next hd =>
      cases h
      have hplain : Plain d := by
        rcases Bool.or_eq_true_iff.1 hd with hd | hd
        · exact plain_of_isDigit hd
        · cases beq_iff_eq.1 hd
          decide
      exact Skips.escape.trans (.one hplain rfl)
    · cases h
      exact .backslash (by decide)
  · obtain ⟨p, hp, heq⟩ := Option.map_eq_some_iff.1 h
    cases heq
    exact loneBackslash_skips hp

end EditionCheck.Script.RegExp
