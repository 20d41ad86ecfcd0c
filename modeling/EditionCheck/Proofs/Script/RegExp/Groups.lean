import EditionCheck.Proofs.Script.RegExp.Classes
import EditionCheck.Script.RegExp

/-!
  The scan for groups finds the groups of the grammar.

  Between two cursors outside of classes the scan finds certain groups (`Finds`). A class leads from
  its bracket to the cursor behind it without any (`characterClass_finds`), an opening parenthesis
  gives the group that the grammar reads there (`groupOpening_finds`), and over the alternatives
  these add up (`alternatives_finds`). So in every mode the scan finds what the grammar does
  (`newGroups_eq`).
-/

namespace EditionCheck.Script.RegExp

/-- The new kind of group that a group of the grammar is of. -/
def GroupKind.new? : GroupKind → Option NewGroup
  | named _ => some .named
  | lookbehind => some .lookbehind
  | _ => none

/-- A group with its offset, if it is of a new kind. -/
def newOne (g : GroupKind × Nat) : Option (NewGroup × Nat) := g.1.new?.map fun kind => (kind, g.2)

/-- From one cursor to another, both outside of classes, the scan finds certain groups. -/
def Finds (at_ next : Cursor) (found : List (NewGroup × Nat)) : Prop :=
  newGroups false at_.offset at_.rest = found ++ newGroups false next.offset next.rest

variable {at_ next last : Cursor} {found found' : List (NewGroup × Nat)} {m : Mode} {fuel : Nat}
  {c : Char} {cs : List Char} {n : Nat}

theorem Skips.finds (h : Skips at_ next) : Finds at_ next [] := h false

theorem Finds.trans (h : Finds at_ next found) (h' : Finds next last found') :
    Finds at_ last (found ++ found') := by
  unfold Finds at h h' ⊢
  rw [h, h', List.append_assoc]

theorem Finds.then_skips (h : Finds at_ next found) (h' : Skips next last) :
    Finds at_ last found := by
  have hboth := h.trans h'.finds
  rwa [List.append_nil] at hboth

theorem Skips.then_finds (h : Skips at_ next) (h' : Finds next last found) :
    Finds at_ last found :=
  h.finds.trans h'

/-- A class has no groups, and the scan is outside again behind it. -/
theorem characterClass_finds (h : characterClass m fuel at_ = some next) : Finds at_ next [] :=
  characterClass_outside h

/-! ## Terms -/

/-- An escape is no group. -/
theorem atomEscape_groups {t : Term} {q : Quantifiable}
    (h : atomEscape m fuel at_ = some (t, q, next)) : t.groups = [] := by
  unfold atomEscape at h
  dsimp only at h
  split at h
  · cases h
  split at h
  · cases h
    rfl
  split at h
  · obtain ⟨_, -, heq⟩ := Option.map_eq_some_iff.1 h
    cases heq
    rfl
  split at h
  · cases h
    rfl
  split at h
  · cases h
    rfl
  split at h
  · cases h
  split at h
  · cases h
    rfl
  · obtain ⟨_, -, heq⟩ := Option.map_eq_some_iff.1 h
    cases heq
    rfl

/-- A term that is no escape and no class is one character. -/
theorem simpleTerm_char {t : Term} {q : Quantifiable}
    (h : simpleTerm m fuel ⟨c :: cs, n⟩ = some (t, q, next)) (hb : c ≠ '\\') (ho : c ≠ '[') :
    t = .other ∧ next = ⟨cs, n + c.utf8Size⟩ := by
  unfold simpleTerm at h
  dsimp only at h
  split at h
  · next heq => cases heq
  · next heq =>
    cases heq
    exact absurd rfl hb
  · next heq =>
    cases heq
    exact absurd rfl ho
  · next heq =>
    cases heq
    grind

/-- A term that is no group has none, and the scan finds none in it. -/
theorem simpleTerm_finds {t : Term} {q : Quantifiable}
    (h : simpleTerm m fuel ⟨c :: cs, n⟩ = some (t, q, next)) (hc : c ≠ '(') :
    t.groups = [] ∧ Finds ⟨c :: cs, n⟩ next [] := by
  by_cases hb : c = '\\'
  · subst hb
    exact ⟨atomEscape_groups h, (atomEscape_skips h).finds⟩
  by_cases ho : c = '['
  · subst ho
    obtain ⟨_, hclass, heq⟩ := Option.map_eq_some_iff.1 h
    cases heq
    exact ⟨rfl, characterClass_finds hclass⟩
  obtain ⟨rfl, rfl⟩ := simpleTerm_char h hb ho
  refine ⟨rfl, ?_⟩
  have hchar := @newGroups_char c cs n false hb hc
  rw [if_neg ho, ite_self] at hchar
  exact hchar

/-! ## Groups -/

theorem newGroups_group :
    newGroups false n ('(' :: cs) =
      ((newGroup? ('(' :: cs)).map fun kind => (kind, n)).toList ++ newGroups false (n + 1) cs := by
  rw [newGroups]
  · cases newGroup? ('(' :: cs) <;> rfl
  · rintro _ _ h
    cases h

/-- What opens a group is found if the group is new. -/
theorem groupOpening_finds {kind : GroupKind} (h : groupOpening fuel at_ = some (kind, next)) :
    Finds at_ next (newOne (kind, at_.offset)).toList := by
  obtain ⟨text, n⟩ := at_
  have hopen : ∀ {cs : List Char} {new : Option NewGroup}, newGroup? ('(' :: cs) = new →
      Finds ⟨'(' :: cs, n⟩ ⟨cs, n + 1⟩ (new.map fun kind => (kind, n)).toList := by
    rintro cs new rfl
    exact newGroups_group
  unfold groupOpening at h
  dsimp only at h
  split at h
  iterate 3
    · cases h
      exact (hopen rfl).then_skips (Run.cons (by decide) (.cons (by decide) .nil)).skips
  iterate 2
    · cases h
      exact (hopen rfl).then_skips
        (Run.cons (by decide) (.cons (by decide) (.cons (by decide) .nil))).skips
  -- a name, modifiers, and nothing else
  · next cs hset hnot =>
    obtain ⟨p, hp, heq⟩ := Option.map_eq_some_iff.1 h
    cases heq
    have hnew : newGroup? ('(' :: '?' :: '<' :: cs) = some .named := by
      unfold newGroup?
      grind
    have hmark : Skips ⟨'?' :: '<' :: cs, n + 1⟩ (Cursor.advance ⟨'?' :: '<' :: cs, n + 1⟩ 1) :=
      .one (by decide) rfl
    exact (hopen hnew).then_skips (hmark.trans (groupName_skips hp))
  · next cs _ _ _ _ _ hname =>
    obtain ⟨next', hnext, heq⟩ := Option.map_eq_some_iff.1 h
    cases heq
    have hnew : newGroup? ('(' :: '?' :: cs) = none := by
      unfold newGroup?
      grind
    have hmark : Skips ⟨'?' :: cs, n + 1⟩ (Cursor.advance ⟨'?' :: cs, n + 1⟩ 1) :=
      .one (by decide) rfl
    exact (hopen hnew).then_skips (hmark.trans (modifiers_skips hnext))
  · next cs _ _ _ _ _ _ hnone =>
    cases h
    have hnew : newGroup? ('(' :: cs) = none := by
      unfold newGroup?
      grind
    exact hopen hnew
  · cases h

/-! ## Alternatives -/

theorem groupsOfTerms_append (ts us : List Term) :
    groupsOfTerms (ts ++ us) = groupsOfTerms ts ++ groupsOfTerms us := by
  induction ts with
  | nil => rfl
  | cons t ts ih => rw [List.cons_append, groupsOfTerms, groupsOfTerms, ih, List.append_assoc]

theorem groupsOfAlternatives_append (as bs : List (List Term)) :
    groupsOfAlternatives (as ++ bs) = groupsOfAlternatives as ++ groupsOfAlternatives bs := by
  induction as with
  | nil => rfl
  | cons a as ih =>
    rw [List.cons_append, groupsOfAlternatives, groupsOfAlternatives, ih, List.append_assoc]

theorem filterMap_newOne_cons (g : GroupKind × Nat) (gs : List (GroupKind × Nat)) :
    (g :: gs).filterMap newOne = (newOne g).toList ++ gs.filterMap newOne := by
  rw [List.filterMap_cons]
  cases newOne g <;> rfl

/-- The groups that have been read when `terms` and `done` have. -/
def groupsRead (terms : List Term) (done : List (List Term)) : List (GroupKind × Nat) :=
  groupsOfAlternatives done.reverse ++ groupsOfTerms terms.reverse

theorem groupsRead_nil : groupsRead [] [] = [] := rfl

theorem groupsOfAlternatives_read (terms : List Term) (done : List (List Term)) :
    groupsOfAlternatives (terms.reverse :: done).reverse = groupsRead terms done := by
  rw [List.reverse_cons, groupsOfAlternatives_append, groupsOfAlternatives, groupsOfAlternatives,
    List.append_nil, groupsRead]

theorem groupsRead_next (terms : List Term) (done : List (List Term)) :
    groupsRead [] (terms.reverse :: done) = groupsRead terms done := by
  rw [groupsRead, groupsOfAlternatives_read, List.reverse_nil, groupsOfTerms, List.append_nil]

theorem groupsRead_cons (t : Term) (terms : List Term) (done : List (List Term)) :
    groupsRead (t :: terms) done = groupsRead terms done ++ t.groups := by
  rw [groupsRead, groupsRead, List.reverse_cons, groupsOfTerms_append, groupsOfTerms, groupsOfTerms,
    List.append_nil, List.append_assoc]

/-- Over alternatives the scan finds the new ones of the groups that are read. -/
theorem alternatives_finds {terms : List Term} {done as : List (List Term)}
    (h : alternatives m fuel terms done at_ = some (as, next)) :
    ∃ found, Finds at_ next found ∧
      (groupsOfAlternatives as).filterMap newOne =
        (groupsRead terms done).filterMap newOne ++ found := by
  induction fuel generalizing terms done at_ as next with
  | zero => cases h
  | succ fuel ih =>
    unfold alternatives at h
    split at h
    iterate 2
      · cases h
        refine ⟨[], (Skips.refl _).finds, ?_⟩
        rw [groupsOfAlternatives_read, List.append_nil]
    · next hrest =>
      obtain ⟨found, hfinds, hgroups⟩ := ih h
      rw [groupsRead_next] at hgroups
      exact ⟨found, (Skips.one (by decide) hrest).then_finds hfinds, hgroups⟩
    -- a group: what opens it, what is in it, and what follows it
    · split at h
      · cases h
      · next kind inside hopening =>
        split at h
        · cases h
        · next inner close hinner =>
          split at h
          · next hclose =>
            split at h
            · next after hquantifier =>
              obtain ⟨foundIn, hfindsIn, hgroupsIn⟩ := ih hinner
              obtain ⟨found, hfinds, hgroups⟩ := ih h
              have hpast : Skips close after :=
                (Skips.one (by decide) hclose).trans (quantifier_skips hquantifier)
              refine ⟨_, ((groupOpening_finds hopening).trans hfindsIn).trans
                (hpast.then_finds hfinds), ?_⟩
              rw [groupsRead_nil, List.filterMap_nil, List.nil_append] at hgroupsIn
              rw [hgroups, groupsRead_cons, Term.groups, List.filterMap_append, filterMap_newOne_cons,
                hgroupsIn]
              simp only [List.append_assoc]
            · cases h
          · cases h
    -- any other term
    · next hnil hclose hbar hgroup =>
      obtain ⟨text, n⟩ := at_
      cases text with
      | nil => exact absurd rfl hnil
      | cons c cs =>
        split at h
        · cases h
        · next term q after hterm =>
          split at h
          · next next' hquantifier =>
            obtain ⟨hnone, hskip⟩ := simpleTerm_finds hterm (by rintro rfl; exact hgroup _ rfl)
            obtain ⟨found, hfinds, hgroups⟩ := ih h
            refine ⟨_, (hskip.then_skips (quantifier_skips hquantifier)).trans hfinds, ?_⟩
            rw [hgroups, groupsRead_cons, hnone, List.append_nil, List.nil_append]
          · cases h

/-- The scan finds the new groups of a pattern, at their offsets. -/
theorem newGroups_eq {body : List Char} {p : Pattern} (h : Pattern.read m body = some p) :
    newGroups false 0 body = p.groups.filterMap newOne := by
  unfold Pattern.read at h
  split at h
  · next p' _ hread =>
    cases h
    obtain ⟨found, hfinds, hgroups⟩ := alternatives_finds hread
    unfold Finds at hfinds
    rw [newGroups_nil, List.append_nil] at hfinds
    rw [Pattern.groups, hgroups, groupsRead_nil, List.filterMap_nil, List.nil_append]
    exact hfinds
  · cases h

/-- So it does in a regular expression with any flags. -/
theorem newGroups_eq_of_pattern {body flags : List Char} {p : Pattern}
    (h : pattern? body flags = some p) :
    newGroups false 0 body = p.groups.filterMap newOne := by
  unfold pattern? at h
  dsimp only at h
  split at h
  · cases h
  split at h
  · cases h
  · next p' hread =>
    cases (Option.ite_none_right_eq_some.1 h).2
    exact newGroups_eq hread

end EditionCheck.Script.RegExp
