import EditionCheck.Proofs.File.Layout

/-!
  Disks with more on them.

  A disk extends another if everything of that stands where it stood (`Disk.Extends`). Walks that
  came to something come to the same (`Extends.leads`), and a walk that ended where nothing
  stood comes to a file that stands there now (`walk_extends`). Writing a new file extends a disk,
  and the file can be read back (`gains_of_write`).
-/

namespace EditionCheck.File

namespace Disk

variable {d d' : Disk} {at_ : Place} {i : Item} {p : Path} {follow : Bool} {spot : Spot}

/-- Everything on the first disk stands on the second one too, at its place. -/
structure Extends (d d' : Disk) : Prop where
  here : d'.here = d.here
  keeps : ∀ {at_ i}, d.item? at_ = some i → d'.item? at_ = some i

theorem Extends.refl (d : Disk) : d.Extends d := ⟨rfl, id⟩

/-! ## One more item -/

theorem item?_put_self (d : Disk) (i : Item) (h : at_ ≠ []) : (d.put at_ i).item? at_ = some i := by
  simp [item?, put, h]

theorem item?_put_of_ne {other : Place} (d : Disk) (i : Item) (h : other ≠ at_) :
    (d.put at_ i).item? other = d.item? other := by
  have hother : ∀ e : Place × Item,
      decide (decide (e.1 ≠ at_) = true ∧ decide (e.1 = other) = true) = decide (e.1 = other) := by
    intro e
    by_cases he : e.1 = other <;> simp [he, h]
  simp only [item?, put, List.find?_cons, h.symm, decide_false, List.find?_filter, hother]

theorem ne_nil_of_item? (h : d.item? at_ = none) : at_ ≠ [] := by
  rintro rfl
  cases h

/-- An item where nothing stood takes nothing away. -/
theorem extends_put (i : Item) (h : d.item? at_ = none) : d.Extends (d.put at_ i) where
  here := rfl
  keeps {other j} hj := by
    rw [item?_put_of_ne d i (by rintro rfl; rw [h] at hj; cases hj), hj]

/-! ## Walking -/

/-- The place where a walk ends. -/
def Spot.place : Spot → Place
  | found at_ | vacant at_ => at_

/-- A walk has come to something, or to where a file stands on another disk. -/
def Spot.StandsOn (d' : Disk) : Spot → Prop
  | found _ => True
  | vacant at_ => ∃ bytes mode, d'.item? at_ = some (.file bytes mode)

section Pieces

variable {jump jump' : Place → Path → Place → Except Trouble Spot} {ps : List (List Char)}

theorem walkPieces_of_up (d : Disk) (ps : List (List Char)) :
    d.walkPieces follow jump at_ (['.', '.'] :: ps) =
      d.walkPieces follow jump at_.dropLast ps := by
  rw [walkPieces, if_neg (by decide), if_pos rfl]

/-- A walk over pieces comes to the same place on a disk that extends the first, if the walks do that
follow links. -/
theorem walkPieces_extends (h : d.Extends d') (hspot : spot.StandsOn d')
    (hwalk : d.walkPieces follow jump at_ ps = .ok spot)
    (hjump : ∀ {at_ q rest}, jump at_ q rest = .ok spot →
      jump' at_ q rest = .ok (.found spot.place)) :
    d'.walkPieces follow jump' at_ ps = .ok (.found spot.place) := by
  induction ps generalizing at_ with
  | nil =>
    cases hwalk
    rfl
  | cons piece ps ih =>
    rcases Path.part?_false_cases piece with hpiece | hpiece | hpiece
    · rw [Layout.walkPieces_of_none hpiece] at hwalk ⊢
      exact ih hwalk
    · obtain rfl := Path.part?_eq_up.1 hpiece
      rw [walkPieces_of_up] at hwalk ⊢
      exact ih hwalk
    · rw [Layout.walkPieces_of_name hpiece] at hwalk ⊢
      cases hi : d.item? (at_ ++ [piece]) with
      | none =>
        cases ps with
        | cons => simp [hi] at hwalk
        | nil =>
          simp only [hi, List.isEmpty_nil, if_true, Except.ok.injEq] at hwalk
          subst hwalk
          obtain ⟨bytes, mode, hfile⟩ := hspot
          simp [hfile, Spot.place]
      | some i =>
        rw [h.keeps hi]
        rw [hi] at hwalk
        cases i with
        | directory mode => exact ih hwalk
        | file bytes mode =>
          cases ps with
          | cons => cases hwalk
          | nil =>
            cases hwalk
            rfl
        | link target =>
          dsimp only at hwalk ⊢
          by_cases hstay : (ps.isEmpty && !follow) = true
          · rw [if_pos hstay] at hwalk ⊢
            cases hwalk
            rfl
          · rw [if_neg hstay] at hwalk ⊢
            exact hjump hwalk

/-- Nothing stands at a vacant place where a walk ends. -/
theorem walkPieces_vacant {place : Place}
    (hwalk : d.walkPieces follow jump at_ ps = .ok (.vacant place))
    (hjump : ∀ {at_ q rest}, jump at_ q rest = .ok (.vacant place) → d.item? place = none) :
    d.item? place = none := by
  induction ps generalizing at_ with
  | nil => cases hwalk
  | cons piece ps ih =>
    rcases Path.part?_false_cases piece with hpiece | hpiece | hpiece
    · exact ih ((Layout.walkPieces_of_none hpiece).symm.trans hwalk)
    · obtain rfl := Path.part?_eq_up.1 hpiece
      exact ih ((walkPieces_of_up d ps).symm.trans hwalk)
    · rw [Layout.walkPieces_of_name hpiece] at hwalk
      cases hi : d.item? (at_ ++ [piece]) with
      | none =>
        cases ps with
        | cons => simp [hi] at hwalk
        | nil =>
          simp only [hi, List.isEmpty_nil, if_true, Except.ok.injEq, Spot.vacant.injEq] at hwalk
          rw [← hwalk, hi]
      | some i =>
        rw [hi] at hwalk
        cases i with
        | directory mode => exact ih hwalk
        | file bytes mode => cases ps <;> cases hwalk
        | link target =>
          dsimp only at hwalk
          split at hwalk
          · cases hwalk
          · exact hjump hwalk

end Pieces

theorem walkFrom_extends (h : d.Extends d') (hspot : spot.StandsOn d') {links : Nat}
    {rest : List (List Char)} (hwalk : d.walkFrom follow links at_ p rest = .ok spot) :
    d'.walkFrom follow links at_ p rest = .ok (.found spot.place) := by
  induction links generalizing at_ p rest with
  | zero =>
    rw [walkFrom] at hwalk ⊢
    split at hwalk
    · cases hwalk
    · next hp =>
      rw [if_neg hp]
      exact walkPieces_extends h hspot hwalk nofun
  | succ links ih =>
    rw [walkFrom] at hwalk ⊢
    split at hwalk
    · cases hwalk
    · next hp =>
      rw [if_neg hp]
      exact walkPieces_extends h hspot hwalk ih

theorem walkFrom_vacant {place : Place} {links : Nat} {rest : List (List Char)}
    (hwalk : d.walkFrom follow links at_ p rest = .ok (.vacant place)) : d.item? place = none := by
  induction links generalizing at_ p rest with
  | zero =>
    rw [walkFrom] at hwalk
    split at hwalk
    · cases hwalk
    · exact walkPieces_vacant hwalk nofun
  | succ links ih =>
    rw [walkFrom] at hwalk
    split at hwalk
    · cases hwalk
    · exact walkPieces_vacant hwalk ih

/-- A walk comes to the same place on a disk that extends the first, unless nothing stood there and
no file stands there now. -/
theorem walk_extends (h : d.Extends d') (hspot : spot.StandsOn d')
    (hwalk : d.walk follow p = .ok spot) : d'.walk follow p = .ok (.found spot.place) := by
  unfold walk at hwalk ⊢
  rw [h.here]
  exact walkFrom_extends h hspot hwalk

theorem walk_vacant (hwalk : d.walk follow p = .ok (.vacant at_)) : d.item? at_ = none :=
  walkFrom_vacant hwalk

/-! ## Asking -/

theorem locate_eq_ok : d.locate follow p = .ok (at_, i) ↔
    d.walk follow p = .ok (.found at_) ∧ d.item? at_ = some i := by
  unfold locate
  cases d.walk follow p with
  | error t => simp
  | ok spot =>
    cases spot with
    | vacant place => simp
    | found place =>
      simp only [Except.ok.injEq, Spot.found.injEq]
      cases hi : d.item? place with
      | none =>
        refine ⟨nofun, ?_⟩
        rintro ⟨rfl, hsome⟩
        cases hi.symm.trans hsome
      | some j =>
        rw [Except.ok.injEq, Prod.mk.injEq]
        refine and_congr_right ?_
        rintro rfl
        rw [hi, Option.some.injEq]

theorem target?_eq_some : d.target? p = some i ↔ ∃ at_, d.locate true p = .ok (at_, i) := by
  unfold target?
  cases d.locate true p with
  | error t => simp [Except.toOption]
  | ok e => simp [Except.toOption, Prod.ext_iff]

/-- What a path led to it still leads to. -/
theorem Extends.leads (h : d.Extends d') (ht : d.target? p = some i) :
    d'.target? p = some i := by
  obtain ⟨at_, hlocate⟩ := target?_eq_some.1 ht
  obtain ⟨hwalk, hi⟩ := locate_eq_ok.1 hlocate
  have hfound : (Spot.found at_).StandsOn d' := trivial
  exact target?_eq_some.2 ⟨at_, locate_eq_ok.2 ⟨walk_extends h hfound hwalk, h.keeps hi⟩⟩

theorem Extends.isDirectory (h : d.Extends d') (hp : d.isDirectory p = true) :
    d'.isDirectory p = true := by
  unfold Disk.isDirectory at hp ⊢
  cases ht : d.target? p with
  | none =>
    rw [ht] at hp
    cases hp
  | some i => rwa [h.leads ht, ← ht]

/-! ## Writing a new file -/

/-- A disk has a new file with a text at the end of a path, and nothing else that is new. -/
structure Gains (d made : Disk) (p : Path) (text : String) : Prop where
  place : ∃ at_, d.item? at_ = none ∧ made = d.put at_ (.newFile (Text.Utf8.encode text.toList))
  file : made.isFile p = true
  read : made.readStrict p = .ok text

theorem Gains.extends {made : Disk} {text : String} (h : d.Gains made p text) :
    d.Extends made := by
  obtain ⟨at_, hnone, rfl⟩ := h.place
  exact extends_put _ hnone

/-- A text that is written where a walk finds nothing becomes a new file. -/
theorem gains_put (text : String) (hwalk : d.walk true p = .ok (.vacant at_)) :
    d.Gains (d.put at_ (.newFile (Text.Utf8.encode text.toList))) p text := by
  have hnone := walk_vacant hwalk
  obtain ⟨made, hmade⟩ : ∃ made, made = d.put at_ (.newFile (Text.Utf8.encode text.toList)) :=
    ⟨_, rfl⟩
  have hitem : made.item? at_ = some (.newFile (Text.Utf8.encode text.toList)) := by
    rw [hmade, item?_put_self d _ (ne_nil_of_item? hnone)]
  have hspot : (Spot.vacant at_).StandsOn made := ⟨_, _, hitem⟩
  have hextends : d.Extends made := hmade ▸ extends_put _ hnone
  have hlocate : made.locate true p = .ok (at_, .newFile (Text.Utf8.encode text.toList)) :=
    locate_eq_ok.2 ⟨walk_extends hextends hspot hwalk, hitem⟩
  have htarget := target?_eq_some.2 ⟨at_, hlocate⟩
  rw [← hmade]
  refine ⟨⟨at_, hnone, hmade⟩, ?_, ?_⟩
  · simp [isFile, htarget, Item.kind, Item.newFile]
  · simp [readStrict, bytes, hlocate, Item.newFile, Text.Utf8.decode?_encode]

/-- Writing a file that is not there makes it, or changes nothing. A path with a slash at its end
asks for a directory. -/
theorem gains_of_write {made : Disk} {text : String} (habsent : d.present p = false)
    (hslash : p.text.getLast? ≠ some '/') (hwrite : d.write p text = .ok made) :
    d.Gains made p text := by
  have hend : (p.text.getLast? == some '/') = false := by simpa using hslash
  unfold write writeBytes at hwrite
  simp only [hend, Bool.false_eq_true, if_false] at hwrite
  cases hwalk : d.walk true p with
  | error t => simp [hwalk] at hwrite
  | ok spot =>
    cases spot with
    | vacant at_ =>
      simp only [hwalk, Except.ok.injEq] at hwrite
      exact hwrite ▸ gains_put text hwalk
    | found at_ =>
      -- whatever stood there would be present
      have hnone : d.item? at_ = none := by
        refine Option.eq_none_iff_forall_ne_some.2 fun i hi => ?_
        have htarget := target?_eq_some.2 ⟨at_, locate_eq_ok.2 ⟨hwalk, hi⟩⟩
        simp [present, htarget] at habsent
      simp [hwalk, hnone] at hwrite

end Disk
end EditionCheck.File
