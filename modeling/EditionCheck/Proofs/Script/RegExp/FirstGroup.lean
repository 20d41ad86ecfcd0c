import Mathlib.Order.Bounds.Basic
import EditionCheck.Proofs.Script.RegExp.Groups
import EditionCheck.Proofs.Text.Utf8

/-!
  The first groups of a regular expression.

  A pattern opens its named groups and its looks behind at certain byte offsets (`Pattern.opens`).
  The scan finds all of these in the order of their offsets (`newGroups_ordered`), so the first one
  of a kind that it finds is the first one of that kind in the pattern (`firstGroup_isLeast`). Each
  stands at a boundary of the body (`firstGroup_boundary`), and it makes no difference whether the
  scan goes by characters or by bytes (`newGroupsInBytes_encode`).
-/

namespace EditionCheck.Script

open Text (After IsBoundary)
open Text.Utf8 (encode exists_starts isPrefixOf_encode ne_of_high)

/-! ## The scan over bytes -/

/-- The new kind of group that the bytes open, if they open one. -/
def newGroupInBytes? (bytes : List UInt8) : Option NewGroup :=
  if [0x28, 0x3F, 0x3C, 0x3D].isPrefixOf bytes || [0x28, 0x3F, 0x3C, 0x21].isPrefixOf bytes then
    some .lookbehind
  else if [0x28, 0x3F, 0x3C].isPrefixOf bytes then some .named
  else none

/-- The new groups that a scan over the bytes of a body finds. Behind a backslash it goes on two
bytes further, be it in the middle of a character or beyond the end. -/
def newGroupsInBytes : Bool → Nat → List UInt8 → List (NewGroup × Nat)
  | _, _, [] => []
  | inClass, n, 0x5C :: _ :: bytes => newGroupsInBytes inClass (n + 2) bytes
  | inClass, n, b :: bytes =>
    let inClass' := if b = 0x5B then true else if b = 0x5D then false else inClass
    let more := newGroupsInBytes inClass' (n + 1) bytes
    match newGroupInBytes? (b :: bytes) with
    | some kind => if inClass then more else (kind, n) :: more
    | none => more

/-- The offset of the first group of a kind that the scan over bytes finds. -/
def firstGroupInBytes (kind : NewGroup) (bytes : List UInt8) : Option Nat :=
  ((newGroupsInBytes false 0 bytes).find? fun g => g.1 = kind).map Prod.snd

theorem isPrefixOf_eq_false {pre cs : List Char} (h : ∀ rest, cs ≠ pre ++ rest) :
    pre.isPrefixOf cs = false := by
  rw [Bool.eq_false_iff, Ne, List.isPrefixOf_iff_prefix]
  rintro ⟨rest, rfl⟩
  exact h rest rfl

theorem newGroupInBytes?_encode (cs : List Char) :
    newGroupInBytes? (encode cs) = newGroup? cs := by
  have hbehind : [0x28, 0x3F, 0x3C, 0x3D].isPrefixOf (encode cs) =
      ['(', '?', '<', '='].isPrefixOf cs :=
    @isPrefixOf_encode ['(', '?', '<', '='] (by simp) cs
  have hnotBehind : [0x28, 0x3F, 0x3C, 0x21].isPrefixOf (encode cs) =
      ['(', '?', '<', '!'].isPrefixOf cs :=
    @isPrefixOf_encode ['(', '?', '<', '!'] (by simp) cs
  have hname : [0x28, 0x3F, 0x3C].isPrefixOf (encode cs) = ['(', '?', '<'].isPrefixOf cs :=
    @isPrefixOf_encode ['(', '?', '<'] (by simp) cs
  unfold newGroupInBytes?
  rw [hbehind, hnotBehind, hname]
  fun_cases newGroup? cs with
  | case1 => rfl
  | case2 => rfl
  | case3 rest hequals hmark =>
    rw [isPrefixOf_eq_false fun more e => hequals more (by cases e; rfl),
      isPrefixOf_eq_false fun more e => hmark more (by cases e; rfl)]
    rfl
  | case4 _ hequals hmark hless =>
    rw [isPrefixOf_eq_false hequals, isPrefixOf_eq_false hmark, isPrefixOf_eq_false hless]
    rfl

theorem newGroupInBytes?_of_ne {b : UInt8} (h : b ≠ 0x28) (bytes : List UInt8) :
    newGroupInBytes? (b :: bytes) = none := by
  have hno : ∀ pre : List UInt8, (0x28 :: pre).isPrefixOf (b :: bytes) = false := by
    intro pre
    rw [List.isPrefixOf_cons_cons, beq_false_of_ne h.symm, Bool.false_and]
  unfold newGroupInBytes?
  rw [hno, hno, hno]
  rfl

section Bytes

variable {inClass : Bool} {n : Nat} {c : Char} {cs : List Char}

/-- What is left of a longer character is passed over. -/
theorem newGroupsInBytes_high {high : List UInt8} (h : ∀ b ∈ high, 0x80 ≤ b.toNat)
    (bytes : List UInt8) :
    newGroupsInBytes inClass n (high ++ bytes) =
      newGroupsInBytes inClass (n + high.length) bytes := by
  induction high generalizing n with
  | nil => rfl
  | cons b high ih =>
    obtain ⟨hb, hhigh⟩ := List.forall_mem_cons.1 h
    have hne : ∀ {d : UInt8}, d.toNat < 0x80 → b ≠ d := ne_of_high hb
    rw [List.cons_append, newGroupsInBytes, newGroupInBytes?_of_ne (hne (by decide)),
      if_neg (hne (by decide)), if_neg (hne (by decide)), ih hhigh, List.length_cons,
      Nat.add_right_comm, Nat.add_assoc]
    exact fun _ _ e _ => hne (by decide) e

/-- A character is passed over with the backslash in front of it. -/
theorem newGroupsInBytes_escape :
    newGroupsInBytes inClass n (encode ('\\' :: c :: cs)) =
      newGroupsInBytes inClass (n + 1 + c.utf8Size) (encode cs) := by
  obtain ⟨first, more, hc⟩ := exists_starts c
  have hoffset : n + 2 + more.length = n + 1 + c.utf8Size := by
    rw [← hc.length]
    omega
  rw [hc.encode_escape, newGroupsInBytes, newGroupsInBytes_high hc.more_high, hoffset]

/-- Any other character may open a group, and may open or close a class. -/
theorem newGroupsInBytes_char (h : ∀ d ds, c = '\\' → cs = d :: ds → False) :
    newGroupsInBytes inClass n (encode (c :: cs)) =
      (if inClass then [] else ((newGroup? (c :: cs)).map fun kind => (kind, n)).toList) ++
        newGroupsInBytes (if c = '[' then true else if c = ']' then false else inClass)
          (n + c.utf8Size) (encode cs) := by
  obtain ⟨first, more, hc⟩ := exists_starts c
  have hopen : first = 0x5B ↔ c = '[' := hc.first_eq (d := '[') (by decide)
  have hclose : first = 0x5D ↔ c = ']' := hc.first_eq (d := ']') (by decide)
  rw [← newGroupInBytes?_encode, hc.encode_cons, newGroupsInBytes,
    newGroupsInBytes_high hc.more_high, Nat.add_assoc, hc.length]
  · simp only [hopen, hclose]
    cases newGroupInBytes? (first :: (more ++ encode cs)) <;> cases inClass <;> rfl
  -- the first byte starts no escape
  · intro b bytes hfirst hbytes
    have he : c = '\\' := (hc.first_eq (d := '\\') (by decide)).1 hfirst
    rw [hc.more_eq_nil (by rw [he]; rfl)] at hbytes
    cases cs with
    | nil => cases hbytes
    | cons d ds => exact h d ds he rfl

end Bytes

/-- The scan over the bytes of a text finds what the scan over its characters does. -/
theorem newGroupsInBytes_encode (inClass : Bool) (n : Nat) (cs : List Char) :
    newGroupsInBytes inClass n (encode cs) = newGroups inClass n cs := by
  fun_induction newGroups inClass n cs with
  | case1 => rfl
  | case2 inClass n c cs ih => rw [newGroupsInBytes_escape, ih]
  | case3 n c cs hnot inClass' more kind hkind ih =>
    rw [newGroupsInBytes_char hnot, ih]
    rfl
  | case4 inClass n c cs hnot inClass' more kind hkind hout ih =>
    rw [newGroupsInBytes_char hnot, hkind, ih, if_neg hout]
    rfl
  | case5 inClass n c cs hnot inClass' more hkind ih =>
    rw [newGroupsInBytes_char hnot, hkind, ih]
    cases inClass <;> rfl

/-! ## The offsets of the groups -/

theorem newGroups_boundary {inClass : Bool} {n : Nat} {xs cs : List Char} (hcs : After n xs cs) :
    ∀ p ∈ newGroups inClass n cs, IsBoundary xs p.2 := by
  fun_induction newGroups inClass n cs with
  | case1 => simp
  | case2 _ _ _ _ ih => exact ih hcs.step.step
  | case3 _ _ _ _ _ _ _ _ ih => exact ih hcs.step
  | case4 _ _ _ _ _ _ _ _ _ _ ih =>
    exact List.forall_mem_cons.2 ⟨hcs.isBoundary, ih hcs.step⟩
  | case5 _ _ _ _ _ _ _ _ ih => exact ih hcs.step

theorem firstGroup_boundary {kind : NewGroup} {body : List Char} {n : Nat}
    (h : firstGroup kind body = some n) : IsBoundary body n := by
  obtain ⟨p, hp, rfl⟩ := Option.map_eq_some_iff.1 h
  exact newGroups_boundary (.zero body) p (List.mem_of_find?_eq_some hp)

theorem newGroups_ge (inClass : Bool) (n : Nat) (cs : List Char) :
    ∀ g ∈ newGroups inClass n cs, n ≤ g.2 := by
  fun_induction newGroups inClass n cs with
  | case1 => simp
  | case2 _ _ _ _ ih =>
    intro g hg
    have hge := ih g hg
    omega
  | case3 _ _ _ _ _ _ _ _ ih => exact fun g hg => Nat.le_of_add_right_le (ih g hg)
  | case4 _ n _ _ _ _ _ _ _ _ ih =>
    exact List.forall_mem_cons.2 ⟨Nat.le_refl n, fun g hg => Nat.le_of_add_right_le (ih g hg)⟩
  | case5 _ _ _ _ _ _ _ _ ih => exact fun g hg => Nat.le_of_add_right_le (ih g hg)

/-- Each group that is found comes behind those found before. -/
theorem newGroups_ordered (inClass : Bool) (n : Nat) (cs : List Char) :
    (newGroups inClass n cs).Pairwise fun g g' => g.2 < g'.2 := by
  fun_induction newGroups inClass n cs with
  | case1 => exact .nil
  | case2 _ _ _ _ ih => exact ih
  | case3 _ _ _ _ _ _ _ _ ih => exact ih
  | case4 _ n c cs _ inClass' _ _ _ _ ih =>
    refine .cons (fun g hg => ?_) ih
    have hge : n + c.utf8Size ≤ g.2 := newGroups_ge inClass' _ cs g hg
    have hc := c.utf8Size_pos
    dsimp only
    omega
  | case5 _ _ _ _ _ _ _ _ ih => exact ih

/-- Where groups are listed by offset, the first one of a kind in the list is the one with the least
offset. -/
theorem find?_eq_some_iff_isLeast {gs : List (NewGroup × Nat)}
    (h : gs.Pairwise fun g g' => g.2 < g'.2) (kind : NewGroup) (n : Nat) :
    (gs.find? fun g => g.1 = kind).map Prod.snd = some n ↔ IsLeast {n | (kind, n) ∈ gs} n := by
  induction gs with
  | nil => simp [IsLeast]
  | cons g gs ih =>
    obtain ⟨hg, hgs⟩ := List.pairwise_cons.1 h
    by_cases hk : g.1 = kind
    · have hleast : IsLeast {n | (kind, n) ∈ g :: gs} g.2 := by
        refine ⟨by simp [← hk], fun k hmem => ?_⟩
        rcases List.mem_cons.1 hmem with hfirst | hlater
        · rw [← hfirst]
        · exact Nat.le_of_lt (hg _ hlater)
      rw [List.find?_cons_of_pos (by simp [hk]), Option.map_some, Option.some.injEq]
      exact ⟨fun e => e ▸ hleast, fun hn => hleast.unique hn⟩
    · have hskip : {n | (kind, n) ∈ g :: gs} = {n | (kind, n) ∈ gs} := by
        ext k
        have hne : (kind, k) ≠ g := fun e => hk (by rw [← e])
        simp [hne]
      rw [List.find?_cons_of_neg (by simp [hk]), hskip, ih hgs]

namespace RegExp

/-! ## The groups of the pattern -/

/-- The byte offsets at which a pattern opens groups of a new kind. -/
def Pattern.opens (p : Pattern) : NewGroup → Set Nat
  | .named => {n | ∃ name, (.named name, n) ∈ p.groups}
  | .lookbehind => {n | (.lookbehind, n) ∈ p.groups}

theorem mem_filterMap_newOne {gs : List (GroupKind × Nat)} {kind : NewGroup} {n : Nat} :
    (kind, n) ∈ gs.filterMap newOne ↔ ∃ k, (k, n) ∈ gs ∧ k.new? = some kind := by
  simp [newOne]

/-- A pattern opens groups where the scan finds them. -/
theorem mem_opens {body flags : List Char} {p : Pattern} (h : pattern? body flags = some p)
    {kind : NewGroup} {n : Nat} : n ∈ p.opens kind ↔ (kind, n) ∈ newGroups false 0 body := by
  rw [newGroups_eq_of_pattern h, mem_filterMap_newOne]
  cases kind with
  | named =>
    have hname : ∀ k : GroupKind, k.new? = some .named ↔ ∃ name, k = .named name := by
      intro k
      cases k <;> simp [GroupKind.new?]
    simp only [hname]
    constructor
    · rintro ⟨name, hmem⟩
      exact ⟨_, hmem, name, rfl⟩
    · rintro ⟨_, hmem, name, rfl⟩
      exact ⟨name, hmem⟩
  | lookbehind =>
    have hbehind : ∀ k : GroupKind, k.new? = some .lookbehind ↔ k = .lookbehind := by
      intro k
      cases k <;> simp [GroupKind.new?]
    simp only [hbehind]
    constructor
    · exact fun hmem => ⟨_, hmem, rfl⟩
    · rintro ⟨_, hmem, rfl⟩
      exact hmem

/-- In the body of a well-formed regular expression, with whatever flags, the scan reports for
either kind the byte offset of the first group of this kind in the pattern, and none exactly if the
pattern has none. That holds of the scan over characters and of the one over bytes. -/
theorem firstGroup_isLeast {body flags : List Char} (h : accepts body flags = true) :
    ∃ p, pattern? body flags = some p ∧ ∀ kind,
      (∀ n, firstGroup kind body = some n ↔ IsLeast (p.opens kind) n) ∧
      (firstGroup kind body = none ↔ p.opens kind = ∅) ∧
      firstGroupInBytes kind (encode body) = firstGroup kind body := by
  obtain ⟨p, hp⟩ := Option.isSome_iff_exists.1 (Bool.and_eq_true_iff.1 h).2
  have hopens : ∀ kind, p.opens kind = {n | (kind, n) ∈ newGroups false 0 body} :=
    fun kind => Set.ext fun n => mem_opens hp
  refine ⟨p, hp, fun kind => ⟨fun n => ?_, ?_, ?_⟩⟩
  · rw [hopens]
    exact find?_eq_some_iff_isLeast (newGroups_ordered false 0 body) kind n
  · simp only [firstGroup, Option.map_eq_none_iff, List.find?_eq_none, decide_eq_true_eq, hopens,
      Set.eq_empty_iff_forall_notMem, Set.mem_ofPred_eq]
    exact ⟨fun hnone n hmem => hnone _ hmem rfl, fun hnone g hmem e => hnone g.2 (e ▸ hmem)⟩
  · rw [firstGroupInBytes, newGroupsInBytes_encode, firstGroup]

/-- A pattern with sets in a set, an escaped parenthesis in front and another one in the set, and
groups of the older kinds in front of the two new ones. -/
theorem firstGroup_isLeast_nested :
    let body := "é\\(?<[[\\(a]&&[^b]](?:c)(?=d)(?i:e)(?<n>f)(?<!g)".toList
    accepts body ['v'] = true ∧ ∃ p, pattern? body ['v'] = some p ∧
      IsLeast (p.opens .named) 35 ∧ IsLeast (p.opens .lookbehind) 42 := by
  intro body
  have haccepts : accepts body ['v'] = true := by decide +kernel
  obtain ⟨p, hp, hfirst⟩ := firstGroup_isLeast haccepts
  have hnamed : firstGroup .named body = some 35 := by decide +kernel
  have hbehind : firstGroup .lookbehind body = some 42 := by decide +kernel
  exact ⟨haccepts, p, hp, ((hfirst .named).1 35).1 hnamed, ((hfirst .lookbehind).1 42).1 hbehind⟩

end RegExp
end EditionCheck.Script
