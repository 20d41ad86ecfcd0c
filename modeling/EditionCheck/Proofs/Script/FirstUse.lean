import Mathlib.Data.List.Infix
import EditionCheck.Proofs.Script.Gap
import EditionCheck.Proofs.Script.RegExp.FirstGroup
import EditionCheck.Proofs.Script.Spans
import EditionCheck.Proofs.Script.Target

/-!
  The use that a failure reports is the first one.

  If the nodes of a script stand at boundaries of its text, so does every use in it, wherever its
  offset comes from: the start of a node, a comma behind the last element of a list, a group within
  a regular expression (`isBoundary_of_mem_uses`). There line and column grow with the offset, so
  the use with the least offset is the one that comes first in the text (`judge_first_use`).
-/

namespace EditionCheck.Script

open Text (After IsBoundary)

/-! ## Offsets within a node -/

/-- The body of a literal stands behind its first byte. -/
theorem bodyOf_eq_nil_or (raw : List Char) :
    bodyOf raw = [] ∨ ∃ c more, c.utf8Size = 1 ∧ raw = c :: (bodyOf raw ++ more) := by
  have hprefix : (raw.reverse.dropWhile (· ≠ '/')).reverse.dropLast <+: raw := by
    refine (List.dropLast_prefix _).trans ?_
    rw [← List.reverse_suffix, List.reverse_reverse]
    exact List.dropWhile_suffix _
  unfold bodyOf
  split
  · next c body hbody =>
    split
    · next hc =>
      obtain ⟨more, hmore⟩ := hbody ▸ hprefix
      exact .inr ⟨c, more, hc, hmore.symm⟩
    · exact .inl rfl
  · exact .inl rfl

theorem firstGroup_nil (kind : NewGroup) : firstGroup kind [] = none := rfl

theorem argumentsOf_mem {k : Kind} {a b : Nat} {cs : List Node} {c : Node}
    (h : c ∈ argumentsOf cs) : c ∈ (Node.node k a b cs).nodes := by
  unfold argumentsOf at h
  cases hfind : cs.find? fun c => c.kind = .arguments with
  | none =>
    rw [hfind] at h
    cases h
  | some list =>
    rw [hfind] at h
    have hlist := List.mem_of_find?_eq_some hfind
    exact Node.mem_nodes_node.2 (.inr ⟨list, hlist, Node.mem_nodes_of_mem_children h⟩)

/-- The last element of a list is somewhere below it. -/
theorem lastElement?_mem {k k' : Kind} {a b : Nat} {cs : List Node} {last : Node}
    (h : lastElement? k cs = some last) : last ∈ (Node.node k' a b cs).nodes := by
  unfold lastElement? at h
  split at h
  · exact argumentsOf_mem (List.mem_of_getLast? h)
  · exact argumentsOf_mem (List.mem_of_getLast? h)
  · exact Node.mem_nodes_of_mem_children
      (List.mem_of_getLast? (Option.eq_some_of_filter_eq_some h))
  · cases h

/-! ## Every use stands at a boundary -/

section Offsets

variable {text : List Char}

/-- A group of a regular expression, whose body starts behind its first byte. -/
theorem firstGroup_boundary_text {kind : NewGroup} {a b n : Nat} (ha : IsBoundary text a)
    (h : firstGroup kind (bodyOf ((Text.Suffixes.ofText text).slice a b)) = some n) :
    IsBoundary text (a + 1 + n) := by
  obtain ⟨rest, hrest⟩ := ha
  rw [Text.Suffixes.slice_ofText, Text.slice, Text.dropBytes_of_after hrest] at h
  obtain hnil | ⟨c, more, hc, hraw⟩ := bodyOf_eq_nil_or (Text.takeBytes (b - a) rest)
  · rw [hnil, firstGroup_nil] at h
    cases h
  · obtain ⟨tail, htail⟩ := Text.takeBytes_isPrefix (b - a) rest
    obtain ⟨rest', hn⟩ := firstGroup_boundary h
    -- the text from the start of the literal on: its first byte, its body, and the rest
    have htext : rest = c :: (bodyOf (Text.takeBytes (b - a) rest) ++ (more ++ tail)) := by
      rw [← List.append_assoc, ← List.cons_append, ← hraw, htail]
    have hstep := (htext ▸ hrest).step
    rw [hc] at hstep
    exact (hstep.trans (hn.append_right (more ++ tail))).isBoundary

/-- Other places than the start: behind the last element of a list, and within the body of a
regular expression. -/
theorem usesInside_boundary {k : Kind} {a b : Nat} {cs : List Node}
    (h : (Node.node k a b cs).Spanned text) :
    ∀ u ∈ usesInside (.ofText text) k a b cs, IsBoundary text u.offset := by
  unfold usesInside
  split
  · next last hlast =>
    obtain ⟨rest, hrest⟩ := (h last (lastElement?_mem hlast)).2
    split
    · next n hn =>
      rw [Text.Suffixes.suffix_ofText, Text.dropBytes_of_after hrest] at hn
      obtain ⟨gap, more, -, rfl, rfl⟩ := leadingComma_eq_some.1 hn
      simpa using (hrest.trans (.append gap (',' :: more))).isBoundary
    · simp
  · have ha := (h _ (Node.self_mem_nodes _)).1
    intro u hu
    rcases List.mem_append.1 hu with hu | hu
    all_goals
      obtain ⟨n, hn, rfl⟩ := Option.map_eq_some_iff.1 (Option.mem_toList.1 hu)
      exact firstGroup_boundary_text ha hn
  · simp

theorem asked_boundary {n : Node} (h : n.Spanned text) :
    ∀ u ∈ n.asked (.ofText text), IsBoundary text u.offset := by
  intro u hu
  cases n with
  | node k a b cs =>
    rcases List.mem_append.1 hu with hu | hu
    · obtain ⟨f, -, rfl⟩ := List.mem_map.1 hu
      exact (h _ (Node.self_mem_nodes _)).1
    · exact usesInside_boundary h u hu

theorem own_boundary {n : Node} (h : n.Spanned text) :
    ∀ u ∈ n.own (.ofText text), IsBoundary text u.offset := by
  intro u hu
  rcases Node.mem_own hu with rfl | hu
  · exact (h n n.self_mem_nodes).1
  · exact asked_boundary h u hu

theorem hashbangUses_boundary {tree : Node} (h : tree.Spanned text) :
    ∀ u ∈ hashbangUses tree, IsBoundary text u.offset := by
  intro u hu
  obtain ⟨line, hline, rfl⟩ := mem_hashbangUses hu
  exact (h line hline.1).1

/-- Every use in a script stands at a boundary of its text. -/
theorem isBoundary_of_mem_uses {tree : Tree} (h : tree.root.Spanned text) :
    ∀ u ∈ tree.uses text, IsBoundary text u.offset := by
  intro u hu
  rcases List.mem_append.1 hu with hu | hu
  · exact hashbangUses_boundary h u hu
  · obtain ⟨n, hn, hu⟩ := List.mem_flatMap.1 hu
    exact own_boundary (fun m hm => h m (Node.mem_nodes_trans hm hn)) u hu

end Offsets

/-! ## The first use that is not allowed -/

section First

variable {tree : Tree} {text : List Char} {target : Edition} {u : Use} {rest : List Use}

/-- The head of the disallowed uses, among all uses of the tree: no disallowed use has a smaller
offset, and none in front of it has the same one. -/
theorem disallowed_eq_cons (h : disallowed tree text target = u :: rest) :
    ∃ before after, tree.uses text = before ++ u :: after ∧ u.feature.allowedIn target = false ∧
      (∀ v ∈ tree.uses text, v.feature.allowedIn target = false → u.offset ≤ v.offset) ∧
      ∀ v ∈ before, v.feature.allowedIn target = false → v.offset ≠ u.offset := by
  rw [disallowed_eq] at h
  obtain ⟨front, back, hfilter, hle, hlt⟩ := Use.sort_eq_cons h
  obtain ⟨before, after', hsplit, hfront, hback⟩ := List.filter_eq_append_iff.1 hfilter
  obtain ⟨allowed, after, rfl, hallowed, hu, -⟩ := List.filter_eq_cons_iff.1 hback
  have hkept : ∀ {v : Use}, v.feature.allowedIn target = false →
      (!v.feature.allowedIn target) = true := fun hv => by rw [hv]; rfl
  refine ⟨before ++ allowed, after, by rw [hsplit, List.append_assoc], by simpa using hu, ?_, ?_⟩
  · intro v hv hnot
    exact hle v (List.mem_filter.2 ⟨hv, hkept hnot⟩)
  · intro v hv hnot
    rcases List.mem_append.1 hv with hv | hv
    · have hv' : v ∈ front := hfront ▸ List.mem_filter.2 ⟨hv, hkept hnot⟩
      exact Nat.ne_of_gt (hlt v hv')
    · exact absurd (hkept hnot) (hallowed v hv)

end First

/-- A text without a tree is refused without a feature or a place. Otherwise a script is accepted if
the target allows every use in it, and else refused for the one that comes first: no disallowed use
has an earlier line and column, and at its offset none comes before it in the tree, parents before
children. Of the parser this takes no more than that it tells where the nodes stand. -/
theorem judge_first_use {read : Reader} (hread : read.Spanned) (kind : SourceKind) (text : String)
    (target : Edition) :
    ((∃ message, read kind text = .error message) ↔
      ∃ e, read.judge kind text target = .error e ∧ e.feature = none ∧ e.line = none ∧
        e.column = none) ∧
    ∀ tree : Tree, read kind text = .ok tree →
      (read.judge kind text target = .ok () ↔
        ∀ u ∈ tree.uses text.toList, u.feature.allowedIn target = true) ∧
      (read.judge kind text target ≠ .ok () →
        ∃ before u after, tree.uses text.toList = before ++ u :: after ∧
          read.judge kind text target = .error (u.failure text.toList target) ∧
          u.feature.allowedIn target = false ∧
          (∀ v ∈ tree.uses text.toList, v.feature.allowedIn target = false →
            toLex (Text.lineColumn text.toList u.offset) ≤
              toLex (Text.lineColumn text.toList v.offset)) ∧
          ∀ v ∈ before, v.feature.allowedIn target = false → v.offset ≠ u.offset) := by
  constructor
  · constructor
    · rintro ⟨message, hp⟩
      exact ⟨_, Reader.judge_of_error hp, rfl, rfl, rfl⟩
    · rintro ⟨e, he, hf, -, -⟩
      exact Reader.judge_eq_error_none.1 ⟨e, he, hf⟩
  · intro tree hp
    rw [Reader.judge_of_ok hp, judgeTree_eq_ok]
    refine ⟨disallowed_eq_nil, fun hne => ?_⟩
    obtain ⟨u, rest, hu⟩ := List.exists_cons_of_ne_nil (mt judgeTree_eq_ok.2 hne)
    obtain ⟨before, after, hsplit, hnot, hle, hbefore⟩ := disallowed_eq_cons hu
    refine ⟨before, u, after, hsplit, judgeTree_eq_error.2 ⟨u, rest, hu, rfl⟩, hnot, ?_, hbefore⟩
    intro v hv hv'
    have hboundary := isBoundary_of_mem_uses (hread kind text tree hp)
    have hmem : u ∈ tree.uses text.toList := by simp [hsplit]
    exact Text.lineColumn_le (hboundary u hmem) (hboundary v hv) (hle v hv hv')

/-- A script with letters of two bytes: of the two uses that are too new, the failure tells the one
in the first line. -/
theorem judge_first_use_letters :
    let text := "f(ä, ü => 1n,\n  /(?<ö>.)/)"
    reader.Spanned ∧
      reader.judge .script text .es2015 = .error (.unsupported .bigInt .es2015 1 11) ∧
      ∃ (tree : Tree) (before : List Use) (u : Use) (after : List Use),
        reader .script text = .ok tree ∧ tree.uses text.toList = before ++ u :: after ∧
        u.failure text.toList .es2015 = .unsupported .bigInt .es2015 1 11 ∧
        ∀ v ∈ tree.uses text.toList, v.feature.allowedIn .es2015 = false →
          toLex (Text.lineColumn text.toList u.offset) ≤
            toLex (Text.lineColumn text.toList v.offset) := by
  intro text
  have hjudge : reader.judge .script text .es2015 =
      .error (.unsupported .bigInt .es2015 1 11) := by
    decide +kernel
  obtain ⟨hnone, hsome⟩ := judge_first_use reader_spanned .script text .es2015
  cases hp : reader .script text with
  | error message =>
    obtain ⟨e, he, hf, -⟩ := hnone.1 ⟨message, hp⟩
    rw [hjudge] at he
    cases he
    cases hf
  | ok tree =>
    obtain ⟨before, u, after, hsplit, he, -, hle, -⟩ :=
      (hsome tree hp).2 (by rw [hjudge]; nofun)
    rw [hjudge] at he
    exact ⟨reader_spanned, hjudge, tree, before, u, after, rfl, hsplit, (Except.error.inj he).symm,
      hle⟩

end EditionCheck.Script
