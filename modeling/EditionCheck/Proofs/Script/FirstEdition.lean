import EditionCheck.Proofs.Script.CodePoint
import EditionCheck.Proofs.Script.RegExp.Groups
import EditionCheck.Proofs.Script.Visits
import EditionCheck.Script.Grammar

/-!
  Trees of the first edition raise no alarm.

  A node `IsFirst` when its kind is a construct of the first edition and, where features hide in the
  text of a leaf, that text is one of the first edition too. A tree of such nodes, whatever its size
  and shape, uses no newer feature but commas behind the last argument or parameter, which are
  looked for in the text alone (`disallowed_first`).
-/

namespace EditionCheck.Script

/-! ## Constructs and texts of the first edition -/

/-- The construct is one of the first edition. -/
def Kind.isFirst : Kind → Bool
  | .program | .identifier _ | .string | .number | .regExp | .keywordLiteral | .this | .hole
  | .array _ | .object _ | .property false false false | .accessor _ false
  | .function false false | .parameters | .functionBody
  | .parenthesized | .sequence | .conditional | .unary | .update
  | .member | .computedMember | .call | .new | .arguments
  | .variableList .var | .declarator | .expressionStatement | .block | .empty | .ifElse
  | .forLoop | .forIn | .while | .doWhile | .return | .break | .continue | .throw
  | .try | .catch true | .switch | .case | .labeled | .with | .debugger => true
  | .assignment op => op ∉ [.power, .and, .or, .coalesce]
  | .binary op => op ≠ .power
  | .logical op => op ≠ .coalesce
  | _ => false

/-- A number without separators that does not start like a binary or an octal one. -/
structure FirstNumber (raw : List Char) : Prop where
  noSeparator : '_' ∉ raw
  decimal : ∀ c ∈ ['b', 'B', 'o', 'O'], ¬['0', c] <+: raw

/-- A regular expression with the flags of the first edition whose pattern, by the grammar, has no
groups that have a name or look behind. -/
def FirstRegExp (raw : List Char) : Prop :=
  ∃ body flags p, raw = '/' :: (body ++ '/' :: flags) ∧ (∀ c ∈ flags, c ∈ ['g', 'i', 'm']) ∧
    RegExp.pattern? body flags = some p ∧ ∀ g ∈ p.groups, g.1.new? = none

/-- What the text of a construct is looked at for. -/
inductive TextRule where
  | number | word | regExp
  /-- Its text hides nothing. -/
  | free

/-- What the text of a construct is looked at for, by its kind. -/
def Kind.textRule : Kind → TextRule
  | .number => .number
  | .string | .identifier _ => .word
  | .regExp => .regExp
  | _ => .free

/-- The text is one of the first edition. -/
def TextRule.Holds (raw : List Char) : TextRule → Prop
  | number => FirstNumber raw
  | word => ¬OpensCodePoint raw
  | regExp => FirstRegExp raw
  | free => True

/-- A node of the first edition, whatever its parts. -/
structure Node.IsFirst (text : List Char) (n : Node) : Prop where
  kind : n.kind.isFirst = true
  text : n.kind.textRule.Holds (Text.slice n.start n.stop text)

/-! ## The text of a leaf -/

section Leaf

variable {raw body flags : List Char} {c d : Char}

/-- A character that becomes `d` is `d`, or the capital letter 32 places before it. -/
theorem toLower_eq (h : c.toLower = d) :
    c = d ∨ 'A'.toNat ≤ c.toNat ∧ c.toNat + 32 = d.toNat := by
  unfold Char.toLower at h
  split at h
  · next hc =>
    have hlow : 'A'.toNat ≤ c.toNat := UInt32.le_iff_toNat_le.1 hc.1
    have hhigh : c.val.toNat ≤ 90 := UInt32.le_iff_toNat_le.1 hc.2
    have hshift : ('a'.val - 'A'.val).toNat = 32 := rfl
    have hsum : (c.val + ('a'.val - 'A'.val)).toNat = c.val.toNat + 32 := by
      rw [UInt32.toNat_add]
      omega
    exact .inr ⟨hlow, h ▸ hsum.symm⟩
  · exact .inl h

theorem toLower_eq_zero (h : c.toLower = '0') : c = '0' := by
  rcases toLower_eq h with h | ⟨hlow, h⟩
  · exact h
  · have hA : 'A'.toNat = 65 := rfl
    have h0 : '0'.toNat = 48 := rfl
    omega

/-- A letter that becomes `d` is `d` or its capital `u`. -/
theorem toLower_eq_letter {u : Char} (hu : u.toNat + 32 = d.toNat) (h : c.toLower = d) :
    c = d ∨ c = u := by
  rcases toLower_eq h with h | ⟨-, h⟩
  · exact .inl h
  · exact .inr (Char.toNat_inj.1 (by omega))

/-- Two characters that are lowered to a zero and a letter start the text. -/
theorem prefix_of_map_toLower {u : Char} {rest : List Char} (hu : u.toNat + 32 = d.toNat)
    (h : raw.map Char.toLower = '0' :: d :: rest) : ['0', d] <+: raw ∨ ['0', u] <+: raw := by
  obtain ⟨x, more, rfl, hx, hmore⟩ := List.map_eq_cons_iff.1 h
  obtain ⟨y, tail, rfl, hy, -⟩ := List.map_eq_cons_iff.1 hmore
  rw [toLower_eq_zero hx]
  rcases toLower_eq_letter hu hy with rfl | rfl
  · exact .inl ⟨tail, rfl⟩
  · exact .inr ⟨tail, rfl⟩

theorem numberFeatures_eq_nil (h : FirstNumber raw) : numberFeatures raw = [] := by
  have hseparator : raw.contains '_' = false := by
    simpa using h.noSeparator
  unfold numberFeatures
  rw [hseparator, if_neg Bool.false_ne_true, List.nil_append]
  split
  · next rest heq =>
    rcases prefix_of_map_toLower (u := 'B') rfl heq with hb | hb
    · exact absurd hb (h.decimal _ (by decide))
    · exact absurd hb (h.decimal _ (by decide))
  · next rest heq =>
    rcases prefix_of_map_toLower (u := 'O') rfl heq with ho | ho
    · exact absurd ho (h.decimal _ (by decide))
    · exact absurd ho (h.decimal _ (by decide))
  · rfl

theorem escapeFeatures_eq_nil (h : ¬OpensCodePoint raw) : escapeFeatures raw = [] := by
  unfold escapeFeatures
  rw [if_neg fun hc => h (opensCodePoint_of_has hc)]

/-- The literal from its end: its flags, a slash and the rest. -/
theorem reverse_literal (body flags : List Char) :
    ('/' :: (body ++ '/' :: flags)).reverse = flags.reverse ++ '/' :: (body.reverse ++ ['/']) := by
  simp

theorem ne_slash_of_mem_reverse (h : '/' ∉ flags) :
    ∀ c ∈ flags.reverse, decide (c ≠ '/') = true :=
  fun _ hc => decide_eq_true fun e => h (e ▸ List.mem_reverse.1 hc)

theorem flagsOf_eq (h : '/' ∉ flags) : flagsOf ('/' :: (body ++ '/' :: flags)) = flags := by
  rw [flagsOf, if_pos List.mem_cons_self, reverse_literal,
    List.takeWhile_append_of_pos (ne_slash_of_mem_reverse h)]
  simp

theorem bodyOf_eq (h : '/' ∉ flags) : bodyOf ('/' :: (body ++ '/' :: flags)) = body := by
  have hrest : ('/' :: (body.reverse ++ ['/'])).reverse = '/' :: body ++ ['/'] := by simp
  rw [bodyOf, reverse_literal,
    List.dropWhile_append_of_pos (ne_slash_of_mem_reverse h),
    List.dropWhile_cons_of_neg (by simp), hrest, List.dropLast_concat]
  rfl

/-- Flags of the first edition have no feature. -/
theorem flagFeatures_eq_nil (h : ∀ c ∈ flags, c ∈ ['g', 'i', 'm']) : flagFeatures flags = [] := by
  have hnone : ∀ c, c ∉ ['g', 'i', 'm'] → flags.contains c = false := by
    intro c hc
    rw [List.contains_eq_mem, decide_eq_false fun hmem => hc (h c hmem)]
  unfold flagFeatures
  rw [hnone 'u' (by decide), hnone 'y' (by decide), hnone 's' (by decide), hnone 'd' (by decide),
    hnone 'v' (by decide)]
  rfl

/-- The scan finds no group in a regular expression of the first edition. -/
theorem firstGroup_eq_none {p : RegExp.Pattern} (h : RegExp.pattern? body flags = some p)
    (hnew : ∀ g ∈ p.groups, g.1.new? = none) (kind : NewGroup) : firstGroup kind body = none := by
  have hfound : p.groups.filterMap RegExp.newOne = [] := by
    rw [List.filterMap_eq_nil_iff]
    intro g hg
    rw [RegExp.newOne, hnew g hg]
    rfl
  rw [firstGroup, RegExp.newGroups_eq_of_pattern h, hfound]
  rfl

/-- A regular expression of the first edition can be told by its last slash. -/
theorem firstRegExp_iff :
    FirstRegExp raw ↔
      raw = '/' :: (bodyOf raw ++ '/' :: flagsOf raw) ∧
        ((flagsOf raw).all fun c => decide (c ∈ ['g', 'i', 'm'])) ∧
        (RegExp.pattern? (bodyOf raw) (flagsOf raw)).any
          fun p => decide (∀ g ∈ p.groups, g.1.new? = none) := by
  constructor
  · rintro ⟨body, flags, p, rfl, hflags, hp, hnew⟩
    have hslash : '/' ∉ flags := fun hmem => absurd (hflags _ hmem) (by decide)
    rw [bodyOf_eq hslash, flagsOf_eq hslash, hp]
    exact ⟨rfl, List.all_eq_true.2 fun c hc => decide_eq_true (hflags c hc), decide_eq_true hnew⟩
  · rintro ⟨hraw, hflags, hany⟩
    obtain ⟨p, hp, hnew⟩ := (Option.any_eq_true _ _).1 hany
    have hold : ∀ c ∈ flagsOf raw, c ∈ ['g', 'i', 'm'] :=
      fun c hc => of_decide_eq_true (List.all_eq_true.1 hflags c hc)
    exact ⟨_, _, p, hraw, hold, hp, of_decide_eq_true hnew⟩

instance (raw : List Char) : Decidable (FirstNumber raw) :=
  have : Decidable (∀ c ∈ ['b', 'B', 'o', 'O'], ¬['0', c] <+: raw) := List.decidableBAll _ _
  decidable_of_iff ('_' ∉ raw ∧ ∀ c ∈ ['b', 'B', 'o', 'O'], ¬['0', c] <+: raw)
    ⟨fun h => ⟨h.1, h.2⟩, fun h => ⟨h.1, h.2⟩⟩

instance (raw : List Char) : Decidable (FirstRegExp raw) := decidable_of_iff _ firstRegExp_iff.symm

instance (raw : List Char) : (r : TextRule) → Decidable (r.Holds raw)
  | .number => inferInstanceAs (Decidable (FirstNumber raw))
  | .word => inferInstanceAs (Decidable (¬OpensCodePoint raw))
  | .regExp => inferInstanceAs (Decidable (FirstRegExp raw))
  | .free => isTrue trivial

instance (text : List Char) (n : Node) : Decidable (n.IsFirst text) :=
  decidable_of_iff (n.kind.isFirst = true ∧
      n.kind.textRule.Holds (Text.slice n.start n.stop text))
    ⟨fun h => ⟨h.1, h.2⟩, fun h => ⟨h.1, h.2⟩⟩

end Leaf

/-! ## The uses of a node -/

variable {text : List Char}

/-- What a construct of the first edition uses at its start is nothing. -/
theorem featuresAt_eq_nil {k : Kind} {a b : Nat} {cs : List Node} (hk : k.isFirst = true)
    (ht : k.textRule.Holds (Text.slice a b text)) : featuresAt (.ofText text) a b cs k = [] := by
  cases k with
  | number =>
    rw [featuresAt, Text.Suffixes.slice_ofText]
    exact numberFeatures_eq_nil ht
  | string | identifier =>
    rw [featuresAt, Text.Suffixes.slice_ofText]
    exact escapeFeatures_eq_nil ht
  | regExp =>
    obtain ⟨body, flags, p, hraw, hflags, -, -⟩ := ht
    have hslash : '/' ∉ flags := fun hmem => absurd (hflags _ hmem) (by decide)
    rw [featuresAt, Text.Suffixes.slice_ofText, hraw, flagsOf_eq hslash]
    exact flagFeatures_eq_nil hflags
  | variableList how => cases how <;> first | rfl | cases hk
  | property method shorthand computed =>
    cases method <;> cases shorthand <;> cases computed <;> first | rfl | cases hk
  | accessor access computed => cases computed <;> first | rfl | cases hk
  | function async generator => cases async <;> cases generator <;> first | rfl | cases hk
  | «catch» bound => cases bound <;> first | rfl | cases hk
  | assignment op | binary op | logical op => cases op <;> first | rfl | cases hk
  | _ => first | rfl | cases hk

/-- What it uses elsewhere is a comma behind its last element. -/
theorem usesInside_first {k : Kind} {a b : Nat} {cs : List Node}
    (ht : k.textRule.Holds (Text.slice a b text)) :
    ∀ u ∈ usesInside (.ofText text) k a b cs, u.feature = .trailingComma := by
  unfold usesInside
  split
  · split
    · simp
    · simp
  · obtain ⟨body, flags, p, hraw, hflags, hp, hnew⟩ := ht
    have hslash : '/' ∉ flags := fun hmem => absurd (hflags _ hmem) (by decide)
    simp only [Text.Suffixes.slice_ofText, hraw, bodyOf_eq hslash, firstGroup_eq_none hp hnew]
    simp
  · simp

theorem Node.asked_first {n : Node} (h : n.IsFirst text) :
    ∀ u ∈ n.asked (.ofText text), u.feature = .trailingComma := by
  intro u hu
  rw [asked, featuresAt_eq_nil h.kind h.text, List.map_nil, List.nil_append] at hu
  exact usesInside_first h.text u hu

/-! ## The uses of a tree -/

/-- A spread or a rest of an object is none of the first edition. -/
theorem Kind.isUnpacked_of_isFirst {k : Kind} (h : k.isFirst = true) : k.isUnpacked = false := by
  unfold isUnpacked
  split <;> first | rfl | cases h

theorem Visit.asked_first {v : Visit} (h : v.node.IsFirst text)
    (hv : v.unpacked = true → v.node.kind.isUnpacked = true) :
    ∀ u ∈ v.asked (.ofText text), u.feature = .trailingComma := by
  have hvisited : v.unpacked = false := by
    by_contra hne
    have hunpacked := hv (Bool.eq_true_of_not_eq_false hne)
    rw [Kind.isUnpacked_of_isFirst h.kind] at hunpacked
    cases hunpacked
  rw [asked, hvisited]
  exact Node.asked_first h

/-- A tree of the first edition, whatever its size and whatever else stands in the text, has no
newer feature under any target but a comma behind the last argument or parameter. -/
theorem disallowed_first {tree : Node} {text : List Char} (h : ∀ n ∈ tree.nodes, n.IsFirst text)
    (target : Edition) : ∀ u ∈ disallowed tree text target, u.feature = .trailingComma := by
  intro u hu
  rw [disallowed_eq_asks] at hu
  rcases List.mem_append.1 (List.mem_of_mem_filter (Use.mem_sort.1 hu)) with hu | hu
  · obtain ⟨line, ⟨hline, hk⟩, rfl⟩ := mem_hashbangUses hu
    have hfirst := (h line hline).kind
    rw [hk] at hfirst
    cases hfirst
  · obtain ⟨v, hv, hu⟩ := List.mem_flatMap.1 hu
    obtain ⟨hnode, hunpacked⟩ := Node.mem_nodes_of_visit hv
    exact Visit.asked_first (h _ hnode) hunpacked u hu

/-- A script of the first edition with an escaped backslash, parentheses in a class and a comma
behind the last argument, which is all that is found. -/
theorem disallowed_first_comma :
    let text := "f('\\\\u\x7b1\x7d', /a(?:b)[(?<]/g, 0x1F,);".toList
    ∃ tree : Tree, parse false text = some tree ∧ (∀ n ∈ tree.root.nodes, n.IsFirst text) ∧
      disallowed tree text .es5 = [⟨.trailingComma, 32⟩] ∧
      ∀ u ∈ disallowed tree text .es5, u.feature = .trailingComma := by
  intro text
  have hcomputed : (parse false text).any (fun tree : Tree =>
      decide ((∀ n ∈ tree.root.nodes, n.IsFirst text) ∧
        disallowed tree text .es5 = [⟨.trailingComma, 32⟩])) = true := by
    decide +kernel
  obtain ⟨tree, hparse, htree⟩ := (Option.any_eq_true _ _).1 hcomputed
  obtain ⟨hfirst, hcomma⟩ := of_decide_eq_true htree
  exact ⟨tree, hparse, hfirst, hcomma, disallowed_first hfirst .es5⟩

end EditionCheck.Script
