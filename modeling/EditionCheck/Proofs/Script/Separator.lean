import EditionCheck.Proofs.Script.Spans
import EditionCheck.Proofs.Script.Target

/-!
  Separators in numeric literals.

  Under a target without separators a script may have none, neither in a number nor in a big
  integer, and each literal that has one is to be reported (`SeparatorRule`). The detector looks for
  separators in numbers only. Under most of these targets a big integer is too new itself; the last
  one allows it, and there a separator in a big integer passes (`separatorRule_fails_bigInt`).

  `separatorRule_iff` says that nothing else is wrong: the rule holds of a script exactly if no big
  integer of it is written with a separator. That a literal without a separator is not reported
  takes more than the report of each literal: no other literal may start at the same place, which is
  asked of the parser (`Reader.NumeralsApart`).
-/

namespace EditionCheck.Script

namespace Node

/-- The node is a numeric literal that is written with a separator. -/
def IsSeparated (text : List Char) (n : Node) : Prop :=
  n.IsNumeric ∧ '_' ∈ Text.slice n.start n.stop text

instance (text : List Char) (n : Node) : Decidable (n.IsSeparated text) :=
  inferInstanceAs (Decidable (_ ∧ _))

end Node

/-! ## What the detector reports -/

section Reports

variable {text : List Char} {tree : Tree}

theorem numberFeatures_separator (raw : List Char) :
    (numberFeatures raw).filter (· = .numericSeparator) =
      if '_' ∈ raw then [.numericSeparator] else [] := by
  have hfirst : (if raw.contains '_' then [Feature.numericSeparator] else []).filter
      (· = .numericSeparator) = if '_' ∈ raw then [.numericSeparator] else [] := by
    by_cases h : '_' ∈ raw <;> simp [h]
  rw [numberFeatures, List.filter_append, hfirst, List.append_right_eq_self]
  split <;> rfl

theorem separator_not_mem_featuresAt {k : Kind} (hk : k ≠ .number) (text : Text.Suffixes)
    (a b : Nat) (cs : List Node) : Feature.numericSeparator ∉ featuresAt text a b cs k := by
  unfold featuresAt
  split
  all_goals first
    | exact absurd rfl hk
    | simp [flagFeatures, escapeFeatures]

theorem feature_ne_of_mem_usesInside {text : Text.Suffixes} {k : Kind} {a b : Nat} {cs : List Node}
    {u : Use} (h : u ∈ usesInside text k a b cs) : u.feature ≠ .numericSeparator := by
  revert h
  unfold usesInside
  split
  · split <;> simp +contextual
  · simp only [List.mem_append, Option.mem_toList, Option.map_eq_some_iff]
    rintro (⟨_, _, rfl⟩ | ⟨_, _, rfl⟩) <;> simp
  · simp

/-- The visitor of a node asks for a separator in numbers only, and at the start of the number. -/
theorem Node.separators_eq_asked (text : List Char) (n : Node) :
    (n.asked (.ofText text)).filter (fun u => u.feature = .numericSeparator) =
      if n.kind = .number ∧ n.IsSeparated text then [⟨.numericSeparator, n.start⟩] else [] := by
  have hinside : (usesInside (.ofText text) n.kind n.start n.stop n.children).filter
      (fun u => u.feature = .numericSeparator) = [] := by
    rw [List.filter_eq_nil_iff]
    intro u hu
    simpa using feature_ne_of_mem_usesInside hu
  rw [asked, List.filter_append, hinside, List.append_nil, List.filter_map]
  by_cases hk : n.kind = .number
  · have hsep : n.IsSeparated text ↔ '_' ∈ Text.slice n.start n.stop text :=
      and_iff_right (.inl hk)
    rw [hk, featuresAt, Text.Suffixes.slice_ofText]
    have hnumber := numberFeatures_separator (Text.slice n.start n.stop text)
    calc _ = ((numberFeatures (Text.slice n.start n.stop text)).filter
          (· = .numericSeparator)).map (Use.mk · n.start) := rfl
      _ = _ := by
        rw [hnumber]
        by_cases h : '_' ∈ Text.slice n.start n.stop text <;> simp [hsep, h]
  · rw [if_neg fun h => hk h.1, List.map_eq_nil_iff, List.filter_eq_nil_iff]
    intro f hf
    have hne : f ≠ .numericSeparator :=
      fun h => separator_not_mem_featuresAt hk _ _ _ _ (h ▸ hf)
    simpa using hne

/-- The detector looks for a separator in numbers, and reports it where the number starts. -/
theorem Node.separators_eq (text : List Char) (n : Node) :
    (n.own (.ofText text)).filter (fun u => u.feature = .numericSeparator) =
      if n.kind = .number ∧ n.IsSeparated text then [⟨.numericSeparator, n.start⟩] else [] := by
  cases hk : n.kind.isUnpacked with
  | false => rw [own_of_visited hk, separators_eq_asked]
  | true =>
    have hnumber : n.kind ≠ .number := fun h => by rw [h] at hk; cases hk
    rw [own_of_unpacked hk, if_neg fun h => hnumber h.1]
    rfl

/-- Under a target that does not allow them, the detector reports the separators of all numbers and
no others. -/
theorem disallowed_separators (tree : Tree) (text : List Char) {target : Edition}
    (ht : ¬Edition.es2021 ≤ target) :
    (disallowed tree text target).filter (fun u => u.feature = .numericSeparator) =
      Use.sort ((tree.root.nodes.filter fun n => n.kind = .number ∧ n.IsSeparated text).map
        fun n => ⟨.numericSeparator, n.start⟩) := by
  have hf : Feature.numericSeparator.allowedIn target = false := decide_eq_false ht
  rw [disallowed_filter tree text hf (by decide)]
  congr 1
  induction tree.root.nodes with
  | nil => rfl
  | cons n ns ih =>
    rw [List.flatMap_cons, ih, Node.separators_eq, List.filter_cons]
    by_cases h : n.kind = .number ∧ n.IsSeparated text <;> simp [h]

theorem separator_mem_disallowed {target : Edition} (ht : ¬Edition.es2021 ≤ target) {offset : Nat} :
    ⟨.numericSeparator, offset⟩ ∈ disallowed tree text target ↔
      ∃ n ∈ tree.root.nodes, n.kind = .number ∧ n.IsSeparated text ∧ n.start = offset := by
  have hmem : ⟨.numericSeparator, offset⟩ ∈ disallowed tree text target ↔
      ⟨.numericSeparator, offset⟩ ∈ (disallowed tree text target).filter
        fun u => u.feature = .numericSeparator := by
    rw [List.mem_filter]
    simp
  rw [hmem, disallowed_separators tree text ht, Use.mem_sort]
  simp [and_assoc]

end Reports

/-! ## The rule and where it fails -/

/-- What separators are to mean under a target that has none. -/
structure SeparatorRule (read : Reader) (kind : SourceKind) (text : String) (tree : Tree)
    (target : Edition) : Prop where
  /-- A script with a separator is refused. -/
  refused : (∃ n ∈ tree.root.nodes, n.IsSeparated text.toList) →
    ∃ e, read.judge kind text target = .error e
  /-- Each literal with a separator is reported where it starts. -/
  reported : ∀ n ∈ tree.root.nodes, n.IsSeparated text.toList →
    ⟨.numericSeparator, n.start⟩ ∈ disallowed tree text.toList target
  /-- No literal without a separator is reported for one. -/
  spared : ∀ n ∈ tree.root.nodes, n.IsNumeric → ¬n.IsSeparated text.toList →
    ⟨.numericSeparator, n.start⟩ ∉ disallowed tree text.toList target

section Rule

variable {read : Reader} {kind : SourceKind} {text : String} {tree : Tree} {target : Edition}

theorem exists_error_of_mem_disallowed (hp : read kind text = .ok tree) {u : Use}
    (hu : u ∈ disallowed tree text.toList target) :
    ∃ e, read.judge kind text target = .error e := by
  obtain ⟨v, rest, hv⟩ := List.exists_cons_of_ne_nil (List.ne_nil_of_mem hu)
  exact ⟨_, (Reader.judge_of_ok hp).trans (judgeTree_eq_error.2 ⟨v, rest, hv, rfl⟩)⟩

/-- A literal without a separator does not start where one with a separator does. -/
theorem separator_not_mem_disallowed (hapart : tree.root.NumeralsApart)
    (ht : ¬Edition.es2021 ≤ target) {n : Node} (hn : n ∈ tree.root.nodes) (hnum : n.IsNumeric)
    {cs : List Char} (hsep : ¬n.IsSeparated cs) :
    ⟨.numericSeparator, n.start⟩ ∉ disallowed tree cs target := by
  rw [separator_mem_disallowed ht]
  rintro ⟨m, hm, -, hmsep, hstart⟩
  obtain ⟨-, hstop⟩ := hapart m hm n hn hmsep.1 hnum hstart
  exact hsep ⟨hnum, hstart ▸ hstop ▸ hmsep.2⟩

theorem bigInt_mem_disallowed (ht : ¬Edition.es2020 ≤ target) {n : Node}
    (hn : n ∈ tree.root.nodes) (hk : n.kind = .bigInt) (cs : List Char) :
    ⟨.bigInt, n.start⟩ ∈ disallowed tree cs target := by
  have hf : Feature.bigInt.allowedIn target = false := decide_eq_false ht
  have hown : ⟨.bigInt, n.start⟩ ∈ n.own (.ofText cs) := by
    rw [Node.own_of_visited (by rw [hk]; rfl), Node.asked, hk]
    exact List.mem_append_left _ List.mem_cons_self
  refine mem_disallowed.2 ⟨List.mem_append_right _ ?_, hf⟩
  exact List.mem_flatMap.2 ⟨n, hn, hown⟩

theorem eq_es2020 (h : Edition.es2020 ≤ target) (ht : ¬Edition.es2021 ≤ target) :
    target = .es2020 := by
  revert h ht
  cases target <;> decide

/-- Under a target without separators the detector reports those of numbers and no others, and the
only target under which a script with a separator may pass is the last one of them. The rule holds
of a script exactly if its separators are all in numbers. Of the parser this takes no more than that
it reads no two literals at one place. -/
theorem separatorRule_iff (hread : read.NumeralsApart) (hp : read kind text = .ok tree)
    (ht : ¬Edition.es2021 ≤ target) :
    (disallowed tree text.toList target).filter (fun u => u.feature = .numericSeparator) =
        Use.sort ((tree.root.nodes.filter fun n =>
          n.kind = .number ∧ n.IsSeparated text.toList).map
            fun n => ⟨.numericSeparator, n.start⟩) ∧
      ((∃ n ∈ tree.root.nodes, n.IsSeparated text.toList) → target ≠ .es2020 →
        ∃ e, read.judge kind text target = .error e) ∧
      (SeparatorRule read kind text tree target ↔
        ∀ n ∈ tree.root.nodes, n.IsSeparated text.toList → n.kind = .number) := by
  have hapart := hread kind text tree hp
  have hmem {n : Node} (hn : n ∈ tree.root.nodes) (hsep : n.IsSeparated text.toList)
      (hk : n.kind = .number) : ⟨.numericSeparator, n.start⟩ ∈ disallowed tree text.toList target :=
    (separator_mem_disallowed ht).2 ⟨n, hn, hk, hsep, rfl⟩
  refine ⟨disallowed_separators tree text.toList ht, ?_, ?_, ?_⟩
  · rintro ⟨n, hn, hsep⟩ hne
    rcases hsep.1 with hk | hk
    · exact exists_error_of_mem_disallowed hp (hmem hn hsep hk)
    · -- under an older target the big integer itself is too new
      have hold : ¬Edition.es2020 ≤ target := fun h => hne (eq_es2020 h ht)
      exact exists_error_of_mem_disallowed hp (bigInt_mem_disallowed hold hn hk _)
  · intro hrule n hn hsep
    -- what is reported there is a number, and nothing else can start at its place
    obtain ⟨m, hm, hk, hmsep, hstart⟩ :=
      (separator_mem_disallowed ht).1 (hrule.reported n hn hsep)
    exact (hapart m hm n hn hmsep.1 hsep.1 hstart).1 ▸ hk
  · intro hnumber
    refine ⟨?_, fun n hn hsep => hmem hn hsep (hnumber n hn hsep), fun n hn hnum hsep =>
      separator_not_mem_disallowed hapart ht hn hnum hsep⟩
    rintro ⟨n, hn, hsep⟩
    exact exists_error_of_mem_disallowed hp (hmem hn hsep (hnumber n hn hsep))

end Rule

/-- A field name and an element of an array, each with a separator, and two literals without one. -/
theorem separatorRule_iff_nested :
    let text := "class A { 1_0 = [2, 0x1_F, 30n] }"
    ∃ tree : Tree, reader.NumeralsApart ∧ reader .script text = .ok tree ∧
      SeparatorRule reader .script text tree .es2020 ∧
      (disallowed tree text.toList .es2020).filter (fun u => u.feature = .numericSeparator) =
        [⟨.numericSeparator, 10⟩, ⟨.numericSeparator, 20⟩] := by
  intro text
  have hchecked : (parse false text.toList).map (fun tree : Tree =>
      (decide (∀ n ∈ tree.root.nodes, n.IsSeparated text.toList → n.kind = .number),
        (disallowed tree text.toList .es2020).filter fun u => u.feature = .numericSeparator)) =
      some (true, [⟨.numericSeparator, 10⟩, ⟨.numericSeparator, 20⟩]) := by
    decide +kernel
  obtain ⟨tree, hp, heq⟩ := Option.map_eq_some_iff.1 hchecked
  obtain ⟨hnumber, huses⟩ := Prod.ext_iff.1 heq
  have hread : reader .script text = .ok tree := reader_eq_ok.2 hp
  have ht : ¬Edition.es2021 ≤ .es2020 := by decide
  exact ⟨tree, reader_numeralsApart, hread,
    (separatorRule_iff reader_numeralsApart hread ht).2.2.2 (of_decide_eq_true hnumber), huses⟩

/-- A big integer with a separator passes under the edition that has big integers and no
separators. -/
theorem separatorRule_fails_bigInt :
    let text := "1_000n"
    ¬Edition.es2021 ≤ .es2020 ∧ reader.judge .script text .es2020 = .ok () ∧
      ∃ tree : Tree, reader .script text = .ok tree ∧
        (∃ n ∈ tree.root.nodes, n.kind = .bigInt ∧ n.IsSeparated text.toList ∧ n.start = 0) ∧
        disallowed tree text.toList .es2020 = [] ∧
        ¬SeparatorRule reader .script text tree .es2020 := by
  intro text
  have hok : reader.judge .script text .es2020 = .ok () := by decide +kernel
  obtain ⟨tree, hp, hnil⟩ := Reader.judge_eq_ok.1 hok
  have hchecked : (parse false text.toList).map (fun tree : Tree =>
      decide (∃ n ∈ tree.root.nodes, n.kind = .bigInt ∧ n.IsSeparated text.toList ∧ n.start = 0)) =
      some true := by
    decide +kernel
  obtain ⟨_, hp', hbig⟩ := Option.map_eq_some_iff.1 hchecked
  cases (reader_eq_ok.1 hp).symm.trans hp'
  obtain ⟨n, hn, hk, hsep, hstart⟩ := of_decide_eq_true hbig
  refine ⟨by decide, hok, tree, hp, ⟨n, hn, hk, hsep, hstart⟩, hnil, fun hrule => ?_⟩
  have hmem := hrule.reported n hn hsep
  rw [hnil] at hmem
  cases hmem

end EditionCheck.Script
