import EditionCheck.Proofs.Script.Gap
import EditionCheck.Proofs.Script.Spans

/-!
  Commas behind the last element of a list.

  The arguments of a call or of `new`, and parameters without a rest, use a trailing comma if the
  first lexeme behind their last element is a comma (`CommaRule`). The detector does not ask the
  parser for that lexeme: it passes over a gap by rules of its own (`Gap.Plain`), which are not
  those of the lexical grammar (`Gap.Lexical`).

  Where the two ways to pass over a gap disagree the rule fails: a carriage return behind a comment
  hides a trailing comma from the detector, or shows it one that belongs to another list
  (`commaRule_fails_return`). `commaRule_iff` says that the rule holds exactly where they agree,
  which is so if the gap behind the last element is one by both.
-/

namespace EditionCheck.Script

open Text (byteLength)

/-! ## The commas of a list -/

/-- The list ends in an element behind which a comma would be a trailing one. -/
inductive Node.EndsIn (list last : Node) : Prop
  /-- The arguments of a call or of `new`. -/
  | arguments (hk : list.kind = .call ∨ list.kind = .new)
    (hlast : (argumentsOf list.children).getLast? = some last)
  /-- Parameters without a rest, which would come last. -/
  | parameters (hk : list.kind = .parameters) (hlast : list.children.getLast? = some last)
    (hrest : last.kind ≠ .restElement)

theorem lastElement?_eq_some {list last : Node} :
    lastElement? list.kind list.children = some last ↔ list.EndsIn last := by
  unfold lastElement?
  split
  · next hk =>
    refine ⟨fun h => .arguments (.inl hk) h, ?_⟩
    rintro (⟨-, hlast⟩ | ⟨hk', -, -⟩)
    · exact hlast
    · rw [hk] at hk'
      cases hk'
  · next hk =>
    refine ⟨fun h => .arguments (.inr hk) h, ?_⟩
    rintro (⟨-, hlast⟩ | ⟨hk', -, -⟩)
    · exact hlast
    · rw [hk] at hk'
      cases hk'
  · next hk =>
    rw [Option.filter_eq_some_iff]
    constructor
    · rintro ⟨h, hrest⟩
      exact .parameters hk h (by simpa using hrest)
    · rintro (⟨hk' | hk', -⟩ | ⟨-, hlast, hrest⟩)
      · rw [hk] at hk'
        cases hk'
      · rw [hk] at hk'
        cases hk'
      · exact ⟨hlast, by simpa using hrest⟩
  · next hcall hnew hparams =>
    refine ⟨nofun, ?_⟩
    rintro (⟨hk | hk, -⟩ | ⟨hk, -, -⟩)
    · exact absurd hk hcall
    · exact absurd hk hnew
    · exact absurd hk hparams

theorem Node.EndsIn.not_isUnpacked {list last : Node} (h : list.EndsIn last) :
    list.kind.isUnpacked = false := by
  rcases h with ⟨hk | hk, -⟩ | ⟨hk, -, -⟩ <;> rw [hk] <;> rfl

/-- The trailing commas that the detector finds at a node itself. -/
def Node.commas (text : List Char) (n : Node) : List Use :=
  (n.own (.ofText text)).filter fun u => u.feature = .trailingComma

theorem trailingComma_not_mem_numberFeatures (raw : List Char) :
    Feature.trailingComma ∉ numberFeatures raw := by
  unfold numberFeatures
  rw [List.mem_append, not_or]
  constructor <;> split <;> simp

theorem trailingComma_not_mem_featuresAt (text : Text.Suffixes) (a b : Nat) (cs : List Node)
    (k : Kind) : Feature.trailingComma ∉ featuresAt text a b cs k := by
  unfold featuresAt
  split <;> simp [trailingComma_not_mem_numberFeatures, flagFeatures, escapeFeatures]

/-- None of them stands at the start of the node. -/
theorem Node.commas_eq_filter (text : List Char) (n : Node) :
    n.commas text = if n.kind.isUnpacked then [] else
      (usesInside (.ofText text) n.kind n.start n.stop n.children).filter
        fun u => u.feature = .trailingComma := by
  cases hk : n.kind.isUnpacked with
  | true =>
    rw [commas, own_of_unpacked hk]
    rfl
  | false =>
    have hstart : ((featuresAt (.ofText text) n.start n.stop n.children n.kind).map
        fun f => Use.mk f n.start).filter (fun u => u.feature = .trailingComma) = [] := by
      rw [List.filter_eq_nil_iff]
      intro u hu
      obtain ⟨f, hf, rfl⟩ := List.mem_map.1 hu
      have hne : f ≠ .trailingComma := fun h => trailingComma_not_mem_featuresAt _ _ _ _ _ (h ▸ hf)
      simpa using hne
    rw [commas, own_of_visited hk, asked, List.filter_append, hstart, List.nil_append,
      if_neg Bool.false_ne_true]

/-- Where a comma starts that the detector comes to behind byte offset `n`. -/
def foundBehind (text : List Char) (n : Nat) : Option Nat :=
  (leadingComma .between 0 (Text.dropBytes n text)).map (n + ·)

theorem foundBehind_eq_some {text : List Char} {n m : Nat} :
    foundBehind text n = some m ↔
      ∃ gap rest, Gap.Plain gap ∧ Text.dropBytes n text = gap ++ ',' :: rest ∧
        m = n + byteLength gap := by
  unfold foundBehind
  rw [Option.map_eq_some_iff]
  constructor
  · rintro ⟨k, hk, rfl⟩
    obtain ⟨gap, rest, hgap, hdrop, rfl⟩ := leadingComma_eq_some.1 hk
    exact ⟨gap, rest, hgap, hdrop, by rw [Nat.zero_add]⟩
  · rintro ⟨gap, rest, hgap, hdrop, rfl⟩
    refine ⟨byteLength gap, leadingComma_eq_some.2 ⟨gap, rest, hgap, hdrop, ?_⟩, rfl⟩
    rw [Nat.zero_add]

theorem Node.EndsIn.commas_eq {list last : Node} (h : list.EndsIn last) (text : List Char) :
    list.commas text = ((foundBehind text last.stop).map (Use.mk .trailingComma)).toList := by
  rw [Node.commas_eq_filter, h.not_isUnpacked, if_neg Bool.false_ne_true]
  unfold usesInside foundBehind
  rw [lastElement?_eq_some.2 h]
  dsimp only
  rw [Text.Suffixes.suffix_ofText]
  cases leadingComma .between 0 (Text.dropBytes last.stop text) <;> rfl

theorem Node.EndsIn.mem_commas {list last : Node} (h : list.EndsIn last) {text : List Char}
    {m : Nat} : ⟨.trailingComma, m⟩ ∈ list.commas text ↔ foundBehind text last.stop = some m := by
  rw [h.commas_eq]
  cases foundBehind text last.stop <;> simp [eq_comm]

theorem Node.commas_eq_nil {n : Node} (h : ∀ last, ¬n.EndsIn last) (text : List Char) :
    n.commas text = [] := by
  have hlast : lastElement? n.kind n.children = none :=
    Option.eq_none_iff_forall_ne_some.2 fun last hlast => h last (lastElement?_eq_some.1 hlast)
  rw [commas_eq_filter]
  split
  · rfl
  · rw [List.filter_eq_nil_iff]
    unfold usesInside
    rw [hlast]
    split
    · next heq => cases heq
    · simp only [List.mem_append, Option.mem_toList, Option.map_eq_some_iff]
      rintro u (⟨_, _, rfl⟩ | ⟨_, _, rfl⟩) <;> simp
    · simp

/-- Under a target that does not allow them, the detector reports the trailing commas of all nodes
of a tree and no others. -/
theorem disallowed_commas (tree : Tree) (text : List Char) {target : Edition}
    (ht : ¬Edition.es2017 ≤ target) :
    (disallowed tree text target).filter (fun u => u.feature = .trailingComma) =
      Use.sort (tree.root.nodes.flatMap (Node.commas text)) := by
  have hf : Feature.trailingComma.allowedIn target = false := decide_eq_false ht
  exact disallowed_filter tree text hf (by decide)

/-! ## The rule and where it fails -/

section Rule

variable (blank : Char → Bool) (html : Bool) (text : List Char)

/-- What the trailing commas of a list are to be: the comma that is the first lexeme behind its last
element, if it is one. The grammar is that of a lexer that takes certain characters for white space,
in a classic script or in a module. -/
def CommaRule (list last : Node) : Prop :=
  ∀ m, ⟨.trailingComma, m⟩ ∈ list.commas text ↔
    ∃ gap rest, Gap.Lexical blank html false gap ∧
      Text.dropBytes last.stop text = gap ++ ',' :: rest ∧ m = last.stop + byteLength gap

/-- Of the commas behind byte offset `n`, the detector comes to the one that is the first lexeme
there and to no other. -/
def CommasAgree (n : Nat) : Prop :=
  ∀ gap rest, Text.dropBytes n text = gap ++ ',' :: rest →
    (Gap.Plain gap ↔ Gap.Lexical blank html false gap)

/-- What stands behind byte offset `n` in front of the first lexeme is a gap by the rules of the
detector too. The lexeme begins with a character that begins no gap by either. -/
def PlainBehind (n : Nat) : Prop :=
  ∃ gap c rest, Gap.Plain gap ∧ Gap.Lexical blank html false gap ∧
    Text.dropBytes n text = gap ++ c :: rest ∧ Gap.opens blank c = false ∧ Text.isBlank c = false

variable {blank html text} {list last : Node} {n : Nat}

theorem commaRule_iff_agree (h : list.EndsIn last) :
    CommaRule blank html text list last ↔ CommasAgree blank html text last.stop := by
  constructor
  · intro hrule gap rest hdrop
    -- the offset at which a comma starts tells what stands in front of it
    have hcut : ∀ {gap' rest'}, Text.dropBytes last.stop text = gap' ++ ',' :: rest' →
        last.stop + byteLength gap = last.stop + byteLength gap' → gap = gap' := fun h' hlen =>
      (Text.append_inj_of_byteLength (hdrop.symm.trans h') (Nat.add_left_cancel hlen)).1
    constructor
    · intro hplain
      have hfound := foundBehind_eq_some.2 ⟨gap, rest, hplain, hdrop, rfl⟩
      obtain ⟨gap', rest', hgap', hdrop', hlen⟩ := (hrule _).1 (h.mem_commas.2 hfound)
      exact hcut hdrop' hlen ▸ hgap'
    · intro hgap
      have hmem := (hrule _).2 ⟨gap, rest, hgap, hdrop, rfl⟩
      obtain ⟨gap', rest', hplain, hdrop', hlen⟩ := foundBehind_eq_some.1 (h.mem_commas.1 hmem)
      exact hcut hdrop' hlen ▸ hplain
  · intro hagree m
    rw [h.mem_commas, foundBehind_eq_some]
    constructor
    · rintro ⟨gap, rest, hplain, hdrop, hm⟩
      exact ⟨gap, rest, (hagree gap rest hdrop).1 hplain, hdrop, hm⟩
    · rintro ⟨gap, rest, hgap, hdrop, hm⟩
      exact ⟨gap, rest, (hagree gap rest hdrop).2 hgap, hdrop, hm⟩

/-- Over a gap that is one by both the two agree. -/
theorem PlainBehind.commasAgree (hmarks : ∀ c ∈ [',', '/', '<', '-'], blank c = false)
    (h : PlainBehind blank html text n) : CommasAgree blank html text n := by
  obtain ⟨front, c, rest, hplain, hlexical, hdrop, hopens, hblank⟩ := h
  intro gap rest' hgap
  have hslash : c ≠ '/' := by
    rintro rfl
    simp [Gap.opens] at hopens
  have hcomma : Gap.opens blank ',' = false := by
    simp [Gap.opens, hmarks ',' (by simp), isLineEnd]
  constructor
  · intro hgap'
    have hfound := leadingComma_eq_some (n := 0).2 ⟨gap, rest', hgap', hgap, rfl⟩
    rw [hdrop, leadingComma_plain hplain, leadingComma_of_ne hslash, hblank,
      if_neg Bool.false_ne_true] at hfound
    split at hfound
    · have hlen : byteLength front = byteLength gap := by simpa using hfound
      exact (Text.append_inj_of_byteLength (hdrop.symm.trans hgap) hlen).1 ▸ hlexical
    · cases hfound
  · intro hgap'
    have hmarks' : ∀ c ∈ ['/', '<', '-'], blank c = false :=
      fun c hc => hmarks c (List.mem_cons_of_mem _ hc)
    exact hlexical.unique hmarks' hgap' hopens hcomma (hdrop.symm.trans hgap) ▸ hplain

end Rule

/-- Under a target that does not allow trailing commas, the detector reports those of the nodes of a
tree, each where it stands, and only lists have one, which is at most one. A list has the one that
it is to have exactly if the rules of the detector and the lexical grammar agree on the comma behind
its last element. So they do if the gap there is one by both, where no mark that a lexeme or a
comment may begin with is white space. -/
theorem commaRule_iff (blank : Char → Bool) (html : Bool) (tree : Tree) (text : List Char)
    {target : Edition} (ht : ¬Edition.es2017 ≤ target) :
    (disallowed tree text target).filter (fun u => u.feature = .trailingComma) =
        Use.sort (tree.root.nodes.flatMap (Node.commas text)) ∧
      (∀ n ∈ tree.root.nodes, (∀ last, ¬n.EndsIn last) → n.commas text = []) ∧
      ∀ list ∈ tree.root.nodes, ∀ last, list.EndsIn last →
        (list.commas text).length ≤ 1 ∧
        (CommaRule blank html text list last ↔ CommasAgree blank html text last.stop) ∧
        ((∀ c ∈ [',', '/', '<', '-'], blank c = false) → PlainBehind blank html text last.stop →
          CommaRule blank html text list last) := by
  refine ⟨disallowed_commas tree text ht, fun n _ h => Node.commas_eq_nil h text, ?_⟩
  intro list _ last hlast
  refine ⟨?_, commaRule_iff_agree hlast, fun hmarks h => ?_⟩
  · rw [hlast.commas_eq]
    cases foundBehind text last.stop <;> simp
  · exact (commaRule_iff_agree hlast).2 (h.commasAgree hmarks)

/-- For each list of a tree with elements, its trailing commas and where its last element stops. -/
def Node.listEnds (text : List Char) (tree : Node) : List (List Use × Nat) :=
  tree.nodes.filterMap fun n =>
    (lastElement? n.kind n.children).map fun last => (n.commas text, last.stop)

theorem exists_list_of_listEnds {module : Bool} {text : List Char} {ends : List (List Use × Nat)}
    {uses : List Use} {stop : Nat}
    (h : (parse module text).map (fun tree : Tree => tree.root.listEnds text) = some ends)
    (hmem : (uses, stop) ∈ ends) :
    ∃ (tree : Tree) (list last : Node), parse module text = some tree ∧ list ∈ tree.root.nodes ∧
      list.EndsIn last ∧ list.commas text = uses ∧ last.stop = stop := by
  obtain ⟨tree, hp, rfl⟩ := Option.map_eq_some_iff.1 h
  obtain ⟨list, hlist, hends⟩ := List.mem_filterMap.1 hmem
  obtain ⟨last, hlast, heq⟩ := Option.map_eq_some_iff.1 hends
  exact ⟨tree, list, last, hp, hlist, lastElement?_eq_some.1 hlast, congrArg Prod.fst heq,
    congrArg Prod.snd heq⟩

/-- Comments of both kinds in front of a comma: the detector and the lexical grammar agree on it. -/
theorem commaRule_iff_comments :
    let text := "f(a /* b */ // c\n,)".toList
    ∃ (tree : Tree) (list last : Node), parse false text = some tree ∧ list ∈ tree.root.nodes ∧
      list.EndsIn last ∧ PlainBehind isSpace true text last.stop ∧
      CommaRule isSpace true text list last ∧ list.commas text = [⟨.trailingComma, 17⟩] := by
  intro text
  have hends : (parse false text).map (fun tree : Tree => tree.root.listEnds text) =
      some [([⟨.trailingComma, 17⟩], 3)] := by decide +kernel
  obtain ⟨tree, list, last, hp, hlist, hlast, hcommas, hstop⟩ :=
    exists_list_of_listEnds hends List.mem_cons_self
  have hplain : PlainBehind isSpace true text last.stop := by
    rw [hstop]
    refine ⟨" /* b */ // c\n".toList, ',', [')'], ?_, ?_, by decide, by decide, by decide⟩
    · have hline : Gap.Plain "// c\n".toList := @Gap.Plain.line " c".toList _ (by decide) .nil
      have hblock : Gap.Plain "/* b */ // c\n".toList :=
        @Gap.Plain.block " b ".toList _ (by decide) (.blank (by decide) hline)
      exact .blank (by decide) hblock
    · have hcomment : Gap.Piece isSpace true false "// c\n".toList true :=
        @Gap.Piece.line _ _ _ ['/', '/'] " c".toList '\n' (by decide) (by simp [isLineEnd]) rfl
      have hline : Gap.Lexical isSpace true false "// c\n".toList := .cons hcomment .nil
      have hblock : Gap.Lexical isSpace true false "/* b */ // c\n".toList :=
        .cons (@Gap.Piece.block _ _ _ " b ".toList (by decide))
          (.cons (.space (c := ' ') (by decide) (by decide)) hline)
      exact .cons (.space (by decide) (by decide)) hblock
  have hes5 : ¬Edition.es2017 ≤ .es5 := by decide
  have hrule := ((commaRule_iff isSpace true tree text hes5).2.2 list hlist last hlast).2.2
    (by simp [isSpace]) hplain
  exact ⟨tree, list, last, hp, hlist, hlast, hplain, hrule, hcommas⟩

/-- A comment that ends with a carriage return, behind a space. -/
theorem lexical_return : Gap.Lexical isSpace true false " // b\r".toList := by
  have hline : Gap.Lexical isSpace true false "// b\r".toList :=
    .cons (@Gap.Piece.line _ _ _ ['/', '/'] " b".toList '\r' (by decide) (by simp [isLineEnd]) rfl)
      .nil
  exact .cons (.space (by decide) (by decide)) hline

/-- A carriage return ends a comment in the lexical grammar and not for the detector. The first
script has a trailing comma that the detector misses; in the second one the detector takes a comma
of the outer list for one of the inner list. -/
theorem commaRule_fails_return :
    (∃ (tree : Tree) (list last : Node), parse false "f(a // b\r,)".toList = some tree ∧
      list ∈ tree.root.nodes ∧ list.EndsIn last ∧
      ¬CommaRule isSpace true "f(a // b\r,)".toList list last ∧
      list.commas "f(a // b\r,)".toList = []) ∧
    ∃ (tree : Tree) (list last : Node), parse false "g(f(a // b\r)\n, c)".toList = some tree ∧
      list ∈ tree.root.nodes ∧ list.EndsIn last ∧
      ¬CommaRule isSpace true "g(f(a // b\r)\n, c)".toList list last ∧
      list.commas "g(f(a // b\r)\n, c)".toList = [⟨.trailingComma, 13⟩] := by
  have hmissed : (parse false "f(a // b\r,)".toList).map
      (fun tree : Tree => tree.root.listEnds "f(a // b\r,)".toList) = some [([], 3)] := by
    decide +kernel
  have hfalse : (parse false "g(f(a // b\r)\n, c)".toList).map
      (fun tree : Tree => tree.root.listEnds "g(f(a // b\r)\n, c)".toList) =
      some [([], 16), ([⟨.trailingComma, 13⟩], 5)] := by decide +kernel
  constructor
  · obtain ⟨tree, list, last, hp, hlist, hlast, hcommas, hstop⟩ :=
      exists_list_of_listEnds hmissed List.mem_cons_self
    refine ⟨tree, list, last, hp, hlist, hlast, fun hrule => ?_, hcommas⟩
    have hmem := (hrule 9).2
      ⟨_, [')'], lexical_return, by rw [hstop]; decide, by rw [hstop]; decide⟩
    rw [hcommas] at hmem
    cases hmem
  · obtain ⟨tree, list, last, hp, hlist, hlast, hcommas, hstop⟩ :=
      exists_list_of_listEnds hfalse (List.mem_cons_of_mem _ List.mem_cons_self)
    refine ⟨tree, list, last, hp, hlist, hlast, fun hrule => ?_, hcommas⟩
    obtain ⟨gap, rest, hgap, hdrop, hlen⟩ := (hrule 13).1 (hcommas ▸ List.mem_cons_self)
    -- the gap ends at the parenthesis, which stands in front of the comma
    rw [hstop] at hdrop hlen
    have hsame : gap ++ ',' :: rest = " // b\r".toList ++ ')' :: "\n, c)".toList :=
      hdrop.symm.trans (by decide)
    have hgap' : gap = " // b\r".toList :=
      hgap.unique (by simp [isSpace]) lexical_return (by decide) (by decide) hsame
    rw [hgap'] at hlen
    exact absurd hlen (by decide)

end EditionCheck.Script
