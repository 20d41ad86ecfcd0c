import Mathlib.Data.List.Infix
import EditionCheck.File.Path

/-!
  Paths by their components.

  Appending to a path appends to its components (`parts_push`), and taking the last one away takes
  the last component away (`parts_pop`), whatever slashes and dots the text has besides. So a text
  that is joined to a directory stays inside it as long as no `..` comes too early
  (`joined_within`).
-/

namespace EditionCheck.Path

open Text (pieces joinPieces)

/-! ## Pieces and components -/

theorem partsOf_cons (leading : Bool) (s : List Char) (rest : List (List Char)) :
    partsOf leading (s :: rest) = (part? leading s).toList ++ partsOf false rest := rfl

theorem partsOf_append {leading : Bool} {ps : List (List Char)} (hne : ps ≠ [])
    (qs : List (List Char)) :
    partsOf leading (ps ++ qs) = partsOf leading ps ++ partsOf false qs := by
  induction ps generalizing leading with
  | nil => exact absurd rfl hne
  | cons s rest ih =>
    cases rest with
    | nil => rw [List.singleton_append, partsOf_cons, partsOf_cons, partsOf, List.append_nil]
    | cons t rest =>
      have hrest : partsOf false (t :: rest ++ qs) = partsOf false (t :: rest) ++ partsOf false qs :=
        ih (List.cons_ne_nil t rest)
      rw [List.cons_append, partsOf_cons, hrest, partsOf_cons leading, List.append_assoc]

/-- A leading dot is the only component that depends on where it stands. -/
theorem part?_eq_of_ne_here {s : List Char} (h : part? true s ≠ some .here) :
    part? false s = part? true s := by
  unfold part? at h ⊢
  by_cases hnil : s = []
  · rw [if_pos hnil, if_pos hnil]
  · by_cases hdot : s = ['.']
    · simp [hdot] at h
    · simp [hnil, hdot]

theorem part?_eq_none_of_here {s : List Char} (h : part? true s = some .here) :
    part? false s = none := by
  unfold part? at h ⊢
  by_cases hnil : s = []
  · rw [if_pos hnil]
  · by_cases hdot : s = ['.']
    · simp [hdot]
    · rw [if_neg hnil, if_neg hdot] at h
      split at h <;> cases h

theorem part?_ne_root (leading : Bool) (s : List Char) : part? leading s ≠ some .root := by
  unfold part?
  repeat' split
  all_goals simp

theorem root_not_mem_partsOf (leading : Bool) (ps : List (List Char)) :
    Part.root ∉ partsOf leading ps := by
  induction ps generalizing leading with
  | nil => exact List.not_mem_nil
  | cons s rest ih =>
    rw [partsOf_cons, List.mem_append, Option.mem_toList, not_or]
    exact ⟨part?_ne_root leading s, ih false⟩

theorem part?_eq_name {leading : Bool} {s n : List Char} (h : part? leading s = some (.name n)) :
    s = n ∧ ∀ b, part? b s = some (.name n) := by
  unfold part? at h ⊢
  split at h
  · cases h
  · next hnil =>
    split at h
    · split at h <;> cases h
    · next hdot =>
      split at h
      · cases h
      · next hup =>
        cases h
        exact ⟨rfl, fun b => by simp [hnil, hdot, hup]⟩

theorem mem_partsOf_name {leading : Bool} {ps : List (List Char)} {n : List Char}
    (h : Part.name n ∈ partsOf leading ps) : n ∈ ps ∧ ∀ b, part? b n = some (.name n) := by
  induction ps generalizing leading with
  | nil => cases h
  | cons s rest ih =>
    rw [partsOf_cons] at h
    rcases List.mem_append.1 h with h | h
    · obtain ⟨rfl, hn⟩ := part?_eq_name (Option.mem_toList.1 h)
      exact ⟨List.mem_cons_self, hn⟩
    · exact ⟨List.mem_cons_of_mem s (ih h).1, (ih h).2⟩

/-! ## The root and the rest -/

/-- The root of a path, if it has one. -/
def rootOf (absolute : Bool) : List Part := if absolute then [.root] else []

/-- The components after the root. -/
def inner (p : Path) : List Part := partsOf (!p.isAbsolute) p.body

theorem parts_eq (p : Path) : p.parts = rootOf p.isAbsolute ++ p.inner := by
  unfold parts rootOf inner
  cases p.isAbsolute <;> rfl

theorem mem_parts_name {p : Path} {n : List Char} (h : Part.name n ∈ p.parts) :
    Part.name n ∈ p.inner := by
  rw [parts_eq] at h
  rcases List.mem_append.1 h with h | h
  · unfold rootOf at h
    split at h <;> simp at h
  · exact h

theorem body_eq (p : Path) : p.body = pieces '/' (if p.isAbsolute then p.text.tail else p.text) := by
  obtain ⟨text⟩ := p
  unfold body isAbsolute
  cases text with
  | nil => rfl
  | cons c cs =>
    by_cases hc : c = '/'
    · subst hc
      rfl
    · simp [hc]

theorem body_ne_nil (p : Path) : p.body ≠ [] := by
  rw [body_eq]
  exact Text.pieces_ne_nil _ _

theorem slash_not_mem_of_mem_body {p : Path} {s : List Char} (h : s ∈ p.body) : '/' ∉ s := by
  rw [body_eq] at h
  exact Text.not_mem_of_mem_pieces h

theorem isAbsolute_of_not_mem {n : List Char} (h : '/' ∉ n) :
    (⟨n⟩ : Path).isAbsolute = false := by
  cases n with
  | nil => rfl
  | cons c cs =>
    have hc : c ≠ '/' := fun e => h (e ▸ List.mem_cons_self)
    simp [isAbsolute, hc]

/-- A piece that is a name is a path of one component. -/
theorem parts_of_piece {n : List Char} (hslash : '/' ∉ n) (hn : part? true n = some (.name n)) :
    (⟨n⟩ : Path).isAbsolute = false ∧ (⟨n⟩ : Path).parts = [.name n] := by
  have hrel : (⟨n⟩ : Path).isAbsolute = false := isAbsolute_of_not_mem hslash
  refine ⟨hrel, ?_⟩
  have hbody : (⟨n⟩ : Path).body = [n] := by
    rw [body_eq, hrel]
    exact Text.pieces_of_not_mem hslash
  rw [parts_eq, hrel, inner, hbody, hrel, partsOf_cons, Bool.not_false, hn]
  rfl

/-- A name alone is a path of one component. -/
theorem parts_of_name {p : Path} {n : List Char} (h : Part.name n ∈ p.parts) :
    (⟨n⟩ : Path).isAbsolute = false ∧ (⟨n⟩ : Path).parts = [.name n] :=
  have hname := mem_partsOf_name (mem_parts_name h)
  parts_of_piece (slash_not_mem_of_mem_body hname.1) (hname.2 true)

/-- The components tell the root and what comes after it. -/
theorem inner_of_parts {p : Path} {absolute : Bool} {cs : List Part}
    (h : p.parts = rootOf absolute ++ cs) (hroot : .root ∉ cs) :
    p.isAbsolute = absolute ∧ p.inner = cs := by
  have hinner : .root ∉ p.inner := root_not_mem_partsOf _ _
  rw [parts_eq] at h
  cases habs : p.isAbsolute <;> cases absolute <;> rw [habs] at h
  · exact ⟨rfl, h⟩
  · change p.inner = .root :: cs at h
    exact absurd List.mem_cons_self (h ▸ hinner)
  · change .root :: p.inner = cs at h
    exact absurd List.mem_cons_self (h ▸ hroot)
  · exact ⟨rfl, (List.cons.inj h).2⟩

/-! ## Appending -/

/-- What is appended keeps its components, unless it starts with a dot. -/
theorem partsOf_body_of_relative {q : Path} (hq : q.isAbsolute = false) (hhere : Part.here ∉ q.parts) :
    partsOf false q.body = q.parts := by
  have hparts : q.parts = partsOf true q.body := by
    rw [parts_eq, hq, inner, hq]
    rfl
  obtain ⟨s, rest, hbody⟩ := List.exists_cons_of_ne_nil (body_ne_nil q)
  rw [hparts, hbody, partsOf_cons] at hhere
  have hs : part? true s ≠ some .here := by
    intro e
    rw [e] at hhere
    exact hhere List.mem_cons_self
  rw [hparts, hbody, partsOf_cons, partsOf_cons, part?_eq_of_ne_here hs]

theorem body_of_relative {q : Path} (hq : q.isAbsolute = false) : q.body = pieces '/' q.text := by
  rw [body_eq, hq]
  rfl

theorem parts_slash (cs : List Char) :
    parts ⟨'/' :: cs⟩ = .root :: partsOf false (pieces '/' cs) := rfl

/-- A slash behind a text that is not empty starts new pieces. -/
theorem body_append_slash {cs : List Char} (hne : cs ≠ []) (ds : List Char) :
    isAbsolute ⟨cs ++ '/' :: ds⟩ = isAbsolute ⟨cs⟩ ∧
      body ⟨cs ++ '/' :: ds⟩ = body ⟨cs⟩ ++ pieces '/' ds := by
  obtain ⟨c, cs, rfl⟩ := List.exists_cons_of_ne_nil hne
  have habs : isAbsolute ⟨c :: cs ++ '/' :: ds⟩ = isAbsolute ⟨c :: cs⟩ := rfl
  refine ⟨habs, ?_⟩
  rw [body_eq, body_eq, habs]
  split
  · exact Text.pieces_append_cons '/' cs ds
  · exact Text.pieces_append_cons '/' (c :: cs) ds

theorem parts_append_slash {cs : List Char} (hne : cs ≠ []) (ds : List Char) :
    parts ⟨cs ++ '/' :: ds⟩ = parts ⟨cs⟩ ++ partsOf false (pieces '/' ds) := by
  obtain ⟨habs, hbody⟩ := body_append_slash hne ds
  rw [parts_eq, parts_eq, inner, inner, habs, hbody, partsOf_append (body_ne_nil _),
    List.append_assoc]

/-- Behind a text that is not empty, a path keeps what its pieces stand for there. -/
theorem parts_push_body {p q : Path} (hp : p.text ≠ []) (hq : q.isAbsolute = false) :
    (p.push q).parts = p.parts ++ partsOf false q.body := by
  obtain ⟨cs⟩ := p
  unfold push
  rw [if_neg (by rw [hq]; decide), body_of_relative hq]
  by_cases hlast : cs.getLast? = some '/'
  · -- the slash is there already
    obtain ⟨ds, rfl⟩ := List.getLast?_eq_some_iff.1 hlast
    rw [if_pos (by simp)]
    change parts ⟨ds ++ ['/'] ++ q.text⟩ = parts ⟨ds ++ ['/']⟩ ++ _
    rw [List.append_assoc, List.singleton_append]
    by_cases hds : ds = []
    · subst hds
      rw [List.nil_append, List.nil_append, parts_slash]
      rfl
    · have hempty : partsOf false (pieces '/' []) = [] := rfl
      rw [parts_append_slash hds, parts_append_slash hds, hempty, List.append_nil]
  · rw [if_neg (by simp [hp, hlast]), parts_append_slash hp]

theorem parts_push {p q : Path} (hq : q.isAbsolute = false) (hhere : Part.here ∉ q.parts) :
    (p.push q).parts = p.parts ++ q.parts := by
  by_cases hnil : p.text = []
  · obtain ⟨cs⟩ := p
    obtain rfl : cs = [] := hnil
    unfold push
    rw [if_neg (by rw [hq]; decide)]
    rfl
  · rw [parts_push_body hnil hq, partsOf_body_of_relative hq hhere]

/-! ## Taking the last component away -/

theorem trimPieces_cons (leading : Bool) (s : List Char) (rest : List (List Char)) :
    trimPieces leading (s :: rest) =
      if trimPieces false rest = [] then if (part? leading s).isSome then [s] else []
      else s :: trimPieces false rest := by
  rw [trimPieces]
  split
  · next h => rw [if_pos h]
  · next h => rw [if_neg h]

/-- Pieces at the end that stand for nothing count for nothing. -/
theorem partsOf_trimPieces (leading : Bool) (ps : List (List Char)) :
    partsOf leading (trimPieces leading ps) = partsOf leading ps := by
  induction ps generalizing leading with
  | nil => rfl
  | cons s rest ih =>
    have hrest := ih false
    rw [trimPieces_cons]
    split
    · next hnil =>
      rw [hnil] at hrest
      rw [partsOf_cons, ← hrest]
      cases hs : part? leading s <;> simp [partsOf, hs]
    · rw [partsOf_cons, partsOf_cons, hrest]

theorem trimPieces_isPrefix (leading : Bool) (ps : List (List Char)) :
    trimPieces leading ps <+: ps := by
  induction ps generalizing leading with
  | nil => exact List.prefix_rfl
  | cons s rest ih =>
    rw [trimPieces_cons]
    split
    · split
      · exact ⟨rest, rfl⟩
      · exact List.nil_prefix
    · exact (List.prefix_cons_inj s).2 (ih false)

theorem partsOf_ne_nil {leading : Bool} {ps : List (List Char)} (h : trimPieces leading ps ≠ []) :
    partsOf leading ps ≠ [] := by
  rw [← partsOf_trimPieces]
  induction ps generalizing leading with
  | nil => exact absurd rfl h
  | cons s rest ih =>
    rw [trimPieces_cons] at h ⊢
    split at h
    · next hnil =>
      rw [if_pos hnil]
      split at h
      · next hs =>
        obtain ⟨c, hc⟩ := Option.isSome_iff_exists.1 hs
        rw [if_pos hs, partsOf_cons, hc]
        exact List.cons_ne_nil c _
      · exact absurd rfl h
    · next hne =>
      rw [if_neg hne, partsOf_cons]
      exact List.append_ne_nil_of_right_ne_nil _ (ih hne)

/-- What is left after trimming ends in a piece that stands for something. -/
theorem partsOf_dropLast_trimPieces (leading : Bool) (ps : List (List Char)) :
    partsOf leading (trimPieces leading ps).dropLast = (partsOf leading ps).dropLast := by
  induction ps generalizing leading with
  | nil => rfl
  | cons s rest ih =>
    have hsame := partsOf_trimPieces false rest
    rw [trimPieces_cons]
    split
    · next hnil =>
      rw [hnil] at hsame
      rw [partsOf_cons, ← hsame]
      cases hs : part? leading s <;> simp [partsOf]
    · next hne =>
      have hparts : partsOf false rest ≠ [] := partsOf_ne_nil hne
      rw [List.dropLast_cons_of_ne_nil hne, partsOf_cons, ih false, partsOf_cons]
      exact (List.dropLast_append_of_ne_nil hparts).symm

/-- A relative path that is not empty starts with a piece that is not empty. -/
theorem body_head_ne_nil {p : Path} (hrel : p.isAbsolute = false) (hne : p.text ≠ []) :
    p.body.head? ≠ some [] := by
  obtain ⟨c, cs, hcs⟩ := List.exists_cons_of_ne_nil hne
  have hc : c ≠ '/' := by
    rintro rfl
    simp [isAbsolute, hcs] at hrel
  obtain ⟨q, rest, hq⟩ := List.exists_cons_of_ne_nil (Text.pieces_ne_nil '/' cs)
  rw [body_of_relative hrel, hcs, pieces, if_neg hc, hq]
  simp

theorem ofPieces_body (p : Path) : ofPieces p.isAbsolute p.body = p := by
  obtain ⟨cs⟩ := p
  rw [ofPieces, body_eq, Text.joinPieces_pieces]
  cases habs : isAbsolute ⟨cs⟩ with
  | false => rfl
  | true =>
    rw [isAbsolute, beq_iff_eq] at habs
    obtain ⟨ds, rfl⟩ := List.head?_eq_some_iff.1 habs
    rfl

theorem isAbsolute_ofPieces {absolute : Bool} {ps : List (List Char)} (hslash : ∀ s ∈ ps, '/' ∉ s)
    (hhead : absolute = false → ps.head? ≠ some []) :
    (ofPieces absolute ps).isAbsolute = absolute := by
  cases absolute with
  | true => rfl
  | false =>
    cases ps with
    | nil => rfl
    | cons s rest =>
      have hs : s ≠ [] := fun e => hhead rfl (by rw [e]; rfl)
      obtain ⟨c, cs, rfl⟩ := List.exists_cons_of_ne_nil hs
      have hc : c ≠ '/' := by
        rintro rfl
        exact hslash _ List.mem_cons_self List.mem_cons_self
      cases rest <;> simp [ofPieces, isAbsolute, joinPieces, hc]

/-- Pieces that a path is made of are found in it again. -/
theorem body_ofPieces {absolute : Bool} {ps : List (List Char)} (hne : ps ≠ [])
    (hslash : ∀ s ∈ ps, '/' ∉ s) (hhead : absolute = false → ps.head? ≠ some []) :
    (ofPieces absolute ps).body = ps := by
  rw [body_eq, isAbsolute_ofPieces hslash hhead]
  cases absolute <;> exact Text.pieces_joinPieces hne hslash

theorem parts_ofPieces {absolute : Bool} {ps : List (List Char)} (hslash : ∀ s ∈ ps, '/' ∉ s)
    (hhead : absolute = false → ps.head? ≠ some []) :
    (ofPieces absolute ps).isAbsolute = absolute ∧
      (ofPieces absolute ps).parts = rootOf absolute ++ partsOf (!absolute) ps := by
  have habs := isAbsolute_ofPieces hslash hhead
  refine ⟨habs, ?_⟩
  by_cases hps : ps = []
  · subst hps
    cases absolute <;> rfl
  · rw [parts_eq, inner, habs, body_ofPieces hps hslash hhead]

theorem parent?_eq (p : Path) :
    p.parent? =
      if trimPieces (!p.isAbsolute) p.body = [] then none
      else some (ofPieces p.isAbsolute
        (trimPieces (!p.isAbsolute) (trimPieces (!p.isAbsolute) p.body).dropLast)) := by
  unfold parent?
  cases h : trimPieces (!p.isAbsolute) p.body with
  | nil => simp only [h, if_true]
  | cons s rest => simp only [h, if_neg (List.cons_ne_nil s rest)]

/-- The path without its last component is the path itself, if it has none, or is made of pieces at
its start. -/
theorem pop_cases (p : Path) :
    p.inner = [] ∧ p.pop = p ∨ p.inner ≠ [] ∧
      ∃ ps, ps = trimPieces (!p.isAbsolute) (trimPieces (!p.isAbsolute) p.body).dropLast ∧
        p.pop = ofPieces p.isAbsolute ps ∧ (∀ s ∈ ps, '/' ∉ s) ∧
        (p.isAbsolute = false → ps.head? ≠ some []) := by
  rw [pop, parent?_eq]
  split
  · next hnil =>
    have hinner : p.inner = [] := by rw [inner, ← partsOf_trimPieces, hnil, partsOf]
    exact .inl ⟨hinner, rfl⟩
  · next hne =>
    have hsub : trimPieces (!p.isAbsolute) (trimPieces (!p.isAbsolute) p.body).dropLast <+: p.body :=
      (trimPieces_isPrefix _ _).trans ((List.dropLast_prefix _).trans (trimPieces_isPrefix _ _))
    refine .inr ⟨partsOf_ne_nil hne, _, rfl, rfl,
      fun s hs => slash_not_mem_of_mem_body (hsub.subset hs), ?_⟩
    intro hrel hnil
    have htext : p.text ≠ [] := by
      intro e
      rw [body_of_relative hrel, e] at hne
      rw [hrel] at hne
      exact hne rfl
    obtain ⟨rest, hrest⟩ := hsub
    apply body_head_ne_nil hrel htext
    rw [← hrest, List.head?_append, hnil]
    rfl

/-- The path without its last component loses the last component after the root. -/
theorem pop_parts (p : Path) : p.pop.parts = rootOf p.isAbsolute ++ p.inner.dropLast := by
  obtain ⟨hinner, hpop⟩ | ⟨-, ps, hps, hpop, hslash, hhead⟩ := pop_cases p
  · rw [hpop, parts_eq, hinner]
    rfl
  · rw [hpop, (parts_ofPieces hslash hhead).2, hps, partsOf_trimPieces,
      partsOf_dropLast_trimPieces, inner]

theorem parts_pop {p : Path} {cs : List Part} {n : List Char} (h : p.parts = cs ++ [.name n]) :
    p.pop.parts = cs := by
  have hn : Part.name n ∈ p.parts := by
    rw [h]
    exact List.mem_append_right cs (List.mem_singleton_self _)
  have hinner : p.inner ≠ [] := List.ne_nil_of_mem (mem_parts_name hn)
  have hdrop : p.pop.parts = p.parts.dropLast := by
    rw [pop_parts, parts_eq, List.dropLast_append_of_ne_nil hinner]
  rw [hdrop, h, List.dropLast_concat]

/-! ## Appending a name -/

theorem getLast?_body_eq_nil {p : Path} (h : p.body.getLast? = some []) :
    p.text = [] ∨ p.text.getLast? = some '/' := by
  obtain ⟨ps, hps⟩ := List.getLast?_eq_some_iff.1 h
  rw [← ofPieces_body p, hps, ofPieces]
  by_cases hnil : ps = []
  · subst hnil
    cases p.isAbsolute
    · exact .inl rfl
    · exact .inr rfl
  · right
    rw [Text.joinPieces_concat hnil]
    split
    · rw [← List.cons_append, List.getLast?_concat]
    · rw [List.getLast?_concat]

/-- What is appended comes behind all pieces, or in place of an empty one at the end. -/
theorem body_push {n : List Char} (hslash : '/' ∉ n) (p : Path) :
    (p.push ⟨n⟩).isAbsolute = p.isAbsolute ∧
      (p.push ⟨n⟩).body = (if p.body.getLast? = some [] then p.body.dropLast else p.body) ++ [n] := by
  have hrel : (⟨n⟩ : Path).isAbsolute = false := isAbsolute_of_not_mem hslash
  have hpieces : pieces '/' n = [n] := Text.pieces_of_not_mem hslash
  obtain ⟨cs⟩ := p
  unfold push
  rw [if_neg (by rw [hrel]; decide)]
  split
  · next hcs =>
    rw [Bool.or_eq_true, decide_eq_true_eq, beq_iff_eq] at hcs
    rcases hcs with rfl | hlast
    · refine ⟨hrel, ?_⟩
      rw [← hpieces]
      exact body_of_relative hrel
    · obtain ⟨ds, rfl⟩ := List.getLast?_eq_some_iff.1 hlast
      rw [List.append_assoc, List.singleton_append]
      by_cases hds : ds = []
      · subst hds
        exact ⟨rfl, hpieces⟩
      · obtain ⟨habs, hbody⟩ := body_append_slash hds n
        obtain ⟨habs', hbody'⟩ := body_append_slash hds []
        have hempty : pieces '/' [] = [[]] := rfl
        rw [habs, habs', hbody, hbody', hpieces, hempty, if_pos List.getLast?_concat,
          List.dropLast_concat]
        exact ⟨rfl, rfl⟩
  · next hcs =>
    rw [Bool.or_eq_true, decide_eq_true_eq, beq_iff_eq] at hcs
    obtain ⟨habs, hbody⟩ := body_append_slash (fun h => hcs (.inl h)) n
    rw [habs, hbody, hpieces, if_neg fun h => hcs (getLast?_body_eq_nil h)]
    exact ⟨rfl, rfl⟩

/-! ## Staying inside a directory -/

/-- The path is the directory or lies below it. -/
def Within (directory p : Path) : Prop :=
  ∃ names : List (List Char), p.parts = directory.parts ++ names.map Part.name

/-- The component is a name. -/
def Part.isName : Part → Bool
  | .name _ => true
  | _ => false

/-- No start of the components has more steps up than names. -/
def NeverClimbs (cs : List Part) : Prop :=
  ∀ start ∈ cs.inits, start.count .up ≤ start.countP Part.isName

instance (cs : List Part) : Decidable (NeverClimbs cs) :=
  inferInstanceAs (Decidable (∀ start ∈ cs.inits, start.count .up ≤ start.countP Part.isName))

theorem Within.refl (directory : Path) : Within directory directory := ⟨[], by simp⟩

theorem Within.push {directory p q : Path} (h : Within directory p) {n : List Char}
    (hq : q.isAbsolute = false ∧ q.parts = [.name n]) : Within directory (p.push q) := by
  obtain ⟨names, hp⟩ := h
  refine ⟨names ++ [n], ?_⟩
  rw [parts_push hq.1 (by rw [hq.2]; simp), hp, hq.2, List.map_append, List.append_assoc]
  rfl

/-- What holds of a path, after names are appended to it, and after the last component is taken away
holds of all that is reached from it. -/
theorem foldl_extend_induction {P : Path → Prop} {base : Path} {cs : List Part} (hbase : P base)
    (hpop : ∀ p, P p → P p.pop) (hname : ∀ p n, .name n ∈ cs → P p → P (p.push ⟨n⟩)) :
    P (cs.foldl extend base) := by
  induction cs generalizing base with
  | nil => exact hbase
  | cons c cs ih =>
    have hrest : ∀ p n, .name n ∈ cs → P p → P (p.push ⟨n⟩) :=
      fun p n hn => hname p n (List.mem_cons_of_mem c hn)
    cases c with
    | root | here => exact ih hbase hrest
    | up => exact ih (hpop base hbase) hrest
    | name n => exact ih (hname base n List.mem_cons_self hbase) hrest

/-- Going on from a place inside a directory, with so many names to come back over. -/
theorem foldl_extend_within {directory p : Path} {names : List (List Char)} {cs : List Part}
    (hp : p.parts = directory.parts ++ names.map Part.name)
    (hnames : ∀ n, Part.name n ∈ cs → (⟨n⟩ : Path).isAbsolute = false ∧ (⟨n⟩ : Path).parts = [.name n])
    (hcs : ∀ k, (cs.take k).count .up ≤ names.length + (cs.take k).countP Part.isName) :
    Within directory (cs.foldl extend p) := by
  induction cs generalizing p names with
  | nil => exact ⟨names, hp⟩
  | cons c cs ih =>
    have hrest : ∀ n, Part.name n ∈ cs →
        (⟨n⟩ : Path).isAbsolute = false ∧ (⟨n⟩ : Path).parts = [.name n] :=
      fun n hn => hnames n (List.mem_cons_of_mem c hn)
    rw [List.foldl_cons]
    cases c with
    | root | here =>
      refine ih hp hrest fun k => ?_
      have h := hcs (k + 1)
      rwa [List.take_succ_cons, List.count_cons_of_ne (by simp),
        List.countP_cons_of_neg (by decide)] at h
    | name n =>
      have hpush : (p.push ⟨n⟩).parts = directory.parts ++ (names ++ [n]).map Part.name := by
        obtain ⟨hrel, hn⟩ := hnames n List.mem_cons_self
        rw [parts_push hrel (by rw [hn]; simp), hp, hn, List.map_append, List.append_assoc]
        rfl
      refine ih hpush hrest fun k => ?_
      have h := hcs (k + 1)
      rw [List.take_succ_cons, List.countP_cons_of_pos rfl, List.count_cons_of_ne (by simp)] at h
      rw [List.length_append, List.length_singleton]
      omega
    | up =>
      have hfirst := hcs 1
      have hne : names ≠ [] := by
        rintro rfl
        simp [Part.isName] at hfirst
      obtain ⟨init, n, rfl⟩ : ∃ init n, names = init ++ [n] :=
        ⟨names.dropLast, names.getLast hne, (List.dropLast_concat_getLast hne).symm⟩
      have hpop : p.pop.parts = directory.parts ++ init.map Part.name := by
        apply parts_pop (n := n)
        rw [hp, List.map_append, List.append_assoc]
        rfl
      refine ih hpop hrest fun k => ?_
      have h := hcs (k + 1)
      rw [List.take_succ_cons, List.count_cons_self, List.countP_cons_of_neg (by decide),
        List.length_append, List.length_singleton] at h
      omega

/-- A text that never climbs leads to a place inside the directory that it is joined to. -/
theorem joined_within (directory : Path) {relative : String}
    (h : NeverClimbs (ofString relative).parts) : Within directory (directory.joined relative) := by
  have hstart : directory.parts = directory.parts ++ ([] : List (List Char)).map Part.name :=
    (List.append_nil _).symm
  refine foldl_extend_within hstart (fun n hn => parts_of_name hn) fun k => ?_
  have hk := h _ ((List.mem_inits _ _).2 (List.take_prefix k (ofString relative).parts))
  rwa [List.length_nil, Nat.zero_add]

/-- Names are added to a normal form at its end. -/
theorem foldl_step_names (names : List (List Char)) (n : Normal) :
    (names.map Part.name).foldl Normal.step n = ⟨n.absolute, n.names ++ names⟩ := by
  induction names generalizing n with
  | nil => rw [List.append_nil]; rfl
  | cons s rest ih =>
    rw [List.map_cons, List.foldl_cons, ih]
    simp [Normal.step]

/-- What lies inside a directory does so in its normal form as well. -/
theorem normal_within {directory p : Path} (h : Within directory p) :
    ∃ names, p.normal = ⟨directory.normal.absolute, directory.normal.names ++ names⟩ := by
  obtain ⟨names, hp⟩ := h
  refine ⟨names, ?_⟩
  rw [normal, hp, List.foldl_append, foldl_step_names]
  rfl

end EditionCheck.Path
