import Mathlib.Data.List.Infix
import EditionCheck.Proofs.Text.Boundary
import EditionCheck.Script.Use

/-!
  Gaps between lexemes.

  There are two ways to pass over a gap. `leadingComma` has rules of its own (`Gap.Plain`): a
  comment to the end of the line ends at a line feed only, blanks are those of the character
  database, and nothing but `//` and `/*` opens a comment. `leadingComma_eq_some` says which commas
  it comes to.

  `Gap.Lexical` is a gap by the lexical grammar of the language: white space, line ends, comments
  that are closed, and comments to the end of the line, whichever line end that is. In classic
  scripts two more marks open such a comment. Of a text at most one such gap can be read up to a
  character that begins none (`Lexical.unique`).
-/

namespace EditionCheck.Script

open Text (After byteLength byteLength_append byteLength_cons)

/-! ## What the detector passes over -/

/-- A gap by the rules of the detector. -/
inductive Gap.Plain : List Char → Prop
  | nil : Plain []
  | blank {c : Char} {gap : List Char} (hc : Text.isBlank c = true) (h : Plain gap) :
    Plain (c :: gap)
  /-- A comment to the line feed. -/
  | line {body gap : List Char} (hbody : '\n' ∉ body) (h : Plain gap) :
    Plain ('/' :: '/' :: (body ++ '\n' :: gap))
  /-- A comment to the first mark that closes it. -/
  | block {body gap : List Char} (hbody : ¬['*', '/'] <:+: body) (h : Plain gap) :
    Plain ('/' :: '*' :: (body ++ '*' :: '/' :: gap))

/-- The rest of such a gap, which may begin within a comment. -/
def Gap.PlainFrom : Gap.Mode → List Char → Prop
  | .between, gap => Plain gap
  | .line, gap => ∃ body gap', '\n' ∉ body ∧ Plain gap' ∧ gap = body ++ '\n' :: gap'
  | .block, gap =>
    ∃ body gap', ¬['*', '/'] <:+: body ∧ Plain gap' ∧ gap = body ++ '*' :: '/' :: gap'

@[simp] theorem utf8Size_slash : '/'.utf8Size = 1 := rfl

@[simp] theorem utf8Size_star : '*'.utf8Size = 1 := rfl

/-- A mark that closes a comment and is not in a text does not begin in front of it. -/
theorem not_isInfix_cons {c : Char} {body : List Char} (hbody : ¬['*', '/'] <:+: body)
    (hc : ∀ cs, c = '*' → body = '/' :: cs → False) : ¬['*', '/'] <:+: c :: body := by
  rw [List.infix_cons_iff, not_or]
  refine ⟨?_, hbody⟩
  rintro ⟨rest, hrest⟩
  obtain ⟨rfl, rfl⟩ : '*' = c ∧ '/' :: rest = body := by simpa using hrest
  exact hc _ rfl rfl

theorem leadingComma_line {body : List Char} (hbody : '\n' ∉ body) (n : Nat) (cs : List Char) :
    leadingComma .line n (body ++ '\n' :: cs) =
      leadingComma .between (n + byteLength (body ++ ['\n'])) cs := by
  induction body generalizing n with
  | nil => rfl
  | cons c body ih =>
    obtain ⟨hc, hbody⟩ : '\n' ≠ c ∧ '\n' ∉ body := by simpa using hbody
    rw [List.cons_append, leadingComma, if_neg (Ne.symm hc), ih hbody]
    simp [Nat.add_assoc]

theorem leadingComma_block {body : List Char} (hbody : ¬['*', '/'] <:+: body) (n : Nat)
    (cs : List Char) :
    leadingComma .block n (body ++ '*' :: '/' :: cs) =
      leadingComma .between (n + byteLength (body ++ ['*', '/'])) cs := by
  induction body generalizing n with
  | nil => rfl
  | cons c body ih =>
    have htail : ¬['*', '/'] <:+: body := fun h => hbody (h.trans (List.suffix_cons c body).isInfix)
    -- no mark begins at `c`, neither within the body nor together with what follows it
    have hmark : ∀ ds, c = '*' → body ++ '*' :: '/' :: cs = '/' :: ds → False := by
      rintro ds rfl hds
      cases body with
      | nil => simp at hds
      | cons d body =>
        obtain ⟨rfl, -⟩ : d = '/' ∧ _ := by simpa using hds
        exact hbody ⟨[], body, rfl⟩
    rw [List.cons_append, leadingComma, ih htail]
    · simp [Nat.add_assoc]
    · exact hmark

theorem leadingComma_of_ne {c : Char} (hc : c ≠ '/') (n : Nat) (cs : List Char) :
    leadingComma .between n (c :: cs) =
      if Text.isBlank c then leadingComma .between (n + c.utf8Size) cs
      else if c = ',' then some n else none := by
  rw [leadingComma]
  · exact fun _ h _ => hc h
  · exact fun _ h _ => hc h

/-- A blank opens no comment. -/
theorem ne_slash_of_isBlank {c : Char} (hc : Text.isBlank c = true) : c ≠ '/' := by
  rintro rfl
  exact absurd hc (by decide)

theorem leadingComma_plain {gap : List Char} (h : Gap.Plain gap) (n : Nat) (cs : List Char) :
    leadingComma .between n (gap ++ cs) = leadingComma .between (n + byteLength gap) cs := by
  induction h generalizing n with
  | nil => rfl
  | blank hc _ ih =>
    rw [List.cons_append, leadingComma_of_ne (ne_slash_of_isBlank hc), if_pos hc, ih,
      byteLength_cons, Nat.add_assoc]
  | @line body gap hbody _ ih =>
    have hcs : '/' :: '/' :: (body ++ '\n' :: gap) ++ cs =
        '/' :: '/' :: (body ++ '\n' :: (gap ++ cs)) := by simp
    rw [hcs, leadingComma, leadingComma_line hbody, ih]
    congr 1
    simp [byteLength_append]
    omega
  | @block body gap hbody _ ih =>
    have hcs : '/' :: '*' :: (body ++ '*' :: '/' :: gap) ++ cs =
        '/' :: '*' :: (body ++ '*' :: '/' :: (gap ++ cs)) := by simp
    rw [hcs, leadingComma, leadingComma_block hbody, ih]
    congr 1
    simp [byteLength_append]
    omega

theorem leadingComma_sound {mode : Gap.Mode} {n m : Nat} {cs : List Char}
    (h : leadingComma mode n cs = some m) :
    ∃ gap rest, Gap.PlainFrom mode gap ∧ cs = gap ++ ',' :: rest ∧ m = n + byteLength gap := by
  fun_induction leadingComma mode n cs with
  | case1 => cases h
  | case2 n cs ih =>
    obtain ⟨gap, rest, hgap, rfl, rfl⟩ := ih h
    exact ⟨'*' :: '/' :: gap, rest, ⟨[], gap, by simp, hgap, rfl⟩, rfl, by simp; omega⟩
  | case3 n c cs hmark ih =>
    obtain ⟨_, rest, ⟨body, gap, hbody, hgap, rfl⟩, rfl, rfl⟩ := ih h
    refine ⟨_, rest, ⟨c :: body, gap, not_isInfix_cons hbody ?_, hgap, rfl⟩, rfl, by simp; omega⟩
    rintro cs rfl rfl
    exact hmark _ rfl rfl
  | case4 n c cs ih =>
    obtain ⟨gap, rest, hgap, rfl, rfl⟩ := ih h
    refine ⟨c :: gap, rest, ?_, rfl, by simp; omega⟩
    split at hgap
    · next hc => exact ⟨[], gap, by simp, hgap, hc ▸ rfl⟩
    · next hc =>
      obtain ⟨body, gap, hbody, hgap, rfl⟩ := hgap
      exact ⟨c :: body, gap, by simp [hbody, Ne.symm hc], hgap, rfl⟩
  | case5 n cs ih =>
    obtain ⟨_, rest, ⟨body, gap, hbody, hgap, rfl⟩, rfl, rfl⟩ := ih h
    exact ⟨_, rest, .line hbody hgap, rfl, by simp; omega⟩
  | case6 n cs ih =>
    obtain ⟨_, rest, ⟨body, gap, hbody, hgap, rfl⟩, rfl, rfl⟩ := ih h
    exact ⟨_, rest, .block hbody hgap, rfl, by simp; omega⟩
  | case7 n c cs _ _ hc ih =>
    obtain ⟨gap, rest, hgap, rfl, rfl⟩ := ih h
    exact ⟨c :: gap, rest, .blank hc hgap, rfl, by simp; omega⟩
  | case8 n cs => cases h; exact ⟨[], cs, .nil, rfl, rfl⟩
  | case9 => cases h

/-- The detector comes to a comma exactly if a plain gap stands in front of it. -/
theorem leadingComma_eq_some {n m : Nat} {cs : List Char} :
    leadingComma .between n cs = some m ↔
      ∃ gap rest, Gap.Plain gap ∧ cs = gap ++ ',' :: rest ∧ m = n + byteLength gap := by
  constructor
  · exact leadingComma_sound
  · rintro ⟨gap, rest, hgap, rfl, rfl⟩
    rw [leadingComma_plain hgap]
    rfl

/-! ## Gaps by the lexical grammar -/

namespace Gap

/-- The marks that open a comment to the end of the line. In classic scripts `<!--` is one, and so
is `-->` at the start of a line. -/
def lineMarks (html ended : Bool) : List (List Char) :=
  [['/', '/']] ++ (if html then [['<', '!', '-', '-']] else []) ++
    if html && ended then [['-', '-', '>']] else []

/-- A piece of a gap by the lexical grammar, which may start behind a line end, and whether a line
end has come before what follows it. What counts as white space is up to the lexer, and so is
whether the script is a classic one. -/
inductive Piece (blank : Char → Bool) (html ended : Bool) : List Char → Bool → Prop
  | space {c : Char} (hc : blank c = true) (hline : isLineEnd c = false) :
    Piece blank html ended [c] ended
  | lineEnd {c : Char} (hc : isLineEnd c = true) : Piece blank html ended [c] true
  /-- A comment to the end of the line, with the line end. -/
  | line {mark body : List Char} {c : Char} (hmark : mark ∈ lineMarks html ended)
    (hbody : ∀ x ∈ body, isLineEnd x = false) (hc : isLineEnd c = true) :
    Piece blank html ended (mark ++ (body ++ [c])) true
  /-- A comment to the first mark that closes it. -/
  | block {body : List Char} (hbody : ¬['*', '/'] <:+: body) :
    Piece blank html ended ('/' :: '*' :: (body ++ ['*', '/'])) (ended || body.any isLineEnd)

/-- A gap by the lexical grammar, which may start behind a line end. -/
inductive Lexical (blank : Char → Bool) (html : Bool) : Bool → List Char → Prop
  | nil {ended : Bool} : Lexical blank html ended []
  | cons {ended ended' : Bool} {piece gap : List Char}
    (hpiece : Piece blank html ended piece ended') (h : Lexical blank html ended' gap) :
    Lexical blank html ended (piece ++ gap)

/-- A gap may begin with the character. -/
def opens (blank : Char → Bool) (c : Char) : Bool :=
  blank c || isLineEnd c || c ∈ ['/', '<', '-']

section Unique

variable {blank : Char → Bool} {html ended e e' : Bool} {p p' rest rest' : List Char}

theorem mem_lineMarks {mark : List Char} (h : mark ∈ lineMarks html ended) :
    mark = ['/', '/'] ∨ mark = ['<', '!', '-', '-'] ∨ mark = ['-', '-', '>'] := by
  unfold lineMarks at h
  cases html <;> cases ended <;> simp at h <;> tauto

/-- A comment to the end of the line ends at the first line end. -/
theorem line_unique {body body' : List Char} {c c' : Char}
    (hbody : ∀ x ∈ body, isLineEnd x = false) (hbody' : ∀ x ∈ body', isLineEnd x = false)
    (hc : isLineEnd c = true) (hc' : isLineEnd c' = true)
    (h : body ++ c :: rest = body' ++ c' :: rest') : body = body' ∧ c :: rest = c' :: rest' := by
  have hcut : ∀ {b : List Char} {d : Char} {r : List Char}, (∀ x ∈ b, isLineEnd x = false) →
      isLineEnd d = true → (b ++ d :: r).takeWhile (fun x => !isLineEnd x) = b := by
    intro b d r hb hd
    rw [List.takeWhile_append_of_pos fun x hx => by rw [hb x hx]; rfl,
      List.takeWhile_cons_of_neg (by rw [hd]; decide), List.append_nil]
  have heq : body = body' := by rw [← hcut hbody hc, h, hcut hbody' hc']
  subst heq
  exact ⟨rfl, List.append_cancel_left h⟩

/-- The first mark that closes a comment has nothing in front of it that is no part of the comment.
-/
theorem eq_nil_of_close {body more cs cs' : List Char}
    (h : '*' :: '/' :: cs = more ++ '*' :: '/' :: cs') (hbody : ¬['*', '/'] <:+: body ++ more) :
    more = [] := by
  match more with
  | [] => rfl
  | [_] => simp at h
  | x :: y :: more =>
    obtain ⟨rfl, rfl, -⟩ : '*' = x ∧ '/' = y ∧ _ := by simpa using h
    exact absurd ⟨body, more, by simp⟩ hbody

theorem block_unique {body body' : List Char} (hbody : ¬['*', '/'] <:+: body)
    (hbody' : ¬['*', '/'] <:+: body')
    (h : body ++ '*' :: '/' :: rest = body' ++ '*' :: '/' :: rest') :
    body = body' ∧ rest = rest' := by
  have heq : body = body' := by
    rcases List.append_eq_append_iff.1 h with ⟨more, rfl, hmore⟩ | ⟨more, rfl, hmore⟩
    · rw [eq_nil_of_close hmore hbody', List.append_nil]
    · rw [eq_nil_of_close hmore hbody, List.append_nil]
  subst heq
  exact ⟨rfl, by simpa using h⟩

/-- The character that a piece begins with. -/
theorem Piece.exists_head (h : Piece blank html ended p e) :
    ∃ c cs, p = c :: cs ∧ opens blank c = true := by
  cases h with
  | @space c hc _ => exact ⟨c, [], rfl, by simp [opens, hc]⟩
  | @lineEnd c hc => exact ⟨c, [], rfl, by simp [opens, hc]⟩
  | line hmark _ _ =>
    rcases mem_lineMarks hmark with rfl | rfl | rfl <;> exact ⟨_, _, rfl, by simp [opens]⟩
  | block _ => exact ⟨_, _, rfl, by simp [opens]⟩

/-- No comment begins with white space or a line end. -/
theorem not_mem_marks {c : Char} (hmarks : ∀ c ∈ ['/', '<', '-'], blank c = false)
    (hc : blank c = true ∨ isLineEnd c = true) : c ∉ ['/', '<', '-'] := by
  intro hmem
  have hline : ∀ c ∈ ['/', '<', '-'], isLineEnd c = false := by simp [isLineEnd]
  rcases hc with hc | hc
  · rw [hmarks c hmem] at hc
    cases hc
  · rw [hline c hmem] at hc
    cases hc

/-- What a single character does. -/
theorem Piece.singleton {c : Char} (h : Piece blank html ended [c] e) :
    e = (ended || isLineEnd c) := by
  generalize hp : [c] = p at h
  cases h with
  | space _ hline => cases hp; rw [hline, Bool.or_false]
  | lineEnd hc => cases hp; rw [hc, Bool.or_true]
  | line hmark _ _ => rcases mem_lineMarks hmark with rfl | rfl | rfl <;> cases hp
  | block _ => cases hp

/-- White space and line ends are pieces by themselves. -/
theorem Piece.unique_left {c : Char} (hmarks : ∀ c ∈ ['/', '<', '-'], blank c = false)
    (hc : blank c = true ∨ isLineEnd c = true) (h : Piece blank html ended [c] e)
    (h' : Piece blank html ended p e') (heq : c :: rest = p ++ rest') :
    [c] = p ∧ e = e' ∧ rest = rest' := by
  have hne := not_mem_marks hmarks hc
  have hp : [c] = p := by
    cases h' with
    | space _ _ => cases heq; rfl
    | lineEnd _ => cases heq; rfl
    | line hmark _ _ =>
      rcases mem_lineMarks hmark with rfl | rfl | rfl
      all_goals
        cases heq
        exact absurd (by decide) hne
    | block _ =>
      cases heq
      exact absurd (by decide) hne
  subst hp
  exact ⟨rfl, h.singleton.trans h'.singleton.symm, (List.cons.inj heq).2⟩

theorem Piece.unique_right {c : Char} (hmarks : ∀ c ∈ ['/', '<', '-'], blank c = false)
    (hc : blank c = true ∨ isLineEnd c = true) (h : Piece blank html ended p e)
    (h' : Piece blank html ended [c] e') (heq : p ++ rest = c :: rest') :
    p = [c] ∧ e = e' ∧ rest = rest' := by
  obtain ⟨hp, he, hrest⟩ := unique_left hmarks hc h' h heq.symm
  exact ⟨hp.symm, he.symm, hrest.symm⟩

/-- A mark is told by its first character. -/
theorem lineMarks_unique {mark mark' : List Char} (h : mark ∈ lineMarks html ended)
    (h' : mark' ∈ lineMarks html ended) (heq : mark ++ rest = mark' ++ rest') : mark = mark' := by
  rcases mem_lineMarks h with rfl | rfl | rfl <;> rcases mem_lineMarks h' with rfl | rfl | rfl <;>
    first | rfl | cases heq

/-- Of a text only one piece can be read. -/
theorem Piece.unique (hmarks : ∀ c ∈ ['/', '<', '-'], blank c = false)
    (h : Piece blank html ended p e) (h' : Piece blank html ended p' e')
    (heq : p ++ rest = p' ++ rest') : p = p' ∧ e = e' ∧ rest = rest' := by
  cases h with
  | space hc hline => exact unique_left hmarks (.inl hc) (.space hc hline) h' heq
  | lineEnd hc => exact unique_left hmarks (.inr hc) (.lineEnd hc) h' heq
  | line hmark hbody hc =>
    have hself : Piece blank html ended _ true := .line hmark hbody hc
    cases h' with
    | space hc' hline' => exact unique_right hmarks (.inl hc') hself (.space hc' hline') heq
    | lineEnd hc' => exact unique_right hmarks (.inr hc') hself (.lineEnd hc') heq
    | line hmark' hbody' hc' =>
      simp only [List.append_assoc, List.singleton_append] at heq
      obtain rfl := lineMarks_unique hmark hmark' heq
      obtain ⟨rfl, hrest⟩ := line_unique hbody hbody' hc hc' (List.append_cancel_left heq)
      cases hrest
      exact ⟨rfl, rfl, rfl⟩
    | block _ => rcases mem_lineMarks hmark with rfl | rfl | rfl <;> cases heq
  | block hbody =>
    have hself : Piece blank html ended _ _ := .block hbody
    cases h' with
    | space hc' hline' => exact unique_right hmarks (.inl hc') hself (.space hc' hline') heq
    | lineEnd hc' => exact unique_right hmarks (.inr hc') hself (.lineEnd hc') heq
    | line hmark' _ _ => rcases mem_lineMarks hmark' with rfl | rfl | rfl <;> cases heq
    | block hbody' =>
      simp only [List.cons_append, List.append_assoc, List.nil_append, List.cons.injEq,
        true_and] at heq
      obtain ⟨rfl, rfl⟩ := block_unique hbody hbody' heq
      exact ⟨rfl, rfl, rfl⟩

/-- A piece does not begin with a character that begins no gap. -/
theorem Piece.head_ne {c : Char} (h : Piece blank html ended p e) (hc : opens blank c = false)
    (heq : c :: rest = p ++ rest') : False := by
  obtain ⟨d, cs, rfl, hd⟩ := h.exists_head
  cases heq
  rw [hc] at hd
  cases hd

/-- Up to a character that begins no gap only one gap can be read. -/
theorem Lexical.unique (hmarks : ∀ c ∈ ['/', '<', '-'], blank c = false) {gap gap' : List Char}
    {c c' : Char} (h : Lexical blank html ended gap) (h' : Lexical blank html ended gap')
    (hc : opens blank c = false) (hc' : opens blank c' = false)
    (heq : gap ++ c :: rest = gap' ++ c' :: rest') : gap = gap' := by
  induction h generalizing gap' with
  | nil =>
    cases h' with
    | nil => rfl
    | cons hpiece _ => exact (hpiece.head_ne hc (List.append_assoc .. ▸ heq)).elim
  | cons hpiece _ ih =>
    cases h' with
    | nil => exact (hpiece.head_ne hc' (List.append_assoc .. ▸ heq.symm)).elim
    | cons hpiece' h' =>
      rw [List.append_assoc, List.append_assoc] at heq
      obtain ⟨rfl, rfl, hrest⟩ := hpiece.unique hmarks hpiece' heq
      rw [ih h' hrest]

end Unique

end Gap
end EditionCheck.Script
