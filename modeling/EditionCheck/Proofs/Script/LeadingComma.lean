import EditionCheck.Proofs.Script.Gap
import EditionCheck.Proofs.Text.Trim

/-!
  The search for a leading comma as a loop over byte offsets.

  `leadingComma` walks over a text character by character. The same search can be made in rounds:
  a round cuts the text at the offset reached so far, trims the rest, and then either jumps over one
  comment or ends the search. A cut inside a character or beyond the end fails, and with it the
  round (`commaRound?`); a jump that got nowhere would repeat the round for ever. Neither happens
  (`commaRound?_eq`): each jump leads at least two bytes on and to a boundary of the text. So the
  rounds end, after no more than one for every two bytes and a last one, and with what
  `leadingComma` finds (`commaSearch_ends`).
-/

namespace EditionCheck.Script

open Text (After IsBoundary byteLength byteLength_append byteLength_cons splitAt? trimStart)

/-! ## Jumps over comments -/

/-- The byte offset at which a mark first stands in a text. -/
def firstMark (mark : List Char) : List Char → Option Nat
  | [] => if mark = [] then some 0 else none
  | c :: cs =>
    if mark.isPrefixOf (c :: cs) then some 0 else (firstMark mark cs).map (c.utf8Size + ·)

/-- How far a round jumps over the text of a comment to the end of the line: to the line feed, or to
the end if there is none. -/
def lineJump (cs : List Char) : Nat := (firstMark ['\n'] cs).getD (byteLength cs)

/-- How far it jumps over the text of a comment that is to be closed: past the mark that closes it,
or to the end if there is none. -/
def blockJump (cs : List Char) : Nat :=
  ((firstMark ['*', '/'] cs).map (· + 2)).getD (byteLength cs)

theorem lineJump_cons {c : Char} (hc : c ≠ '\n') (cs : List Char) :
    lineJump (c :: cs) = c.utf8Size + lineJump cs := by
  have hmark : ['\n'].isPrefixOf (c :: cs) = false := by
    rw [List.isPrefixOf_cons_cons, beq_false_of_ne hc.symm, Bool.false_and]
  rw [lineJump, lineJump, firstMark, hmark, byteLength_cons]
  cases firstMark ['\n'] cs <;> rfl

theorem blockJump_cons {c : Char} {cs : List Char} (hc : ['*', '/'].isPrefixOf (c :: cs) = false) :
    blockJump (c :: cs) = c.utf8Size + blockJump cs := by
  rw [blockJump, blockJump, firstMark, hc, byteLength_cons]
  cases firstMark ['*', '/'] cs with
  | none => rfl
  | some n => exact Nat.add_assoc _ _ _

/-- Behind the jump the search goes on as it does within the comment. A line feed that ends the
comment is left to be trimmed. -/
theorem leadingComma_lineJump (n : Nat) (cs : List Char) :
    ∃ more, After (lineJump cs) cs more ∧
      leadingComma .line n cs = leadingComma .between (n + lineJump cs) more := by
  induction cs generalizing n with
  | nil => exact ⟨[], .zero [], rfl⟩
  | cons c cs ih =>
    by_cases hc : c = '\n'
    · subst hc
      refine ⟨'\n' :: cs, .zero _, ?_⟩
      rw [leadingComma, if_pos rfl, leadingComma_of_ne (by decide)]
      rfl
    · obtain ⟨more, hmore, heq⟩ := ih (n + c.utf8Size)
      rw [lineJump_cons hc]
      refine ⟨more, (After.cons c cs).trans hmore, ?_⟩
      rw [leadingComma, if_neg hc, heq, Nat.add_assoc]

theorem leadingComma_blockJump (n : Nat) (cs : List Char) :
    ∃ more, After (blockJump cs) cs more ∧
      leadingComma .block n cs = leadingComma .between (n + blockJump cs) more := by
  induction cs generalizing n with
  | nil => exact ⟨[], .zero [], rfl⟩
  | cons c cs ih =>
    cases hc : ['*', '/'].isPrefixOf (c :: cs) with
    | true =>
      obtain ⟨more, hmore⟩ := List.isPrefixOf_iff_prefix.1 hc
      obtain ⟨rfl, rfl⟩ : '*' = c ∧ '/' :: more = cs := by simpa using hmore
      exact ⟨more, .append ['*', '/'] more, by rw [leadingComma]; rfl⟩
    | false =>
      obtain ⟨more, hmore, heq⟩ := ih (n + c.utf8Size)
      rw [blockJump_cons hc]
      refine ⟨more, (After.cons c cs).trans hmore, ?_⟩
      rw [leadingComma, heq, Nat.add_assoc]
      rintro more rfl rfl
      cases hc

/-! ## Rounds -/

/-- What a round comes to: the next one starts at an offset, or the search is over. -/
inductive CommaRound where
  | again (next : Nat)
  | done (found : Option Nat)
  deriving DecidableEq, Repr

/-- What a round does with a trimmed text that stands at an offset. -/
def CommaRound.ofTrimmed (pos : Nat) : List Char → CommaRound
  | '/' :: '/' :: cs => .again (pos + 2 + lineJump cs)
  | '/' :: '*' :: cs => .again (pos + 2 + blockJump cs)
  | cs => .done (if cs.head? = some ',' then some pos else none)

/-- One round from an offset, which fails if the text cannot be cut there. -/
def commaRound? (text : List Char) (pos : Nat) : Option CommaRound :=
  (splitAt? pos text).map fun cut =>
    let trimmed := trimStart cut.2
    .ofTrimmed (pos + (byteLength cut.2 - byteLength trimmed)) trimmed

/-- The rounds from an offset to the end of the search: where each of them cuts the text, and what
the last one finds. -/
inductive CommaSearch (text : List Char) : Nat → List Nat → Option Nat → Prop where
  | done {pos : Nat} {found : Option Nat} (h : commaRound? text pos = some (.done found)) :
    CommaSearch text pos [pos] found
  | again {pos next : Nat} {stops : List Nat} {found : Option Nat}
    (h : commaRound? text pos = some (.again next)) (more : CommaSearch text next stops found) :
    CommaSearch text pos (pos :: stops) found

section Rounds

variable {text rest : List Char} {pos : Nat}

/-- White space is a gap. -/
theorem Gap.plain_of_blank {gap : List Char} (h : Text.Blank gap) : Gap.Plain gap := by
  induction gap with
  | nil => exact .nil
  | cons c gap ih =>
    obtain ⟨hc, hgap⟩ := List.forall_mem_cons.1 h
    exact .blank hc (ih hgap)

/-- A round on a trimmed text ends the search rightly, or leads on to where it ends alike. -/
theorem CommaRound.ofTrimmed_eq {trimmed : List Char} (h : After pos text trimmed)
    (hblank : ∀ c cs, trimmed = c :: cs → Text.isBlank c = false) :
    CommaRound.ofTrimmed pos trimmed = .done (leadingComma .between pos trimmed) ∨
      ∃ next more, CommaRound.ofTrimmed pos trimmed = .again next ∧ pos + 2 ≤ next ∧
        After next text more ∧
        leadingComma .between pos trimmed = leadingComma .between next more := by
  unfold CommaRound.ofTrimmed
  split
  · next cs =>
    obtain ⟨more, hmore, heq⟩ := leadingComma_lineJump (pos + 2) cs
    have hstart : After (pos + 2) text cs := h.trans (.append ['/', '/'] cs)
    exact .inr ⟨_, more, rfl, Nat.le_add_right _ _, hstart.trans hmore, by rw [leadingComma, heq]⟩
  · next cs =>
    obtain ⟨more, hmore, heq⟩ := leadingComma_blockJump (pos + 2) cs
    have hstart : After (pos + 2) text cs := h.trans (.append ['/', '*'] cs)
    exact .inr ⟨_, more, rfl, Nat.le_add_right _ _, hstart.trans hmore, by rw [leadingComma, heq]⟩
  · next hline hblock =>
    left
    cases trimmed with
    | nil => rfl
    | cons c cs =>
      rw [leadingComma, hblank c cs rfl]
      · simp
      · rintro cs rfl rfl
        exact hline cs rfl
      · rintro cs rfl rfl
        exact hblock cs rfl

/-- At a boundary a round does not fail. It ends the search with what `leadingComma` finds from
there on, or leads at least two bytes on, to a boundary from which the same is found. -/
theorem commaRound?_eq (h : After pos text rest) :
    commaRound? text pos = some (.done (leadingComma .between pos rest)) ∨
      ∃ next more, commaRound? text pos = some (.again next) ∧ pos + 2 ≤ next ∧
        After next text more ∧
        leadingComma .between pos rest = leadingComma .between next more := by
  obtain ⟨before, rfl, rfl⟩ := h
  obtain ⟨gap, hgap, hrest, hblank⟩ := Text.exists_trimStart rest
  generalize htrimmed : trimStart rest = trimmed at hrest hblank
  subst hrest
  have hround : commaRound? (before ++ (gap ++ trimmed)) (byteLength before) =
      some (.ofTrimmed (byteLength before + byteLength gap) trimmed) := by
    rw [commaRound?, Text.splitAt?_append, Option.map_some]
    dsimp only
    rw [htrimmed, byteLength_append, Nat.add_sub_cancel]
  have hafter : After (byteLength before + byteLength gap) (before ++ (gap ++ trimmed)) trimmed :=
    (After.append before _).trans (.append gap trimmed)
  rw [hround, leadingComma_plain (Gap.plain_of_blank hgap)]
  obtain hdone | ⟨next, more, hagain, hle, hmore, heq⟩ := CommaRound.ofTrimmed_eq hafter hblank
  · exact .inl (congrArg some hdone)
  · exact .inr ⟨next, more, congrArg some hagain, by omega, hmore, heq⟩

/-! ## The whole search -/

theorem CommaSearch.eq {stops stops' : List Nat} {found found' : Option Nat}
    (h : CommaSearch text pos stops found) (h' : CommaSearch text pos stops' found') :
    stops' = stops ∧ found' = found := by
  induction h generalizing stops' with
  | done h =>
    cases h' with
    | done h' => cases h.symm.trans h'; exact ⟨rfl, rfl⟩
    | again h' => cases h.symm.trans h'
  | again h more ih =>
    cases h' with
    | done h' => cases h.symm.trans h'
    | again h' more' =>
      cases h.symm.trans h'
      obtain ⟨rfl, rfl⟩ := ih more'
      exact ⟨rfl, rfl⟩

/-- From a boundary the search ends, with what `leadingComma` finds from there on. -/
theorem exists_commaSearch (h : After pos text rest) :
    ∃ stops, CommaSearch text pos stops (leadingComma .between pos rest) := by
  -- each round that is not the last leaves less of the text
  induction hsize : byteLength text - pos using Nat.strong_induction_on generalizing pos rest with
  | _ size ih =>
    obtain hdone | ⟨next, more, hagain, hle, hmore, heq⟩ := commaRound?_eq h
    · exact ⟨[pos], .done hdone⟩
    · have hend : next ≤ byteLength text := hmore.le
      obtain ⟨stops, hstops⟩ := ih (byteLength text - next) (by omega) hmore rfl
      exact ⟨pos :: stops, .again hagain (heq ▸ hstops)⟩

/-- Every cut that the search makes is at a boundary. -/
theorem CommaSearch.isBoundary {stops : List Nat} {found : Option Nat}
    (h : CommaSearch text pos stops found) (hpos : IsBoundary text pos) :
    ∀ p ∈ stops, IsBoundary text p := by
  induction h with
  | done => exact List.forall_mem_singleton.2 hpos
  | again h more ih =>
    obtain ⟨rest, hrest⟩ := hpos
    obtain hdone | ⟨_, _, hagain, -, hmore, -⟩ := commaRound?_eq hrest
    · cases h.symm.trans hdone
    · cases h.symm.trans hagain
      exact List.forall_mem_cons.2 ⟨hrest.isBoundary, ih hmore.isBoundary⟩

/-- The search takes one round for every two bytes at most, and a last one. -/
theorem CommaSearch.length_le {stops : List Nat} {found : Option Nat}
    (h : CommaSearch text pos stops found) (hpos : IsBoundary text pos) :
    pos + 2 * stops.length ≤ byteLength text + 2 := by
  obtain ⟨rest, hrest⟩ := hpos
  induction h generalizing rest with
  | done =>
    have hle := hrest.le
    rw [List.length_singleton]
    omega
  | again h more ih =>
    obtain hdone | ⟨_, _, hagain, hle, hmore, -⟩ := commaRound?_eq hrest
    · cases h.symm.trans hdone
    · cases h.symm.trans hagain
      have hshorter := ih _ hmore
      rw [List.length_cons]
      omega

end Rounds

/-- In every text the search for a leading comma ends, in one way only. No round fails: each cuts
the text at a boundary, and there is one for every two bytes at most, and a last one. What the
search finds is what `leadingComma` does: the byte offset of a comma that the text starts with
behind a gap of white space, comments to a line feed and comments that are closed. -/
theorem commaSearch_ends (text : List Char) :
    ∃ stops found, CommaSearch text 0 stops found ∧
      (∀ stops' found', CommaSearch text 0 stops' found' → stops' = stops ∧ found' = found) ∧
      (∀ p ∈ stops, IsBoundary text p) ∧
      2 * stops.length ≤ byteLength text + 2 ∧
      found = leadingComma .between 0 text ∧
      ∀ i, found = some i ↔
        ∃ gap rest, Gap.Plain gap ∧ text = gap ++ ',' :: rest ∧ i = byteLength gap := by
  have hstart : IsBoundary text 0 := Text.isBoundary_zero text
  obtain ⟨stops, h⟩ := exists_commaSearch (After.zero text)
  refine ⟨stops, _, h, fun _ _ h' => h.eq h', h.isBoundary hstart, ?_, rfl, fun i => ?_⟩
  · have hlength := h.length_le hstart
    omega
  · rw [leadingComma_eq_some]
    simp only [Nat.zero_add]

/-- White space and comments with characters of several bytes, one comment with a slash that does
not close it. -/
theorem commaSearch_ends_wide :
    let text := "\u3000// é\n/*/ ü */\u2028, b".toList
    CommaSearch text 0 [0, 8, 18] (some 21) ∧ (∀ p ∈ [0, 8, 18], IsBoundary text p) ∧
      ∃ gap rest, Gap.Plain gap ∧ text = gap ++ ',' :: rest ∧ 21 = byteLength gap := by
  intro text
  have hsearch : CommaSearch text 0 [0, 8, 18] (some 21) :=
    .again (by decide) (.again (by decide) (.done (by decide)))
  obtain ⟨stops, found, -, honly, hboundary, -, -, hfound⟩ := commaSearch_ends text
  obtain ⟨rfl, rfl⟩ := honly _ _ hsearch
  exact ⟨hsearch, hboundary, (hfound 21).1 rfl⟩

end EditionCheck.Script
