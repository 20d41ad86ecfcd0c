import EditionCheck.Proofs.Text.Boundary
import EditionCheck.Script.Lexeme

/-!
  Lexemes stand at boundaries of the text.

  A cursor is `On` a text when what it has left is what follows its offset there. Each reader counts
  the bytes that it takes: gaps, escapes, words, numerals, quoted parts and marks lead from a cursor
  on the text to another one. `Lexeme.read_on` puts this together, and `Lexeme.regExp_on` and
  `Lexeme.templateRest_on` do so for the two lexemes that the grammar asks for. Of a lexeme of the
  kind of a numeral it is also known which numeral stands there.
-/

namespace EditionCheck.Script

open Text (After byteLength)

/-- The cursor stands in the text: what it has left follows its offset there. -/
def Cursor.On (text : List Char) (at_ : Cursor) : Prop := After at_.offset text at_.rest

variable {text : List Char}

/-- A reader that takes `n` bytes off what a cursor has left leads to a cursor on the text. -/
theorem Cursor.On.go {at_ : Cursor} (h : at_.On text) {n : Nat} {rest : List Char}
    (hr : After n at_.rest rest) : Cursor.On text ⟨rest, at_.offset + n⟩ :=
  After.trans h hr

/-! ## Gaps -/

theorem Gap.skip_on {html ended ended' : Bool} {mode : Mode} {n : Nat} {cs : List Char}
    {next : Cursor} (h : skip html mode ended n cs = some (next, ended'))
    (hn : After n text cs) : next.On text := by
  fun_induction skip html mode ended n cs with
  | case1 => cases h
  | case2 => cases h; exact hn
  | case3 _ _ _ ih => exact ih h hn.step.step
  | case4 _ _ _ _ _ ih => exact ih h hn.step
  | case5 _ _ _ _ _ ih => exact ih h hn.step
  | case6 _ _ _ _ _ ih => exact ih h hn.step
  | case7 _ _ _ ih => exact ih h hn.step.step
  | case8 _ _ _ ih => exact ih h hn.step.step
  | case9 _ _ _ _ _ _ _ ih => exact ih h hn.step
  | case10 _ _ _ _ _ _ _ _ ih => exact ih h hn.step
  | case11 _ _ _ _ _ _ _ _ hopen ih =>
    simp only [Bool.and_eq_true, beq_iff_eq, List.take_succ_cons, List.cons.injEq] at hopen
    obtain ⟨-, rfl, -⟩ := hopen
    exact ih h hn.step
  | case12 _ _ _ _ _ _ _ _ _ hclose ih =>
    simp only [Bool.and_eq_true, beq_iff_eq, List.take_succ_cons, List.cons.injEq] at hclose
    obtain ⟨-, rfl, -⟩ := hclose
    exact ih h hn.step
  | case13 => cases h; exact hn

/-! ## Words -/

theorem codePointEscape?_after {cs rest : List Char} {n width : Nat}
    (h : codePointEscape? cs = some (n, width, rest)) : After width cs rest := by
  unfold codePointEscape? at h
  split at h
  · next cs =>
    dsimp only at h
    split at h
    · next hdigits hrest _ =>
      split at h
      · cases h
        have hcs := After.takeWhile_narrow (fun _ => Text.utf8Size_of_isHexDigit) cs
        rw [hrest] at hcs
        exact ((After.cons '{' cs).trans hcs.step).of_eq (Nat.add_comm 1 _)
      · cases h
    · cases h
  · next a b c d rest _ =>
    obtain ⟨_, hn, heq⟩ := Option.map_eq_some_iff.1 h
    cases heq
    exact After.append_narrow (Text.narrow_of_hexNumber? hn) rest
  · cases h

theorem Word.finish_eq_some {acc : List Char} {escaped : Bool} {at_ next : Cursor} {w : Word}
    (h : scan.finish acc escaped at_ = some (w, next)) : next = at_ := by
  unfold scan.finish at h
  split at h
  · cases h
  · cases h
    rfl

theorem Word.scan_on {fuel : Nat} {acc : List Char} {escaped : Bool} {at_ next : Cursor} {w : Word}
    (h : scan fuel acc escaped at_ = some (w, next)) (hat : at_.On text) : next.On text := by
  fun_induction scan fuel acc escaped at_ with
  | case2 _ _ _ at_ cs hrest _ _ _ hescape _ _ _ ih =>
    have hcs : After at_.offset text ('\\' :: 'u' :: cs) := hrest ▸ hat
    exact ih h (hcs.step.step.trans (codePointEscape?_after hescape))
  | case7 _ _ _ at_ c cs _ _ hrest _ ih =>
    have hcs : After at_.offset text (c :: cs) := hrest ▸ hat
    exact ih h hcs.step
  | case8 => exact finish_eq_some h ▸ hat
  | case9 => exact finish_eq_some h ▸ hat
  | _ => cases h

theorem Word.read_on {fuel : Nat} {at_ next : Cursor} {w : Word}
    (h : read fuel at_ = some (w, next)) (hat : at_.On text) : next.On text := scan_on h hat

/-! ## Numerals -/

namespace Numeral

theorem isDigit_narrow (c : Char) (h : c.isDigit = true) : c.utf8Size = 1 :=
  Text.utf8Size_of_isDigit h

theorem more_after {isDigit : Char → Bool} (hd : ∀ c, isDigit c = true → c.utf8Size = 1)
    {n : Nat} {cs xs : List Char} (hn : After n xs cs) :
    After (digits.more isDigit n cs).1 xs (digits.more isDigit n cs).2 := by
  fun_induction digits.more isDigit n cs with
  | case1 n c cs hc ih => exact ih (hn.step.step.of_eq (by rw [hd c hc]; rfl))
  | case2 => exact hn
  | case3 n c cs _ hc ih => exact ih (hn.step.of_eq (by rw [hd c hc]))
  | case4 => exact hn
  | case5 => exact hn

theorem digits_after {isDigit : Char → Bool} (hd : ∀ c, isDigit c = true → c.utf8Size = 1)
    {n : Nat} {cs rest : List Char} (h : digits isDigit cs = some (n, rest)) : After n cs rest := by
  cases cs with
  | nil => cases h
  | cons c cs =>
    rw [digits] at h
    split at h
    · next hc =>
      have hmore := more_after hd ((After.cons c cs).of_eq (hd c hc))
      rw [Option.some.inj h] at hmore
      exact hmore
    · cases h

theorem digits?_after (cs : List Char) : After (digits? cs).1 cs (digits? cs).2 := by
  unfold digits?
  cases h : digits Char.isDigit cs with
  | none => exact After.zero cs
  | some p => exact digits_after isDigit_narrow h

theorem exponent_after {n : Nat} {cs rest : List Char} (h : exponent cs = some (n, rest)) :
    After n cs rest := by
  -- the letter, and a sign behind it, take one byte each
  have signed : ∀ {c d : Char} {cs : List Char}, c.utf8Size = 1 → d.utf8Size = 1 →
      (digits Char.isDigit cs).map (fun p => (p.1 + 2, p.2)) = some (n, rest) →
      After n (c :: d :: cs) rest := by
    intro c d cs hc hd h
    obtain ⟨⟨m, rest'⟩, hm, heq⟩ := Option.map_eq_some_iff.1 h
    cases heq
    have h2 := ((After.cons c (d :: cs)).step).trans (digits_after isDigit_narrow hm)
    exact h2.of_eq (by rw [hc, hd, Nat.add_comm])
  unfold exponent at h
  split at h
  · next c cs =>
    split at h
    · next hc =>
      have hc1 : c.utf8Size = 1 := by
        simp only [Bool.or_eq_true, beq_iff_eq] at hc
        rcases hc with rfl | rfl <;> rfl
      split at h
      · exact signed hc1 rfl h
      · exact signed hc1 rfl h
      · obtain ⟨⟨m, rest'⟩, hm, heq⟩ := Option.map_eq_some_iff.1 h
        cases heq
        exact ((After.cons c cs).trans (digits_after isDigit_narrow hm)).of_eq
          (by rw [hc1, Nat.add_comm])
    · cases h; exact After.zero _
  · cases h; exact After.zero _

theorem fraction_after {n : Nat} {cs rest : List Char} (h : fraction cs = some (n, rest)) :
    After n cs rest := by
  unfold fraction at h
  split at h
  · next cs =>
    obtain ⟨⟨m, rest'⟩, hm, heq⟩ := Option.map_eq_some_iff.1 h
    cases heq
    have hpoint : After 1 ('.' :: cs) cs := After.cons '.' cs
    rw [Nat.add_comm _ 1]
    exact (hpoint.trans (digits?_after cs)).trans (exponent_after hm)
  · exact exponent_after h

theorem closed_eq_some {big big' : Bool} {width width' : Nat} {rest rest' : List Char}
    (h : closed big width rest = some (big', width', rest')) : width' = width ∧ rest' = rest := by
  unfold closed at h
  split at h
  · cases h; exact ⟨rfl, rfl⟩
  · split at h
    · cases h
    · cases h; exact ⟨rfl, rfl⟩

theorem radix_after {isDigit : Char → Bool} (hd : ∀ c, isDigit c = true → c.utf8Size = 1)
    {big : Bool} {width : Nat} {xs cs rest : List Char} (h : radix isDigit cs = some (big, width, rest))
    (hcs : After 2 xs cs) : After width xs rest := by
  unfold radix at h
  split at h
  · next n rest' hn =>
    obtain ⟨rfl, rfl⟩ := closed_eq_some h
    exact (hcs.trans (digits_after hd hn)).step.of_eq (by rw [Nat.add_comm 2]; rfl)
  · next n rest' _ hn =>
    obtain ⟨rfl, rfl⟩ := closed_eq_some h
    exact (hcs.trans (digits_after hd hn)).of_eq (Nat.add_comm 2 n)
  · cases h

theorem legacy_after {big : Bool} {width : Nat} {cs rest : List Char}
    (h : legacy cs = some (big, width, rest)) : After width cs rest := by
  have hds := After.takeWhile_narrow isDigit_narrow cs
  unfold legacy at h
  dsimp only at h
  split at h
  · obtain ⟨⟨m, rest'⟩, hm, hclosed⟩ := Option.bind_eq_some_iff.1 h
    obtain ⟨rfl, rfl⟩ := closed_eq_some hclosed
    exact hds.trans (fraction_after hm)
  · obtain ⟨rfl, rfl⟩ := closed_eq_some h
    exact hds

theorem octal_narrow (c : Char) (h : ('0' ≤ c && c ≤ '7') = true) : c.utf8Size = 1 := by
  simp only [Bool.and_eq_true, decide_eq_true_eq] at h
  exact Text.utf8Size_of_le (d := '7') (by decide) h.2

theorem binary_narrow (c : Char) (h : (c == '0' || c == '1') = true) : c.utf8Size = 1 := by
  simp only [Bool.or_eq_true, beq_iff_eq] at h
  rcases h with rfl | rfl <;> rfl

/-- The width of a literal is its number of bytes. -/
theorem read_after {big : Bool} {width : Nat} {cs rest : List Char}
    (h : read cs = some (big, width, rest)) : After width cs rest := by
  unfold read at h
  split at h
  · exact radix_after (fun _ => Text.utf8Size_of_isHexDigit) h (After.zero _).step.step
  · exact radix_after (fun _ => Text.utf8Size_of_isHexDigit) h (After.zero _).step.step
  · exact radix_after octal_narrow h (After.zero _).step.step
  · exact radix_after octal_narrow h (After.zero _).step.step
  · exact radix_after binary_narrow h (After.zero _).step.step
  · exact radix_after binary_narrow h (After.zero _).step.step
  · obtain ⟨rfl, rfl⟩ := closed_eq_some h
    exact (After.zero _).step.step
  · split at h
    · exact legacy_after h
    · next d cs _ _ _ _ _ _ _ _ =>
      obtain ⟨⟨m, rest'⟩, hm, hclosed⟩ := Option.bind_eq_some_iff.1 h
      obtain ⟨rfl, rfl⟩ := closed_eq_some hclosed
      exact (After.cons '0' (d :: cs)).trans (fraction_after hm)
  · next cs =>
    obtain ⟨⟨n, rest₁⟩, hn, h⟩ := Option.bind_eq_some_iff.1 h
    obtain ⟨⟨m, rest₂⟩, hm, hclosed⟩ := Option.bind_eq_some_iff.1 h
    obtain ⟨rfl, rfl⟩ := closed_eq_some hclosed
    exact ((After.cons '.' cs).trans (digits_after isDigit_narrow hn)).trans (exponent_after hm)
  · obtain ⟨⟨n, rest₁⟩, hn, h⟩ := Option.bind_eq_some_iff.1 h
    have hdigits := digits_after isDigit_narrow hn
    dsimp only at h
    split at h
    · obtain ⟨rfl, rfl⟩ := closed_eq_some h
      exact hdigits.step
    · obtain ⟨⟨m, rest₂⟩, hm, hclosed⟩ := Option.bind_eq_some_iff.1 h
      obtain ⟨rfl, rfl⟩ := closed_eq_some hclosed
      exact hdigits.trans (fraction_after hm)

end Numeral

/-! ## Strings and templates -/

/-- The body of a string is what stands in front of the quote that ends it. -/
theorem Quoted.string_eq_some {q : Char} {acc cs body rest : List Char}
    (h : string q acc cs = some (body, rest)) : acc.reverse ++ cs = body ++ q :: rest := by
  fun_induction string q acc cs with
  | case1 => cases h
  | case2 _ _ ih => simpa using ih h
  | case3 _ _ _ _ _ ih => simpa using ih h
  | case4 => cases h
  | case5 _ _ _ _ _ hc => cases h; rw [beq_iff_eq] at hc; rw [hc]
  | case6 => cases h
  | case7 _ _ _ _ _ _ _ ih => simpa using ih h

theorem Quoted.template_after {valid valid' : Bool} {width width' : Nat} {ends : PartEnd}
    {xs cs rest : List Char} (h : template valid width cs = some (ends, valid', width', rest))
    (hcs : After width xs cs) : After width' xs rest := by
  fun_induction template valid width cs with
  | case1 => cases h
  | case2 _ _ _ _ ih => exact ih h hcs.step.step
  | case3 => cases h; exact hcs.step.step
  | case4 _ _ c _ _ _ hc =>
    cases h
    rw [beq_iff_eq] at hc
    exact (hc ▸ hcs).step
  | case5 _ _ _ _ _ _ _ ih => exact ih h hcs.step

/-! ## Marks -/

theorem Mark.spellings_narrow : ∀ p ∈ spellings, ∀ c ∈ p.1, c.utf8Size = 1 := by
  -- as a test of the table, so that nothing goes through all characters
  have htable : (spellings.all fun p => p.1.all fun c => c.utf8Size == 1) = true := by decide
  intro p hp c hc
  have hspelling := List.all_eq_true.mp htable p hp
  exact beq_iff_eq.mp (List.all_eq_true.mp hspelling c hc)

theorem Mark.find_after {cs : List Char} {m : Mark} {width : Nat}
    (h : read.find cs = some (m, width)) : After width cs (cs.drop width) := by
  obtain ⟨⟨spelling, m'⟩, hfind, heq⟩ := Option.map_eq_some_iff.1 h
  cases heq
  have hp := List.find?_some hfind
  obtain ⟨rest, rfl⟩ := List.isPrefixOf_iff_prefix.1 hp
  rw [List.drop_left]
  exact After.append_narrow (spellings_narrow _ (List.mem_of_find?_eq_some hfind)) rest

theorem Mark.read_after {cs : List Char} {m : Mark} {width : Nat}
    (h : read cs = some (m, width)) : After width cs (cs.drop width) := by
  unfold read at h
  split at h
  · split at h
    · cases h
      exact After.cons '?' _
    · exact find_after h
  · exact find_after h

/-! ## Lexemes -/

namespace Lexeme

/-- The lexeme is the numeral that is read where it starts. -/
def IsNumeral (big : Bool) (t : Lexeme) : Prop :=
  ∃ width, Numeral.read t.source.rest = some (big, width, t.next.rest) ∧ t.stop = t.start + width

/-- The lexeme starts and stops at cursors on the text, and what counts as a numeral is one. -/
structure On (text : List Char) (t : Lexeme) : Prop where
  source : t.source.On text
  next : t.next.On text
  number : t.kind = .number → t.IsNumeral false
  bigInt : t.kind = .bigInt → t.IsNumeral true

theorem On.start {t : Lexeme} (h : t.On text) : Text.IsBoundary text t.start := ⟨_, h.source⟩

theorem On.stop {t : Lexeme} (h : t.On text) : Text.IsBoundary text t.stop := ⟨_, h.next⟩

theorem kindAt_on {fuel : Nat} {at_ : Cursor} (hat : at_.On text) :
    (kindAt fuel at_).2.On text := by
  unfold kindAt
  split
  · exact hat
  next c cs hrest =>
  have hcs : After at_.offset text (c :: cs) := hrest ▸ hat
  split
  · split
    · next hword => exact Word.read_on hword hat
    · exact hat
  split
  · split
    · next hnumeral => exact hat.go (Numeral.read_after hnumeral)
    · exact hat
  split
  · next hquote =>
    split
    · next body rest hstring =>
      obtain rfl : cs = body ++ c :: rest := Quoted.string_eq_some hstring
      have hc : c.utf8Size = 1 := by
        simp only [Bool.or_eq_true, beq_iff_eq] at hquote
        rcases hquote with rfl | rfl <;> rfl
      exact ((hcs.step.trans (After.append body _)).step).of_eq (by dsimp only; omega)
    · exact hat
  split
  · next hquote =>
    split
    · next htemplate =>
      rw [beq_iff_eq] at hquote
      exact After.trans hcs (Quoted.template_after htemplate (hquote ▸ After.cons _ cs))
    · exact hat
  split
  · next hsign =>
    rw [beq_iff_eq] at hsign
    split
    · next hword => exact Word.read_on hword (hsign ▸ hcs).step
    · exact hat
  split
  · next hmark => exact hat.go (Mark.read_after hmark)
  · exact hat

/-- Only a numeral is of the kind of one. -/
theorem kindAt_numeral {fuel : Nat} {at_ next : Cursor} {k : LexemeKind} {big : Bool}
    (h : kindAt fuel at_ = (k, next)) (hk : k = if big then .bigInt else .number) :
    ∃ width, Numeral.read at_.rest = some (big, width, next.rest) ∧
      next.offset = at_.offset + width := by
  have hother : ∀ {k' : LexemeKind} {at' : Cursor}, k' ≠ .number → k' ≠ .bigInt →
      (k', at') ≠ (k, next) := by
    rintro k' at' hnumber hbig heq
    cases heq
    cases big with
    | false => exact hnumber hk
    | true => exact hbig hk
  unfold kindAt at h
  split at h
  · exact absurd h (hother nofun nofun)
  split at h
  · split at h
    all_goals exact absurd h (hother nofun nofun)
  split at h
  · split at h
    · next big' width rest hread =>
      cases h
      obtain rfl : big' = big := by cases big' <;> cases big <;> first | rfl | cases hk
      exact ⟨width, hread, rfl⟩
    · exact absurd h (hother nofun nofun)
  · repeat' split at h
    all_goals exact absurd h (hother nofun nofun)

/-- The lexeme that comes next stands in the text. -/
theorem read_on {html ended : Bool} {fuel : Nat} {at_ : Cursor} (hat : at_.On text) :
    (read html fuel ended at_).On text := by
  unfold read
  split
  · exact ⟨hat, hat, nofun, nofun⟩
  · next hskip =>
    have hsource := Gap.skip_on hskip hat
    exact ⟨hsource, kindAt_on hsource, @kindAt_numeral _ _ _ _ false rfl,
      @kindAt_numeral _ _ _ _ true rfl⟩

theorem regExpBody_eq_some {inClass : Bool} {acc cs body rest : List Char}
    (h : regExpBody inClass acc cs = some (body, rest)) :
    acc.reverse ++ cs = body ++ '/' :: rest := by
  fun_induction regExpBody inClass acc cs with
  | case1 => cases h
  | case2 => cases h
  | case3 _ _ _ _ _ ih => simpa using ih h
  | case4 => cases h
  | case5 _ _ _ _ _ _ hc =>
    cases h
    simp only [Bool.and_eq_true, beq_iff_eq] at hc
    rw [hc.1]
  | case6 _ _ _ _ _ _ _ _ ih => simpa using ih h
  | case7 _ _ _ _ _ _ _ _ _ ih => simpa using ih h
  | case8 _ _ _ _ _ _ _ _ _ ih => simpa using ih h

theorem isFlag_narrow (c : Char) (h : (c.isAlphanum || c == '$' || c == '_') = true) :
    c.utf8Size = 1 := by
  unfold Char.isAlphanum Char.isAlpha Char.isUpper Char.isLower at h
  simp only [Bool.or_eq_true, Bool.and_eq_true, decide_eq_true_eq, beq_iff_eq] at h
  rcases h with (((h | h) | h) | rfl) | rfl
  · exact Text.utf8Size_of_le (d := 'Z') (by decide) h.2
  · exact Text.utf8Size_of_le (d := 'z') (by decide) h.2
  · exact Text.utf8Size_of_isDigit h
  · rfl
  · rfl

/-- A regular expression stops at a cursor on the text. -/
theorem regExp_on {at_ next : Cursor} {body flags : List Char}
    (h : regExp at_ = some (body, flags, next)) (hat : at_.On text) : next.On text := by
  unfold regExp at h
  split at h
  · next cs hrest =>
    split at h
    · next body rest hbody =>
      cases h
      obtain rfl : cs = body ++ '/' :: rest := regExpBody_eq_some hbody
      have hcs : After at_.offset text ('/' :: (body ++ '/' :: rest)) := hrest ▸ hat
      have hslash := (hcs.step.trans (After.append body _)).step
      exact (hslash.trans (After.takeWhile_narrow isFlag_narrow rest)).of_eq
        (by dsimp only; rw [show '/'.utf8Size = 1 from rfl]; omega)
    · cases h
  · cases h

/-- The rest of a template stands where the closing brace does. -/
theorem templateRest_on {t : Lexeme} (ht : t.On text) : t.templateRest.On text := by
  unfold templateRest
  split
  · next cs hrest =>
    split
    · next htemplate =>
      refine ⟨ht.source, ht.source.go ?_, nofun, nofun⟩
      rw [hrest]
      exact Quoted.template_after htemplate (After.cons '}' cs)
    · exact ⟨ht.source, ht.next, nofun, nofun⟩
  · exact ⟨ht.source, ht.next, nofun, nofun⟩

end Lexeme

end EditionCheck.Script
