import Mathlib.Data.List.TakeWhile
import Mathlib.Data.Prod.Lex
import EditionCheck.Text.Digit
import EditionCheck.Text.Place

/-!
  Character boundaries of a text, and the order of the places there.

  `After n cs rest` says that `rest` is what follows the first `n` bytes of `cs`; a reader of a
  text that counts bytes keeps this relation between its count and what it has left. `IsBoundary`
  is the offsets at which something follows. Between two of them the order of line and column is
  that of the offsets (`lineColumn_le`); inside a character it is not, since a place there counts as
  the end of the text.
-/

namespace EditionCheck.Text

@[simp] theorem byteLength_nil : byteLength [] = 0 := rfl

@[simp] theorem byteLength_cons (c : Char) (cs : List Char) :
    byteLength (c :: cs) = c.utf8Size + byteLength cs := rfl

/-- Only the empty text has no bytes. -/
theorem eq_nil_of_byteLength {cs : List Char} (h : byteLength cs = 0) : cs = [] := by
  cases cs with
  | nil => rfl
  | cons c cs =>
    have hc := c.utf8Size_pos
    rw [byteLength_cons] at h
    omega

/-- A text that is not empty has a byte. -/
theorem exists_byteLength_cons (c : Char) (cs : List Char) :
    ∃ k, c.utf8Size + byteLength cs = k + 1 := by
  have hc := c.utf8Size_pos
  exact ⟨c.utf8Size + byteLength cs - 1, by omega⟩

/-! ## Characters of one byte -/

theorem utf8Size_eq_one {c : Char} (h : c ≤ '\x7f') : c.utf8Size = 1 := if_pos (c := c.val ≤ 127) h

/-- A character up to one of a single byte has a single byte. -/
theorem utf8Size_of_le {c d : Char} (hd : d ≤ '\x7f') (h : c ≤ d) : c.utf8Size = 1 :=
  utf8Size_eq_one (Char.le_trans h hd)

/-- A text of such characters has as many bytes as characters. -/
theorem byteLength_of_narrow {cs : List Char} (h : ∀ c ∈ cs, c.utf8Size = 1) :
    byteLength cs = cs.length := by
  induction cs with
  | nil => rfl
  | cons c cs ih =>
    obtain ⟨hc, hcs⟩ := List.forall_mem_cons.1 h
    rw [byteLength_cons, ih hcs, hc, List.length_cons, Nat.add_comm]

theorem utf8Size_of_isDigit {c : Char} (h : c.isDigit = true) : c.utf8Size = 1 := by
  simp only [Char.isDigit, Bool.and_eq_true, decide_eq_true_eq] at h
  exact utf8Size_eq_one (Char.le_def.2 (UInt32.le_trans h.2 (by decide)))

theorem utf8Size_of_hexValue? {c : Char} {n : Nat} (h : hexValue? c = some n) :
    c.utf8Size = 1 := by
  unfold hexValue? at h
  simp only [Bool.and_eq_true, decide_eq_true_eq] at h
  split at h
  · next hc => exact utf8Size_of_le (d := '9') (by decide) hc.2
  split at h
  · next hc => exact utf8Size_of_le (d := 'f') (by decide) hc.2
  split at h
  · next hc => exact utf8Size_of_le (d := 'F') (by decide) hc.2
  · cases h

theorem utf8Size_of_isHexDigit {c : Char} (h : isHexDigit c = true) : c.utf8Size = 1 := by
  obtain ⟨n, hn⟩ := Option.isSome_iff_exists.1 h
  exact utf8Size_of_hexValue? hn

/-- No digit follows one that has no value. -/
theorem foldl_hexNumber?_none (cs : List Char) :
    cs.foldl (fun acc c => acc.bind fun n => (hexValue? c).map (n * 16 + ·)) none = none := by
  induction cs with
  | nil => rfl
  | cons c cs ih => exact ih

/-- What writes a number in hexadecimal is made of digits. -/
theorem isHexDigit_of_hexNumber? {cs : List Char} {n : Nat} (h : hexNumber? cs = some n) :
    ∀ c ∈ cs, isHexDigit c = true := by
  unfold hexNumber? at h
  generalize some 0 = start at h
  induction cs generalizing start with
  | nil => simp
  | cons c cs ih =>
    have hcs := ih _ h
    cases hc : hexValue? c with
    | some v => exact List.forall_mem_cons.2 ⟨Option.isSome_iff_exists.2 ⟨v, hc⟩, hcs⟩
    | none =>
      have hstart : (start.bind fun n => (hexValue? c).map (n * 16 + ·)) = none := by
        cases start <;> simp [hc]
      rw [List.foldl_cons, hstart, foldl_hexNumber?_none] at h
      cases h

/-- It has one byte for each digit. -/
theorem narrow_of_hexNumber? {cs : List Char} {n : Nat} (h : hexNumber? cs = some n) :
    ∀ c ∈ cs, c.utf8Size = 1 :=
  fun c hc => utf8Size_of_isHexDigit (isHexDigit_of_hexNumber? h c hc)

/-! ## What follows the first bytes -/

/-- `rest` is what follows the first `n` bytes of `cs`. -/
def After (n : Nat) (cs rest : List Char) : Prop :=
  ∃ before, cs = before ++ rest ∧ byteLength before = n

namespace After

theorem zero (cs : List Char) : After 0 cs cs := ⟨[], rfl, rfl⟩

theorem trans {m n : Nat} {xs ys zs : List Char} (h : After m xs ys) (h' : After n ys zs) :
    After (m + n) xs zs := by
  obtain ⟨b, rfl, rfl⟩ := h
  obtain ⟨b', rfl, rfl⟩ := h'
  exact ⟨b ++ b', by rw [List.append_assoc], byteLength_append b b'⟩

theorem cons (c : Char) (cs : List Char) : After c.utf8Size (c :: cs) cs := ⟨[c], rfl, rfl⟩

/-- One character further. -/
theorem step {n : Nat} {xs cs : List Char} {c : Char} (h : After n xs (c :: cs)) :
    After (n + c.utf8Size) xs cs := h.trans (cons c cs)

theorem append (xs ys : List Char) : After (byteLength xs) (xs ++ ys) ys := ⟨xs, rfl, rfl⟩

/-- Past characters of one byte each. -/
theorem append_narrow {xs : List Char} (h : ∀ c ∈ xs, c.utf8Size = 1) (ys : List Char) :
    After xs.length (xs ++ ys) ys :=
  ⟨xs, rfl, byteLength_of_narrow h⟩

/-- Past the longest part of such characters. -/
theorem takeWhile_narrow {p : Char → Bool} (h : ∀ c, p c = true → c.utf8Size = 1)
    (cs : List Char) : After (cs.takeWhile p).length cs (cs.dropWhile p) := by
  have hnarrow : ∀ c ∈ cs.takeWhile p, c.utf8Size = 1 :=
    fun c hc => h c (List.mem_takeWhile_imp hc)
  have hcs := append_narrow hnarrow (cs.dropWhile p)
  rwa [List.takeWhile_append_dropWhile] at hcs

/-- In front of more text. -/
theorem append_right {n : Nat} {xs ys : List Char} (h : After n xs ys) (zs : List Char) :
    After n (xs ++ zs) (ys ++ zs) := by
  obtain ⟨before, rfl, hn⟩ := h
  exact ⟨before, List.append_assoc _ _ _, hn⟩

theorem of_eq {m n : Nat} {xs ys : List Char} (h : After m xs ys) (e : m = n) : After n xs ys :=
  e ▸ h

/-- There are so many bytes. -/
theorem le {n : Nat} {xs ys : List Char} (h : After n xs ys) : n ≤ byteLength xs := by
  obtain ⟨before, rfl, rfl⟩ := h
  rw [byteLength_append]
  exact Nat.le_add_right _ _

end After

/-- A text in front moves the offset of a cut. -/
theorem splitAt?_append_add (xs ys : List Char) (n : Nat) :
    splitAt? (byteLength xs + n) (xs ++ ys) = (splitAt? n ys).map fun p => (xs ++ p.1, p.2) := by
  induction xs with
  | nil => simp
  | cons c cs ih =>
    obtain ⟨k, hk⟩ := exists_byteLength_cons c cs
    have hlen : byteLength (c :: cs) + n = k + n + 1 := by
      rw [byteLength_cons]
      omega
    have hrest : k + n + 1 - c.utf8Size = byteLength cs + n := by omega
    rw [List.cons_append, hlen, splitAt?, if_pos (by omega), hrest, ih, Option.map_map]
    rfl

theorem splitAt?_append (xs ys : List Char) :
    splitAt? (byteLength xs) (xs ++ ys) = some (xs, ys) := by
  simpa [splitAt?] using splitAt?_append_add xs ys 0

theorem splitAt?_eq_some {n : Nat} {cs xs ys : List Char} (h : splitAt? n cs = some (xs, ys)) :
    cs = xs ++ ys := by
  induction cs generalizing n xs with
  | nil =>
    cases n with
    | zero =>
      cases h
      rfl
    | succ n => cases h
  | cons c cs ih =>
    cases n with
    | zero =>
      cases h
      rfl
    | succ n =>
      rw [splitAt?] at h
      split at h
      · obtain ⟨p, hp, hq⟩ := Option.map_eq_some_iff.1 h
        cases hq
        rw [List.cons_append, ← ih hp]
      · cases h

/-- A text in front moves the offset of a suffix. -/
theorem dropBytes_append_add (xs ys : List Char) (n : Nat) :
    dropBytes (byteLength xs + n) (xs ++ ys) = dropBytes n ys := by
  induction xs with
  | nil => simp
  | cons c cs ih =>
    obtain ⟨k, hk⟩ := exists_byteLength_cons c cs
    have hlen : byteLength (c :: cs) + n = k + n + 1 := by
      rw [byteLength_cons]
      omega
    have hrest : k + n + 1 - c.utf8Size = byteLength cs + n := by omega
    rw [List.cons_append, hlen, dropBytes, if_pos (by omega), hrest, ih]

theorem dropBytes_append (xs ys : List Char) : dropBytes (byteLength xs) (xs ++ ys) = ys := by
  simpa [dropBytes] using dropBytes_append_add xs ys 0

/-- A text in front moves the offsets of a slice. -/
theorem slice_append_add (xs ys : List Char) (start stop : Nat) :
    slice (byteLength xs + start) (byteLength xs + stop) (xs ++ ys) = slice start stop ys := by
  unfold slice
  rw [dropBytes_append_add, Nat.add_sub_add_left]

/-- The suffix at an offset is what follows the first bytes. -/
theorem dropBytes_of_after {n : Nat} {cs rest : List Char} (h : After n cs rest) :
    dropBytes n cs = rest := by
  obtain ⟨before, rfl, rfl⟩ := h
  exact dropBytes_append before rest

/-- The first bytes of a text are a part in front of it, or nothing. -/
theorem takeBytes_isPrefix (n : Nat) (cs : List Char) : takeBytes n cs <+: cs := by
  unfold takeBytes
  split
  · next h => exact ⟨_, (splitAt?_eq_some h).symm⟩
  · exact List.nil_prefix

/-! ## Boundaries -/

/-- A character starts, or the text ends, at byte offset `n`. -/
def IsBoundary (cs : List Char) (n : Nat) : Prop := ∃ rest, After n cs rest

theorem After.isBoundary {n : Nat} {cs rest : List Char} (h : After n cs rest) :
    IsBoundary cs n := ⟨rest, h⟩

theorem isBoundary_zero (cs : List Char) : IsBoundary cs 0 := ⟨cs, .zero cs⟩

theorem isBoundary_end (cs : List Char) : IsBoundary cs (byteLength cs) :=
  ⟨[], cs, by rw [List.append_nil], rfl⟩

/-- What stands in front of an earlier boundary stands in front of a later one. -/
theorem isPrefix_of_byteLength_le {xs xs' ys ys' : List Char} (h : xs ++ xs' = ys ++ ys')
    (hle : byteLength xs ≤ byteLength ys) : xs <+: ys := by
  obtain ⟨as, rfl, -⟩ | ⟨bs, rfl, -⟩ := List.append_eq_append_iff.1 h
  · exact ⟨as, rfl⟩
  · rw [byteLength_append] at hle
    have hbs : bs = [] := eq_nil_of_byteLength (by omega)
    subst hbs
    exact ⟨[], by simp⟩

/-- A text is cut at a byte offset in one way only. -/
theorem append_inj_of_byteLength {xs xs' ys ys' : List Char} (h : xs ++ xs' = ys ++ ys')
    (hlen : byteLength xs = byteLength ys) : xs = ys ∧ xs' = ys' := by
  have hrest : xs' = ys' := by rw [← dropBytes_append xs xs', h, hlen, dropBytes_append]
  subst hrest
  exact ⟨List.append_cancel_right h, rfl⟩

/-! ## Lines and columns -/

theorem lineColumn_append (xs ys : List Char) :
    lineColumn (xs ++ ys) (byteLength xs) = endPlace xs := by
  unfold lineColumn upTo
  rw [splitAt?_append]

theorem lastLine_append_of_not_mem (xs ys : List Char) (h : '\n' ∉ ys) :
    lastLine (xs ++ ys) = lastLine xs ++ ys := by
  have hys : ∀ c ∈ ys.reverse, decide (c ≠ '\n') = true := by
    intro c hc
    have hc' := List.mem_reverse.1 hc
    exact decide_eq_true fun e => h (e ▸ hc')
  unfold lastLine
  rw [List.reverse_append, List.takeWhile_append_of_pos hys, List.reverse_append,
    List.reverse_reverse]

/-- A line feed begins the last line anew. -/
theorem lastLine_append_newLine (xs ys : List Char) : lastLine (xs ++ '\n' :: ys) = lastLine ys := by
  have hreverse : (xs ++ '\n' :: ys).reverse = ys.reverse ++ '\n' :: xs.reverse := by simp
  have hstop : ('\n' :: xs.reverse).takeWhile (· ≠ '\n') = [] :=
    List.takeWhile_cons_of_neg (by simp)
  unfold lastLine
  rw [hreverse, List.takeWhile_append, hstop, List.append_nil]
  split
  · next h => rw [(List.takeWhile_prefix _).eq_of_length h]
  · rfl

/-- Further on is further down, or further right in the same line. -/
theorem endPlace_lt (xs : List Char) {ys : List Char} (h : ys ≠ []) :
    toLex (endPlace xs) < toLex (endPlace (xs ++ ys)) := by
  rw [Prod.Lex.toLex_lt_toLex]
  simp only [endPlace, List.count_append]
  by_cases hn : '\n' ∈ ys
  · have hpos := List.count_pos_iff.2 hn
    left
    omega
  · right
    have hlen := List.length_pos_iff.2 h
    rw [lastLine_append_of_not_mem xs ys hn, List.count_eq_zero.2 hn, List.length_append]
    omega

/-- Line and column grow with the offset from boundary to boundary. -/
theorem lineColumn_lt {cs : List Char} {m n : Nat} (hm : IsBoundary cs m) (hn : IsBoundary cs n)
    (h : m < n) : toLex (lineColumn cs m) < toLex (lineColumn cs n) := by
  obtain ⟨xs', xs, rfl, rfl⟩ := hm
  obtain ⟨ys', ys, hys, rfl⟩ := hn
  obtain ⟨zs, rfl⟩ := isPrefix_of_byteLength_le hys (Nat.le_of_lt h)
  have hzs : zs ≠ [] := by
    rintro rfl
    simp at h
  have hplace : lineColumn (xs ++ xs') (byteLength (xs ++ zs)) = endPlace (xs ++ zs) := by
    rw [hys, lineColumn_append]
  rw [lineColumn_append, hplace]
  exact endPlace_lt xs hzs

theorem lineColumn_le {cs : List Char} {m n : Nat} (hm : IsBoundary cs m) (hn : IsBoundary cs n)
    (h : m ≤ n) : toLex (lineColumn cs m) ≤ toLex (lineColumn cs n) := by
  rcases Nat.lt_or_eq_of_le h with h | h
  · exact le_of_lt (lineColumn_lt hm hn h)
  · rw [h]

end EditionCheck.Text
