import Mathlib.Data.Nat.Digits.Defs
import EditionCheck.Text.Digit
import EditionCheck.Time.Moment

/-!
  Timestamps, written and read back.

  Every moment is read back from its timestamp (`Moment.parse?_render`): with a year outside the
  four-digit ones, with any count of places, and in a leap second. Each part of a timestamp has its
  own lemma, which leaves what follows the part.
-/

namespace EditionCheck

namespace Moment

open Decimal (padded)

/-! ## Digits -/

theorem numberOf_eq (ds : List Char) : numberOf ds = Nat.ofDigitChars 10 ds 0 := by
  have hstep : (fun n (c : Char) => n * 10 + (c.toNat - 48)) =
      fun n c => 10 * n + (c.toNat - '0'.toNat) := by
    funext n c
    rw [Nat.mul_comm]
    rfl
  rw [numberOf, hstep]
  rfl

theorem padded_isDigit {width n : Nat} {c : Char} (hc : c ∈ padded width n) :
    c.isDigit = true := by
  rcases List.mem_append.1 hc with hc | hc
  · rw [List.eq_of_mem_replicate hc]
    rfl
  · exact Nat.isDigit_of_mem_toDigits (by decide) (by decide) hc

theorem padded_ne_nil (width n : Nat) : padded width n ≠ [] :=
  List.append_ne_nil_of_right_ne_nil _ Nat.toDigits_ne_nil

theorem padded_cons (width n : Nat) : ∃ c cs, padded width n = c :: cs ∧ c.isDigit = true := by
  obtain ⟨c, cs, hcs⟩ := List.exists_cons_of_ne_nil (padded_ne_nil width n)
  exact ⟨c, cs, hcs, padded_isDigit (hcs ▸ List.mem_cons_self)⟩

theorem length_padded {width n : Nat} (hwidth : 0 < width) (hn : n < 10 ^ width) :
    (padded width n).length = width := by
  have hle : (Nat.toDigits 10 n).length ≤ width :=
    (Nat.length_toDigits_le_iff (by decide) hwidth).2 hn
  rw [padded, List.length_append, List.length_replicate]
  omega

theorem numberOf_padded (width n : Nat) : numberOf (padded width n) = n := by
  rw [numberOf_eq, padded, Nat.ofDigitChars_append, Nat.ofDigitChars_replicate_zero,
    Nat.mul_zero, Nat.ofDigitChars_ten_toDigits]

theorem trimStart_padded (width n : Nat) (rest : List Char) :
    Text.trimStart (padded width n ++ rest) = padded width n ++ rest := by
  obtain ⟨c, cs, hcs, hc⟩ := padded_cons width n
  have hblank : Text.isBlank c = false := Text.isBlank_of_isDigit hc
  rw [hcs, List.cons_append, Text.trimStart,
    List.dropWhile_cons_of_neg (by rw [hblank]; decide)]

/-- Digits are read up to the end of the width or of the digits, whichever comes first. -/
theorem digits?_append {width : Nat} {ds rest : List Char} (hne : ds ≠ [])
    (hds : ∀ c ∈ ds, c.isDigit = true) (hlength : ds.length ≤ width)
    (hrest : (rest.take (width - ds.length)).takeWhile Char.isDigit = []) :
    digits? width (ds ++ rest) = some (numberOf ds, rest) := by
  have htake : ((ds ++ rest).take width).takeWhile Char.isDigit = ds := by
    rw [List.take_append, List.take_of_length_le hlength, List.takeWhile_append_of_pos hds, hrest,
      List.append_nil]
  unfold digits?
  rw [htake]
  cases ds with
  | nil => exact absurd rfl hne
  | cons c ds => simp only [List.drop_left]

/-- A number that is filled up to its width is read back. -/
theorem digits?_padded {width n : Nat} (hwidth : 0 < width) (hn : n < 10 ^ width)
    (rest : List Char) : digits? width (padded width n ++ rest) = some (n, rest) := by
  have hlength : (padded width n).length = width := length_padded hwidth hn
  rw [digits?_append (padded_ne_nil width n) (fun c hc => padded_isDigit hc)
    (Nat.le_of_eq hlength) (by rw [hlength, Nat.sub_self]; rfl), numberOf_padded]

/-- A number is read up to a mark that follows, when the width reaches so far. -/
theorem digits?_marked {width w n : Nat} (hlength : (padded w n).length ≤ width) {mark : Char}
    (hmark : mark.isDigit = false) (rest : List Char) :
    digits? width (padded w n ++ mark :: rest) = some (n, mark :: rest) := by
  have hstop : ∀ k, ((mark :: rest).take k).takeWhile Char.isDigit = [] := by
    intro k
    cases k with
    | zero => rfl
    | succ k => exact List.takeWhile_cons_of_neg (by rw [hmark]; decide)
  rw [digits?_append (padded_ne_nil w n) (fun c hc => padded_isDigit hc) hlength (hstop _),
    numberOf_padded]

theorem twoDigits?_padded {n : Nat} (hn : n < 100) (rest : List Char) :
    twoDigits? (padded 2 n ++ rest) = some (n, rest) := by
  rw [twoDigits?, trimStart_padded, digits?_padded (by decide) hn]

/-! ## Parts of a timestamp -/

/-- Behind a sign, a year of any length is read up to the mark that follows. -/
theorem digits?_year (n : Nat) (rest : List Char) :
    digits? (padded 4 n ++ '-' :: rest).length (padded 4 n ++ '-' :: rest) =
      some (n, '-' :: rest) := by
  apply digits?_marked
  · rw [List.length_append]
    omega
  · rfl

theorem year?_unsigned {n : Nat} (hn : n < 10000) (rest : List Char) :
    year? (padded 4 n ++ rest) = some ((n : Int), rest) := by
  have hdigits : digits? 4 (padded 4 n ++ rest) = some (n, rest) :=
    digits?_padded (by decide) hn rest
  obtain ⟨c, cs, hcs, hc⟩ := padded_cons 4 n
  unfold year?
  rw [trimStart_padded]
  rw [hcs] at hdigits ⊢
  split
  · next h => exact absurd (List.cons.inj h).1 (Text.ne_of_isDigit hc rfl)
  · next h => exact absurd (List.cons.inj h).1 (Text.ne_of_isDigit hc rfl)
  · rw [hdigits]
    rfl

theorem year?_minus (n : Nat) (rest : List Char) :
    year? ('-' :: (padded 4 n ++ '-' :: rest)) = some (-(n : Int), '-' :: rest) := by
  have htrim : ∀ cs, Text.trimStart ('-' :: cs) = '-' :: cs := fun cs => rfl
  unfold year?
  rw [htrim]
  simp only [digits?_year]
  rfl

theorem year?_plus (n : Nat) (rest : List Char) :
    year? ('+' :: (padded 4 n ++ '-' :: rest)) = some ((n : Int), '-' :: rest) := by
  have htrim : ∀ cs, Text.trimStart ('+' :: cs) = '+' :: cs := fun cs => rfl
  unfold year?
  rw [htrim]
  simp only [digits?_year]
  rfl

/-- A year is read back, with or without a sign. -/
theorem year?_yearText (year : Int) (rest : List Char) :
    year? (yearText year ++ '-' :: rest) = some (year, '-' :: rest) := by
  unfold yearText
  by_cases hfour : (0 ≤ year && year ≤ 9999) = true
  · have hrange : 0 ≤ year ∧ year ≤ 9999 := by simpa using hfour
    rw [if_pos hfour, year?_unsigned (by omega), Int.natAbs_of_nonneg hrange.1]
  · rw [if_neg hfour, List.cons_append]
    by_cases hneg : year < 0
    · rw [if_pos hneg, year?_minus, Int.ofNat_natAbs_of_nonpos (Int.le_of_lt hneg), Int.neg_neg]
    · rw [if_neg hneg, year?_plus, Int.natAbs_of_nonneg (Int.not_lt.1 hneg)]

theorem after?_self {mark : Char} (hmark : Text.isBlank mark = false) (rest : List Char) :
    after? mark (mark :: rest) = some rest := by
  rw [after?, Text.trimStart, List.dropWhile_cons_of_neg (by rw [hmark]; decide)]
  simp

theorem places?_padded {width n : Nat} (hwidth : 0 < width) (hnine : width ≤ 9)
    (hn : n < 10 ^ width) (rest : List Char) :
    places? ('.' :: (padded width n ++ 'Z' :: rest)) =
      some (n * 10 ^ (9 - width), 'Z' :: rest) := by
  have hlength : (padded width n).length = width := length_padded hwidth hn
  have hdigits : digits? 9 (padded width n ++ 'Z' :: rest) = some (n, 'Z' :: rest) :=
    digits?_marked (by omega) rfl rest
  have hcount : (padded width n ++ 'Z' :: rest).length - ('Z' :: rest).length = width := by
    rw [List.length_append, hlength, Nat.add_sub_cancel]
  simp only [places?, hdigits, hcount]
  rfl

/-- The places of a second are read back, however many there are. -/
theorem places?_placesText {n : Nat} (hn : n < 1000000000) (rest : List Char) :
    places? (placesText n ++ 'Z' :: rest) = some (n, 'Z' :: rest) := by
  unfold placesText
  by_cases h0 : (n == 0) = true
  · rw [if_pos h0, eq_of_beq h0]
    rfl
  rw [if_neg h0]
  by_cases h3 : (n % 1000000 == 0) = true
  · have hmod : n % 1000000 = 0 := eq_of_beq h3
    rw [if_pos h3, List.cons_append, places?_padded (by decide) (by decide) (by omega)]
    have hn' : n / 1000000 * 10 ^ (9 - 3) = n := by omega
    rw [hn']
  rw [if_neg h3]
  by_cases h6 : (n % 1000 == 0) = true
  · have hmod : n % 1000 = 0 := eq_of_beq h6
    rw [if_pos h6, List.cons_append, places?_padded (by decide) (by decide) (by omega)]
    have hn' : n / 1000 * 10 ^ (9 - 6) = n := by omega
    rw [hn']
  · rw [if_neg h6, List.cons_append, places?_padded (by decide) (by decide) (by omega)]
    rw [Nat.sub_self, Nat.pow_zero, Nat.mul_one]

/-! ## Moments -/

theorem ofParts?_self (m : Moment) :
    ofParts? m.year m.month m.day m.hour m.minute m.second m.nanosecond = some m :=
  dif_pos m.valid

/-- What the parts of a moment keep to. -/
theorem bounds (m : Moment) : m.month ≤ 12 ∧ m.day ≤ 31 ∧ m.hour < 24 ∧ m.minute < 60 ∧
    m.second ≤ 60 ∧ m.nanosecond < 1000000000 := by
  have hvalid := m.valid
  simp only [Calendar.isDate, Bool.and_eq_true, decide_eq_true_eq] at hvalid
  obtain ⟨⟨⟨⟨hdate, hhour⟩, hminute⟩, hsecond⟩, hnanosecond⟩ := hvalid
  obtain ⟨⟨⟨-, hmonth⟩, -⟩, hday⟩ := hdate
  have hdays : Calendar.daysIn m.year m.month ≤ 31 := by
    unfold Calendar.daysIn
    split_ifs <;> omega
  exact ⟨hmonth, Nat.le_trans hday hdays, hhour, hminute, hsecond, hnanosecond⟩

/-- A moment is what universal time tells by its own clock. -/
theorem ofLocal?_self (m : Moment) :
    ofLocal? m.year m.month m.day m.hour m.minute m.second m.nanosecond 0 = some m := by
  obtain ⟨-, -, hhour, hminute, -, -⟩ := m.bounds
  have hlow : ¬ ((m.hour : Int) * 60 + m.minute - 0 < 0) := by omega
  have hhigh : (m.hour : Int) * 60 + m.minute - 0 < 1440 := by omega
  have hday : (((m.hour : Int) * 60 + m.minute - 0) % 1440).toNat = m.hour * 60 + m.minute := by
    omega
  have hhours : (m.hour * 60 + m.minute) / 60 = m.hour := by omega
  have hminutes : (m.hour * 60 + m.minute) % 60 = m.minute := by omega
  simp only [ofLocal?, ofParts?_self, bind, Option.bind, if_neg hlow, if_pos hhigh, hday, hhours,
    hminutes]

/-- Every moment is read back from its timestamp. -/
theorem parse?_render (m : Moment) : parse? m.render = some m := by
  obtain ⟨hmonth, hday, hhour, hminute, hsecond, hnanosecond⟩ := m.bounds
  have htwo : ∀ {n : Nat}, n < 100 → ∀ rest, twoDigits? (padded 2 n ++ rest) = some (n, rest) :=
    fun hn rest => twoDigits?_padded hn rest
  have hdash : ∀ rest, after? '-' ('-' :: rest) = some rest := after?_self rfl
  have hcolon : ∀ rest, after? ':' (':' :: rest) = some rest := after?_self rfl
  have hzone : offset? (Text.trimStart ['Z']) = some (0, []) := rfl
  have hend : (Text.trimStart []).isEmpty = true := rfl
  simp only [parse?, render, bind, Option.bind, year?_yearText, hdash, hcolon,
    htwo (n := m.month) (by omega), htwo (n := m.day) (by omega), htwo (n := m.hour) (by omega),
    htwo (n := m.minute) (by omega), htwo (n := m.second) (by omega),
    places?_placesText hnanosecond, hzone, hend, if_true]
  exact ofLocal?_self m

end Moment
end EditionCheck
