import Mathlib.Data.List.Infix
import Mathlib.Order.Bounds.Basic
import EditionCheck.Script.Oracle

/-!
  How many arenas a pool holds.

  A pool makes an arena when none lies idle, and drops none. So the arenas there are, idle or in
  use, are as many as at the start or, if that is more, as were ever in use at once (`Books`). One
  step keeps the books (`Books.step`), whatever came before it, as long as only arenas in use come
  back (`Fair`).

  A verdict takes an arena and gives it back, whatever the verdict is. Verdicts one after the other
  never have two arenas in use, so the single arena of a new oracle is all they need
  (`after_inTurn`).
-/

namespace EditionCheck.Script.Pool

/-! ## Histories -/

/-- The pool after one use. -/
def use (p : Pool) : Step → Pool
  | .take => p.take
  | .give => p.give

/-- The pool after a history of uses. -/
def after (p : Pool) (steps : List Step) : Pool := steps.foldl use p

/-- The arenas in use after a history: those taken that have not come back. -/
def inUse (steps : List Step) : Nat := steps.count .take - steps.count .give

/-- Only arenas in use come back: at no time have more come back than were taken. -/
def Fair (steps : List Step) : Prop :=
  ∀ early, early <+: steps → early.count .give ≤ early.count .take

instance (steps : List Step) : Decidable (Fair steps) :=
  decidable_of_iff (∀ early ∈ steps.inits, early.count .give ≤ early.count .take)
    (by simp only [List.mem_inits, Fair])

/-- How many arenas are in use at one time or another. -/
def levels (steps : List Step) : Set Nat := {n | ∃ early, early <+: steps ∧ inUse early = n}

theorem Fair.of_prefix {early steps : List Step} (h : Fair steps) (hearly : early <+: steps) :
    Fair early :=
  fun _ hfirst => h _ (hfirst.trans hearly)

theorem levels_concat (steps : List Step) (s : Step) :
    levels (steps ++ [s]) = insert (inUse (steps ++ [s])) (levels steps) := by
  ext n
  simp only [levels, Set.mem_insert_iff, Set.mem_ofPred_eq, List.prefix_concat_iff]
  constructor
  · rintro ⟨early, rfl | hearly, rfl⟩
    · exact .inl rfl
    · exact .inr ⟨early, hearly, rfl⟩
  · rintro (rfl | ⟨early, hearly, rfl⟩)
    · exact ⟨_, .inl rfl, rfl⟩
    · exact ⟨early, .inr hearly, rfl⟩

section Steps

variable {size : Nat} {steps : List Step}

theorem inUse_take (h : Fair steps) : inUse (steps ++ [.take]) = inUse steps + 1 := by
  have hle : steps.count .give ≤ steps.count .take := h steps List.prefix_rfl
  simp [inUse]
  omega

theorem inUse_give : inUse (steps ++ [.give]) = inUse steps - 1 := by
  simp [inUse]
  omega

/-- Something that comes back is in use before. -/
theorem inUse_pos_of_give (h : Fair (steps ++ [.give])) : 0 < inUse steps := by
  have hle := h _ List.prefix_rfl
  simp at hle
  unfold inUse
  omega

theorem after_concat (p : Pool) (steps : List Step) (s : Step) :
    after p (steps ++ [s]) = (after p steps).use s := by
  rw [after, List.foldl_concat, after]

/-! ## The books -/

/-- The books of a pool after a history: the greatest number of arenas that were in use at once, the
number there are now, and the ledger. -/
structure Books (size : Nat) (steps : List Step) (peak : Nat) : Prop where
  greatest : IsGreatest (levels steps) peak
  total : (after ⟨size⟩ steps).idle + inUse steps = max size peak
  ledger : steps.foldl Ledger.step (.start size) = ⟨after ⟨size⟩ steps, inUse steps⟩

theorem books_nil (size : Nat) : Books size [] 0 where
  greatest := ⟨⟨[], List.prefix_rfl, rfl⟩, by
    rintro n ⟨early, hearly, rfl⟩
    rw [List.prefix_nil.1 hearly]
    exact Nat.le_refl 0⟩
  total := by simp [after, inUse]
  ledger := rfl

/-- One more use keeps the books. Taking an arena adds one to those there are only if none lies
idle, and then all of them are in use, more than ever before. -/
theorem Books.step {peak : Nat} (h : Books size steps peak) (s : Step)
    (hfair : Fair (steps ++ [s])) :
    Books size (steps ++ [s]) (max (inUse (steps ++ [s])) peak) := by
  have hbefore : Fair steps := hfair.of_prefix (List.prefix_append _ _)
  have hpeak : inUse steps ≤ peak := h.greatest.2 ⟨steps, List.prefix_rfl, rfl⟩
  have htotal := h.total
  refine ⟨levels_concat steps s ▸ h.greatest.insert _, ?_, ?_⟩
  · rw [after_concat]
    cases s with
    | take =>
      rw [inUse_take hbefore, use, take]
      dsimp only
      omega
    | give =>
      have hpos := inUse_pos_of_give hfair
      rw [inUse_give, use, give]
      dsimp only
      omega
  · rw [List.foldl_concat, h.ledger, after_concat]
    cases s with
    | take => rw [inUse_take hbefore]; rfl
    | give =>
      have hpos := inUse_pos_of_give hfair
      rw [inUse_give, Ledger.step, if_neg (Nat.ne_of_gt hpos)]
      rfl

theorem exists_books (size : Nat) (h : Fair steps) : ∃ peak, Books size steps peak := by
  induction steps using List.reverseRecOn with
  | nil => exact ⟨0, books_nil size⟩
  | append_singleton steps s ih =>
    obtain ⟨peak, hpeak⟩ := ih (h.of_prefix (List.prefix_append _ _))
    exact ⟨_, hpeak.step s h⟩

end Steps

/-! ## Verdicts one after the other -/

/-- A question to an oracle: how a text is loaded, the text and the target. -/
abbrev Question := SourceKind × String × Edition

/-- The verdicts on questions that are asked one after the other, and the pool in the end. -/
def judgeEach (read : Reader) (pool : Pool) : List Question → List (Except Failure Unit) × Pool
  | [] => ([], pool)
  | (kind, text, target) :: rest =>
    let (verdict, pool) := read.judgeWith pool kind text target
    let (verdicts, pool) := judgeEach read pool rest
    (verdict :: verdicts, pool)

/-- So many arenas are taken, each of which comes back before the next one is taken. -/
def inTurn : Nat → List Step
  | 0 => []
  | n + 1 => .take :: .give :: inTurn n

/-- The verdicts are those of an oracle without a pool, and use the pool in turn. -/
theorem judgeEach_eq (read : Reader) (pool : Pool) (qs : List Question) :
    judgeEach read pool qs =
      (qs.map fun q => read.judge q.1 q.2.1 q.2.2, after pool (inTurn qs.length)) := by
  induction qs generalizing pool with
  | nil => rfl
  | cons q qs ih =>
    rw [judgeEach, Reader.judgeWith]
    dsimp only
    rw [ih]
    rfl

/-- At no time is more than one of them in use, and at the end none is. -/
theorem inTurn_balance {n : Nat} {early : List Step} (h : early <+: inTurn n) :
    early.count .give ≤ early.count .take ∧ early.count .take ≤ early.count .give + 1 := by
  induction n generalizing early with
  | zero =>
    rw [List.prefix_nil.1 h]
    exact ⟨Nat.le_refl 0, Nat.zero_le 1⟩
  | succ n ih =>
    rcases List.prefix_cons_iff.1 h with rfl | ⟨more, rfl, hmore⟩
    · simp
    rcases List.prefix_cons_iff.1 hmore with rfl | ⟨late, rfl, hlate⟩
    · simp
    · simpa using ih hlate

theorem inUse_inTurn (n : Nat) : inUse (inTurn n) = 0 := by
  induction n with
  | zero => rfl
  | succ n ih => simpa [inUse, inTurn] using ih

/-- A single arena is enough for them, and lies idle at the end. -/
theorem after_inTurn (n : Nat) : after ⟨1⟩ (inTurn n) = ⟨1⟩ := by
  have hfair : Fair (inTurn n) := fun _ h => (inTurn_balance h).1
  obtain ⟨peak, hbooks⟩ := exists_books 1 hfair
  have hpeak : peak ≤ 1 := by
    obtain ⟨early, hearly, rfl⟩ := hbooks.greatest.1
    have hle := (inTurn_balance hearly).2
    unfold inUse
    omega
  have hidle : (after ⟨1⟩ (inTurn n)).idle = 1 := by
    have htotal := hbooks.total
    rw [inUse_inTurn] at htotal
    omega
  exact congrArg Pool.mk hidle

/-- After every history in which only arenas in use come back, the arenas that lie idle and those in
use are together as many as at the start or, if that is more, as were ever in use at once; the
ledger counts the same. So verdicts that a new oracle gives one after the other, whatever they are
and whatever its parser, leave one idle arena. -/
theorem total_eq_max :
    (∀ size steps, Fair steps → ∃ peak,
      IsGreatest {n | ∃ early, early <+: steps ∧ inUse early = n} peak ∧
        (after ⟨size⟩ steps).idle + inUse steps = max size peak ∧
        steps.foldl Ledger.step (.start size) = ⟨after ⟨size⟩ steps, inUse steps⟩) ∧
    ∀ read qs, judgeEach read ⟨1⟩ qs = (qs.map fun q => read.judge q.1 q.2.1 q.2.2, ⟨1⟩) := by
  refine ⟨fun size steps h => ?_, fun read qs => ?_⟩
  · obtain ⟨peak, hbooks⟩ := exists_books size h
    exact ⟨peak, hbooks.greatest, hbooks.total, hbooks.ledger⟩
  · rw [judgeEach_eq, after_inTurn]

/-- Three arenas are in use at once where the pool began with two, and later on fewer. -/
theorem total_eq_max_three :
    let steps : List Step := [.take, .take, .take, .give, .give, .take]
    Fair steps ∧ IsGreatest {n | ∃ early, early <+: steps ∧ inUse early = n} 3 ∧
      (after ⟨2⟩ steps).idle = 1 ∧ inUse steps = 2 := by
  intro steps
  have hfair : Fair steps := by decide
  obtain ⟨peak, hpeak, htotal, -⟩ := total_eq_max.1 2 steps hfair
  have hthree : max 2 peak = 3 := htotal.symm
  have hpeakEq : peak = 3 := by omega
  subst hpeakEq
  exact ⟨hfair, hpeak, rfl, rfl⟩

end EditionCheck.Script.Pool
