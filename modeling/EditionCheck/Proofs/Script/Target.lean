import EditionCheck.Proofs.Script.Visits
import EditionCheck.Script.Oracle

/-!
  Verdicts under different targets.

  The target decides only which uses count: a parser reads the text in the same way for every one,
  and what an older target allows a newer one allows. So the uses that a newer target does not allow
  are a filter of those that an older one does not allow (`disallowed_eq_filter`), and a verdict can
  only improve from an older target to a newer one (`judge_mono`).
-/

namespace EditionCheck.Script

/-- Verdicts can be told apart. -/
instance decidableEqVerdict : DecidableEq (Except Failure Unit)
  | .ok (), .ok () => isTrue rfl
  | .error e, .error e' => decidable_of_iff (e = e') ⟨congrArg _, Except.error.inj⟩
  | .ok (), .error _ => isFalse nofun
  | .error _, .ok () => isFalse nofun

/-- The failure that reports a use. -/
def Use.failure (u : Use) (text : List Char) (target : Edition) : Failure :=
  .unsupported u.feature target (Text.lineColumn text u.offset).1 (Text.lineColumn text u.offset).2

/-! ## The verdict in terms of the uses -/

section Verdict

variable {read : Reader} {kind : SourceKind} {text message : String} {target : Edition}
  {tree : Tree} {e : Failure}

theorem judgeTree_eq_ok {n : Node} {cs : List Char} :
    judgeTree n cs target = .ok () ↔ disallowed n cs target = [] := by
  unfold judgeTree
  split
  · next h => simp [h]
  · next u rest h => simp [h]

theorem judgeTree_eq_error {n : Node} {cs : List Char} :
    judgeTree n cs target = .error e ↔
      ∃ u rest, disallowed n cs target = u :: rest ∧ e = u.failure cs target := by
  unfold judgeTree
  split
  · next h => simp [h]
  · next u rest h =>
    rw [h]
    constructor
    · intro he
      cases he
      exact ⟨u, rest, rfl, rfl⟩
    · rintro ⟨u', rest', heq, rfl⟩
      cases heq
      rfl

namespace Reader

theorem judge_of_error (h : read kind text = .error message) :
    read.judge kind text target = .error (.unparsable message) := by
  unfold judge
  rw [h]

theorem judge_of_ok (h : read kind text = .ok tree) :
    read.judge kind text target = judgeTree tree text.toList target := by
  unfold judge
  rw [h]

/-- A script is accepted if it has a tree and uses nothing that the target does not allow. -/
theorem judge_eq_ok :
    read.judge kind text target = .ok () ↔
      ∃ tree : Tree, read kind text = .ok tree ∧ disallowed tree text.toList target = [] := by
  cases hp : read kind text with
  | error message =>
    rw [judge_of_error hp]
    exact ⟨nofun, nofun⟩
  | ok tree =>
    rw [judge_of_ok hp, judgeTree_eq_ok]
    constructor
    · intro h
      exact ⟨tree, rfl, h⟩
    · rintro ⟨_, ht, h⟩
      cases ht
      exact h

/-- The failures that tell a feature are those of texts that have a tree. -/
theorem judge_eq_error_feature (hf : e.feature ≠ none) :
    read.judge kind text target = .error e ↔
      ∃ (tree : Tree) (u : Use) (rest : List Use), read kind text = .ok tree ∧
        disallowed tree text.toList target = u :: rest ∧ e = u.failure text.toList target := by
  cases hp : read kind text with
  | error message =>
    rw [judge_of_error hp]
    constructor
    · intro h
      cases h
      exact absurd rfl hf
    · rintro ⟨_, _, _, h, -⟩
      cases h
  | ok tree =>
    rw [judge_of_ok hp, judgeTree_eq_error]
    constructor
    · rintro ⟨u, rest, h⟩
      exact ⟨tree, u, rest, rfl, h⟩
    · rintro ⟨_, u, rest, ht, h⟩
      cases ht
      exact ⟨u, rest, h⟩

/-- The failures without a feature are those of texts that have no tree. -/
theorem judge_eq_error_none :
    (∃ e, read.judge kind text target = .error e ∧ e.feature = none) ↔
      ∃ message, read kind text = .error message := by
  constructor
  · rintro ⟨e, he, hf⟩
    cases hp : read kind text with
    | error message => exact ⟨message, rfl⟩
    | ok tree =>
      rw [judge_of_ok hp, judgeTree_eq_error] at he
      obtain ⟨u, rest, -, rfl⟩ := he
      cases hf
  · rintro ⟨message, hp⟩
    exact ⟨_, judge_of_error hp, rfl⟩

end Reader

end Verdict

/-! ## An older target and a newer one -/

/-- Of the uses that an older target does not allow, those remain that the newer one does not allow
either, in the same order. -/
theorem disallowed_eq_filter {a b : Edition} (h : a ≤ b) (tree : Node) (text : List Char) :
    disallowed tree text b =
      (disallowed tree text a).filter fun u => !u.feature.allowedIn b := by
  rw [disallowed_eq_asks, disallowed_eq_asks, Use.filter_sort, List.filter_filter]
  congr 1
  refine List.filter_congr fun u _ => ?_
  cases hb : u.feature.allowedIn b with
  | true => rfl
  | false =>
    have ha : u.feature.allowedIn a = false := by
      cases ha : u.feature.allowedIn a with
      | false => rfl
      | true => rw [Feature.allowedIn_mono h ha] at hb; cases hb
    rw [ha]
    rfl

/-- The first use that is left is no earlier than the first one before. -/
theorem first_disallowed_le {a b : Edition} (h : a ≤ b) {tree : Node} {text : List Char}
    {u v : Use} {us vs : List Use} (hu : disallowed tree text a = u :: us)
    (hv : disallowed tree text b = v :: vs) : u.offset ≤ v.offset := by
  have hmem : v ∈ disallowed tree text a := by
    have hv' : v ∈ disallowed tree text b := hv ▸ List.mem_cons_self
    rw [disallowed_eq_filter h] at hv'
    exact List.mem_of_mem_filter hv'
  rw [disallowed_eq_asks] at hu hmem
  obtain ⟨-, -, -, hle, -⟩ := Use.sort_eq_cons hu
  exact hle v (Use.mem_sort.1 hmem)

/-- From an older target to a newer one, whatever the parser: the same texts are refused for having
no tree, of the disallowed uses those remain that the newer target does not allow, an accepted
script stays accepted, and the use that a failure reports does not move forward in the text. -/
theorem judge_mono {a b : Edition} (h : a ≤ b) (read : Reader) (kind : SourceKind)
    (text : String) :
    ((∃ e, read.judge kind text a = .error e ∧ e.feature = none) ↔
      ∃ e, read.judge kind text b = .error e ∧ e.feature = none) ∧
    (∀ tree : Node, disallowed tree text.toList b =
      (disallowed tree text.toList a).filter fun u => !u.feature.allowedIn b) ∧
    (read.judge kind text a = .ok () → read.judge kind text b = .ok ()) ∧
    (∀ e e' : Failure, read.judge kind text a = .error e → read.judge kind text b = .error e' →
      e.feature ≠ none → e'.feature ≠ none →
      ∃ (tree : Tree) (u v : Use) (us vs : List Use), read kind text = .ok tree ∧
        disallowed tree text.toList a = u :: us ∧ e = u.failure text.toList a ∧
        disallowed tree text.toList b = v :: vs ∧ e' = v.failure text.toList b ∧
        u.offset ≤ v.offset) := by
  refine ⟨?_, fun tree => disallowed_eq_filter h tree _, ?_, ?_⟩
  · rw [Reader.judge_eq_error_none, Reader.judge_eq_error_none]
  · intro ha
    obtain ⟨tree, hp, hnone⟩ := Reader.judge_eq_ok.1 ha
    refine Reader.judge_eq_ok.2 ⟨tree, hp, ?_⟩
    rw [disallowed_eq_filter h, hnone]
    rfl
  · intro e e' he he' hf hf'
    obtain ⟨tree, u, us, hp, hu, rfl⟩ := (Reader.judge_eq_error_feature hf).1 he
    obtain ⟨tree', v, vs, hp', hv, rfl⟩ := (Reader.judge_eq_error_feature hf').1 he'
    rw [hp] at hp'
    cases hp'
    exact ⟨tree, u, v, us, vs, hp, hu, rfl, hv, rfl, first_disallowed_le h hu hv⟩

/-- One edition later the declaration is allowed and the operator in it is still too new. -/
theorem judge_mono_coalesce :
    let text := "let x = y ?? 1"
    Edition.es5 ≤ .es2015 ∧
      reader.judge .script text .es5 = .error (.unsupported .letConst .es5 1 1) ∧
      reader.judge .script text .es2015 = .error (.unsupported .nullishCoalescing .es2015 1 9) ∧
      ∃ (tree : Tree) (u v : Use) (us vs : List Use), reader .script text = .ok tree ∧
        disallowed tree text.toList .es5 = u :: us ∧
        disallowed tree text.toList .es2015 = v :: vs ∧ u.offset ≤ v.offset := by
  intro text
  have h : Edition.es5 ≤ .es2015 := by decide
  have ha : reader.judge .script text .es5 = .error (.unsupported .letConst .es5 1 1) := by
    decide +kernel
  have hb : reader.judge .script text .es2015 =
      .error (.unsupported .nullishCoalescing .es2015 1 9) := by
    decide +kernel
  obtain ⟨tree, u, v, us, vs, hp, hu, -, hv, -, hle⟩ :=
    (judge_mono h reader .script text).2.2.2 _ _ ha hb nofun nofun
  exact ⟨h, ha, hb, tree, u, v, us, vs, hp, hu, hv, hle⟩

end EditionCheck.Script
