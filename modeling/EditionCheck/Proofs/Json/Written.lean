import EditionCheck.Proofs.Json.Scalar

/-!
  JSON texts that a value may have, and how they are read.

  `Writes d v cs` says that `cs` is a text of the value `v`, in which arrays and objects nest at most
  `d` deep and blanks may stand where a writer puts them. Both writers keep to it (`writes_compact`,
  `writes_prettyAt`), and the reader finds the value of any such text again, whatever shape it reads
  for (`value_of_writes`, `read_of_writes`). Only whole numbers of 64 bits without sign are written.
-/

namespace EditionCheck.Json

/-! ## Blanks -/

/-- A text of blanks alone. -/
def Blanks (cs : List Char) : Prop := ∀ c ∈ cs, isBlank c = true

theorem blanks_nil : Blanks [] := fun _ h => absurd h List.not_mem_nil

theorem blanks_space : Blanks [' '] := fun c h => by rw [List.mem_singleton.1 h]; rfl

theorem blanks_newLine (n : Nat) : Blanks (newLine n) := by
  intro c h
  rcases List.mem_cons.1 h with rfl | h
  · rfl
  · rw [List.eq_of_mem_replicate h]
    rfl

theorem skipBlanks_append {b : List Char} (hb : Blanks b) (cs : List Char) :
    skipBlanks (b ++ cs) = skipBlanks cs := by
  induction b with
  | nil => rfl
  | cons c b ih =>
    have hc : isBlank c = true := hb c List.mem_cons_self
    have hrest : skipBlanks (b ++ cs) = skipBlanks cs :=
      ih fun x hx => hb x (List.mem_cons_of_mem c hx)
    rw [skipBlanks, List.cons_append, List.dropWhile_cons_of_pos hc]
    exact hrest

theorem skipBlanks_cons {c : Char} (hc : isBlank c = false) (cs : List Char) :
    skipBlanks (c :: cs) = c :: cs :=
  List.dropWhile_cons_of_neg (by rw [hc]; decide)

theorem isBlank_of_isDigit {c : Char} (hc : c.isDigit = true) : isBlank c = false := by
  simp only [isBlank, Bool.or_eq_false_iff, beq_eq_false_iff_ne]
  have hne : ∀ d : Char, d.isDigit = false → c ≠ d := fun d hd => Text.ne_of_isDigit hc hd
  exact ⟨⟨⟨hne _ rfl, hne _ rfl⟩, hne _ rfl⟩, hne _ rfl⟩

/-- A blank ends a number, as what may stand behind the blanks does. -/
theorem endsNumber_blanks {b : List Char} (hb : Blanks b) {cs : List Char} (hcs : EndsNumber cs) :
    EndsNumber (b ++ cs) := by
  cases b with
  | nil => exact hcs
  | cons c b =>
    intro c' cs' h
    have hc : isBlank c = true := hb c List.mem_cons_self
    rw [List.cons_append, List.cons.injEq] at h
    rw [← h.1]
    simp only [isBlank, Bool.or_eq_true, beq_iff_eq] at hc
    rcases hc with ((rfl | rfl) | rfl) | rfl <;> decide

/-! ## Texts of a value -/

/-- What stands before an item or a member: blanks, and a comma before them unless it is the
first. -/
def gap (first : Bool) (b : List Char) : List Char := if first then b else ',' :: b

mutual

/-- A text of a value whose arrays and objects nest at most `d` deep. -/
inductive Writes : Nat → Value → List Char → Prop where
  | null {d} : Writes d .null (scalar .null)
  | bool {d} (b : Bool) : Writes d (.bool b) (scalar (.bool b))
  | number {d n} (h : n ≤ maxSignificand) : Writes d (.number (.integer n)) (Nat.toDigits 10 n)
  | string {d} (s : String) : Writes d (.string s) (quote s.toList)
  | array {d vs cs} (h : WritesItems d true vs cs) : Writes (d + 1) (.array vs) ('[' :: cs)
  | object {d ms cs} (h : WritesMembers d true ms cs) :
    Writes (d + 1) (.object ms) ('\x7b' :: cs)

/-- A text of the items of an array that are still to come, and its closing bracket; `true` when
none has come yet. -/
inductive WritesItems : Nat → Bool → List Value → List Char → Prop where
  | close {d first b} (hb : Blanks b) : WritesItems d first [] (b ++ [']'])
  | cons {d first b v vs cs ds} (hb : Blanks b) (hv : Writes d v cs)
    (hvs : WritesItems d false vs ds) : WritesItems d first (v :: vs) (gap first b ++ (cs ++ ds))

/-- A text of the members of an object that are still to come, and its closing brace; `true` when
none has come yet. -/
inductive WritesMembers : Nat → Bool → List (String × Value) → List Char → Prop where
  | close {d first b} (hb : Blanks b) : WritesMembers d first [] (b ++ ['\x7d'])
  | cons {d first b k b' v ms cs ds} (hb : Blanks b) (hb' : Blanks b') (hv : Writes d v cs)
    (hms : WritesMembers d false ms ds) :
    WritesMembers d first ((k, v) :: ms)
      (gap first b ++ (quote k.toList ++ ':' :: (b' ++ (cs ++ ds))))

end

/-- A text of a value starts with a character that is no blank and closes no array. -/
theorem Writes.head {d : Nat} {v : Value} {cs : List Char} (h : Writes d v cs) :
    ∃ c cs', cs = c :: cs' ∧ isBlank c = false ∧ c ≠ ']' := by
  cases h with
  | null => exact ⟨_, _, rfl, rfl, by decide⟩
  | bool b => cases b <;> exact ⟨_, _, rfl, rfl, by decide⟩
  | @number _ n h =>
    obtain ⟨c, cs', hcs, hdigit⟩ := toDigits_cons n
    exact ⟨c, cs', hcs, isBlank_of_isDigit hdigit, Text.ne_of_isDigit hdigit rfl⟩
  | string s => exact ⟨_, _, rfl, rfl, by decide⟩
  | array h => exact ⟨_, _, rfl, rfl, by decide⟩
  | object h => exact ⟨_, _, rfl, rfl, by decide⟩

/-- What follows a value in an array ends a number. -/
theorem WritesItems.endsNumber {d : Nat} {vs : List Value} {cs : List Char}
    (h : WritesItems d false vs cs) (rest : List Char) : EndsNumber (cs ++ rest) := by
  cases h with
  | close hb =>
    rw [List.append_assoc]
    apply endsNumber_blanks hb
    rintro c cs' ⟨⟩
    decide
  | cons hb hv hvs =>
    rintro c cs' ⟨⟩
    decide

/-- What follows a value in an object ends a number. -/
theorem WritesMembers.endsNumber {d : Nat} {ms : List (String × Value)} {cs : List Char}
    (h : WritesMembers d false ms cs) (rest : List Char) : EndsNumber (cs ++ rest) := by
  cases h with
  | close hb =>
    rw [List.append_assoc]
    apply endsNumber_blanks hb
    rintro c cs' ⟨⟩
    decide
  | cons hb hb' hv hms =>
    rintro c cs' ⟨⟩
    decide

/-! ## What is written -/

/-- The value can be written: its numbers are whole numbers of 64 bits without sign, and its arrays
and objects nest at most `d` deep. -/
def Fits : Nat → Value → Prop
  | _, .null | _, .bool _ | _, .string _ => True
  | _, .number (.integer n) => ∃ m : Nat, n = m ∧ m ≤ maxSignificand
  | _, .number (.real _) => False
  | 0, .array _ | 0, .object _ => False
  | d + 1, .array vs => ∀ v ∈ vs, Fits d v
  | d + 1, .object ms => ∀ m ∈ ms, Fits d m.2

theorem writes_number {d : Nat} {n : Int} (h : ∃ m : Nat, n = m ∧ m ≤ maxSignificand) :
    Writes d (.number (.integer n)) (scalar (.number (.integer n))) := by
  obtain ⟨m, rfl, hm⟩ := h
  have htext : scalar (.number (.integer m)) = Nat.toDigits 10 m := by
    rw [scalar, Number.text, if_neg (Int.not_lt.2 (Int.natCast_nonneg m)), Int.natAbs_natCast]
  rw [htext]
  exact .number hm

theorem writesItems_compact {d : Nat} {vs : List Value} (h : ∀ v ∈ vs, Writes d v v.compact) :
    WritesItems d false vs (compactItems vs) := by
  induction vs with
  | nil => exact .close blanks_nil
  | cons v vs ih =>
    have hvs : WritesItems d false vs (compactItems vs) :=
      ih fun x hx => h x (List.mem_cons_of_mem v hx)
    exact .cons blanks_nil (h v List.mem_cons_self) hvs

theorem writesMembers_compact {d : Nat} {ms : List (String × Value)}
    (h : ∀ m ∈ ms, Writes d m.2 m.2.compact) : WritesMembers d false ms (compactMembers ms) := by
  induction ms with
  | nil => exact .close blanks_nil
  | cons m ms ih =>
    have hms : WritesMembers d false ms (compactMembers ms) :=
      ih fun x hx => h x (List.mem_cons_of_mem m hx)
    exact .cons blanks_nil blanks_nil (h m List.mem_cons_self) hms

/-- The text in one line is a text of its value. -/
theorem writes_compact : ∀ {d : Nat} {v : Value}, Fits d v → Writes d v v.compact
  | _, .null, _ => .null
  | _, .bool b, _ => .bool b
  | _, .number (.integer _), h => writes_number (by rwa [Fits] at h)
  | _, .number (.real _), h => by simp [Fits] at h
  | _, .string s, _ => .string s
  | 0, .array _, h | 0, .object _, h => by simp [Fits] at h
  | d + 1, .array [], _ => .array (.close blanks_nil)
  | d + 1, .array (v :: vs), h => by
    rw [Fits] at h
    have hv : Writes d v v.compact := writes_compact (h v List.mem_cons_self)
    have hvs : WritesItems d false vs (compactItems vs) :=
      writesItems_compact fun x hx => writes_compact (h x (List.mem_cons_of_mem v hx))
    exact .array (.cons blanks_nil hv hvs)
  | d + 1, .object [], _ => .object (.close blanks_nil)
  | d + 1, .object ((k, v) :: ms), h => by
    rw [Fits] at h
    have hv : Writes d v v.compact := writes_compact (h (k, v) List.mem_cons_self)
    have hms : WritesMembers d false ms (compactMembers ms) :=
      writesMembers_compact fun m hm => writes_compact (h m (List.mem_cons_of_mem _ hm))
    exact .object (.cons blanks_nil blanks_nil hv hms)

theorem writesItems_pretty {d n : Nat} {vs : List Value}
    (h : ∀ v ∈ vs, Writes d v (v.prettyAt (n + 1))) : WritesItems d false vs (prettyItems n vs) := by
  induction vs with
  | nil => exact .close (blanks_newLine n)
  | cons v vs ih =>
    have hvs : WritesItems d false vs (prettyItems n vs) :=
      ih fun x hx => h x (List.mem_cons_of_mem v hx)
    exact .cons (blanks_newLine (n + 1)) (h v List.mem_cons_self) hvs

theorem writesMembers_pretty {d n : Nat} {ms : List (String × Value)}
    (h : ∀ m ∈ ms, Writes d m.2 (m.2.prettyAt (n + 1))) :
    WritesMembers d false ms (prettyMembers n ms) := by
  induction ms with
  | nil => exact .close (blanks_newLine n)
  | cons m ms ih =>
    have hms : WritesMembers d false ms (prettyMembers n ms) :=
      ih fun x hx => h x (List.mem_cons_of_mem m hx)
    exact .cons (blanks_newLine (n + 1)) blanks_space (h m List.mem_cons_self) hms

/-- The text over several lines is a text of its value. -/
theorem writes_prettyAt : ∀ {d : Nat} (n : Nat) {v : Value}, Fits d v → Writes d v (v.prettyAt n)
  | _, _, .null, _ => .null
  | _, _, .bool b, _ => .bool b
  | _, _, .number (.integer _), h => writes_number (by rwa [Fits] at h)
  | _, _, .number (.real _), h => by simp [Fits] at h
  | _, _, .string s, _ => .string s
  | 0, _, .array _, h | 0, _, .object _, h => by simp [Fits] at h
  | d + 1, _, .array [], _ => .array (.close blanks_nil)
  | d + 1, n, .array (v :: vs), h => by
    rw [Fits] at h
    have hv : Writes d v (v.prettyAt (n + 1)) := writes_prettyAt _ (h v List.mem_cons_self)
    have hvs : WritesItems d false vs (prettyItems n vs) :=
      writesItems_pretty fun x hx => writes_prettyAt _ (h x (List.mem_cons_of_mem v hx))
    exact .array (.cons (blanks_newLine (n + 1)) hv hvs)
  | d + 1, _, .object [], _ => .object (.close blanks_nil)
  | d + 1, n, .object ((k, v) :: ms), h => by
    rw [Fits] at h
    have hv : Writes d v (v.prettyAt (n + 1)) := writes_prettyAt _ (h (k, v) List.mem_cons_self)
    have hms : WritesMembers d false ms (prettyMembers n ms) :=
      writesMembers_pretty fun m hm => writes_prettyAt _ (h m (List.mem_cons_of_mem _ hm))
    exact .object (.cons (blanks_newLine (n + 1)) blanks_space hv hms)

/-! ## Steps of the reader -/

theorem value_append {b : List Char} (hb : Blanks b) {fuel : Nat} (hfuel : 0 < fuel) (shape : Shape)
    (depth : Nat) (cs : List Char) :
    value fuel shape depth (b ++ cs) = value fuel shape depth cs := by
  obtain ⟨fuel, rfl⟩ := Nat.exists_eq_succ_of_ne_zero (Nat.ne_of_gt hfuel)
  simp only [value, skipBlanks_append hb]

theorem value_digit {c : Char} (hc : c.isDigit = true) (fuel : Nat) (shape : Shape) (depth : Nat)
    (cs : List Char) :
    value (fuel + 1) shape depth (c :: cs) = number shape.isSkimmed false (c :: cs) := by
  have hblank : isBlank c = false := isBlank_of_isDigit hc
  rw [value, skipBlanks_cons hblank]
  split
  · next h => exact absurd h (List.cons_ne_nil c cs)
  iterate 7
    · next h => exact absurd (List.cons.inj h).1 (Text.ne_of_isDigit hc rfl)
  · next h =>
    obtain ⟨rfl, rfl⟩ := List.cons.inj h
    rw [if_pos hc]

theorem value_null (fuel : Nat) (shape : Shape) (depth : Nat) (rest : List Char) :
    value (fuel + 1) shape depth (scalar .null ++ rest) = .ok (.null, rest) := by
  unfold value
  rfl

theorem value_bool (fuel : Nat) (shape : Shape) (depth : Nat) (b : Bool) (rest : List Char) :
    value (fuel + 1) shape depth (scalar (.bool b) ++ rest) = .ok (.bool b, rest) := by
  unfold value
  cases b <;> rfl

theorem value_quote (fuel : Nat) (shape : Shape) (depth : Nat) (s : String) (rest : List Char) :
    value (fuel + 1) shape depth (quote s.toList ++ rest) = .ok (.string s, rest) := by
  have hstring : string shape.isSkimmed (escaped s.toList ++ '"' :: rest) = .ok (s.toList, rest) :=
    string_escaped shape.isSkimmed s.toList rest
  have htext : quote s.toList ++ rest = '"' :: (escaped s.toList ++ '"' :: rest) := by
    simp [quote]
  rw [htext, value, skipBlanks_cons rfl]
  simp only [hstring]
  exact congrArg (fun t => Except.ok (Value.string t, rest)) String.ofList_toList

theorem value_number {n : Nat} (hn : n ≤ maxSignificand) (fuel : Nat) (shape : Shape) (depth : Nat)
    {rest : List Char} (hrest : EndsNumber rest) :
    value (fuel + 1) shape depth (Nat.toDigits 10 n ++ rest) =
      .ok (.number (.integer n), rest) := by
  have hnumeral := numeral_toDigits hn hrest
  obtain ⟨c, cs, hcs, hdigit⟩ := toDigits_cons n
  rw [hcs, List.cons_append] at hnumeral ⊢
  rw [value_digit hdigit, number, hnumeral]

/-- The depth that is left inside an array or object is enough for one nesting less. -/
theorem deeper_of_lt (shape : Shape) {d depth : Nat} (h : d + 1 < depth) (cs : List Char) :
    ∃ depth', deeper shape depth cs = .ok depth' ∧ d < depth' := by
  unfold deeper
  by_cases hs : shape.isSkimmed = true
  · exact ⟨depth, if_pos hs, by omega⟩
  · exact ⟨depth - 1, by rw [if_neg hs, if_neg (by omega)], by omega⟩

theorem value_array {fuel depth depth' : Nat} {shape : Shape} {vs : List Value}
    {cs rest : List Char} (hdeeper : deeper shape depth ('[' :: cs) = .ok depth')
    (h : items fuel shape depth' 0 cs = .ok (vs, rest)) :
    value (fuel + 1) shape depth ('[' :: cs) = .ok (.array vs, rest) := by
  rw [value, skipBlanks_cons rfl]
  simp only [hdeeper, bind, Except.bind, h]
  rfl

theorem value_object {fuel depth depth' : Nat} {shape : Shape} {ms : List (String × Value)}
    {cs rest : List Char} (hdeeper : deeper shape depth ('\x7b' :: cs) = .ok depth')
    (h : members fuel shape depth' true cs = .ok (ms, rest)) :
    value (fuel + 1) shape depth ('\x7b' :: cs) = .ok (.object ms, rest) := by
  rw [value, skipBlanks_cons rfl]
  simp only [hdeeper, bind, Except.bind, h]
  rfl

/-! ### Items -/

theorem nextItem_close {b : List Char} (hb : Blanks b) (first : Bool) (rest : List Char) :
    nextItem first (b ++ ']' :: rest) = .ok (none, rest) := by
  unfold nextItem
  rw [skipBlanks_append hb, skipBlanks_cons rfl]
  cases first <;> rfl

theorem nextItem_gap {b : List Char} (hb : Blanks b) {d : Nat} {v : Value} {cs : List Char}
    (hv : Writes d v cs) (first : Bool) (rest : List Char) :
    nextItem first (gap first b ++ (cs ++ rest)) = .ok (some (cs ++ rest), cs ++ rest) := by
  obtain ⟨c, cs, rfl, hc, hclose⟩ := hv.head
  have hskip : skipBlanks (b ++ (c :: cs ++ rest)) = c :: (cs ++ rest) := by
    rw [skipBlanks_append hb, List.cons_append, skipBlanks_cons hc]
  unfold nextItem
  cases first with
  | true =>
    rw [gap, if_pos rfl, hskip]
    split
    · next h => exact absurd h (List.cons_ne_nil c (cs ++ rest))
    · next h => exact absurd (List.cons.inj h).1 hclose
    · rfl
    · contradiction
    · contradiction
  | false =>
    rw [gap, if_neg Bool.false_ne_true, List.cons_append, skipBlanks_cons rfl]
    simp only [hskip]
    split
    · next h => exact absurd h (List.cons_ne_nil c (cs ++ rest))
    · next h => exact absurd (List.cons.inj h).1 hclose
    · rfl

theorem items_close {fuel depth i : Nat} {shape : Shape} {cs rest : List Char}
    (h : nextItem (i == 0) cs = .ok (none, rest)) :
    items (fuel + 1) shape depth i cs = .ok ([], rest) := by
  rw [items, h]
  rfl

theorem items_cons {fuel depth i : Nat} {shape : Shape} {v : Value} {vs : List Value}
    {cs cs' rest rest' : List Char} (h : nextItem (i == 0) cs = .ok (some cs', cs'))
    (hv : value fuel (shape.item i) depth cs' = .ok (v, rest))
    (hvs : items fuel shape depth (i + 1) rest = .ok (vs, rest')) :
    items (fuel + 1) shape depth i cs = .ok (v :: vs, rest') := by
  rw [items, h]
  simp only [bind, Except.bind, hv, hvs]
  rfl

/-! ### Members -/

theorem nextKey_close {b : List Char} (hb : Blanks b) (first : Bool) (rest : List Char) :
    nextKey first (b ++ '\x7d' :: rest) = .ok (none, rest) := by
  unfold nextKey
  rw [skipBlanks_append hb, skipBlanks_cons rfl]
  cases first <;> rfl

theorem nextKey_gap {b : List Char} (hb : Blanks b) (first : Bool) (cs : List Char) :
    nextKey first (gap first b ++ '"' :: cs) = .ok (some cs, cs) := by
  have hskip : skipBlanks (b ++ '"' :: cs) = '"' :: cs := by
    rw [skipBlanks_append hb, skipBlanks_cons rfl]
  unfold nextKey
  cases first with
  | true =>
    rw [gap, if_pos rfl, hskip]
    rfl
  | false =>
    rw [gap, if_neg Bool.false_ne_true, List.cons_append, skipBlanks_cons rfl]
    simp only [hskip]

theorem members_close {fuel depth : Nat} {shape : Shape} {first : Bool} {cs rest : List Char}
    (h : nextKey first cs = .ok (none, rest)) :
    members (fuel + 1) shape depth first cs = .ok ([], rest) := by
  rw [members, h]
  rfl

theorem members_cons {fuel depth : Nat} {shape : Shape} {first : Bool} {k : String} {v : Value}
    {ms : List (String × Value)} {cs text rest rest' : List Char}
    (h : nextKey first cs = .ok (some (escaped k.toList ++ '"' :: ':' :: text),
      escaped k.toList ++ '"' :: ':' :: text))
    (hv : value fuel (shape.member k.toList) depth text = .ok (v, rest))
    (hms : members fuel shape depth false rest = .ok (ms, rest')) :
    members (fuel + 1) shape depth first cs = .ok ((k, v) :: ms, rest') := by
  have hcolon : afterColon (':' :: text) = .ok text := by
    unfold afterColon
    rw [skipBlanks_cons rfl]
    rfl
  rw [members, h]
  simp only [bind, Except.bind, string_escaped, hcolon, hv, hms, String.ofList_toList]
  rfl

/-! ## Texts that are written are read -/

/-- The text of a value is not empty. -/
theorem Writes.length_pos {d : Nat} {v : Value} {cs : List Char} (h : Writes d v cs) :
    0 < cs.length := by
  obtain ⟨c, cs', rfl, -, -⟩ := h.head
  exact Nat.succ_pos _

theorem WritesItems.length_pos {d : Nat} {first : Bool} {vs : List Value} {cs : List Char}
    (h : WritesItems d first vs cs) : 0 < cs.length := by
  cases h with
  | close hb => simp
  | cons hb hv hvs =>
    have hpos := hv.length_pos
    simp only [List.length_append]
    omega

mutual

-- The induction is on how the text is written. A call that reads an item or a member gets less of
-- the text than the call around it, so that the length of the text bounds the nesting of calls; and
-- an array or object passes on at least one less than its own depth.

/-- The reader finds the value of a text, and leaves what follows. -/
theorem value_of_writes {d : Nat} {v : Value} {cs : List Char} (h : Writes d v cs) {fuel depth : Nat}
    (hfuel : cs.length < fuel) (hdepth : d < depth) (shape : Shape) {rest : List Char}
    (hrest : EndsNumber rest) : value fuel shape depth (cs ++ rest) = .ok (v, rest) := by
  obtain ⟨fuel, rfl⟩ := Nat.exists_eq_succ_of_ne_zero (Nat.ne_of_gt (Nat.zero_lt_of_lt hfuel))
  match h with
  | .null => exact value_null fuel shape depth rest
  | .bool b => exact value_bool fuel shape depth b rest
  | .number hn => exact value_number hn fuel shape depth hrest
  | .string s => exact value_quote fuel shape depth s rest
  | .array hvs =>
    obtain ⟨depth', hdeeper, hd⟩ := deeper_of_lt shape hdepth _
    exact value_array hdeeper (items_of_writes hvs (Nat.lt_of_succ_lt_succ hfuel) hd shape 0 rfl rest)
  | .object hms =>
    obtain ⟨depth', hdeeper, hd⟩ := deeper_of_lt shape hdepth _
    exact value_object hdeeper (members_of_writes hms (Nat.lt_of_succ_lt_succ hfuel) hd shape rest)

theorem items_of_writes {d : Nat} {first : Bool} {vs : List Value} {cs : List Char}
    (h : WritesItems d first vs cs) {fuel depth : Nat} (hfuel : cs.length < fuel)
    (hdepth : d < depth) (shape : Shape) (i : Nat) (hi : (i == 0) = first) (rest : List Char) :
    items fuel shape depth i (cs ++ rest) = .ok (vs, rest) := by
  obtain ⟨fuel, rfl⟩ := Nat.exists_eq_succ_of_ne_zero (Nat.ne_of_gt (Nat.zero_lt_of_lt hfuel))
  match h with
  | .close hb =>
    apply items_close
    rw [List.append_assoc]
    exact nextItem_close hb _ rest
  | @WritesItems.cons _ _ b v vs cs ds hb hv hvs =>
    have hcs : 0 < cs.length := hv.length_pos
    have hds : 0 < ds.length := hvs.length_pos
    simp only [List.length_append] at hfuel
    have hvalue : value fuel (shape.item i) depth (cs ++ (ds ++ rest)) = .ok (v, ds ++ rest) :=
      value_of_writes hv (by omega) hdepth _ (hvs.endsNumber rest)
    have hitems : items fuel shape depth (i + 1) (ds ++ rest) = .ok (vs, rest) :=
      items_of_writes hvs (by omega) hdepth shape (i + 1) rfl rest
    apply items_cons _ hvalue hitems
    rw [hi, List.append_assoc, List.append_assoc]
    exact nextItem_gap hb hv first (ds ++ rest)

theorem members_of_writes {d : Nat} {first : Bool} {ms : List (String × Value)} {cs : List Char}
    (h : WritesMembers d first ms cs) {fuel depth : Nat} (hfuel : cs.length < fuel)
    (hdepth : d < depth) (shape : Shape) (rest : List Char) :
    members fuel shape depth first (cs ++ rest) = .ok (ms, rest) := by
  obtain ⟨fuel, rfl⟩ := Nat.exists_eq_succ_of_ne_zero (Nat.ne_of_gt (Nat.zero_lt_of_lt hfuel))
  match h with
  | .close hb =>
    apply members_close
    rw [List.append_assoc]
    exact nextKey_close hb _ rest
  | @WritesMembers.cons _ _ b k b' v ms cs ds hb hb' hv hms =>
    simp only [List.length_cons, List.length_append] at hfuel
    have hvalue : value fuel (shape.member k.toList) depth (b' ++ (cs ++ (ds ++ rest))) =
        .ok (v, ds ++ rest) := by
      rw [value_append hb' (by omega)]
      exact value_of_writes hv (by omega) hdepth _ (hms.endsNumber rest)
    have hmembers : members fuel shape depth false (ds ++ rest) = .ok (ms, rest) :=
      members_of_writes hms (by omega) hdepth shape rest
    apply members_cons _ hvalue hmembers
    simp only [quote, List.append_assoc, List.cons_append, List.nil_append]
    exact nextKey_gap hb first _

end

/-- A whole text is read as the value that it writes. -/
theorem readChars_of_writes {d : Nat} {v : Value} {cs : List Char} (h : Writes d v cs)
    (hd : d < maxDepth) (shape : Shape) : readChars shape cs = .ok v := by
  have hvalue : value (cs.length + 1) shape maxDepth (cs ++ []) = .ok (v, []) :=
    value_of_writes h (Nat.lt_succ_self _) hd shape fun c cs' h => by cases h
  rw [List.append_nil] at hvalue
  rw [readChars, hvalue]
  rfl

/-- A text that writes a value is read as that value, whatever shape is read for. -/
theorem read_of_writes {d : Nat} {v : Value} {cs : List Char} (h : Writes d v cs)
    (hd : d < maxDepth) (shape : Shape) : read (String.ofList cs) shape = .ok v := by
  rw [read, String.toList_ofList, readChars_of_writes h hd]

/-- A value is read back from the text that either writer gives it. -/
theorem read_written {d : Nat} {v : Value} (h : Fits d v) (hd : d < maxDepth) (pretty : Bool)
    (shape : Shape) :
    read (String.ofList (if pretty then v.pretty else v.compact)) shape = .ok v := by
  cases pretty with
  | true => exact read_of_writes (writes_prettyAt 0 h) hd shape
  | false => exact read_of_writes (writes_compact h) hd shape

end EditionCheck.Json
