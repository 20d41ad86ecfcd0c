import EditionCheck.Toml.Document

/-!
  Plain documents.

  A plain document has blank lines, comments, and pairs of a key without dots or quotes and a value
  that needs no escapes, each on a line of its own. `Says` tells which pairs the lines of a document
  say; reading the document gives them, in order (`read?_of_says`).
-/

namespace EditionCheck.Toml

/-! ## Runs of characters -/

section Runs

variable {p : Char → Bool} {c : Char} {cs rest : List Char}

theorem takeWhile_run (h : ∀ c ∈ cs, p c) (hc : p c = false) :
    (cs ++ c :: rest).takeWhile p = cs := by
  rw [List.takeWhile_append_of_pos h, List.takeWhile_cons_of_neg (by simp [hc]), List.append_nil]

theorem dropWhile_run (h : ∀ c ∈ cs, p c) (hc : p c = false) :
    (cs ++ c :: rest).dropWhile p = c :: rest := by
  rw [List.dropWhile_append_of_pos h, List.dropWhile_cons_of_neg (by simp [hc])]

theorem skipBlanks_cons (hc : isBlank c = false) : skipBlanks (c :: cs) = c :: cs :=
  List.dropWhile_cons_of_neg (by simp [hc])

end Runs

/-! ## Keys -/

/-- A key that needs no quotes. -/
def IsBareKey (key : String) : Prop := key.toList ≠ [] ∧ key.toList.all isBare

instance (key : String) : Decidable (IsBareKey key) := inferInstanceAs (Decidable (_ ∧ _))

/-- A character of a bare key is none of those that mean something in a line. -/
theorem isBare_ne {c d : Char} (hc : isBare c) (hd : isBare d = false) : c ≠ d := by
  rintro rfl
  simp [hc] at hd

theorem IsBareKey.chars {key : String} (h : IsBareKey key) :
    ∃ c cs, key.toList = c :: cs ∧ isBare c ∧ ∀ d ∈ c :: cs, isBare d := by
  obtain ⟨c, cs, hkey⟩ := List.exists_cons_of_ne_nil h.1
  have hall := List.all_eq_true.1 h.2
  rw [hkey] at hall
  exact ⟨c, cs, hkey, hall c List.mem_cons_self, hall⟩

theorem isBlank_of_isBare {c : Char} (hc : isBare c) : isBlank c = false := by
  have hspace : c ≠ ' ' := isBare_ne hc (by decide)
  have htab : c ≠ '\t' := isBare_ne hc (by decide)
  simp [isBlank, hspace, htab]

theorem keyPart?_bare {c : Char} {cs rest : List Char} (h : ∀ d ∈ c :: cs, isBare d) :
    keyPart? (c :: cs ++ ' ' :: rest) = some (c :: cs, ' ' :: rest) := by
  have hc : isBare c := h c List.mem_cons_self
  have honLine : Quoted.onLine? (c :: (cs ++ ' ' :: rest)) = none := by
    unfold Quoted.onLine?
    split
    · next heq => exact absurd (List.cons.inj heq).1 (isBare_ne hc (by decide))
    · next heq => exact absurd (List.cons.inj heq).1 (isBare_ne hc (by decide))
    · rfl
  unfold keyPart?
  rw [List.cons_append, honLine, ← List.cons_append, takeWhile_run h (by decide)]
  simp

/-- A bare key is read up to the equals sign. -/
theorem key?_bare {key : String} (h : IsBareKey key) (fuel : Nat) (rest : List Char) :
    key? (fuel + 1) (key.toList ++ ' ' :: '=' :: rest) = some ([key], '=' :: rest) := by
  obtain ⟨c, cs, hkey, hc, hbare⟩ := h.chars
  have hname : String.ofList (c :: cs) = key := by rw [← hkey, String.ofList_toList]
  rw [hkey, key?, List.cons_append, skipBlanks_cons (isBlank_of_isBare hc), ← List.cons_append,
    keyPart?_bare hbare]
  have hsign : skipBlanks (' ' :: '=' :: rest) = '=' :: rest := rfl
  simp [hsign, hname]

/-! ## Values -/

/-- A value that is written on one line and without escapes. -/
inductive Plain where
  | truth (b : Bool)
  | text (s : String)
  /-- A list without items. -/
  | nothing
  deriving DecidableEq, Repr

namespace Plain

/-- The value as a document has it. -/
def spelled : Plain → String
  | truth true => "true"
  | truth false => "false"
  | text s => "\"" ++ s ++ "\""
  | nothing => "[]"

/-- The value that is read. -/
def value : Plain → Value
  | truth b => .boolean b
  | text s => .string s
  | nothing => .array []

/-- A character that a text has without an escape. -/
def isBasic (c : Char) : Bool := isPlain c && c != '"' && c != '\\'

/-- A text needs no escapes. -/
def isSound : Plain → Bool
  | text s => s.toList.all isBasic
  | _ => true

end Plain

theorem basic_plain {cs : List Char} (h : cs.all Plain.isBasic) {fuel : Nat}
    (hfuel : cs.length < fuel) (rest : List Char) :
    Quoted.basic fuel (cs ++ '"' :: rest) = some (cs, rest) := by
  induction cs generalizing fuel with
  | nil =>
    obtain ⟨fuel, rfl⟩ := Nat.exists_eq_succ_of_ne_zero (Nat.ne_of_gt hfuel)
    simp [Quoted.basic]
  | cons c cs ih =>
    obtain ⟨fuel, rfl⟩ := Nat.exists_eq_succ_of_ne_zero (Nat.ne_of_gt (Nat.zero_lt_of_lt hfuel))
    simp only [List.all_cons, Plain.isBasic, Bool.and_eq_true, bne_iff_ne] at h
    obtain ⟨⟨⟨hplain, hquote⟩, hslash⟩, hcs⟩ := h
    have hrest := ih hcs (Nat.lt_of_succ_lt_succ hfuel)
    simp [Quoted.basic, hplain, hquote, hslash, hrest, Quoted.consTo]

/-- A text ends at the first quote; what follows on the next line is no part of it. -/
theorem read?_plain {cs : List Char} (h : cs.all Plain.isBasic) (rest : List Char) :
    Quoted.read? ('"' :: (cs ++ '"' :: '\n' :: rest)) = some (cs, '\n' :: rest) := by
  have hfuel : cs.length < (cs ++ '"' :: '\n' :: rest).length + 1 := by
    rw [List.length_append]
    omega
  unfold Quoted.read?
  split
  · next heq =>
    -- three quotes in a row would need one inside the text, or one instead of the line end
    exfalso
    cases cs with
    | nil => simp at heq
    | cons c cs =>
      obtain rfl := (List.cons.inj (List.cons.inj heq).2).1
      simp [Plain.isBasic] at h
  · next heq => cases heq
  · exact basic_plain h hfuel ('\n' :: rest)

/-- A plain value is read up to the end of its line. -/
theorem value?_plain {v : Plain} (h : v.isSound) (fuel depth : Nat) (rest : List Char) :
    value? (fuel + 2) (depth + 1) (v.spelled.toList ++ '\n' :: rest) =
      some (v.value, '\n' :: rest) := by
  cases v with
  | truth b => cases b <;> rfl
  | text s =>
    have hread := read?_plain h rest
    simp [Plain.spelled, Plain.value, value?, hread]
  | nothing => rfl

/-! ## Lines -/

/-- Which pairs the lines of a document say. -/
inductive Says : List String → List (String × Plain) → Prop where
  | done : Says [] []
  | blank {ls ps} : Says ls ps → Says ("" :: ls) ps
  | comment {l cs ls ps} : l = String.ofList ('#' :: cs) → cs.all isPlain → Says ls ps →
      Says (l :: ls) ps
  | pair {l key v ls ps} : l = key ++ " = " ++ Plain.spelled v → IsBareKey key → v.isSound →
      Says ls ps → Says (l :: ls) ((key, v) :: ps)

/-- The statement of a pair. -/
def saying (p : String × Plain) : Statement := .pair [p.1] p.2.value

/-- The characters of a document. -/
def written (ls : List String) : List Char := ls.flatMap fun l => l.toList ++ ['\n']

theorem statement?_newLine (rest : List Char) :
    statement? ('\n' :: rest) = some (none, '\n' :: rest) := rfl

theorem statement?_comment (cs : List Char) : statement? ('#' :: cs) = some (none, '#' :: cs) := rfl

theorem endLine?_newLine (rest : List Char) : endLine? ('\n' :: rest) = some rest := rfl

theorem endLine?_comment {cs : List Char} (h : cs.all isPlain) (rest : List Char) :
    endLine? ('#' :: (cs ++ '\n' :: rest)) = some rest := by
  have hskip : skipBlanks ('#' :: (cs ++ '\n' :: rest)) = '#' :: (cs ++ '\n' :: rest) := rfl
  simp [endLine?, hskip, dropWhile_run (List.all_eq_true.1 h), lineEnd?, isPlain]

theorem afterEquals?_plain (v : Plain) (rest : List Char) :
    afterEquals? ('=' :: ' ' :: (v.spelled.toList ++ rest)) = some (v.spelled.toList ++ rest) := by
  cases v with
  | truth b => cases b <;> rfl
  | text s =>
    have hskip : skipBlanks (' ' :: '"' :: (s.toList ++ '"' :: rest)) =
        '"' :: (s.toList ++ '"' :: rest) := rfl
    simp [Plain.spelled, afterEquals?, hskip]
  | nothing => rfl

/-- A line that starts with a character of a key has a pair. -/
theorem statement?_pair {key : String} {v : Plain} (hkey : IsBareKey key) (hv : v.isSound)
    (rest : List Char) :
    statement? ((key ++ " = " ++ v.spelled).toList ++ '\n' :: rest) =
      some (some (saying (key, v)), '\n' :: rest) := by
  obtain ⟨c, cs, hchars, hc, -⟩ := hkey.chars
  have hopen : c ≠ '[' := isBare_ne hc (by decide)
  have hmark : c ≠ '#' := isBare_ne hc (by decide)
  have hlineEnd (more : List Char) : lineEnd? (c :: more) = none := by
    have hnewLine : c ≠ '\n' := isBare_ne hc (by decide)
    have hreturn : c ≠ '\r' := isBare_ne hc (by decide)
    simp [lineEnd?, hnewLine, hreturn]
  obtain ⟨after, hafter⟩ : ∃ after, after = ' ' :: (v.spelled.toList ++ '\n' :: rest) := ⟨_, rfl⟩
  have hline : (key ++ " = " ++ v.spelled).toList ++ '\n' :: rest =
      c :: (cs ++ ' ' :: '=' :: after) := by simp [hchars, hafter]
  have hread (fuel : Nat) :
      key? (fuel + 2) (c :: (cs ++ ' ' :: '=' :: after)) = some ([key], '=' :: after) := by
    have := key?_bare hkey (fuel + 1) after
    rwa [hchars, List.cons_append] at this
  have hequals : afterEquals? ('=' :: after) = some (v.spelled.toList ++ '\n' :: rest) := by
    rw [hafter, afterEquals?_plain]
  have hvalue (fuel : Nat) : value? (fuel + 2) maxDepth (v.spelled.toList ++ '\n' :: rest) =
      some (v.value, '\n' :: rest) := value?_plain hv fuel 79 rest
  rw [hline]
  unfold statement?
  rw [skipBlanks_cons (isBlank_of_isBare hc)]
  split
  · next heq => cases heq
  · next heq => exact absurd (List.cons.inj heq).1 hopen
  · next heq => exact absurd (List.cons.inj heq).1 hopen
  · next heq =>
    obtain ⟨rfl, rfl⟩ := List.cons.inj heq
    simp only [hmark, hlineEnd, hread, hequals, beq_iff_eq, Option.isSome_none, Bool.or_false,
      if_false, bind, Option.bind_some, hvalue]
    rfl

/-! ## Documents -/

/-- A document goes on after a line that has been read. -/
theorem statements?_line {line rest left : List Char} {s : Option Statement} {ss : List Statement}
    {fuel : Nat} (hline : statement? line = some (s, left)) (hend : endLine? left = some rest)
    (hrest : statements? fuel rest = some ss) :
    statements? (fuel + 1) line = some (s.toList ++ ss) := by
  cases rest with
  | nil =>
    -- nothing is left, of which nothing is read
    have hss : ss = [] := by
      cases fuel with
      | zero => cases hrest
      | succ fuel => exact (Option.some.inj hrest).symm
    simp [statements?, hline, hend, hss]
  | cons c rest => simp [statements?, hline, hend, hrest]

theorem written_cons (l : String) (ls : List String) :
    written (l :: ls) = l.toList ++ '\n' :: written ls := by
  simp [written]

/-- The lines of a document are read one after the other. -/
theorem statements?_of_says {ls : List String} {ps : List (String × Plain)} (h : Says ls ps)
    (fuel : Nat) : statements? (fuel + ls.length + 1) (written ls) = some (ps.map saying) := by
  induction h with
  | done => rfl
  | blank _ ih => exact statements?_line (statement?_newLine _) (endLine?_newLine _) ih
  | comment hl hplain _ ih =>
    rw [written_cons, hl, String.toList_ofList]
    exact statements?_line (statement?_comment _) (endLine?_comment hplain _) ih
  | pair hl hkey hv _ ih =>
    rw [written_cons, hl]
    exact statements?_line (statement?_pair hkey hv _) (endLine?_newLine _) ih

theorem length_le_written (ls : List String) : ls.length ≤ (written ls).length := by
  induction ls with
  | nil => exact Nat.zero_le _
  | cons l ls ih =>
    rw [written_cons, List.length_append, List.length_cons, List.length_cons]
    omega

/-- A plain document does not start with a byte order mark. -/
theorem written_ne_mark {ls : List String} {ps : List (String × Plain)} (h : Says ls ps)
    (cs : List Char) : written ls ≠ '\uFEFF' :: cs := by
  intro heq
  cases h with
  | done => cases heq
  | blank _ => exact absurd (List.cons.inj heq).1 (by decide)
  | comment hl _ _ =>
    rw [written_cons, hl, String.toList_ofList] at heq
    exact absurd (List.cons.inj heq).1 (by decide)
  | pair hl hkey _ _ =>
    obtain ⟨c, key, hchars, hc, -⟩ := hkey.chars
    simp only [written_cons, hl, String.toList_append, hchars, List.cons_append] at heq
    exact isBare_ne hc (by decide) (List.cons.inj heq).1

/-- A plain document is read as the pairs that it says. -/
theorem read?_of_says {ls : List String} {ps : List (String × Plain)} (h : Says ls ps)
    {text : String} (htext : text.toList = written ls) :
    read? text = ofStatements? (ps.map saying) := by
  obtain ⟨fuel, hfuel⟩ := Nat.exists_eq_add_of_le' (length_le_written ls)
  have hread := statements?_of_says h fuel
  rw [← hfuel] at hread
  unfold read?
  rw [htext]
  split
  · next heq => exact absurd heq (written_ne_mark h _)
  · simp only [hread, Option.bind_some]

end EditionCheck.Toml
