import EditionCheck.Script.Lexeme.Word
import EditionCheck.Script.RegExp.Property

/-!
  Patterns of regular expressions.

  A pattern is a list of alternatives, each a list of terms. Of a term only what other terms depend
  on is kept: groups with their offsets and contents, and references to groups. `Pattern.read` reads
  a pattern in a `Mode`; the older mode admits what old scripts write, such as a lone bracket.
-/

namespace EditionCheck.Script.RegExp

/-- How a pattern is read. -/
structure Mode where
  /-- The pattern matches code points and its escapes are strict. -/
  unicode : Bool
  /-- Classes are sets with operations. -/
  sets : Bool
  /-- `\k` refers to a named group. -/
  named : Bool

/-- What the parentheses of a group mean. -/
inductive GroupKind where
  | capturing
  | named (name : String)
  | nonCapturing
  | lookahead
  | lookbehind
  deriving DecidableEq, Repr

/-- A term of a pattern. -/
inductive Term where
  /-- A group that opens at a byte offset, with its alternatives. -/
  | group (kind : GroupKind) (offset : Nat) (alternatives : List (List Term))
  | backReference (number : Nat)
  | namedReference (name : String)
  /-- A character, a class or an assertion. -/
  | other

/-- What a quantifier may do behind a term. -/
inductive Quantifiable where
  | always
  /-- Only in the older mode. -/
  | old
  | never
  deriving DecidableEq, Repr

/-- The number that decimal digits write. -/
def decimal (digits : List Char) : Nat :=
  digits.foldl (fun n c => n * 10 + (c.toNat - '0'.toNat)) 0

/-- `{n}`, `{n,}` or `{n,m}`: the least and the greatest count, the width, and what follows. -/
def braces? : List Char → Option (Nat × Option Nat × Nat × List Char)
  | '{' :: cs =>
    let low := cs.takeWhile Char.isDigit
    if low.isEmpty then none
    else match cs.dropWhile Char.isDigit with
    | '}' :: rest => some (decimal low, some (decimal low), low.length + 2, rest)
    | ',' :: cs =>
      let high := cs.takeWhile Char.isDigit
      match cs.dropWhile Char.isDigit with
      | '}' :: rest =>
        some (decimal low, if high.isEmpty then none else some (decimal high),
          low.length + high.length + 3, rest)
      | _ => none
    | _ => none
  | _ => none

/-- Past a question mark that makes a quantifier lazy. -/
def lazy (at_ : Cursor) : Cursor :=
  match at_.rest with
  | '?' :: _ => at_.advance 1
  | _ => at_

/-- Past the quantifier behind a term if there is one. -/
def quantifier (m : Mode) (q : Quantifiable) (at_ : Cursor) : Option Cursor :=
  let admitted := q == .always || (q == .old && !m.unicode)
  match at_.rest with
  | '*' :: _ | '+' :: _ | '?' :: _ => if admitted then some (lazy (at_.advance 1)) else none
  | _ =>
    match braces? at_.rest with
    | some (low, high, width, _) =>
      if admitted && high.all (low ≤ ·) then some (lazy (at_.advance width)) else none
    | none => some at_

/-- A character that has a meaning of its own in patterns. -/
def isPatternMark (c : Char) : Bool := "^$\\.*+?()[]\x7b\x7d|".toList.contains c

/-- The name of a group in angle brackets, with its escapes; `fuel` bounds its length. -/
def groupName (fuel : Nat) (at_ : Cursor) : Option (String × Cursor) :=
  match at_.rest with
  | '<' :: _ => go fuel [] (at_.advance 1)
  | _ => none
where
  /-- The characters of the name up to the closing bracket. -/
  go : Nat → List Char → Cursor → Option (String × Cursor)
    | 0, _, _ => none
    | fuel + 1, acc, at_ =>
      let add := fun (c : Char) (next : Cursor) =>
        if (if acc.isEmpty then Text.isNameStart c else Text.isNamePart c) then
          go fuel (c :: acc) next
        else none
      match at_.rest with
      | '>' :: _ => if acc.isEmpty then none else some (String.ofList acc.reverse, at_.advance 1)
      | '\\' :: 'u' :: cs =>
        match codePointEscape? cs with
        | some (high, width, rest) =>
          match Text.charOf? high, rest with
          | some c, _ => add c (at_.advance (2 + width))
          | none, '\\' :: 'u' :: cs =>
            match codePointEscape? cs with
            | some (low, width', _) =>
              if 0xD800 ≤ high && high < 0xDC00 && 0xDC00 ≤ low && low < 0xE000 then
                add (Char.ofNat ((high - 0xD800) * 0x400 + (low - 0xDC00) + 0x10000))
                  (at_.advance (4 + width + width'))
              else none
            | none => none
          | none, _ => none
        | none => none
      | c :: cs => add c ⟨cs, at_.offset + c.utf8Size⟩
      | [] => none

/-- Flags of a group such as `(?i-m:`: letters, each at most once, with at most one dash that is not
all there is. The cursor stands behind the question mark. -/
def modifiers (at_ : Cursor) : Option Cursor :=
  let isFlag := fun c : Char => c == 'i' || c == 'm' || c == 's'
  let plus := at_.rest.takeWhile isFlag
  match at_.rest.dropWhile isFlag with
  | ':' :: _ => if plus.eraseDups == plus then some (at_.advance (plus.length + 1)) else none
  | '-' :: cs =>
    let minus := cs.takeWhile isFlag
    match cs.dropWhile isFlag with
    | ':' :: _ =>
      let all := plus ++ minus
      if !all.isEmpty && all.eraseDups == all then some (at_.advance (all.length + 2)) else none
    | _ => none
  | _ => none

/-- What opens a group at an opening parenthesis. -/
def groupOpening (fuel : Nat) (at_ : Cursor) : Option (GroupKind × Cursor) :=
  match at_.rest with
  | '(' :: '?' :: ':' :: _ => some (.nonCapturing, at_.advance 3)
  | '(' :: '?' :: '=' :: _ | '(' :: '?' :: '!' :: _ => some (.lookahead, at_.advance 3)
  | '(' :: '?' :: '<' :: '=' :: _ | '(' :: '?' :: '<' :: '!' :: _ =>
    some (.lookbehind, at_.advance 4)
  | '(' :: '?' :: '<' :: _ =>
    (groupName fuel (at_.advance 2)).map fun p => (.named p.1, p.2)
  | '(' :: '?' :: _ => (modifiers (at_.advance 2)).map fun next => (.nonCapturing, next)
  | '(' :: _ => some (.capturing, at_.advance 1)
  | _ => none

/-- A quantifier may follow every group but a look to the side. -/
def GroupKind.quantifiable : GroupKind → Quantifiable
  | lookahead => .old
  | lookbehind => .never
  | _ => .always

/-- A property in braces behind `\p` or `\P`: whether sequences may have it, and the cursor after
it. Sequences may have a property in the mode with sets only, and it is not negated. -/
def propertyEscape (m : Mode) (negated : Bool) (at_ : Cursor) : Option (Bool × Cursor) :=
  match at_.rest with
  | '{' :: cs =>
    let isPart := fun c : Char => c.isAlphanum || c == '_'
    let name := cs.takeWhile isPart
    let text := String.ofList name
    match cs.dropWhile isPart with
    | '}' :: _ =>
      let next := at_.advance (name.length + 2)
      if isLoneProperty text then some (false, next)
      else if m.sets && !negated && sequenceProperties.contains text then some (true, next)
      else none
    | '=' :: cs =>
      let value := cs.takeWhile isPart
      match cs.dropWhile isPart with
      | '}' :: _ =>
        if isPropertyValue text (String.ofList value) then
          some (false, at_.advance (name.length + value.length + 3))
        else none
      | _ => none
    | _ => none
  | _ => none

/-- The code point of an escape `\u` from the `u` on, two halves of a surrogate pair joined. -/
def unicodeEscape (m : Mode) (at_ : Cursor) : Option (Nat × Cursor) :=
  match at_.rest with
  | 'u' :: cs =>
    if m.unicode then
      match codePointEscape? cs with
      | some (high, width, rest) =>
        match rest with
        | '\\' :: 'u' :: a :: b :: c :: d :: _ =>
          match Text.hexNumber? [a, b, c, d] with
          | some low =>
            if width = 4 && 0xD800 ≤ high && high < 0xDC00 && 0xDC00 ≤ low && low < 0xE000 then
              some ((high - 0xD800) * 0x400 + (low - 0xDC00) + 0x10000, at_.advance (width + 7))
            else some (high, at_.advance (width + 1))
          | none => some (high, at_.advance (width + 1))
        | _ => some (high, at_.advance (width + 1))
      | none => none
    else
      match cs with
      | a :: b :: c :: d :: _ => (Text.hexNumber? [a, b, c, d]).map fun n => (n, at_.advance 5)
      | _ => none
  | _ => none

/-- The value of a legacy octal escape from its first digit on, at most `377`. -/
def octalEscape (at_ : Cursor) : Option (Nat × Cursor) :=
  let ds := (at_.rest.takeWhile fun c => '0' ≤ c && c ≤ '7').map fun c => c.toNat - '0'.toNat
  match ds with
  | a :: b :: c :: _ =>
    if a ≤ 3 then some (a * 64 + b * 8 + c, at_.advance 3) else some (a * 8 + b, at_.advance 2)
  | [a, b] => some (a * 8 + b, at_.advance 2)
  | [a] => some (a, at_.advance 1)
  | [] => none

/-- An escape that stands for one character, from the character behind the backslash on. `c` is that
character and `after` the place behind it. -/
def characterEscape (m : Mode) (c : Char) (at_ after : Cursor) : Option (Nat × Cursor) :=
  let identity := if m.named && c == 'k' then none else some (c.toNat, after)
  match c with
  | 't' => some (0x9, after)
  | 'n' => some (0xA, after)
  | 'v' => some (0xB, after)
  | 'f' => some (0xC, after)
  | 'r' => some (0xD, after)
  | 'x' =>
    match after.rest with
    | a :: b :: _ =>
      match Text.hexNumber? [a, b] with
      | some n => some (n, after.advance 2)
      | none => if m.unicode then none else identity
    | _ => if m.unicode then none else identity
  | 'u' =>
    match unicodeEscape m at_ with
    | some p => some p
    | none => if m.unicode then none else identity
  | 'c' =>
    match after.rest with
    | l :: _ => if l.isAlpha then some (l.toNat % 32, after.advance 1) else none
    | [] => none
  | '0' =>
    if m.unicode then
      if after.rest.head?.any Char.isDigit then none else some (0, after)
    else octalEscape at_
  | c =>
    if m.unicode then
      if isPatternMark c || c == '/' then some (c.toNat, after) else none
    else
      match octalEscape at_ with
      | some p => some p
      | none => identity

/-- A character with a class of its own behind a backslash: whether sequences may belong to the
class, and the cursor after it. -/
def classEscape (m : Mode) (at_ : Cursor) : Option (Bool × Cursor) :=
  match at_.rest with
  | 'd' :: _ | 'D' :: _ | 's' :: _ | 'S' :: _ | 'w' :: _ | 'W' :: _ => some (false, at_.advance 1)
  | 'p' :: _ => if m.unicode then propertyEscape m false (at_.advance 1) else none
  | 'P' :: _ => if m.unicode then propertyEscape m true (at_.advance 1) else none
  | _ => none

/-- A backslash that stands for itself, in front of `c`. -/
def loneBackslash (m : Mode) (at_ : Cursor) : Option (Nat × Cursor) :=
  match at_.rest with
  | 'c' :: _ => if m.unicode then none else some ('\\'.toNat, at_)
  | _ => none

/-- The escape of an atom, from the character behind the backslash on. -/
def atomEscape (m : Mode) (fuel : Nat) (at_ : Cursor) : Option (Term × Quantifiable × Cursor) :=
  match at_.rest with
  | [] => none
  | c :: cs =>
    let after : Cursor := ⟨cs, at_.offset + c.utf8Size⟩
    if c == 'b' || c == 'B' then some (.other, .never, after)
    else if c == 'k' && m.named then
      (groupName fuel after).map fun p => (.namedReference p.1, .always, p.2)
    else if '1' ≤ c && c ≤ '9' then
      let ds := (c :: cs).takeWhile Char.isDigit
      some (.backReference (decimal ds), .always, at_.advance ds.length)
    else
      match classEscape m at_ with
      | some (_, next) => some (.other, .always, next)
      | none =>
        if m.unicode && (c == 'p' || c == 'P') then none
        else match characterEscape m c at_ after with
        | some (_, next) => some (.other, .always, next)
        | none => (loneBackslash m at_).map fun p => (.other, .always, p.2)

/-- The first and the last value of an atom of a class; a class of its own has none. In the older
mode a character beyond the basic plane is two units. -/
structure ClassAtom where
  first : Option Nat
  last : Option Nat

/-- One character as an atom of a class. -/
def ClassAtom.ofChar (m : Mode) (c : Char) : ClassAtom :=
  let n := c.toNat
  if m.unicode || n < 0x10000 then ⟨some n, some n⟩
  else ⟨some (0xD800 + (n - 0x10000) / 0x400), some (0xDC00 + (n - 0x10000) % 0x400)⟩

/-- The escape of a class, from the character behind the backslash on. -/
def classAtomEscape (m : Mode) (at_ : Cursor) : Option (ClassAtom × Cursor) :=
  match at_.rest with
  | [] => none
  | c :: cs =>
    let after : Cursor := ⟨cs, at_.offset + c.utf8Size⟩
    if c == 'b' then some (⟨some 8, some 8⟩, after)
    else if c == '-' && m.unicode then some (⟨some 45, some 45⟩, after)
    else
      match classEscape m at_ with
      | some (_, next) => some (⟨none, none⟩, next)
      | none =>
        if m.unicode && (c == 'p' || c == 'P') then none
        else match characterEscape m c at_ after with
        | some (n, next) => some (⟨some n, some n⟩, next)
        | none =>
          match c, cs with
          | 'c', d :: _ =>
            if m.unicode then none
            else if d.isDigit || d == '_' then
              some (⟨some (d.toNat % 32), some (d.toNat % 32)⟩, after.advance 1)
            else some (⟨some 92, some 92⟩, at_)
          | _, _ => (loneBackslash m at_).map fun p => (⟨some p.1, some p.1⟩, p.2)

/-- An atom of a class. -/
def classAtom (m : Mode) (at_ : Cursor) : Option (ClassAtom × Cursor) :=
  match at_.rest with
  | '\\' :: cs => classAtomEscape m ⟨cs, at_.offset + 1⟩
  | c :: cs => some (ClassAtom.ofChar m c, ⟨cs, at_.offset + c.utf8Size⟩)
  | [] => none

/-- The rest of a class up to its bracket. `before` is the atom that a dash would make the start of
a range. A range goes upward, and its ends are characters, except that the older mode takes a dash
next to a class of its own for a character. -/
def classRest (m : Mode) : Nat → Option ClassAtom → Cursor → Option Cursor
  | 0, _, _ => none
  | fuel + 1, before, at_ =>
    match at_.rest, before with
    | [], _ => none
    | ']' :: _, _ => some (at_.advance 1)
    | '-' :: c :: _, some low =>
      if c == ']' then some (at_.advance 2)
      else
        match classAtom m (at_.advance 1) with
        | some (high, next) =>
          let upward := match low.last, high.first with
            | some a, some b => decide (a ≤ b)
            | _, _ => !m.unicode
          let again := if high.first == high.last then none else some high
          if upward then classRest m fuel again next else none
        | none => none
    | _, _ =>
      match classAtom m at_ with
      | some (a, next) => classRest m fuel (some a) next
      | none => none

/-- A character that has a meaning of its own in sets. -/
def isSetMark (c : Char) : Bool := "()[]\x7b\x7d/-\\|".toList.contains c

/-- A character that doubled is kept for later use in sets. -/
def isSetDouble (c : Char) : Bool := "&!#$%*+,.:;<=>?@^\x60~".toList.contains c

/-- A character that sets admit behind a backslash apart from the marks of patterns. -/
def isSetEscapable (c : Char) : Bool := "&-!#%,:;<=>@\x60~".toList.contains c

/-- A single character of a set. -/
def setCharacter (m : Mode) (at_ : Cursor) : Option (Nat × Cursor) :=
  match at_.rest with
  | '\\' :: c :: cs =>
    let after : Cursor := ⟨cs, at_.offset + 1 + c.utf8Size⟩
    if c == 'b' then some (8, after)
    else if isSetEscapable c then some (c.toNat, after)
    else characterEscape m c (at_.advance 1) after
  | c :: cs =>
    if isSetMark c || (isSetDouble c && cs.head? == some c) then none
    else some (c.toNat, ⟨cs, at_.offset + c.utf8Size⟩)
  | [] => none

/-- The strings of `\q{...}` up to its brace: whether one of them is not a single character.
`count` is the length of the string so far. -/
def setStrings (m : Mode) : Nat → Nat → Bool → Cursor → Option (Bool × Cursor)
  | 0, _, _, _ => none
  | fuel + 1, count, sequences, at_ =>
    match at_.rest with
    | '}' :: _ => some (sequences || count != 1, at_.advance 1)
    | '|' :: _ => setStrings m fuel 0 (sequences || count != 1) (at_.advance 1)
    | _ =>
      match setCharacter m at_ with
      | some (_, next) => setStrings m fuel (count + 1) sequences next
      | none => none

/-- How the operands of a set are joined. -/
inductive SetForm where
  /-- Nothing has been read. -/
  | empty
  /-- One operand has been read. -/
  | single
  | union | intersection | subtraction
  deriving DecidableEq, Repr

/-- The contents of a set behind its bracket, up to and with the closing one: whether sequences may
belong to it. `needs` tells that an operator came last. -/
def setContents (m : Mode) : Nat → SetForm → Bool → Bool → Cursor → Option (Bool × Cursor)
  | 0, _, _, _, _ => none
  | fuel + 1, form, needs, sequences, at_ =>
    /- What an operand of a union, an intersection or a subtraction adds. -/
    let join := fun (new : Bool) => match form with
      | .empty => new
      | .intersection => sequences && new
      | .subtraction => sequences
      | _ => sequences || new
    let next := match form with
      | .empty => SetForm.single
      | .single => .union
      | f => f
    let admitted := needs || form == .empty || form == .single || form == .union
    let operand := fun (new : Bool) (after : Cursor) =>
      if admitted then setContents m fuel next false (join new) after else none
    match at_.rest with
    | [] => none
    | ']' :: _ => if needs then none else some (sequences, at_.advance 1)
    | '-' :: '-' :: _ =>
      if !needs && (form == .single || form == .subtraction) then
        setContents m fuel .subtraction true sequences (at_.advance 2)
      else none
    | '&' :: '&' :: cs =>
      if !needs && (form == .single || form == .intersection) && cs.head? != some '&' then
        setContents m fuel .intersection true sequences (at_.advance 2)
      else none
    | '[' :: cs =>
      let negated := cs.head? == some '^'
      match setContents m fuel .empty false false (at_.advance (if negated then 2 else 1)) with
      | some (inner, after) => if negated && inner then none else operand (inner && !negated) after
      | none => none
    | '\\' :: 'q' :: '{' :: _ =>
      match setStrings m fuel 0 false (at_.advance 3) with
      | some (inner, after) => operand inner after
      | none => none
    | _ =>
      let escape := match at_.rest with
        | '\\' :: _ => classEscape m (at_.advance 1)
        | _ => none
      match escape with
      | some (inner, after) => operand inner after
      | none =>
        match setCharacter m at_ with
        | none => none
        | some (low, after) =>
          match after.rest with
          | '-' :: c :: _ =>
            if c == '-' then operand false after
            else
              match setCharacter m (after.advance 1) with
              | some (high, after) =>
                if low ≤ high && (form == .empty || form == .single || form == .union) then
                  setContents m fuel .union false (join false) after
                else none
              | none => none
          | _ => operand false after

/-- Past a class, from its bracket on. -/
def characterClass (m : Mode) (fuel : Nat) (at_ : Cursor) : Option Cursor :=
  match at_.rest with
  | '[' :: cs =>
    let negated := cs.head? == some '^'
    let inside := at_.advance (if negated then 2 else 1)
    if m.sets then
      match setContents m fuel .empty false false inside with
      | some (sequences, next) => if negated && sequences then none else some next
      | none => none
    else classRest m fuel none inside
  | _ => none

/-- An atom or an assertion that is no group, with what a quantifier may do behind it. -/
def simpleTerm (m : Mode) (fuel : Nat) (at_ : Cursor) : Option (Term × Quantifiable × Cursor) :=
  match at_.rest with
  | [] => none
  | '\\' :: cs => atomEscape m fuel ⟨cs, at_.offset + 1⟩
  | '[' :: _ => (characterClass m fuel at_).map fun next => (.other, .always, next)
  | c :: cs =>
    let next : Cursor := ⟨cs, at_.offset + c.utf8Size⟩
    if c == '^' || c == '$' then some (.other, .never, next)
    else if c == '*' || c == '+' || c == '?' then none
    else if c == '{' then
      if m.unicode || (braces? at_.rest).isSome then none else some (.other, .always, next)
    else if c == '}' || c == ']' then
      if m.unicode then none else some (.other, .always, next)
    else some (.other, .always, next)

/-- The alternatives up to a closing parenthesis or the end. `terms` holds those of the current
alternative and `done` the alternatives before it, both in reverse. -/
def alternatives (m : Mode) : Nat → List Term → List (List Term) → Cursor →
    Option (List (List Term) × Cursor)
  | 0, _, _, _ => none
  | fuel + 1, terms, done, at_ =>
    match at_.rest with
    | [] | ')' :: _ => some ((terms.reverse :: done).reverse, at_)
    | '|' :: _ => alternatives m fuel [] (terms.reverse :: done) (at_.advance 1)
    | '(' :: _ =>
      match groupOpening fuel at_ with
      | none => none
      | some (kind, inside) =>
        match alternatives m fuel [] [] inside with
        | none => none
        | some (inner, close) =>
          match close.rest with
          | ')' :: _ =>
            match quantifier m kind.quantifiable (close.advance 1) with
            | some next => alternatives m fuel (.group kind at_.offset inner :: terms) done next
            | none => none
          | _ => none
    | _ =>
      match simpleTerm m fuel at_ with
      | none => none
      | some (term, q, after) =>
        match quantifier m q after with
        | some next => alternatives m fuel (term :: terms) done next
        | none => none

/-- A pattern: its alternatives. -/
abbrev Pattern := List (List Term)

/-- The pattern that is the whole text. -/
def Pattern.read (m : Mode) (text : List Char) : Option Pattern :=
  match alternatives m (2 * text.length + 2) [] [] ⟨text, 0⟩ with
  | some (p, ⟨[], _⟩) => some p
  | _ => none

end EditionCheck.Script.RegExp
