import EditionCheck.Script.Lexeme.Word

/-!
  String literals and the text parts of templates.

  `Quoted.string` finds the closing quote of a string and refuses ill-formed escapes and line ends.
  `Quoted.template` finds the end of a template part and says whether its escapes are well-formed,
  since a tagged template admits any. `Quoted.value` is the sequence of code points that the body
  of a string stands for.
-/

namespace EditionCheck.Script.Quoted

/-- The escape with letter `c` after the backslash, followed by `rest`, is well-formed.
`octal` admits legacy octal escapes. -/
def escapeOk (octal : Bool) (c : Char) (rest : List Char) : Bool :=
  if c == 'x' then
    match rest with
    | a :: b :: _ => Text.isHexDigit a && Text.isHexDigit b
    | _ => false
  else if c == 'u' then (codePointEscape? rest).isSome
  else if c.isDigit then
    octal || (c == '0' && !(rest.head?.any Char.isDigit))
  else true

/-- The body of a string up to the quote `q`, and what follows the quote. A backslash takes a whole
line end along. -/
def string (q : Char) : List Char → List Char → Option (List Char × List Char)
  | _, [] => none
  | acc, '\\' :: '\r' :: '\n' :: cs => string q ('\n' :: '\r' :: '\\' :: acc) cs
  | acc, '\\' :: c :: cs =>
    if escapeOk true c cs then string q (c :: '\\' :: acc) cs else none
  | acc, c :: cs =>
    if c == q then some (acc.reverse, cs)
    else if c == '\n' || c == '\r' || c == '\\' then none
    else string q (c :: acc) cs

/-- How a part of a template ends. -/
inductive PartEnd where
  /-- With the closing backquote. -/
  | close
  /-- With the opening of a substitution. -/
  | substitution
  deriving DecidableEq, Repr

/-- The end of a template part, whether all its escapes are well-formed, its width in bytes with
the mark that ends it, and what follows. -/
def template : Bool → Nat → List Char → Option (PartEnd × Bool × Nat × List Char)
  | _, _, [] => none
  | valid, width, '\\' :: c :: cs =>
    template (valid && escapeOk false c cs) (width + 1 + c.utf8Size) cs
  | valid, width, '$' :: '{' :: cs => some (.substitution, valid, width + 2, cs)
  | valid, width, c :: cs =>
    if c == '\x60' then some (.close, valid, width + 1, cs)
    else template valid (width + c.utf8Size) cs

/-- An octal digit. -/
def octalValue? (c : Char) : Option Nat :=
  if '0' ≤ c && c ≤ '7' then some (c.toNat - '0'.toNat) else none

/-- The value of a legacy octal escape that starts with digit `n`, and what follows it. -/
def octalEscape (n : Nat) : List Char → Nat × List Char
  | c :: cs =>
    match octalValue? c with
    | some d =>
      match cs with
      | c' :: cs' =>
        match octalValue? c', decide (n ≤ 3) with
        | some d', true => (n * 64 + d * 8 + d', cs')
        | _, _ => (n * 8 + d, cs)
      | [] => (n * 8 + d, [])
    | none => (n, c :: cs)
  | [] => (n, [])

/-- What one escape stands for, from the character after the backslash on. -/
def escapeValue (c : Char) (cs : List Char) : List Nat × List Char :=
  match c with
  | 'n' => ([0xA], cs)
  | 't' => ([0x9], cs)
  | 'r' => ([0xD], cs)
  | 'b' => ([0x8], cs)
  | 'v' => ([0xB], cs)
  | 'f' => ([0xC], cs)
  | '\n' | '\u2028' | '\u2029' => ([], cs)
  | '\r' => ([], match cs with | '\n' :: rest => rest | _ => cs)
  | 'x' =>
    match cs with
    | a :: b :: rest => (((Text.hexNumber? [a, b]).map ([·])).getD [], rest)
    | _ => ([], cs)
  | 'u' =>
    match codePointEscape? cs with
    | some (n, _, rest) => ([n], rest)
    | none => ([], cs)
  | c =>
    match octalValue? c with
    | some n => let (v, rest) := octalEscape n cs; ([v], rest)
    | none => ([c.toNat], cs)

/-- The code points that a string body stands for; `fuel` bounds the number of steps. -/
def codePoints : Nat → List Char → List Nat
  | 0, _ => []
  | _, [] => []
  | fuel + 1, '\\' :: c :: cs =>
    let (v, rest) := escapeValue c cs
    v ++ codePoints fuel rest
  | fuel + 1, c :: cs => c.toNat :: codePoints fuel cs

/-- Two halves of a surrogate pair next to each other make one code point. -/
def joinSurrogates : List Nat → List Nat
  | a :: b :: rest =>
    if 0xD800 ≤ a && a < 0xDC00 && 0xDC00 ≤ b && b < 0xE000 then
      ((a - 0xD800) * 0x400 + (b - 0xDC00) + 0x10000) :: joinSurrogates rest
    else a :: joinSurrogates (b :: rest)
  | cs => cs

/-- The code points that a string body stands for, surrogate pairs joined. -/
def value (body : List Char) : List Nat := joinSurrogates (codePoints body.length body)

end EditionCheck.Script.Quoted
