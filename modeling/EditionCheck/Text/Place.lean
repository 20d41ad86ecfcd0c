/-!
  Places in a text: byte offsets, slices between two of them, and lines with columns.

  Offsets count bytes of the UTF-8 form. `splitAt?` cuts a text at an offset and refuses one that
  lies inside a character or beyond the end; `lineColumn` gives the 1-based line and column of an
  offset, counting characters within the line.
-/

namespace EditionCheck.Text

/-- The number of bytes of the UTF-8 form. -/
def byteLength : List Char → Nat
  | [] => 0
  | c :: cs => c.utf8Size + byteLength cs

theorem byteLength_append (xs ys : List Char) :
    byteLength (xs ++ ys) = byteLength xs + byteLength ys := by
  induction xs with
  | nil => simp [byteLength]
  | cons c cs ih => simp [byteLength, ih, Nat.add_assoc]

/-- The text before and after byte offset `n`, when a character starts or the text ends there. -/
def splitAt? : Nat → List Char → Option (List Char × List Char)
  | 0, cs => some ([], cs)
  | _ + 1, [] => none
  | n + 1, c :: cs =>
    if c.utf8Size ≤ n + 1 then
      (splitAt? (n + 1 - c.utf8Size) cs).map fun p => (c :: p.1, p.2)
    else none

/-- The text from byte offset `n` on; empty when no character starts there. -/
def dropBytes : Nat → List Char → List Char
  | 0, cs => cs
  | _ + 1, [] => []
  | n + 1, c :: cs => if c.utf8Size ≤ n + 1 then dropBytes (n + 1 - c.utf8Size) cs else []

/-- The first `n` bytes of a text; empty when the text is shorter or the end lies inside a
character. -/
def takeBytes (n : Nat) (cs : List Char) : List Char :=
  match splitAt? n cs with
  | some (inside, _) => inside
  | none => []

/-- The text between two byte offsets; empty when either lies inside a character. -/
def slice (start stop : Nat) (cs : List Char) : List Char :=
  takeBytes (stop - start) (dropBytes start cs)

/-- The part before offset `n`: the whole text when `n` lies inside a character or past the end. -/
def upTo (n : Nat) (cs : List Char) : List Char :=
  match splitAt? n cs with
  | some (before, _) => before
  | none => cs

/-- The characters after the last line feed. -/
def lastLine (cs : List Char) : List Char := (cs.reverse.takeWhile (· ≠ '\n')).reverse

/-- The 1-based line and column of the place after `before`. -/
def endPlace (before : List Char) : Nat × Nat :=
  (before.count '\n' + 1, (lastLine before).length + 1)

/-- The line of byte offset `n`, from 1, and its distance in bytes from the start of that line. The
text from byte `here` on is left to walk; `line` and `start` describe the line reached so far. -/
def bytePlaceFrom (n here line start : Nat) : List Char → Nat × Nat
  | [] => (line, n - start)
  | c :: cs =>
    let next := here + c.utf8Size
    if n < next then (line, n - start)
    else if c == '\n' then bytePlaceFrom n next (line + 1) next cs
    else bytePlaceFrom n next line start cs

/-- The line of a byte offset, from 1, and its distance in bytes from the start of that line. -/
def bytePlace (cs : List Char) (n : Nat) : Nat × Nat := bytePlaceFrom n 0 1 0 cs

/-- The 1-based line and column of a byte offset. -/
def lineColumn (cs : List Char) (offset : Nat) : Nat × Nat := endPlace (upTo offset cs)

end EditionCheck.Text
