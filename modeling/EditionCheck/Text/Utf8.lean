/-!
  Text as UTF-8 bytes.

  `encode` writes characters as bytes. `pieces` splits any bytes into characters and faults: at a
  place where no character starts, the longest start of one that is there, or else a single byte, is
  one fault. `decode?` accepts bytes without faults, `decodeLossy` puts U+FFFD for each.
-/

namespace EditionCheck.Text.Utf8

/-- The bytes of a text. -/
def encode (cs : List Char) : List UInt8 := cs.flatMap String.utf8EncodeChar

/-- What the first byte of a character says: how many more bytes the character has, between which
bounds the next one lies, and the bits of the code point that it holds itself. -/
structure Lead where
  more : Nat
  low : Nat
  high : Nat
  bits : Nat

/-- The reading of a byte that starts a character. The bounds keep out sequences that are longer
than needed, surrogates, and what lies beyond the last code point. -/
def lead? (b : UInt8) : Option Lead :=
  let n := b.toNat
  if n < 0x80 then some ⟨0, 0x80, 0xBF, n⟩
  else if n < 0xC2 then none
  else if n < 0xE0 then some ⟨1, 0x80, 0xBF, n - 0xC0⟩
  else if n < 0xF0 then
    some ⟨2, if n = 0xE0 then 0xA0 else 0x80, if n = 0xED then 0x9F else 0xBF, n - 0xE0⟩
  else if n < 0xF5 then
    some ⟨3, if n = 0xF0 then 0x90 else 0x80, if n = 0xF4 then 0x8F else 0xBF, n - 0xF0⟩
  else none

/-- The code point that `more` further bytes complete, if they are there, and the bytes after the
last one that fits. -/
def complete : Nat → Nat → Nat → Nat → List UInt8 → Option Nat × List UInt8
  | 0, _, _, point, bytes => (some point, bytes)
  | _ + 1, _, _, _, [] => (none, [])
  | more + 1, low, high, point, b :: bytes =>
    if low ≤ b.toNat && b.toNat ≤ high then
      complete more 0x80 0xBF (point * 64 + (b.toNat - 0x80)) bytes
    else (none, b :: bytes)

/-- The characters and faults (`none`) of some bytes. The first argument bounds their number. -/
def scan : Nat → List UInt8 → List (Option Char)
  | 0, _ | _, [] => []
  | fuel + 1, b :: bytes =>
    match lead? b with
    | none => none :: scan fuel bytes
    | some l =>
      let (point, rest) := complete l.more l.low l.high l.bits bytes
      point.map Char.ofNat :: scan fuel rest

/-- The characters and faults of some bytes. -/
def pieces (bytes : List UInt8) : List (Option Char) := scan bytes.length bytes

/-- The text that some bytes write, if they are without fault. -/
def decode? (bytes : List UInt8) : Option (List Char) := (pieces bytes).mapM id

/-- The text that some bytes write, with the replacement character for each fault. -/
def decodeLossy (bytes : List UInt8) : List Char := (pieces bytes).map fun p => p.getD '\uFFFD'

end EditionCheck.Text.Utf8
