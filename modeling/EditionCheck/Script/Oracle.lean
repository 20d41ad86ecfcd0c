import EditionCheck.Script.Detector
import EditionCheck.Script.Grammar
import EditionCheck.Script.Pool

/-!
  Whether a script is valid under an edition.

  A `Reader` is a parser: it gives the tree of a text, or a message that says why there is none.
  `Reader.judge` refuses a script that has no tree and one that uses a feature newer than the
  target; in the second case the failure tells the first such use. `reader` is the parser of this
  library, and `judge` goes by it.
-/

namespace EditionCheck

/-- How a script is loaded. -/
inductive SourceKind where
  | script | module
  deriving DecidableEq, Repr

/-- The name used in data files. -/
def SourceKind.key : SourceKind → String
  | script => "script"
  | module => "module"

namespace Script

/-- The verdict on a tree: the first use that the target does not allow. -/
def judgeTree (tree : Node) (text : List Char) (target : Edition) : Except Failure Unit :=
  match disallowed tree text target with
  | [] => .ok ()
  | u :: _ =>
    let place := Text.lineColumn text u.offset
    .error (.unsupported u.feature target place.1 place.2)

/-- A parser: the tree of a text, or a message. -/
abbrev Reader := SourceKind → String → Except String Tree

namespace Reader

/-- The verdict on a script under a target edition. -/
def judge (read : Reader) (kind : SourceKind) (text : String) (target : Edition) :
    Except Failure Unit :=
  match read kind text with
  | .error message => .error (.unparsable message)
  | .ok tree => judgeTree tree text.toList target

/-- A verdict that uses an arena of the pool and gives it back. -/
def judgeWith (read : Reader) (pool : Pool) (kind : SourceKind) (text : String)
    (target : Edition) : Except Failure Unit × Pool :=
  (read.judge kind text target, pool.take.give)

end Reader

/-- The message of a text that does not parse. -/
def unparsableMessage : String := "parse error"

/-- The parser of this library, which says no more of a text without a tree. -/
def reader : Reader := fun kind text =>
  match parse (kind == .module) text.toList with
  | some tree => .ok tree
  | none => .error unparsableMessage

/-- The verdict on a script under a target edition, by that parser. -/
def judge : SourceKind → String → Edition → Except Failure Unit := reader.judge

end Script
end EditionCheck
