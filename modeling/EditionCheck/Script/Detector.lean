import EditionCheck.Script.Use

/-!
  The detector: a visitor for each construct that records what a target does not allow.

  Every visitor first asks to record the features of its construct (`Node.asked`), and `record`
  drops what the target allows. Then it goes on to the parts, in the way that `Kind.walk` says. Most
  visitors go on to all parts. Those of literals, of names, of `super` and of the properties of a
  module go on to none. Those of an object literal and of an object pattern take up a spread or a
  rest themselves: they record it as one of an object and go on to its argument, so that the visitor
  of other spreads never meets it.
-/

namespace EditionCheck.Script

/-- How the visitor of a construct goes on to its parts. -/
inductive Walk where
  /-- To every part, in order. -/
  | all
  /-- To no part. -/
  | none
  /-- To every part, in order, where a part of this kind has its argument visited in its place. -/
  | unpacking (part : Kind)
  deriving DecidableEq, Repr

/-- How the visitor of each construct goes on to its parts. -/
def Kind.walk : Kind → Walk
  | .identifier _ | .privateName | .super | .newTarget | .importMeta => .none
  | .string | .number | .bigInt | .regExp => .none
  | .object _ => .unpacking .objectSpread
  | .objectPattern => .unpacking .objectRest
  | _ => .all

/-- The text that a tree was read from, and the target. -/
structure Detector where
  text : Text.Suffixes
  target : Edition

namespace Detector

/-- A detector for a text and a target. -/
def of (text : List Char) (target : Edition) : Detector := ⟨.ofText text, target⟩

/-- Records a use, unless the target allows its feature. -/
def record (d : Detector) (u : Use) : List Use :=
  if u.feature.allowedIn d.target then [] else [u]

mutual
/-- What the visitor of a node and the visitors that it calls record. -/
def visit (d : Detector) : Node → List Use
  | .node k a b cs =>
    ((Node.node k a b cs).asked d.text).flatMap d.record ++
      match k.walk with
      | .all => visitAll d cs
      | .none => []
      | .unpacking part => visitUnpacking d part cs

/-- What the visitors of several nodes record, one after the other. -/
def visitAll (d : Detector) : List Node → List Use
  | [] => []
  | c :: cs => visit d c ++ visitAll d cs

/-- What is recorded for the parts of an object: for a spread or a rest that it is one of an object,
and what its argument brings. -/
def visitUnpacking (d : Detector) (part : Kind) : List Node → List Use
  | [] => []
  | .node k a b cs :: more =>
    (if k = part then d.record ⟨.objectRestSpread, a⟩ ++ visitAll d cs
      else visit d (.node k a b cs)) ++ visitUnpacking d part more
end

end Detector

/-- The first line of a script that names an interpreter. -/
def hashbang? (tree : Node) : Option Node := tree.children.head?.filter fun c => c.kind = .hashbang

/-- What the detector asks to record for the first line of a script. -/
def hashbangUses (tree : Node) : List Use :=
  ((hashbang? tree).map fun line => Use.mk .hashbang line.start).toList

/-- The uses in a script that a target does not allow, by offset. -/
def disallowed (tree : Node) (text : List Char) (target : Edition) : List Use :=
  let d := Detector.of text target
  Use.sort ((hashbangUses tree).flatMap d.record ++ d.visit tree)

end EditionCheck.Script
