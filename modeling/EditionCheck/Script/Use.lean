import EditionCheck.Feature
import EditionCheck.Script.Lexeme.Gap
import EditionCheck.Script.Tree
import EditionCheck.Text.Blank
import EditionCheck.Text.Suffixes

/-!
  Uses of newer constructs.

  A `Use` is a feature at a byte offset. `Node.asked` lists what the visitor of a node asks to
  record, from the kind of the node and, for some kinds, from the text that the tree was read from.
  `Use.sort` puts uses in the order of their offsets, where those at one offset stay as they are.
-/

namespace EditionCheck.Script

/-- A feature at a byte offset. -/
structure Use where
  feature : Feature
  offset : Nat
  deriving DecidableEq, Repr

/-- The text holds an escape `\u{`; a backslash takes the character behind it along. -/
def hasCodePointEscape : List Char → Bool
  | '\\' :: 'u' :: '{' :: _ => true
  | '\\' :: _ :: cs => hasCodePointEscape cs
  | _ :: cs => hasCodePointEscape cs
  | [] => false

/-- The offset of a comma that comes first in the text, after white space and comments. A comment to
the end of the line ends at a line feed only. -/
def leadingComma : Gap.Mode → Nat → List Char → Option Nat
  | _, _, [] => none
  | .block, n, '*' :: '/' :: cs => leadingComma .between (n + 2) cs
  | .block, n, c :: cs => leadingComma .block (n + c.utf8Size) cs
  | .line, n, c :: cs =>
    leadingComma (if c = '\n' then .between else .line) (n + c.utf8Size) cs
  | .between, n, '/' :: '/' :: cs => leadingComma .line (n + 2) cs
  | .between, n, '/' :: '*' :: cs => leadingComma .block (n + 2) cs
  | .between, n, c :: cs =>
    if Text.isBlank c then leadingComma .between (n + c.utf8Size) cs
    else if c = ',' then some n else none

/-- Groups of a regular expression that some edition added. -/
inductive NewGroup where
  | named | lookbehind
  deriving DecidableEq, Repr

/-- The new kind of group that the text opens, if it opens one. -/
def newGroup? : List Char → Option NewGroup
  | '(' :: '?' :: '<' :: '=' :: _ => some .lookbehind
  | '(' :: '?' :: '<' :: '!' :: _ => some .lookbehind
  | '(' :: '?' :: '<' :: _ => some .named
  | _ => none

/-- The new groups in the body of a regular expression with their offsets. A backslash takes the
character behind it along, and between brackets nothing is a group. -/
def newGroups : Bool → Nat → List Char → List (NewGroup × Nat)
  | _, _, [] => []
  | inClass, n, '\\' :: c :: cs => newGroups inClass (n + 1 + c.utf8Size) cs
  | inClass, n, c :: cs =>
    let inClass' := if c = '[' then true else if c = ']' then false else inClass
    let more := newGroups inClass' (n + c.utf8Size) cs
    match newGroup? (c :: cs) with
    | some kind => if inClass then more else (kind, n) :: more
    | none => more

/-- The offset of the first group of a kind in the body of a regular expression. -/
def firstGroup (kind : NewGroup) (body : List Char) : Option Nat :=
  ((newGroups false 0 body).find? fun p => p.1 = kind).map Prod.snd

/-- The flags of a regular expression literal: what follows its last slash. -/
def flagsOf (raw : List Char) : List Char :=
  if '/' ∈ raw then (raw.reverse.takeWhile (· ≠ '/')).reverse else []

/-- The body of a regular expression literal: what stands between its first byte and its last
slash. -/
def bodyOf (raw : List Char) : List Char :=
  match (raw.reverse.dropWhile (· ≠ '/')).reverse.dropLast with
  | c :: body => if c.utf8Size = 1 then body else []
  | [] => []

/-- The features of the flags of a regular expression. -/
def flagFeatures (flags : List Char) : List Feature :=
  (if flags.contains 'u' || flags.contains 'y' then [.stickyUnicodeFlag] else []) ++
    (if flags.contains 's' then [.dotAllFlag] else []) ++
    (if flags.contains 'd' then [.indicesFlag] else []) ++
    (if flags.contains 'v' then [.unicodeSetsFlag] else [])

/-- The features of a numeric literal. -/
def numberFeatures (raw : List Char) : List Feature :=
  (if raw.contains '_' then [.numericSeparator] else []) ++
    match raw.map Char.toLower with
    | '0' :: 'b' :: _ | '0' :: 'o' :: _ => [.binaryOctalLiteral]
    | _ => []

/-- The features of a name or a string. -/
def escapeFeatures (raw : List Char) : List Feature :=
  if hasCodePointEscape raw then [.codePointEscape] else []

/-- Some child is the rest of an object. -/
def hasRest (children : List Node) : Bool := children.any fun c => c.kind = .targetRest

/-- The features that the visitor of a node asks for at its start, which for some kinds the text of
the node decides. -/
def featuresAt (text : Text.Suffixes) (start stop : Nat) (children : List Node) :
    Kind → List Feature
  | .variableList .let | .variableList .const => [.letConst]
  | .variableList .using | .variableList .awaitUsing => [.usingDeclaration]
  | .arrow false => [.arrowFunction]
  | .arrow true => [.arrowFunction, .asyncFunction]
  | .function true true => [.asyncIteration]
  | .function true false => [.asyncFunction]
  | .function false true => [.generator]
  | .classSyntax => [.classSyntax]
  | .field => [.classFields]
  | .privateName => [.privateName]
  | .staticBlock => [.classStaticBlock]
  | .privateIn => [.privateIn]
  | .super => [.super]
  | .newTarget => [.newTarget]
  | .importMeta => [.importMeta]
  | .template => [.templateLiteral]
  | .taggedTemplate => [.taggedTemplate]
  | .spread | .objectSpread => [.spreadElement]
  | .property method shorthand computed =>
    (if method then [.objectMethod] else []) ++ (if shorthand then [.shorthandProperty] else []) ++
      (if computed then [.computedProperty] else [])
  | .accessor _ computed => if computed then [.computedProperty] else []
  | .objectPattern | .arrayPattern => [.destructuring]
  | .defaulted => [.defaultValue]
  | .restElement | .objectRest => [.restElement]
  | .arrayTarget => [.destructuring]
  | .objectTarget _ =>
    .destructuring :: (if hasRest children then [.objectRestSpread] else [])
  | .forOf false => [.forOf]
  | .forOf true => [.forOf, .asyncIteration]
  | .catch false => [.optionalCatchBinding]
  | .binary .power | .assignment .power => [.exponentOperator]
  | .assignment .and | .assignment .or | .assignment .coalesce => [.logicalAssignment]
  | .logical .coalesce => [.nullishCoalescing]
  | .chain => [.optionalChaining]
  | .importCall => [.dynamicImport]
  | .bigInt => [.bigInt]
  | .number => numberFeatures (text.slice start stop)
  | .string | .identifier _ => escapeFeatures (text.slice start stop)
  | .regExp => flagFeatures (flagsOf (text.slice start stop))
  | .importDeclaration | .exportNamed | .exportDefault | .exportAll => [.moduleSyntax]
  | _ => []

/-- The arguments of a call or of `new`. -/
def argumentsOf (children : List Node) : List Node :=
  ((children.find? fun c => c.kind = .arguments).map Node.children).getD []

/-- The element behind which a comma would be a trailing one: the last argument, or the last
parameter, unless it is the rest of them. -/
def lastElement? (k : Kind) (children : List Node) : Option Node :=
  match k with
  | .call | .new => (argumentsOf children).getLast?
  | .parameters => children.getLast?.filter fun c => c.kind ≠ .restElement
  | _ => none

/-- What the visitor of a node asks for at other places than its start: a comma behind the last
element of a list, and the new groups of a regular expression. -/
def usesInside (text : Text.Suffixes) (k : Kind) (start stop : Nat) (children : List Node) :
    List Use :=
  match lastElement? k children, k with
  | some last, _ =>
    match leadingComma .between 0 (text.suffix last.stop) with
    | some n => [⟨.trailingComma, last.stop + n⟩]
    | none => []
  | none, .regExp =>
    let body := bodyOf (text.slice start stop)
    let use := fun (f : Feature) (n : Option Nat) =>
      (n.map fun n => Use.mk f (start + 1 + n)).toList
    use .namedGroups (firstGroup .named body) ++ use .lookbehind (firstGroup .lookbehind body)
  | none, _ => []

/-- What the visitor of a node asks to record, whatever the target. -/
def Node.asked (text : Text.Suffixes) (n : Node) : List Use :=
  (featuresAt text n.start n.stop n.children n.kind).map (⟨·, n.start⟩) ++
    usesInside text n.kind n.start n.stop n.children

namespace Use

/-- Puts a use before the first one that does not come earlier. -/
def insert (u : Use) : List Use → List Use
  | [] => [u]
  | v :: vs => if u.offset ≤ v.offset then u :: v :: vs else v :: insert u vs

/-- The uses by offset; those at one offset keep their order. -/
def sort (us : List Use) : List Use := us.foldr insert []

end Use

end EditionCheck.Script
