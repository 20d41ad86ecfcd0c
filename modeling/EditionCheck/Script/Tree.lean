/-!
  Syntax trees of scripts.

  A node has some `Kind`, the byte offsets where it starts and stops, and its children in source
  order. The kinds name the constructs of the language; what belongs to the construct itself (an
  operator, `async`, a `get`) is an argument of its kind.

  A `Tree` is a node for a whole script in which every part stands where a part of its kind may:
  nothing below a literal or a name, a spread only among the properties of an object, and so on.
-/

namespace EditionCheck.Script

/-- Operators that write a variable. -/
inductive AssignOp where
  | set | add | subtract | multiply | divide | remainder | power | shiftLeft | shiftRight
  | shiftRightZero | bitAnd | bitXor | bitOr | and | or | coalesce
  deriving DecidableEq, Repr

/-- Operators with two operands that are both evaluated. -/
inductive BinaryOp where
  | bitOr | bitXor | bitAnd | equal | notEqual | same | notSame | less | lessEqual | greater
  | greaterEqual | instanceOf | member | shiftLeft | shiftRight | shiftRightZero | add | subtract
  | multiply | divide | remainder | power
  deriving DecidableEq, Repr

/-- Operators that may skip their second operand. -/
inductive LogicalOp where
  | and | or | coalesce
  deriving DecidableEq, Repr

/-- How a variable declaration begins. -/
inductive Declarator where
  | var | let | const | using | awaitUsing
  deriving DecidableEq, Repr

/-- What a property or a class member does when it is not a plain value. -/
inductive Access where
  | get | set
  deriving DecidableEq, Repr

/-- The kinds of construct. -/
inductive Kind where
  -- the whole script
  | program | hashbang
  -- leaves
  | identifier (name : String)
  | privateName | string | number | bigInt | regExp | keywordLiteral | this | super | newTarget
  | importMeta | hole
  -- literals with parts
  | template
  | array (trailingComma : Bool)
  | object (trailingComma : Bool)
  | property (method shorthand computed : Bool)
  | accessor (access : Access) (computed : Bool)
  /-- A shorthand with an initialiser, legal only until it becomes part of a pattern. -/
  | shorthandDefault
  | spread | objectSpread
  -- functions and classes
  | function (async generator : Bool)
  | parameters | functionBody
  | arrow (async : Bool)
  /-- Parameters in front of an arrow that has not been read yet. -/
  | arrowHead (async : Bool)
  | classSyntax | method | field | accessorField | staticBlock | decorator
  -- binding patterns
  | objectPattern | arrayPattern | bindingProperty | defaulted | restElement | objectRest
  -- assignment targets
  | objectTarget (trailingComma : Bool)
  | arrayTarget | targetProperty | targetShorthand | targetDefault | targetRest
  -- expressions
  | parenthesized | sequence | conditional | unary | update | await | yield
  | assignment (op : AssignOp)
  | binary (op : BinaryOp)
  | logical (op : LogicalOp)
  | privateIn
  | member | computedMember | privateMember
  | call | new | arguments
  | chain
  | taggedTemplate
  | importCall
  -- statements
  | variableList (how : Declarator)
  | declarator | expressionStatement | block | empty | ifElse | forLoop | forIn
  | forOf (await : Bool)
  | while | doWhile | return | break | continue | throw | try
  | catch (bound : Bool)
  | switch | case | labeled | with | debugger
  -- module items
  | importDeclaration | importSpecifier | attributes | importAttribute
  | exportNamed | exportSpecifier | exportDefault | exportAll
  deriving DecidableEq, Repr

/-- A construct, the byte offsets of its text and its parts. -/
inductive Node where
  | node (kind : Kind) (start stop : Nat) (children : List Node)
  deriving Repr

namespace Node

/-- The kind of construct. -/
def kind : Node → Kind
  | node k _ _ _ => k

/-- The byte offset of the first byte. -/
def start : Node → Nat
  | node _ a _ _ => a

/-- The byte offset after the last byte. -/
def stop : Node → Nat
  | node _ _ b _ => b

/-- The parts, in source order. -/
def children : Node → List Node
  | node _ _ _ cs => cs

instance : Inhabited Node := ⟨node .empty 0 0 []⟩

mutual
/-- The node and everything below it, parents before children. -/
def nodes : Node → List Node
  | node k a b cs => node k a b cs :: nodesOf cs

/-- The nodes of each tree in turn. -/
def nodesOf : List Node → List Node
  | [] => []
  | c :: cs => c.nodes ++ nodesOf cs
end

end Node

/-! ## Scripts -/

namespace Kind

/-- The construct has no parts. -/
def isLeaf : Kind → Bool
  | .hashbang | .identifier _ | .privateName | .string | .number | .bigInt | .regExp
  | .keywordLiteral | .this | .super | .newTarget | .importMeta | .hole | .empty | .debugger => true
  | _ => false

/-- The construct is an object literal. -/
def isObject : Kind → Bool
  | .object _ => true
  | _ => false

/-- A construct may have a part of the second kind. What only looks ahead to a pattern or an arrow
is part of nothing. -/
def admits (outer : Kind) : Kind → Bool
  | .program | .shorthandDefault | .arrowHead _ => false
  | .hashbang => outer = .program
  | .property _ _ _ | .accessor _ _ | .objectSpread => outer.isObject
  | .bindingProperty | .objectRest => outer = .objectPattern
  | _ => !outer.isLeaf && !outer.isObject && outer ≠ .objectPattern

end Kind

/-- Every part of the node, at any depth, is one that the construct around it may have. -/
def Node.Formed (n : Node) : Prop :=
  ∀ m ∈ n.nodes, ∀ c ∈ m.children, m.kind.admits c.kind = true

instance (n : Node) : Decidable n.Formed := inferInstanceAs (Decidable (∀ _ ∈ _, ∀ _ ∈ _, _))

/-- The tree of a script. -/
structure Tree where
  root : Node
  isProgram : root.kind = .program
  formed : root.Formed

instance : Coe Tree Node := ⟨Tree.root⟩
end EditionCheck.Script
