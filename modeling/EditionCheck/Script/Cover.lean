import EditionCheck.Script.Tree

/-!
  Expressions read as patterns.

  Until `=`, `of`, `in` or `=>` comes, a pattern looks like an expression. `Node.target?` turns an
  expression into the target of an assignment and `Node.binding?` turns one into a pattern that
  binds names, if it has the form of one.
-/

namespace EditionCheck.Script.Node

mutual
/-- A variable or a property, perhaps in parentheses. -/
def isSimpleTarget : Node → Bool
  | node (.identifier _) _ _ _ => true
  | node .member _ _ _ => true
  | node .computedMember _ _ _ => true
  | node .privateMember _ _ _ => true
  | node .parenthesized _ _ cs => areSimpleTargets cs
  | _ => false

/-- Every tree is a variable or a property, perhaps in parentheses. -/
def areSimpleTargets : List Node → Bool
  | [] => true
  | c :: cs => c.isSimpleTarget && areSimpleTargets cs
end

mutual
/-- The expression as the target of an assignment. -/
def target? : Node → Option Node
  | node (.array trailingComma) a b cs =>
    (targetElements? trailingComma cs).map (node .arrayTarget a b)
  | node (.object trailingComma) a b cs =>
    (targetProperties? cs).map (node (.objectTarget trailingComma) a b)
  | e => if e.isSimpleTarget then some e else none

/-- The elements of an array as targets. A rest element comes last and no comma follows it. -/
def targetElements? (trailingComma : Bool) : List Node → Option (List Node)
  | [] => some []
  | node .hole a b cs :: rest => do
    return node .hole a b cs :: (← targetElements? trailingComma rest)
  | node .spread a b cs :: rest =>
    if rest.isEmpty && !trailingComma then do
      return [node .targetRest a b (← targets? cs)]
    else none
  | node (.assignment .set) a b cs :: rest => do
    return node .targetDefault a b cs :: (← targetElements? trailingComma rest)
  | c :: rest => do
    return (← c.target?) :: (← targetElements? trailingComma rest)

/-- The properties of an object as targets. A rest property comes last and is no pattern. -/
def targetProperties? : List Node → Option (List Node)
  | [] => some []
  | node (.property false true _) a b (_ :: value) :: rest => do
    return node .targetShorthand a b value :: (← targetProperties? rest)
  | node (.property false false _) a b (key :: node (.assignment .set) a' b' cs :: _) :: rest => do
    return node .targetProperty a b [key, node .targetDefault a' b' cs] ::
      (← targetProperties? rest)
  | node (.property false false _) a b (key :: value) :: rest => do
    return node .targetProperty a b (key :: (← targets? value)) :: (← targetProperties? rest)
  | node .shorthandDefault a b cs :: rest => do
    return node .targetShorthand a b cs :: (← targetProperties? rest)
  | node .objectSpread a b cs :: rest =>
    if rest.isEmpty && areSimpleTargets cs then some [node .targetRest a b cs] else none
  | _ :: _ => none

/-- Each expression as a target. -/
def targets? : List Node → Option (List Node)
  | [] => some []
  | c :: rest => do return (← c.target?) :: (← targets? rest)
end

mutual
/-- The expression or target as a pattern that binds names. -/
def binding? : Node → Option Node
  | node (.identifier name) a b cs => some (node (.identifier name) a b cs)
  | node (.array trailingComma) a b cs =>
    (bindingElements? trailingComma cs).map (node .arrayPattern a b)
  | node .arrayTarget a b cs => (bindingElements? false cs).map (node .arrayPattern a b)
  | node (.object trailingComma) a b cs =>
    (bindingProperties? trailingComma cs).map (node .objectPattern a b)
  | node (.objectTarget trailingComma) a b cs =>
    (bindingProperties? trailingComma cs).map (node .objectPattern a b)
  | _ => none

/-- The elements of an array, or a list of parameters, as patterns. -/
def bindingElements? (trailingComma : Bool) : List Node → Option (List Node)
  | [] => some []
  | node .hole a b cs :: rest => do
    return node .hole a b cs :: (← bindingElements? trailingComma rest)
  | node .restElement a b cs :: rest => do
    return node .restElement a b cs :: (← bindingElements? trailingComma rest)
  | node .spread a b cs :: rest =>
    if rest.isEmpty && !trailingComma then do
      return [node .restElement a b (← bindings? cs)]
    else none
  | node .targetRest a b cs :: rest => do
    return node .restElement a b (← bindings? cs) :: (← bindingElements? trailingComma rest)
  | node (.assignment .set) a b (left :: right) :: rest => do
    return node .defaulted a b ((← left.binding?) :: right) ::
      (← bindingElements? trailingComma rest)
  | node .targetDefault a b (left :: right) :: rest => do
    return node .defaulted a b ((← left.binding?) :: right) ::
      (← bindingElements? trailingComma rest)
  | c :: rest => do
    return (← c.binding?) :: (← bindingElements? trailingComma rest)

/-- The properties of an object as patterns. A rest property comes last, binds a name, and no
comma follows it. -/
def bindingProperties? (trailingComma : Bool) : List Node → Option (List Node)
  | [] => some []
  | node (.property false true _) a b cs :: rest => do
    return node .bindingProperty a b cs :: (← bindingProperties? trailingComma rest)
  | node (.property false false _) a b (key :: value) :: rest => do
    return node .bindingProperty a b (key :: (← bindingElements? false value)) ::
      (← bindingProperties? trailingComma rest)
  | node .targetProperty a b (key :: value) :: rest => do
    return node .bindingProperty a b (key :: (← bindingElements? false value)) ::
      (← bindingProperties? trailingComma rest)
  | node .targetShorthand a b [name] :: rest => do
    return node .bindingProperty a b [name, name] :: (← bindingProperties? trailingComma rest)
  | node .targetShorthand a b (name :: value) :: rest => do
    return node .bindingProperty a b [name, node .defaulted a b (name :: value)] ::
      (← bindingProperties? trailingComma rest)
  | node .shorthandDefault a b (name :: value) :: rest => do
    return node .bindingProperty a b [name, node .defaulted a b (name :: value)] ::
      (← bindingProperties? trailingComma rest)
  | node .objectSpread a b cs :: rest =>
    if rest.isEmpty && !trailingComma then
      (restName? cs).map fun cs => [node .objectRest a b cs]
    else none
  | node .targetRest a b cs :: rest =>
    if rest.isEmpty && !trailingComma then
      (restName? cs).map fun cs => [node .objectRest a b cs]
    else none
  | _ :: _ => none

/-- Each expression as a pattern. -/
def bindings? : List Node → Option (List Node)
  | [] => some []
  | c :: rest => do return (← c.binding?) :: (← bindings? rest)

/-- What a rest property binds: a bare name. -/
def restName? : List Node → Option (List Node)
  | [node (.identifier name) a b cs] => some [node (.identifier name) a b cs]
  | _ => none
end

mutual
/-- The names that a pattern binds, in source order. -/
def boundNames : Node → List String
  | node (.identifier name) _ _ _ => [name]
  | node .bindingProperty _ _ (_ :: value) => boundNamesOf value
  | node .defaulted _ _ (left :: _) => left.boundNames
  | node .arrayPattern _ _ cs => boundNamesOf cs
  | node .objectPattern _ _ cs => boundNamesOf cs
  | node .restElement _ _ cs => boundNamesOf cs
  | node .objectRest _ _ cs => boundNamesOf cs
  | node (.variableList _) _ _ cs => boundNamesOf cs
  | node .declarator _ _ (pattern :: _) => pattern.boundNames
  | _ => []

/-- The names that each pattern binds. -/
def boundNamesOf : List Node → List String
  | [] => []
  | c :: cs => c.boundNames ++ boundNamesOf cs
end

end EditionCheck.Script.Node
