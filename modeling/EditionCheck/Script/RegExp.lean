import EditionCheck.Script.RegExp.Pattern

/-!
  Well-formed regular expressions.

  `accepts` tells whether a body and flags make one: no flag is unknown or repeated, the body is a
  pattern, what the pattern refers to exists, and no two groups that can take part in one match have
  the same name.
-/

namespace EditionCheck.Script.RegExp

mutual
/-- The groups of a term with their offsets, in source order. -/
def Term.groups : Term → List (GroupKind × Nat)
  | .group kind offset inner => (kind, offset) :: groupsOfAlternatives inner
  | _ => []

/-- The groups of a sequence of terms. -/
def groupsOfTerms : List Term → List (GroupKind × Nat)
  | [] => []
  | t :: ts => t.groups ++ groupsOfTerms ts

/-- The groups of alternatives. -/
def groupsOfAlternatives : List (List Term) → List (GroupKind × Nat)
  | [] => []
  | ts :: rest => groupsOfTerms ts ++ groupsOfAlternatives rest
end

/-- The groups of a pattern with their offsets, in source order. -/
def Pattern.groups (p : Pattern) : List (GroupKind × Nat) := groupsOfAlternatives p

/-- The names of groups. -/
def Pattern.names (p : Pattern) : List String :=
  p.groups.filterMap fun g =>
    match g.1 with
    | .named name => some name
    | _ => none

/-- The number of groups that keep what they match. -/
def Pattern.captures (p : Pattern) : Nat :=
  p.groups.countP fun g =>
    match g.1 with
    | .capturing | .named _ => true
    | _ => false

mutual
/-- The names that a term binds, or nothing if one name is bound twice in one match. -/
def Term.bound : Term → Option (List String)
  | .group (.named name) _ inner => do
    let names ← boundByAlternatives inner
    if names.contains name then none else some (name :: names)
  | .group _ _ inner => boundByAlternatives inner
  | _ => some []

/-- The names that a sequence of terms binds; all of them take part in one match. -/
def boundByTerms : List Term → Option (List String)
  | [] => some []
  | t :: ts => do
    let first ← t.bound
    let more ← boundByTerms ts
    if first.any more.contains then none else some (first ++ more)

/-- The names that alternatives bind; only one of them takes part in a match. -/
def boundByAlternatives : List (List Term) → Option (List String)
  | [] => some []
  | ts :: rest => do return (← boundByTerms ts) ++ (← boundByAlternatives rest)
end

mutual
/-- Every reference in a term satisfies `p`. -/
def Term.references (p : Term → Bool) : Term → Bool
  | .group _ _ inner => alternativesReference p inner
  | t => p t

/-- Every reference in a sequence of terms satisfies `p`. -/
def termsReference (p : Term → Bool) : List Term → Bool
  | [] => true
  | t :: ts => t.references p && termsReference p ts

/-- Every reference in alternatives satisfies `p`. -/
def alternativesReference (p : Term → Bool) : List (List Term) → Bool
  | [] => true
  | ts :: rest => termsReference p ts && alternativesReference p rest
end

/-- Every reference refers to a group. In the older mode a number that is no group's is a character
code. -/
def Pattern.refersWell (m : Mode) (p : Pattern) : Bool :=
  let captures := p.captures
  let names := p.names
  alternativesReference (fun t =>
    match t with
    | .backReference n => !m.unicode || n ≤ captures
    | .namedReference name => names.contains name
    | _ => true) p

/-- The pattern that a body is under the given flags. Where a group has a name, `\k` refers to one
in every mode. -/
def pattern? (body flags : List Char) : Option Pattern :=
  let unicode := flags.contains 'u' || flags.contains 'v'
  let m : Mode := ⟨unicode, flags.contains 'v', unicode⟩
  match Pattern.read m body with
  | none => none
  | some p =>
    let m := { m with named := unicode || !p.names.isEmpty }
    match Pattern.read m body with
    | none => none
    | some p => if p.refersWell m && (boundByAlternatives p).isSome then some p else none

/-- The flags are known, none comes twice, and the two Unicode modes are not combined. -/
def flagsOk (flags : List Char) : Bool :=
  flags.all "dgimsuvy".toList.contains && flags.eraseDups == flags &&
    !(flags.contains 'u' && flags.contains 'v')

/-- The body and the flags make a regular expression. -/
def accepts (body flags : List Char) : Bool := flagsOk flags && (pattern? body flags).isSome

end EditionCheck.Script.RegExp
