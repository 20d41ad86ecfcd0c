/-!
  Glob patterns over names.

  `?` stands for one character and `*` for any number, slashes included; a bracketed class stands
  for one character in it, or outside it after `!`; `**` stands for whole components.
  `Glob.ofString` reads a pattern or says where it is wrong, counting characters; `Glob.accepts`
  decides whether a pattern covers a whole name.
-/

namespace EditionCheck

namespace Glob

/-- A member of a class: every character from `low` to `high`. -/
structure Span where
  low : Char
  high : Char
  deriving DecidableEq, Repr

/-- A piece of a pattern. -/
inductive Token where
  | one (c : Char)
  | anyOne
  | anyRun
  /-- Whole components. -/
  | components
  | within (spans : List Span)
  | outside (spans : List Span)
  deriving DecidableEq, Repr

/-- What is wrong with a pattern. -/
inductive Cause where
  | threeStars
  | partialComponent
  | badClass
  deriving DecidableEq, Repr

/-- The wording of a cause. -/
def Cause.text : Cause → String
  | threeStars => "wildcards are either regular \x60*\x60 or recursive \x60**\x60"
  | partialComponent => "recursive wildcards must form a single path component"
  | badClass => "invalid range pattern"

/-- A cause with its place, counted in characters from 0. -/
structure Fault where
  cause : Cause
  position : Nat
  deriving DecidableEq, Repr

/-- The wording of a fault. -/
def Fault.message (e : Fault) : String :=
  "Pattern syntax error near position " ++ toString e.position ++ ": " ++ e.cause.text

/-- The members of a class. -/
def spans : List Char → List Span
  | a :: '-' :: b :: rest => ⟨a, b⟩ :: spans rest
  | a :: rest => ⟨a, a⟩ :: spans rest
  | [] => []

/-- The class after an opening bracket, how many characters it takes, and what follows it. A
closing bracket that comes first is a member. -/
def class? (cs : List Char) : Option (Token × Nat × List Char) :=
  match cs with
  | '!' :: first :: rest =>
    let inner := rest.takeWhile (· ≠ ']')
    match rest.drop inner.length with
    | _ :: after => some (.outside (spans (first :: inner)), inner.length + 3, after)
    | [] => none
  | '!' :: [] => none
  | first :: rest =>
    let inner := rest.takeWhile (· ≠ ']')
    match rest.drop inner.length with
    | _ :: after => some (.within (spans (first :: inner)), inner.length + 2, after)
    | [] => none
  | [] => none

/-- One more `**` after the tokens read so far, the last one first; two that follow each other are
one. -/
def addComponents (seen : List Token) : List Token :=
  match seen with
  | .components :: _ :: _ => seen
  | _ => .components :: seen

/-- The pattern read from `cs`, which stands at position `pos` behind character `before`; `seen`
holds the tokens so far, the last one first. The first argument bounds the number of tokens. -/
def scan : Nat → Nat → Option Char → List Token → List Char → Except Fault (List Token)
  | 0, _, _, seen, _ => .ok seen.reverse
  | _ + 1, _, _, seen, [] => .ok seen.reverse
  | fuel + 1, pos, before, seen, c :: cs =>
    match c, cs with
    | '?', _ => scan fuel (pos + 1) (some '?') (.anyOne :: seen) cs
    | '*', '*' :: '*' :: _ => .error ⟨.threeStars, pos + 2⟩
    | '*', '*' :: rest =>
      if before.isNone || before == some '/' then
        match rest with
        | [] => scan fuel (pos + 2) (some '*') (addComponents seen) []
        | '/' :: rest' => scan fuel (pos + 3) (some '/') (addComponents seen) rest'
        | _ => .error ⟨.partialComponent, pos + 2⟩
      else .error ⟨.partialComponent, pos - 1⟩
    | '*', _ => scan fuel (pos + 1) (some '*') (.anyRun :: seen) cs
    | '[', _ =>
      match class? cs with
      | some (t, width, rest) => scan fuel (pos + 1 + width) (some ']') (t :: seen) rest
      | none => .error ⟨.badClass, pos⟩
    | _, _ => scan fuel (pos + 1) (some c) (.one c :: seen) cs

/-! ## Matching -/

/-- How an attempt to match ends. -/
inductive Outcome where
  | matched
  | mismatch
  /-- The name ended too early, so that no longer run helps either. -/
  | exhausted
  deriving DecidableEq, Repr

/-- The character is in one of the spans. -/
def inSpans (ss : List Span) (c : Char) : Bool := ss.any fun s => s.low ≤ c && c ≤ s.high

/-- A piece that stands for one character covers `c`. -/
def Token.covers : Token → Char → Bool
  | one d, c => c == d
  | within ss, c => inSpans ss c
  | outside ss, c => !inSpans ss c
  | _, _ => true

/-- The first attempt that does not mismatch, over ever longer runs taken off the name; at whole
components only runs that end with a slash are tried. -/
def attempts (rest : List Char → Outcome) (whole : Bool) : List Char → Outcome
  | [] => rest []
  | c :: cs =>
    if whole && c ≠ '/' then attempts rest whole cs
    else
      match rest cs with
      | .mismatch => attempts rest whole cs
      | r => r

/-- The outcome of matching a name. -/
def outcome : List Token → List Char → Outcome
  | [], [] => .matched
  | [], _ :: _ => .mismatch
  | .anyRun :: ts, cs =>
    match outcome ts cs with
    | .mismatch => attempts (outcome ts) false cs
    | r => r
  | .components :: ts, cs =>
    match outcome ts cs with
    | .mismatch => attempts (outcome ts) true cs
    | r => r
  | _ :: _, [] => .exhausted
  | t :: ts, c :: cs => if t.covers c then outcome ts cs else .mismatch

end Glob

/-- A pattern with the text it was read from. -/
structure Glob where
  text : String
  tokens : List Glob.Token
  deriving DecidableEq, Repr

namespace Glob

/-- The pattern written as `s`. -/
def ofString (s : String) : Except Fault Glob :=
  match scan (s.toList.length + 1) 0 none [] s.toList with
  | .ok ts => .ok ⟨s, ts⟩
  | .error e => .error e

/-- The pattern covers the whole name. -/
def accepts (g : Glob) (name : String) : Bool := outcome g.tokens name.toList == .matched

end Glob
end EditionCheck
