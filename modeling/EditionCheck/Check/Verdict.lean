import EditionCheck.Feature
import EditionCheck.Package.Manifest

/-!
  What a check finds out about one dependency.
-/

namespace EditionCheck

/-- Why a dependency was left unjudged. -/
inductive Reason where
  | manifestUnreadable (message : String)
  | noEntryScript
  | scriptUnreadable (message : String)
  | ignored (pattern : String)
  deriving DecidableEq, Repr

/-- The wording of a reason. -/
def Reason.describe : Reason → String
  | manifestUnreadable m => "package.json unreadable: " ++ m
  | noEntryScript => "no entry script found"
  | scriptUnreadable m => "entry script unreadable: " ++ m
  | ignored p => "ignored by pattern '" ++ p ++ "'"

/-- The outcome for one dependency. -/
inductive Verdict where
  | conforming
  | nonConforming (failure : Failure)
  | unchecked (reason : Reason)
  deriving DecidableEq, Repr

namespace Verdict

/-- The name of an outcome. -/
def label : Verdict → String
  | conforming => "conforming"
  | nonConforming _ => "non-conforming"
  | unchecked _ => "unchecked"

/-- The dependency fails. -/
def isNonConforming : Verdict → Bool
  | nonConforming _ => true
  | _ => false

end Verdict

/-- The outcome for a dependency, with the script that was looked at. -/
structure Finding where
  name : String
  kind : DependencyKind
  entryScript : Option Path
  verdict : Verdict
  deriving DecidableEq, Repr

end EditionCheck
