import AnalyzerBench.Text.Quoted

/-!
# Reports of a check

A check reports its findings in the order in which they are made.  Its verdict is that of the last finding about the
target; findings about bottoms alone give none.
-/

namespace AnalyzerBench

/-- A finding of a check. -/
inductive Diagnostic where
  /-- A value is the bottom. -/
  | bottom (identifier : String)
  /-- The target is the top: sound, but not the precision that was asked for. -/
  | topOverride (identifier expected : String)
  /-- The target has the expected value. -/
  | matched (identifier value : String)
  /-- The target has another value. -/
  | mismatch (identifier actual expected : String)
  /-- The target does not occur. -/
  | targetMissing (target : String)
  deriving DecidableEq, Repr

/-- The outcome of a check. -/
inductive Verdict where
  /-- No target was given. -/
  | unchecked
  | pass
  /-- The target is the top. -/
  | sound
  | fail
  | missing
  deriving DecidableEq, Repr

/-- Whether a verdict is a failure. -/
def Verdict.isFailure : Verdict → Bool
  | .fail | .missing => true
  | _ => false

namespace Diagnostic

/-- A finding in words. -/
def message : Diagnostic → String
  | bottom identifier => "warning: " ++ identifier ++ " is bottom (unreachable, or the analysis lost it)"
  | topOverride identifier expected =>
    identifier ++ " is top: sound, but possibly not what was intended (expected " ++ expected ++ ")"
  | matched identifier value => "ok: " ++ identifier ++ " -> " ++ value
  | mismatch identifier actual expected => "FAIL: " ++ identifier ++ " -> " ++ actual ++ ", expected " ++ expected
  | targetMissing target => "FAIL: " ++ target ++ " does not appear in the results"

/-- A named part of a finding in a log. -/
private def loggedField (name value : String) : String := name ++ ": " ++ Text.quoted value

/-- A finding in a log. -/
def logged : Diagnostic → String
  | bottom identifier => "Bottom \x7b " ++ loggedField "identifier" identifier ++ " \x7d"
  | topOverride identifier expected =>
    "TopOverride \x7b " ++ loggedField "identifier" identifier ++ ", " ++ loggedField "expected" expected ++ " \x7d"
  | matched identifier value =>
    "Match \x7b " ++ loggedField "identifier" identifier ++ ", " ++ loggedField "value" value ++ " \x7d"
  | mismatch identifier actual expected =>
    "Mismatch \x7b " ++ loggedField "identifier" identifier ++ ", " ++ loggedField "actual" actual ++ ", " ++
      loggedField "expected" expected ++ " \x7d"
  | targetMissing target => "TargetMissing \x7b " ++ loggedField "target" target ++ " \x7d"

/-- The verdict that a finding about the target gives. -/
def verdict? : Diagnostic → Option Verdict
  | bottom _ => none
  | topOverride _ _ => some .sound
  | matched _ _ => some .pass
  | mismatch _ _ _ => some .fail
  | targetMissing _ => some .missing

/-- The identifier of a finding about a bottom. -/
def bottom? : Diagnostic → Option String
  | bottom identifier => some identifier
  | _ => none

end Diagnostic

/-- The findings of a check and the count of entries that were looked at. -/
structure Report where
  diagnostics : List Diagnostic := []
  scanned : Nat := 0
  deriving DecidableEq, Repr

namespace Report

/-- The verdict of the last finding that gives one. -/
def verdict (r : Report) : Verdict := (r.diagnostics.reverse.findSome? Diagnostic.verdict?).getD .unchecked

/-- The identifiers whose value is the bottom, in order. -/
def bottoms (r : Report) : List String := r.diagnostics.filterMap Diagnostic.bottom?

end Report

end AnalyzerBench
