import AnalyzerBench.Text.Blank
import AnalyzerBench.Text.Search

/-!
# Directives in annotated files

A directive is a line that holds the marker token and a colon after it.  What stands before the token opens a comment
of the host language and does not matter, so the same channel works for any host language.  The payload is the trimmed
text after the leftmost marker.
-/

namespace AnalyzerBench

/-- The token that marks a directive. -/
structure Marker where
  token : String := "CONFIG"
  deriving DecidableEq, Repr

/-- A line that holds a marker. -/
structure Directive where
  /-- The line up to the colon after the marker. -/
  opening : String
  /-- The trimmed text after the colon; it may be empty. -/
  payload : String
  deriving DecidableEq, Repr

namespace Marker

/-- The token and its colon. -/
def needle (m : Marker) : String := m.token ++ ":"

/-- Whether a line is a directive. -/
def isDirective (m : Marker) (line : String) : Bool := Text.contains m.needle line

/-- The directive on a line. -/
def find? (m : Marker) (line : String) : Option Directive :=
  (Text.cutAt? m.needle line).map fun (before, after) =>
    { opening := before ++ m.needle, payload := Text.trim after }

end Marker

end AnalyzerBench
