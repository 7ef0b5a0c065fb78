import AnalyzerBench.Fault
import AnalyzerBench.Text.Blank
import AnalyzerBench.Text.Search

/-!
# Entries of a result dump

The analyzer dumps one `<identifier> -> <value>` pair a line.  The leftmost arrow separates the two, and both are
trimmed.  A value is printed as it is, or as one of the words for the top and the bottom of the lattice.
-/

namespace AnalyzerBench

/-- One pair of a result dump. -/
structure Entry where
  identifier : String
  value : String
  deriving DecidableEq, Repr

namespace Entry

/-- The top of the lattice. -/
def top : String := "top"

/-- The bottom of the lattice. -/
def bottom : String := "bottom"

def isTop (e : Entry) : Bool := e.value == top

def isBottom (e : Entry) : Bool := e.value == bottom

/-- The pair on a line, if the line holds an arrow. -/
def parse? (line : String) : Option Entry :=
  (Text.cutAt? "->" line).map fun (identifier, value) =>
    { identifier := Text.trim identifier, value := Text.trim value }

/-- The pair on the line with the given number. -/
def parse (line : String) (number : Nat) : Except Fault Entry :=
  match parse? line with
  | some e => .ok e
  | none => .error (.missingSeparator number (Text.trimEnd line))

end Entry

end AnalyzerBench
