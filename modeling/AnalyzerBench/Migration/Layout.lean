import AnalyzerBench.Marker
import AnalyzerBench.Text.Lines

/-!
# Where the directives of a file stand

The first directive of a file fixes where the migrated block goes and what its lines look like.  All directives of the
file belong to the block, even if ordinary lines stand between them; those lines then come after the block.
-/

namespace AnalyzerBench.Migration

/-- The lines of a file, sorted by what becomes of them. -/
structure Layout where
  /-- The ordinary lines before the first directive. -/
  leading : List String
  /-- The first directive up to the colon after its marker. -/
  opening : String
  /-- How the line of the first directive ends. -/
  lineEnd : Text.LineEnd
  /-- The payloads of all directives. -/
  payloads : List String
  /-- The ordinary lines after the first directive. -/
  trailing : List String
  /-- The number of the first directive that stands after an ordinary line after the first directive. -/
  regathered : Option Nat
  deriving DecidableEq, Repr

/-- The number of the first directive after an ordinary line; `gap` tells whether there was one before these lines. -/
def directiveAfterGap? (m : Marker) : (gap : Bool) → (number : Nat) → List String → Option Nat
  | _, _, [] => none
  | gap, number, line :: lines =>
    match m.find? line with
    | some _ => if gap then some number else directiveAfterGap? m gap (number + 1) lines
    | none => directiveAfterGap? m true (number + 1) lines

namespace Layout

/-- The layout of the lines, the first of which has the number `number`; none if no line is a directive. -/
def ofLinesFrom? (m : Marker) : (number : Nat) → List String → Option Layout
  | _, [] => none
  | number, line :: lines =>
    match m.find? line with
    | some d => some {
        leading := []
        opening := d.opening
        lineEnd := Text.LineEnd.ofLine line
        payloads := d.payload :: lines.filterMap fun l => (m.find? l).map Directive.payload
        trailing := lines.filter fun l => (m.find? l).isNone
        regathered := directiveAfterGap? m false (number + 1) lines }
    | none => (ofLinesFrom? m (number + 1) lines).map fun l => { l with leading := line :: l.leading }

/-- The layout of the lines of a file; none if no line is a directive. -/
def ofLines? (m : Marker) (lines : List String) : Option Layout := ofLinesFrom? m 1 lines

end Layout

/-- The document that payloads make up: a line for each. -/
def documentOf (payloads : List String) : String := String.join (payloads.map (· ++ "\n"))

end AnalyzerBench.Migration
