import AnalyzerBench.Log
import AnalyzerBench.Marker
import AnalyzerBench.Text.Lines

/-!
# Extracting payloads

The payloads of all directives are collected in the order of the lines.  Every line has to be complete: a line without
its line feed means that the file was cut off, and then nothing is extracted.
-/

namespace AnalyzerBench

/-- The payloads of the directives among the lines, the first of which has the number `number`. -/
def extractFrom (m : Marker) : (number : Nat) → List String → Run (List String)
  | _, [] => pure []
  | number, line :: lines =>
    if Text.isTerminated line then
      match m.find? line with
      | some d => do
        Run.say (.directive number d.payload)
        let payloads ← extractFrom m (number + 1) lines
        pure (d.payload :: payloads)
      | none => extractFrom m (number + 1) lines
    else Run.fault (.missingTerminator number)

/-- The payloads of the directives among the lines. -/
def extract (m : Marker) (lines : List String) : Run (List String) := extractFrom m 1 lines

/-- The payloads of the directives of a text. -/
def extractText (m : Marker) (text : String) : Run (List String) := extract m (Text.lines text)

end AnalyzerBench
