/-!
# Lines

A line ends after its line feed and keeps it; the last line may lack one.  So the lines of a text, put together, are
the text, and the empty text has no lines.  A carriage return before the line feed is an ordinary character here.
-/

namespace AnalyzerBench.Text

namespace Chars

/-- The lines of `cs`, each with its line feed. -/
def lines : List Char → List (List Char)
  | [] => []
  | c :: cs =>
    if c = '\n' then [c] :: lines cs
    else match lines cs with
      | [] => [[c]]
      | l :: ls => (c :: l) :: ls

end Chars

/-- The lines of a text, each with its line feed. -/
def lines (s : String) : List String := (Chars.lines s.toList).map String.ofList

/-- Whether a line is complete, that is ends in a line feed. -/
def isTerminated (line : String) : Bool := line.toList.getLast? == some '\n'

/-- How a line ends: with a line feed alone, or with a carriage return before it. -/
inductive LineEnd where
  | lf
  | crlf
  deriving DecidableEq, Repr

/-- The characters of a line end. -/
def LineEnd.text : LineEnd → String
  | .lf => "\n"
  | .crlf => "\r\n"

/-- The line end of a line; a line without a line feed counts as ending in a line feed alone. -/
def LineEnd.ofLine (line : String) : LineEnd :=
  match line.toList.reverse with
  | '\n' :: '\r' :: _ => .crlf
  | _ => .lf

end AnalyzerBench.Text
