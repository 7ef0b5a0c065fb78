import AnalyzerBench.Yaml.Cursor

/-!
# Gaps between the words of a scalar

Plain and quoted scalars may go on over several lines.  The blanks and line breaks between two words are a gap, which
is folded: blanks within a line stay, a single line break becomes a space, and of several breaks all but the first
stay.  Only the separators of lines and paragraphs are never folded away.
-/

namespace AnalyzerBench.Yaml

/-- The blanks and line breaks between two words of a scalar. -/
structure Gap where
  /-- Whether the gap holds a line break; blanks after it count as indentation. -/
  broken : Bool := false
  /-- The blanks before any line break. -/
  blanks : List Char := []
  /-- What the first line break leaves. -/
  first : List Char := []
  /-- What the further line breaks leave. -/
  later : List Char := []
  deriving Repr

namespace Gap

/-- The gap with one more blank. -/
def addBlank (g : Gap) (c : Char) : Gap := if g.broken then g else { g with blanks := g.blanks ++ [c] }

/-- The gap with one more line break. -/
def addBreak (g : Gap) (kept : List Char) : Gap :=
  if g.broken then { g with later := g.later ++ kept } else { broken := true, first := kept, later := g.later }

/-- What a gap leaves in the scalar. -/
def text (g : Gap) : List Char :=
  if !g.broken then g.blanks
  else if g.first = ['\n'] then (if g.later.isEmpty then [' '] else g.later)
  else g.first ++ g.later

/-- Extends the gap by the blanks and breaks that come next; a tab that indents a line short of the column `margin` is
refused. -/
def readWithin (margin : Nat) : (steps : Nat) → Gap → Cursor → Option (Gap × Cursor)
  | 0, _, _ => none
  | steps + 1, g, c =>
    match c.rest with
    | [] => some (g, c)
    | x :: _ =>
      if isBlank x then
        if g.broken && x == '\t' && c.column < margin then none
        else readWithin margin steps (g.addBlank x) (c.advance 1)
      else if isBreak x then
        let (kept, c) := c.takeBreak
        readWithin margin steps (g.addBreak kept) c
      else some (g, c)

/-- Extends the gap by all blanks and breaks that come next. -/
def read (margin : Nat) (g : Gap) (c : Cursor) : Option (Gap × Cursor) :=
  readWithin margin (c.rest.length + 1) g c

end Gap

end AnalyzerBench.Yaml
