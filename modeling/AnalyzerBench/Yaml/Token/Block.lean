import AnalyzerBench.Text.Digits
import AnalyzerBench.Yaml.Cursor

/-!
# Block scalars

A block scalar starts on the line after its indicator and takes all lines that are indented as deep as its first one.
Literal scalars keep their line breaks; folded ones join lines that are neither empty nor indented deeper.  The
indicator may fix the indentation and says what becomes of the line breaks at the end.
-/

namespace AnalyzerBench.Yaml.Block

/-- What becomes of the line breaks at the end of a block scalar. -/
inductive Chomping where
  | strip
  | clip
  | keep
  deriving DecidableEq, Repr

/-- The marks after the indicator of a block scalar. -/
structure Header where
  chomping : Chomping := .clip
  /-- The indentation relative to the block around the scalar, if given. -/
  increment : Nat := 0
  deriving Repr

/-- A chomping mark. -/
def chomping? : Char → Option Chomping
  | '+' => some .keep
  | '-' => some .strip
  | _ => none

/-- An indentation mark, if one comes next; zero is refused. -/
def increment? (c : Cursor) : Option (Nat × Cursor) :=
  match c.head?.bind (Text.digitIn? 10) with
  | none => some (0, c)
  | some 0 => none
  | some n => some (n, c.advance 1)

/-- A chomping mark, if one comes next; without one, line breaks at the end are clipped. -/
def takeChomping (c : Cursor) : Chomping × Cursor :=
  match c.head?.bind chomping? with
  | some chomping => (chomping, c.advance 1)
  | none => (.clip, c)

/-- The marks after the indicator, in either order, and the start of the next line. -/
def header? (c : Cursor) : Option (Header × Cursor) := do
  if (c.head?.bind chomping?).isSome then
    let (chomping, c) := takeChomping c
    let (increment, c) ← increment? c
    let c ← c.finishLine?
    some ({ chomping, increment }, c)
  else
    let (increment, c) ← increment? c
    let (chomping, c) := takeChomping c
    let c ← c.finishLine?
    some ({ chomping, increment }, c)

/-- The place after the indentation: at most `indent` spaces, or all spaces while `indent` is unknown, that is 0. -/
def skipIndent (indent : Nat) (c : Cursor) : Cursor :=
  let spaces := (c.rest.takeWhile (· == ' ')).length
  c.advance (if indent = 0 then spaces else min spaces (indent - c.column))

/-- Reads empty lines and the indentation of the next other line.  An unknown indentation is set to the deepest one
met, but no less than `margin` and one. -/
def breaksWithin (margin indent : Nat) :
    (steps deepest : Nat) → (breaks : List Char) → Cursor → Option (Nat × List Char × Cursor)
  | 0, _, _, _ => none
  | steps + 1, deepest, breaks, c =>
    let c := skipIndent indent c
    let deepest := max deepest c.column
    if (indent == 0 || c.column < indent) && c.sees '\t' then none
    else if c.atBreak then
      let (kept, c) := c.takeBreak
      breaksWithin margin indent steps deepest (breaks ++ kept) c
    else some (if indent = 0 then max (max deepest margin) 1 else indent, breaks, c)

/-- The indentation, the line breaks of the empty lines here and the place after the next indentation. -/
def breaks? (margin indent : Nat) (c : Cursor) : Option (Nat × List Char × Cursor) :=
  breaksWithin margin indent (c.rest.length + 1) 0 [] c

/-- A block scalar while it is read. -/
structure Lines where
  text : List Char := []
  /-- The line break after the last line. -/
  first : List Char := []
  /-- The line breaks of the empty lines after it. -/
  later : List Char := []
  /-- Whether the last line starts with a blank. -/
  indented : Bool := false

/-- The text before the next line, where `indented` tells whether that line starts with a blank. -/
def Lines.joined (l : Lines) (folded indented : Bool) : List Char :=
  if folded && l.first = ['\n'] && !l.indented && !indented then
    l.text ++ (if l.later.isEmpty then [' '] else []) ++ l.later
  else l.text ++ l.first ++ l.later

/-- The text with the line breaks at its end treated as the header says. -/
def Lines.chomp (l : Lines) : Chomping → List Char
  | .strip => l.text
  | .clip => l.text ++ l.first
  | .keep => l.text ++ l.first ++ l.later

/-- Reads the lines of the scalar. -/
def linesWithin (folded : Bool) (margin indent : Nat) : (steps : Nat) → Lines → Cursor → Option (Lines × Cursor)
  | 0, _, _ => none
  | steps + 1, l, c =>
    if c.column != indent || c.rest.isEmpty then some (l, c)
    else
      let text := l.joined folded c.atBlank
      let indented := c.atBlank
      let (line, c) := c.takeWhile fun _ => true
      let (first, c) := c.takeBreak
      match breaks? margin indent c with
      | none => none
      | some (_, later, c) => linesWithin folded margin indent steps { text := text ++ line, first, later, indented } c

/-- The block scalar whose indicator is here, in a block whose content is indented at least to the column `margin`. -/
def read (margin : Nat) (c : Cursor) : Option (List Char × Cursor) := do
  let folded := c.sees '>'
  let (header, c) ← header? (c.advance 1)
  let indent := if header.increment = 0 then 0 else margin - 1 + header.increment
  let (indent, later, c) ← breaks? margin indent c
  let (l, c) ← linesWithin folded margin indent (c.rest.length + 1) { later } c
  some (l.chomp header.chomping, c)

end AnalyzerBench.Yaml.Block
