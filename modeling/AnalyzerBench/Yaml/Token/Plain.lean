import AnalyzerBench.Yaml.Gap

/-!
# Plain scalars

A plain scalar has no marks around it.  It ends before a colon that ends a word, before a comment, before a line that
is not indented deeper than the block around it, and inside a flow collection before an indicator of such a
collection.
-/

namespace AnalyzerBench.Yaml.Plain

/-- The next word of a plain scalar; in a flow collection a colon right before an indicator is refused. -/
def word? (flow : Bool) : List Char → Option (List Char)
  | [] => some []
  | x :: rest =>
    if endsWord x then some []
    else if flow && x == ':' && rest.head?.any (fun y => isFlowIndicator y || y == '?') then none
    else if (x == ':' && atWordEnd rest) || (flow && isFlowIndicator x) then some []
    else (word? flow rest).map (x :: ·)

/-- Reads words and the gaps between them.  The flag tells whether the gap after the last word holds a line break. -/
def readWithin (flow : Bool) (margin : Nat) :
    (steps : Nat) → (text : List Char) → Gap → Cursor → Option (List Char × Bool × Cursor)
  | 0, _, _, _ => none
  | steps + 1, text, gap, c =>
    if c.atDocumentMark || c.sees '#' then some (text, gap.broken, c)
    else
      match word? flow c.rest with
      | none => none
      | some w =>
        let c := c.advance w.length
        let (text, gap) := if w.isEmpty then (text, gap) else (text ++ gap.text ++ w, {})
        if c.atChar endsWord then
          match gap.read margin c with
          | none => none
          | some (gap, c) =>
            if !flow && c.column < margin then some (text, gap.broken, c) else readWithin flow margin steps text gap c
        else some (text, gap.broken, c)

/-- A plain scalar, whether a line break follows it, and the place after it and the gap that follows. -/
def read (flow : Bool) (margin : Nat) (c : Cursor) : Option (List Char × Bool × Cursor) :=
  readWithin flow margin (c.rest.length + 1) [] {} c

end AnalyzerBench.Yaml.Plain
