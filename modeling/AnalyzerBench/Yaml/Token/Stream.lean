import AnalyzerBench.Yaml.Token.Block
import AnalyzerBench.Yaml.Token.Plain
import AnalyzerBench.Yaml.Token.Quoted
import AnalyzerBench.Yaml.Token.Tag

/-!
# The tokens of a document

A document is read from left to right.  Two things are settled only in hindsight.  Where text is indented deeper than
the block collection around it, a new collection opens; where it is indented less, collections close.  And what stands
before a colon was a key: the place of every token that may turn out to start a key is remembered, one place for each
flow collection and one for the block around them, until its line or the allowed length of a key is over.
-/

namespace AnalyzerBench.Yaml

/-- A place where a key may have started. -/
structure KeyMark where
  /-- The count of tokens before the key. -/
  position : Nat
  index : Nat
  line : Nat
  column : Nat
  /-- Whether the text here must turn out to be a key, because it stands in the column of a block collection. -/
  required : Bool
  deriving Repr

/-- A document while its tokens are read. -/
structure Reading where
  cursor : Cursor
  /-- The tokens so far, the last one first. -/
  tokens : List Token := []
  /-- The possible key of each flow collection, the innermost first, and last that of the block around them. -/
  marks : List (Option KeyMark) := [none]
  /-- The columns of the open block collections, the innermost first. -/
  columns : List Nat := []
  /-- Whether a key may start here. -/
  keyAllowed : Bool := true
  deriving Repr

namespace Reading

/-- Whether a flow collection is open. -/
def inFlow (r : Reading) : Bool := r.marks.length > 1

/-- The least column that is deeper than the innermost block collection. -/
def margin (r : Reading) : Nat :=
  match r.columns with
  | [] => 0
  | column :: _ => column + 1

def emit (r : Reading) (t : Token) : Reading := { r with tokens := t :: r.tokens }

/-- Puts a token before the tokens from `position` on. -/
def emitAt (r : Reading) (position : Nat) (t : Token) : Reading :=
  let later := r.tokens.length - position
  { r with tokens := r.tokens.take later ++ t :: r.tokens.drop later }

/-! ### Block collections -/

/-- Closes the block collections whose content would have to be indented deeper than `margin`. -/
def closeBlocks (r : Reading) (margin : Nat) : Reading :=
  if r.inFlow then r
  else
    let closed := r.columns.takeWhile (· ≥ margin)
    { r with
      columns := r.columns.drop closed.length
      tokens := List.replicate closed.length .blockEnd ++ r.tokens }

/-- Opens a block collection in a column deeper than the innermost one, its first token being at `position`. -/
def openBlock (r : Reading) (column position : Nat) (t : Token) : Reading :=
  if !r.inFlow && r.margin ≤ column then { r.emitAt position t with columns := column :: r.columns } else r

/-! ### Possible keys -/

/-- The possible key of the innermost collection. -/
def mark (r : Reading) : Option KeyMark := r.marks.head?.join

def setMark (r : Reading) (m : Option KeyMark) : Reading := { r with marks := m :: r.marks.drop 1 }

/-- Gives up the possible key of the innermost collection, unless it had to be one. -/
def dropMark (r : Reading) : Option Reading :=
  if r.mark.any (·.required) then none else some (r.setMark none)

/-- Whether a key that started at `m` can no longer end here. -/
def isOver (c : Cursor) (m : KeyMark) : Bool := m.line < c.line || m.index + 1024 < c.index

/-- Gives up every possible key whose line or length is over, unless one of them had to be a key. -/
def dropOldMarks (r : Reading) : Option Reading :=
  if r.marks.any fun m => m.any fun m => isOver r.cursor m && m.required then none
  else some { r with marks := r.marks.map fun m => m.filter fun m => !isOver r.cursor m }

/-- Remembers this place as the possible start of a key, if one may start here. -/
def markKey (r : Reading) : Option Reading :=
  if r.keyAllowed then do
    let r ← r.dropMark
    let c := r.cursor
    let required := !r.inFlow && r.columns.head? == some c.column
    some (r.setMark (some { position := r.tokens.length, index := c.index, line := c.line, column := c.column, required }))
  else some r

/-! ### Between tokens -/

/-- Skips blanks, comments and line breaks.  Where a key may start in a block, a tab is no blank. -/
def skipWithin : (steps : Nat) → Reading → Reading
  | 0, r => r
  | steps + 1, r =>
    let tabs := r.inFlow || !r.keyAllowed
    let c := if r.cursor.column == 0 && r.cursor.sees '\ufeff' then r.cursor.advance 1 else r.cursor
    let c := (c.skipWhile fun x => x == ' ' || (tabs && x == '\t')).skipComment
    if c.atBreak then skipWithin steps { r with cursor := c.nextLine, keyAllowed := r.keyAllowed || !r.inFlow }
    else { r with cursor := c }

/-- The reading at the next token. -/
def skipToToken (r : Reading) : Reading := r.skipWithin (r.cursor.rest.length + 1)

/-! ### Reading one token -/

/-- A token of `width` characters. -/
def take (r : Reading) (t : Token) (width : Nat) : Reading :=
  { r.emit t with cursor := r.cursor.advance width }

/-- A token read from here by `read?`. -/
def takeBy (r : Reading) (read? : Cursor → Option (Token × Cursor)) : Option Reading :=
  (read? r.cursor).map fun (t, c) => { r.emit t with cursor := c }

def allowKey (r : Reading) (allowed : Bool) : Reading := { r with keyAllowed := allowed }

/-- What starts anew: all block collections close and no key is pending. -/
def reset (r : Reading) : Option Reading := do
  let r ← (r.closeBlocks 0).dropMark
  some (r.allowKey false)

/-- The start of a flow collection; it may be part of a key, and a key may start in it. -/
def openFlow (r : Reading) (t : Token) : Option Reading := do
  let r ← r.markKey
  some ({ r with marks := none :: r.marks }.allowKey true |>.take t 1)

/-- The end of a flow collection. -/
def closeFlow (r : Reading) (t : Token) : Option Reading := do
  let r ← r.dropMark
  let marks := if r.inFlow then r.marks.drop 1 else r.marks
  some ({ r with marks }.allowKey false |>.take t 1)

def flowEntry (r : Reading) : Option Reading := do
  let r ← r.dropMark
  some (r.allowKey true |>.take .flowEntry 1)

/-- An entry of a block sequence, which opens the sequence if it stands deeper than the block around it. -/
def blockEntry (r : Reading) : Option Reading :=
  if r.inFlow || r.keyAllowed then do
    let r ← (r.openBlock r.cursor.column r.tokens.length .blockSequenceStart).dropMark
    some (r.allowKey true |>.take .blockEntry 1)
  else none

/-- A key announced by a question mark. -/
def explicitKey (r : Reading) : Option Reading :=
  if r.inFlow || r.keyAllowed then do
    let r ← (r.openBlock r.cursor.column r.tokens.length .blockMappingStart).dropMark
    some (r.allowKey (!r.inFlow) |>.take .key 1)
  else none

/-- A colon: what stands before it was a key, if a key was possible there. -/
def value (r : Reading) : Option Reading :=
  match r.mark with
  | some m =>
    let r := (r.emitAt m.position .key).openBlock m.column m.position .blockMappingStart
    some ((r.setMark none).allowKey false |>.take .value 1)
  | none =>
    if r.inFlow || r.keyAllowed then
      let r := r.openBlock r.cursor.column r.tokens.length .blockMappingStart
      some (r.allowKey (!r.inFlow) |>.take .value 1)
    else none

/-- A token that may start a key; right after it no key may start. -/
def keyed (r : Reading) (read? : Cursor → Option (Token × Cursor)) : Option Reading := do
  let r ← r.markKey
  (r.allowKey false).takeBy read?

def quotedScalar (r : Reading) (quote : Char) : Option Reading :=
  r.keyed fun c => (Quoted.read quote c).map fun (text, c) => (.scalar false text, c)

/-- A block scalar; a key may start on the line after it. -/
def blockScalar (r : Reading) : Option Reading := do
  let r ← r.dropMark
  (r.allowKey true).takeBy fun c => (Block.read r.margin c).map fun (text, c) => (.scalar false text, c)

/-- A plain scalar; a key may start after it, if a line break follows. -/
def plainScalar (r : Reading) : Option Reading := do
  let r ← r.markKey
  let (text, broken, c) ← Plain.read r.inFlow r.margin r.cursor
  some { r.emit (.scalar true text) with cursor := c, keyAllowed := broken }

/-- Whether a plain scalar starts with `x` before `rest`. -/
def startsPlain (flow : Bool) (x : Char) (rest : List Char) : Bool :=
  !(endsWord x || isIndicator x) || (x == '-' && !rest.head?.any isBlank) ||
    (!flow && (x == '?' || x == ':') && !atWordEnd rest)

/-- Reads the token that starts with `x` before `rest`. -/
def token (r : Reading) (x : Char) (rest : List Char) : Option Reading :=
  let c := r.cursor
  let apart := r.inFlow || atWordEnd rest
  if c.column == 0 && x == '%' then do
    let r ← r.reset
    r.takeBy Token.directive?
  else if c.seesMark '-' then r.reset.map (·.take .documentStart 3)
  else if c.seesMark '.' then r.reset.map (·.take .documentEnd 3)
  else if x == '[' then r.openFlow .flowSequenceStart
  else if x == '{' then r.openFlow .flowMappingStart
  else if x == ']' then r.closeFlow .flowSequenceEnd
  else if x == '}' then r.closeFlow .flowMappingEnd
  else if x == ',' then r.flowEntry
  else if x == '-' && atWordEnd rest then r.blockEntry
  else if x == '?' && apart then r.explicitKey
  else if x == ':' && apart then r.value
  else if x == '*' then r.keyed fun c => (Token.anchorName? c).map fun (name, c) => (.alias name, c)
  else if x == '&' then r.keyed fun c => (Token.anchorName? c).map fun (name, c) => (.anchor name, c)
  else if x == '!' then r.keyed (Token.tag? r.inFlow)
  else if (x == '|' || x == '>') && !r.inFlow then r.blockScalar
  else if x == '\'' || x == '"' then r.quotedScalar x
  else if startsPlain r.inFlow x rest then r.plainScalar
  else none

/-- Reads all tokens that are left. -/
def readWithin : (steps : Nat) → Reading → Option (List Token)
  | 0, _ => none
  | steps + 1, r => do
    let r ← r.skipToToken.dropOldMarks
    let r := r.closeBlocks (r.cursor.column + 1)
    match r.cursor.rest with
    | [] =>
      let r ← r.reset
      some (.streamEnd :: r.tokens).reverse
    | x :: rest =>
      let r ← r.token x rest
      readWithin steps r

end Reading

/-- The tokens of a document. -/
def Token.ofText? (text : List Char) : Option (List Token) :=
  if text.all isAllowed then Reading.readWithin (text.length + 1) { cursor := { rest := text } } else none

end AnalyzerBench.Yaml
