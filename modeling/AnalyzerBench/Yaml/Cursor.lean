import AnalyzerBench.Yaml.Character

/-!
# A place in a document

Indentation is a matter of columns, keys may not span lines and are limited in their octets, so reading keeps the
count of octets read, the line and the column beside the rest of the text.  Columns count characters.  A carriage
return with the line feed after it is one line break.
-/

namespace AnalyzerBench.Yaml

/-- The count of octets in the UTF-8 form of characters. -/
def octetCount : List Char → Nat
  | [] => 0
  | c :: cs => c.utf8Size + octetCount cs

/-- A place in a document and the text from there on. -/
structure Cursor where
  rest : List Char
  /-- The count of octets read. -/
  index : Nat := 0
  line : Nat := 0
  column : Nat := 0
  deriving Repr

namespace Cursor

/-- The next character. -/
def head? (c : Cursor) : Option Char := c.rest.head?

/-- Whether the next character satisfies `p`. -/
def atChar (p : Char → Bool) (c : Cursor) : Bool := c.rest.head?.any p

/-- Whether the next character is `x`. -/
def sees (x : Char) (c : Cursor) : Bool := c.rest.head? == some x

/-- Whether the next character ends a line. -/
def atBreak (c : Cursor) : Bool := c.atChar isBreak

/-- Whether the next character is a blank. -/
def atBlank (c : Cursor) : Bool := c.atChar isBlank

/-- Whether nothing, a blank or a line break comes next. -/
def atWordEnd (c : Cursor) : Bool := Yaml.atWordEnd c.rest

/-- Whether nothing or a line break comes next. -/
def atLineEnd (c : Cursor) : Bool := c.rest.isEmpty || c.atBreak

/-- The place `n` characters further on the same line. -/
def advance (c : Cursor) (n : Nat) : Cursor :=
  { c with rest := c.rest.drop n, index := c.index + octetCount (c.rest.take n), column := c.column + n }

/-- The characters of this line that satisfy `p`, up to the first that does not, and the place after them. -/
def takeWhile (p : Char → Bool) (c : Cursor) : List Char × Cursor :=
  let run := c.rest.takeWhile fun x => p x && !isBreak x
  (run, c.advance run.length)

/-- The place after the characters of this line that satisfy `p`. -/
def skipWhile (p : Char → Bool) (c : Cursor) : Cursor := (c.takeWhile p).2

/-- What the line break here leaves in a scalar, and the start of the next line; without a break, this place. -/
def takeBreak (c : Cursor) : List Char × Cursor :=
  match c.rest with
  | '\r' :: '\n' :: rest => (['\n'], { rest := rest, index := c.index + 2, line := c.line + 1 })
  | x :: rest =>
    if isBreak x then ([keptBreak x], { rest := rest, index := c.index + x.utf8Size, line := c.line + 1 }) else ([], c)
  | [] => ([], c)

/-- The start of the next line. -/
def nextLine (c : Cursor) : Cursor := c.takeBreak.2

/-- The place after a comment, if one starts here. -/
def skipComment (c : Cursor) : Cursor := if c.sees '#' then c.skipWhile fun _ => true else c

/-- The start of the next line, if only blanks and a comment are left on this one. -/
def finishLine? (c : Cursor) : Option Cursor :=
  let c := (c.skipWhile isBlank).skipComment
  if c.atLineEnd then some c.nextLine else none

/-- Whether the three marks `x`, alone at the start of a line, come next. -/
def seesMark (x : Char) (c : Cursor) : Bool :=
  c.column == 0 && c.rest.take 3 == [x, x, x] && Yaml.atWordEnd (c.rest.drop 3)

/-- Whether a mark that starts or ends a document comes next. -/
def atDocumentMark (c : Cursor) : Bool := c.seesMark '-' || c.seesMark '.'

end Cursor

end AnalyzerBench.Yaml
