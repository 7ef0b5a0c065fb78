import AnalyzerBench.Text.Digits
import AnalyzerBench.Yaml.Cursor
import AnalyzerBench.Yaml.Token

/-!
# Tags, anchors and directives

A tag is written in full between angle brackets, or as a handle that a directive may expand and a suffix.  Characters
outside the alphabet of URIs are spelled by the octets of their UTF-8 form, each after a percent sign.  Octets that
look like such a form but are none are kept as an ill-formed character; a null ends the text.
-/

namespace AnalyzerBench.Yaml

/-! ### Percent escapes -/

namespace Escape

/-- One octet after a percent sign, and the rest. -/
def octet? : List Char → Option (Nat × List Char)
  | '%' :: high :: low :: rest => (Text.number? 16 [high, low]).map (·, rest)
  | _ => none

/-- The count of octets that a leading octet announces, the bits it holds itself and the least code point that needs
so many octets. -/
def lead? (octet : Nat) : Option (Nat × Nat × Nat) :=
  if octet < 0x80 then some (1, octet, 0)
  else if octet < 0xC0 then none
  else if octet < 0xE0 then some (2, octet - 0xC0, 0x80)
  else if octet < 0xF0 then some (3, octet - 0xE0, 0x800)
  else if octet < 0xF8 then some (4, octet - 0xF0, 0x10000)
  else none

/-- Adds the bits of the trailing octets to a code point. -/
def trail? : (count code : Nat) → List Char → Option (Nat × List Char)
  | 0, code, cs => some (code, cs)
  | count + 1, code, cs =>
    match octet? cs with
    | some (octet, rest) =>
      if 0x80 ≤ octet && octet < 0xC0 then trail? count (code * 64 + (octet - 0x80)) rest else none
    | none => none

/-- The character that escaped octets spell, and the count of characters that spell it. -/
def character? (cs : List Char) : Option (Option Char × Nat) := do
  let (octet, rest) ← octet? cs
  let (width, bits, least) ← lead? octet
  let (code, _) ← trail? (width - 1) bits rest
  some (if least ≤ code && code.isValidChar then some (Char.ofNat code) else none, 3 * width)

end Escape

/-! ### Tags -/

namespace TagText

/-- The alphabet of URIs; a tag between angle brackets may also hold a comma and square brackets. -/
def isUriChar (bracketed : Bool) (c : Char) : Bool :=
  isNameChar c ||
    [';', '/', '?', ':', '@', '&', '=', '+', '$', '.', '%', '!', '~', '*', '\'', '(', ')'].contains c ||
    (bracketed && [',', '[', ']'].contains c)

/-- Reads the characters of a URI, decoding escapes. -/
def readWithin (bracketed : Bool) : (steps : Nat) → TagText → Cursor → Option (TagText × Cursor)
  | 0, _, _ => none
  | steps + 1, text, c =>
    match c.rest with
    | [] => some (text, c)
    | x :: _ =>
      if !isUriChar bracketed x then some (text, c)
      else if x == '%' then
        match Escape.character? c.rest with
        | none => none
        | some (y, width) => readWithin bracketed steps (text ++ [y]) (c.advance width)
      else readWithin bracketed steps (text ++ [some x]) (c.advance 1)

/-- The characters of a URI, possibly none. -/
def read (bracketed : Bool) (c : Cursor) : Option (TagText × Cursor) :=
  readWithin bracketed (c.rest.length + 1) [] c

/-- The text up to a null. -/
def upToNull (text : TagText) : TagText := text.takeWhile (· != some '\x00')

/-- At least one character of a URI. -/
def readSome (bracketed : Bool) (c : Cursor) : Option (TagText × Cursor) :=
  match read bracketed c with
  | some (x :: text, c) => some (upToNull (x :: text), c)
  | _ => none

end TagText

/-- A tag handle: an exclamation mark, name characters and possibly a second exclamation mark. -/
def tagHandle? (c : Cursor) : Option (List Char × Cursor) :=
  if !c.sees '!' then none
  else
    let (name, c) := (c.advance 1).takeWhile isNameChar
    if c.sees '!' then some ('!' :: name ++ ['!'], c.advance 1) else some ('!' :: name, c)

/-- Whether a handle is closed by a second exclamation mark. -/
def isClosedHandle (handle : List Char) : Bool := handle.length > 1 && handle.getLast? == some '!'

namespace Token

/-- The tag that starts here; a blank, a line break or in a flow collection a comma ends it. -/
def tag? (flow : Bool) (c : Cursor) : Option (Token × Cursor) := do
  let (token, c) ← (
    if (c.advance 1).sees '<' then do
      let (text, c) ← TagText.readSome true (c.advance 2)
      if c.sees '>' then some (Token.tag [] text, c.advance 1) else none
    else do
      let (handle, c) ← tagHandle? c
      if isClosedHandle handle then
        let (suffix, c) ← TagText.readSome false c
        some (Token.tag handle suffix, c)
      else
        let (text, c) ← TagText.read false c
        match TagText.upToNull ((handle.drop 1).map some ++ text) with
        | [] => some (Token.tag [] [some '!'], c)
        | suffix => some (Token.tag ['!'] suffix, c))
  if c.atWordEnd || (flow && c.sees ',') then some (token, c) else none

/-! ### Anchors and aliases -/

/-- The name after the mark of an anchor or an alias. -/
def anchorName? (c : Cursor) : Option (List Char × Cursor) :=
  let (name, c) := (c.advance 1).takeWhile isNameChar
  if !name.isEmpty && (c.atWordEnd || c.atChar ['?', ':', ',', ']', '}', '%', '@', '`'].contains) then
    some (name, c)
  else none

/-! ### Directives -/

/-- A version number of at most nine digits. -/
def versionNumber? (c : Cursor) : Option (Nat × Cursor) :=
  let (digits, c) := c.takeWhile Char.isDigit
  if digits.length > 9 then none else (Text.number? 10 digits).map (·, c)

/-- What stands after the name of a version directive. -/
def version? (c : Cursor) : Option (Token × Cursor) := do
  let (major, c) ← versionNumber? (c.skipWhile isBlank)
  if c.sees '.' then
    let (minor, c) ← versionNumber? (c.advance 1)
    some (.version major minor, c)
  else none

/-- What stands after the name of a tag directive. -/
def tagShorthand? (c : Cursor) : Option (Token × Cursor) := do
  let (handle, c) ← tagHandle? (c.skipWhile isBlank)
  if (handle = ['!'] || isClosedHandle handle) && c.atBlank then
    let (expansion, c) ← TagText.readSome true (c.skipWhile isBlank)
    if c.atWordEnd then some (.tagShorthand handle expansion, c) else none
  else none

/-- The directive that starts here with a percent sign, and the start of the next line. -/
def directive? (c : Cursor) : Option (Token × Cursor) := do
  let (name, c) := (c.advance 1).takeWhile isNameChar
  if c.atWordEnd then
    let (token, c) ← (
      if name = ['Y', 'A', 'M', 'L'] then version? c
      else if name = ['T', 'A', 'G'] then tagShorthand? c
      else none)
    let c ← c.finishLine?
    some (token, c)
  else none

end Token

end AnalyzerBench.Yaml
