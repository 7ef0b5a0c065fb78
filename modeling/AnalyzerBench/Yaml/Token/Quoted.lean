import AnalyzerBench.Text.Digits
import AnalyzerBench.Yaml.Gap

/-!
# Quoted scalars

Between single quotes a quote is written twice and all else stands for itself.  Between double quotes a backslash
introduces an escape, and a backslash at the end of a line joins the lines without a space.
-/

namespace AnalyzerBench.Yaml.Quoted

/-- The escapes of one letter. -/
def shortEscape? : Char → Option Char
  | '0' => some '\x00'
  | 'a' => some '\x07'
  | 'b' => some '\x08'
  | 't' => some '\t'
  | '\t' => some '\t'
  | 'n' => some '\n'
  | 'v' => some '\x0b'
  | 'f' => some '\x0c'
  | 'r' => some '\r'
  | 'e' => some '\x1b'
  | ' ' => some ' '
  | '"' => some '"'
  | '/' => some '/'
  | '\\' => some '\\'
  | 'N' => some '\u0085'
  | '_' => some '\u00a0'
  | 'L' => some '\u2028'
  | 'P' => some '\u2029'
  | _ => none

/-- The count of digits after a letter that spells a character by number. -/
def escapeWidth? : Char → Option Nat
  | 'x' => some 2
  | 'u' => some 4
  | 'U' => some 8
  | _ => none

/-- The character with a code point, if there is one. -/
def character? (n : Nat) : Option Char := if n.isValidChar then some (Char.ofNat n) else none

/-- The character that an escape stands for, and the count of characters after the backslash. -/
def escape? : List Char → Option (Char × Nat)
  | [] => none
  | x :: rest =>
    match escapeWidth? x with
    | none => (shortEscape? x).map (·, 1)
    | some width =>
      let digits := rest.take width
      if digits.length < width then none
      else match Text.number? 16 digits with
        | none => none
        | some n => (character? n).map (·, width + 1)

/-- Reads to the next blank, line break or closing quote.  The flag tells whether an escaped line break ended the
word. -/
def word? (quote : Char) : (steps : Nat) → (text : List Char) → Cursor → Option (List Char × Bool × Cursor)
  | 0, _, _ => none
  | steps + 1, text, c =>
    match c.rest with
    | [] => some (text, false, c)
    | x :: rest =>
      if endsWord x then some (text, false, c)
      else if x == quote then
        if quote == '\'' && rest.head? == some '\'' then word? quote steps (text ++ ['\'']) (c.advance 2)
        else some (text, false, c)
      else if quote == '"' && x == '\\' then
        if rest.head?.any isBreak then some (text, true, (c.advance 1).nextLine)
        else match escape? rest with
          | none => none
          | some (y, n) => word? quote steps (text ++ [y]) (c.advance (n + 1))
      else word? quote steps (text ++ [x]) (c.advance 1)

/-- Reads words and the gaps between them, up to the closing quote. -/
def readWithin (quote : Char) : (steps : Nat) → (text : List Char) → Cursor → Option (List Char × Cursor)
  | 0, _, _ => none
  | steps + 1, text, c =>
    if c.atDocumentMark || c.rest.isEmpty then none
    else match word? quote (c.rest.length + 1) text c with
      | none => none
      | some (text, joined, c) =>
        if c.sees quote then some (text, c.advance 1)
        else match Gap.read 0 { broken := joined } c with
          | none => none
          | some (gap, c) => readWithin quote steps (text ++ gap.text) c

/-- The scalar whose opening quote is here, and the place after its closing quote. -/
def read (quote : Char) (c : Cursor) : Option (List Char × Cursor) :=
  readWithin quote (c.rest.length + 1) [] (c.advance 1)

end AnalyzerBench.Yaml.Quoted
