/-!
# Blanks

Lines of a dump, payloads of directives and solver literals are trimmed, and solver literals are split into fields,
at the characters with the Unicode property White_Space.  The property is wider than the ASCII blanks and narrower
than "renders as nothing": the separators U+001C to U+001F, the zero width space and the byte order mark lack it.
-/

namespace AnalyzerBench.Text

/-- The Unicode property White_Space. -/
def isBlank (c : Char) : Bool :=
  let n := c.toNat
  (9 ≤ n && n ≤ 13) || n == 0x20 || n == 0x85 || n == 0xA0 || n == 0x1680 || (0x2000 ≤ n && n ≤ 0x200A) ||
    n == 0x2028 || n == 0x2029 || n == 0x202F || n == 0x205F || n == 0x3000

/-! ### Trimming -/

namespace Chars

/-- The characters without the blanks at their end. -/
def trimEnd (cs : List Char) : List Char := (cs.reverse.dropWhile isBlank).reverse

/-- The characters without the blanks at either end. -/
def trim (cs : List Char) : List Char := trimEnd (cs.dropWhile isBlank)

/-- The pieces between the characters that satisfy `p`, empty pieces included. -/
def pieces (p : Char → Bool) : List Char → List (List Char)
  | [] => [[]]
  | c :: cs => if p c then [] :: pieces p cs else (pieces p cs).modifyHead (c :: ·)

/-- The maximal runs of characters that are not blank. -/
def words (cs : List Char) : List (List Char) := (pieces isBlank cs).filter (!·.isEmpty)

end Chars

/-- The text without the blanks at its end. -/
def trimEnd (s : String) : String := String.ofList (Chars.trimEnd s.toList)

/-- The text without the blanks at either end. -/
def trim (s : String) : String := String.ofList (Chars.trim s.toList)

/-- Whether every character of the text is a blank, so that trimming leaves nothing of it (`isAllBlank_iff`). -/
def isAllBlank (s : String) : Bool := s.toList.all isBlank

end AnalyzerBench.Text
