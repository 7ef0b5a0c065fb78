/-!
# Characters of a YAML document

The character classes of YAML 1.1 that decide where lines, words and indicators end.
-/

namespace AnalyzerBench.Yaml

/-- The characters a document may consist of. -/
def isAllowed (c : Char) : Bool :=
  let n := c.toNat
  n == 0x09 || n == 0x0A || n == 0x0D || (0x20 ≤ n && n ≤ 0x7E) || n == 0x85 || (0xA0 ≤ n && n ≤ 0xFFFD) ||
    0x10000 ≤ n

/-- The characters that end a line. -/
def isBreak (c : Char) : Bool :=
  c == '\n' || c == '\r' || c == '\u0085' || c == '\u2028' || c == '\u2029'

/-- The blanks inside a line. -/
def isBlank (c : Char) : Bool := c == ' ' || c == '\t'

/-- Whether a word cannot go on with `c`. -/
def endsWord (c : Char) : Bool := isBlank c || isBreak c

/-- The characters of anchors, tag handles and directive names. -/
def isNameChar (c : Char) : Bool := c.isAlphanum || c == '_' || c == '-'

/-- The indicators of flow collections. -/
def isFlowIndicator (c : Char) : Bool := c == ',' || c == '[' || c == ']' || c == '{' || c == '}'

/-- The indicators that no plain scalar starts with. -/
def isIndicator (c : Char) : Bool :=
  isFlowIndicator c || ['-', '?', ':', '#', '&', '*', '!', '|', '>', '\'', '"', '%', '@', '`'].contains c

/-- The character that a line break leaves in a scalar: the separators of lines and paragraphs stay, any other break
becomes a line feed. -/
def keptBreak (c : Char) : Char := if c == '\u2028' || c == '\u2029' then c else '\n'

/-- Whether a text is empty or goes on with the end of a word. -/
def atWordEnd : List Char → Bool
  | [] => true
  | c :: _ => endsWord c

end AnalyzerBench.Yaml
