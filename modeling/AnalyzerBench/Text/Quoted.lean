import AnalyzerBench.Text.Digits
import AnalyzerBench.Text.Printable

/-!
# Quoted text

A text is shown between double quotes with escapes, so that it stays on one line and can be told from its
surroundings.  Null, tab, carriage return, line feed, double quote and backslash have short escapes; control
characters and the characters chosen by a predicate are spelled by number.
-/

namespace AnalyzerBench.Text

namespace Chars

/-- A character inside quotes; `hidden` chooses which characters are spelled by number. -/
def escape (hidden : Char → Bool) (c : Char) : List Char :=
  if c = '\x00' then ['\\', '0']
  else if c = '\t' then ['\\', 't']
  else if c = '\r' then ['\\', 'r']
  else if c = '\n' then ['\\', 'n']
  else if c = '"' then ['\\', '"']
  else if c = '\\' then ['\\', '\\']
  else if c.toNat < 0x20 || hidden c then ['\\', 'u', '{'] ++ codePointDigits c ++ ['}']
  else [c]

/-- Characters between double quotes. -/
def quote (hidden : Char → Bool) (cs : List Char) : List Char :=
  '"' :: (cs.flatMap (escape hidden) ++ ['"'])

end Chars

/-- A text between double quotes; `hidden` chooses which characters are spelled by number. -/
def quotedBy (hidden : Char → Bool) (s : String) : String := String.ofList (Chars.quote hidden s.toList)

/-- A text between double quotes, with the characters that have no printed form spelled by number. -/
def quoted (s : String) : String := quotedBy isUnprintable s

end AnalyzerBench.Text
