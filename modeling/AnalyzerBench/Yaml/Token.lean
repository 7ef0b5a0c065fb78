/-!
# Tokens of a YAML document

The tokens carry the structure that indentation and keys before a colon only imply: block collections are opened and
closed by tokens of their own, and a key is announced before it.
-/

namespace AnalyzerBench.Yaml

/-- Text of a tag, where escapes are decoded; `none` stands for octets that are no well-formed character. -/
abbrev TagText := List (Option Char)

inductive Token where
  | version (major minor : Nat)
  | tagShorthand (handle : List Char) (expansion : TagText)
  | documentStart
  | documentEnd
  | blockSequenceStart
  | blockMappingStart
  | blockEnd
  | flowSequenceStart
  | flowSequenceEnd
  | flowMappingStart
  | flowMappingEnd
  | blockEntry
  | flowEntry
  | key
  | value
  | alias (name : List Char)
  | anchor (name : List Char)
  | tag (handle : List Char) (suffix : TagText)
  | scalar (plain : Bool) (text : List Char)
  | streamEnd
  deriving DecidableEq, Repr

end AnalyzerBench.Yaml
