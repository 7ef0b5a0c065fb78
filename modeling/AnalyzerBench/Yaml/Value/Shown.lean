import AnalyzerBench.Decimal.Layout
import AnalyzerBench.Text.Quoted
import AnalyzerBench.Yaml.Value

/-!
# Values shown in messages

A value is shown with its kind, so that `1` and `'1'` can be told apart.  As keys of a mapping, booleans, numbers and
strings stand without their kind.
-/

namespace AnalyzerBench.Yaml

/-- Real numbers in messages are positional from `1e-5` up to `1e16` and carry no plus sign in the exponent. -/
def Number.shownReals : Decimal.Layout := ⟨-5, 15, false⟩

/-- A number in a message. -/
def Number.shown : Number → String
  | .integer i => Decimal.integerText i
  | .real x =>
    if x.isNaN then ".nan"
    else if x.isInfinite then (if x.isNegative then "-.inf" else ".inf")
    else shownReals.write x

namespace Value

def shownBool (b : Bool) : String := if b then "true" else "false"

mutual

/-- A value in a message. -/
def shown : Value → String
  | .null => "Null"
  | .bool b => "Bool(" ++ shownBool b ++ ")"
  | .number n => "Number(" ++ n.shown ++ ")"
  | .string s => "String(" ++ Text.quoted s ++ ")"
  | .sequence items => "Sequence [" ++ shownItems "" items ++ "]"
  | .mapping entries => "Mapping \x7b" ++ shownEntries "" entries ++ "\x7d"
  | .tagged tag value => "TaggedValue \x7b tag: " ++ tag ++ ", value: " ++ value.shown ++ " \x7d"

def shownItems (separator : String) : List Value → String
  | [] => ""
  | v :: vs => separator ++ v.shown ++ shownItems ", " vs

def shownEntries (separator : String) : List (Value × Value) → String
  | [] => ""
  | (k, v) :: es => separator ++ shownKey k ++ ": " ++ v.shown ++ shownEntries ", " es

/-- A key of a mapping in a message. -/
def shownKey : Value → String
  | .bool b => shownBool b
  | .number n => n.shown
  | .string s => Text.quoted s
  | .null => "Null"
  | .sequence items => "Sequence [" ++ shownItems "" items ++ "]"
  | .mapping entries => "Mapping \x7b" ++ shownEntries "" entries ++ "\x7d"
  | .tagged tag value => "TaggedValue \x7b tag: " ++ tag ++ ", value: " ++ value.shown ++ " \x7d"

end

end Value

end AnalyzerBench.Yaml
