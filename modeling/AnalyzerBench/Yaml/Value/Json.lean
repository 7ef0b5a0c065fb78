import AnalyzerBench.Decimal.Layout
import AnalyzerBench.Text.Digits
import AnalyzerBench.Yaml.Value

/-!
# Values as JSON

A value is written as compact JSON, members in the order of the document.  JSON is poorer than YAML: a real number that
is not finite is written as null, a tagged value as an object whose one member is named by the tag, and a key has to be
a string, a boolean or a finite number, the latter two put between quotes.  No other key can be written.
-/

namespace AnalyzerBench.Yaml

/-- Why a value cannot be written as JSON. -/
inductive JsonFault where
  | keyNotString
  | keyNotFinite
  deriving DecidableEq, Repr

/-- A fault in words. -/
def JsonFault.message : JsonFault → String
  | .keyNotString => "key must be a string"
  | .keyNotFinite => "float key must be finite (got NaN or +/-inf)"

namespace Json

/-- Real numbers are positional from `1e-5` up to `1e16`; elsewhere the exponent carries its sign. -/
def reals : Decimal.Layout := ⟨-5, 15, true⟩

/-- A character between the quotes of a JSON string. -/
def escape (c : Char) : List Char :=
  if c = '"' then ['\\', '"']
  else if c = '\\' then ['\\', '\\']
  else if c = '\x08' then ['\\', 'b']
  else if c = '\x0c' then ['\\', 'f']
  else if c = '\n' then ['\\', 'n']
  else if c = '\r' then ['\\', 'r']
  else if c = '\t' then ['\\', 't']
  else if c.toNat < 0x20 then ['\\', 'u'] ++ Text.fixedDigits 16 4 c.toNat
  else [c]

/-- A JSON string. -/
def string (s : String) : String := String.ofList ('"' :: (s.toList.flatMap escape ++ ['"']))

def bool (b : Bool) : String := if b then "true" else "false"

/-- A number, or null for a real number that is not finite. -/
def number : Number → String
  | .integer i => Decimal.integerText i
  | .real x => if x.isFinite then reals.write x else "null"

/-- The name of a member. -/
def key : Value → Except JsonFault String
  | .string s => .ok (string s)
  | .bool b => .ok ("\"" ++ bool b ++ "\"")
  | .number (.integer i) => .ok ("\"" ++ Decimal.integerText i ++ "\"")
  | .number (.real x) => if x.isFinite then .ok ("\"" ++ reals.write x ++ "\"") else .error .keyNotFinite
  | _ => .error .keyNotString

end Json

namespace Value

mutual

/-- A value as compact JSON, or the fault of the first key that cannot be written. -/
def json : Value → Except JsonFault String
  | .null => .ok "null"
  | .bool b => .ok (Json.bool b)
  | .number n => .ok (Json.number n)
  | .string s => .ok (Json.string s)
  | .sequence items => do
    let text ← jsonItems "" items
    return "[" ++ text ++ "]"
  | .mapping entries => do
    let text ← jsonEntries "" entries
    return "\x7b" ++ text ++ "\x7d"
  | .tagged tag value => do
    let text ← value.json
    return "\x7b" ++ Json.string tag ++ ":" ++ text ++ "\x7d"

def jsonItems (separator : String) : List Value → Except JsonFault String
  | [] => .ok ""
  | v :: vs => do
    let text ← v.json
    let rest ← jsonItems "," vs
    return separator ++ text ++ rest

def jsonEntries (separator : String) : List (Value × Value) → Except JsonFault String
  | [] => .ok ""
  | (k, v) :: es => do
    let name ← Json.key k
    let text ← v.json
    let rest ← jsonEntries "," es
    return separator ++ name ++ ":" ++ text ++ rest

end

end Value

end AnalyzerBench.Yaml
