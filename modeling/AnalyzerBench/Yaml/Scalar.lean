import AnalyzerBench.Decimal.Reading
import AnalyzerBench.Yaml.Token
import AnalyzerBench.Yaml.Value

/-!
# What scalars mean

A plain scalar is null, a boolean, a number or else a string; any other scalar is a string.  A tag of the core schema
forces its type on a scalar of any style, and other tags make it a string.
-/

namespace AnalyzerBench.Yaml

namespace Scalar

/-! ### Null and booleans -/

/-- Whether a scalar is a word for null. -/
def isNull (cs : List Char) : Bool :=
  ["null".toList, "Null".toList, "NULL".toList, "~".toList].contains cs

/-- The boolean that a scalar stands for. -/
def bool? (cs : List Char) : Option Bool :=
  if ["true".toList, "True".toList, "TRUE".toList].contains cs then some true
  else if ["false".toList, "False".toList, "FALSE".toList].contains cs then some false
  else none

/-! ### Integers -/

/-- Whether a scalar is a zero and further digits, possibly after a sign: such a scalar is no number. -/
def isZeroPadded (cs : List Char) : Bool :=
  match (Decimal.takeSign cs).2 with
  | '0' :: d :: ds => (d :: ds).all Char.isDigit
  | _ => false

/-- A number without a sign, in base sixteen, eight or two after the base's mark, or in base ten. -/
def magnitude? : List Char → Option Nat
  | '0' :: 'x' :: ds => Text.number? 16 ds
  | '0' :: 'o' :: ds => Text.number? 8 ds
  | '0' :: 'b' :: ds => Text.number? 2 ds
  | ds => Text.number? 10 ds

/-- An integer of any size. -/
def integer? (cs : List Char) : Option Int :=
  if isZeroPadded cs then none
  else
    let (negative, ds) := Decimal.takeSign cs
    (magnitude? ds).map fun n => if negative then -(n : Int) else n

/-- The integers that a value can hold. -/
def isWord (i : Int) : Bool := -0x8000000000000000 ≤ i && i < 0x10000000000000000

/-- The integers that are refused if they are no words; still greater ones are read as real numbers. -/
def isDoubleWord (i : Int) : Bool :=
  -0x80000000000000000000000000000000 ≤ i && i < 0x100000000000000000000000000000000

/-! ### Real numbers -/

/-- A real number: a word for an infinity or for NaN after a point, or a finite numeral. -/
def real? (cs : List Char) : Option Binary64 :=
  let (negative, body) := Decimal.takeSign cs
  if [".inf".toList, ".Inf".toList, ".INF".toList].contains body then some (Binary64.infinity.negateIf negative)
  else if [".nan".toList, ".NaN".toList, ".NAN".toList].contains cs then some .quietNaN
  else (Binary64.ofNumeral? cs).filter (·.isFinite)

/-! ### Scalars -/

/-- The integer a scalar stands for, if it is one of at most two words; of two words it is refused. -/
def word? (cs : List Char) : Option (Option Value) :=
  match integer? cs with
  | some i => if isWord i then some (some (.number (.integer i))) else if isDoubleWord i then some none else none
  | none => none

/-- The value of a plain scalar without a tag. -/
def plain? (cs : List Char) : Option Value :=
  if cs.isEmpty || isNull cs then some .null
  else match bool? cs with
    | some b => some (.bool b)
    | none =>
      match word? cs with
      | some v => v
      | none =>
        match if isZeroPadded cs then none else real? cs with
        | some x => some (.number (.real x))
        | none => some (.string (String.ofList cs))

/-- The text of a tag of the core schema. -/
def coreTag (name : String) : TagText := ("tag:yaml.org,2002:" ++ name).toList.map some

/-- The name of a local tag with its exclamation mark. -/
def localTag? : TagText → Option String
  | some '!' :: rest =>
    (if rest.isEmpty then some ['!'] else rest.mapM id).map fun name =>
      String.ofList ('!' :: (match name with
        | '!' :: c :: cs => c :: cs
        | name => name))
  | _ => none

/-- The value of a scalar; a local tag in `tag` is one whose text is ill-formed, so it cannot name the value. -/
def value? (tag : Option TagText) (plain : Bool) (cs : List Char) : Option Value :=
  let untagged := if plain then plain? cs else some (.string (String.ofList cs))
  match tag with
  | none => untagged
  | some tag =>
    if tag = coreTag "bool" then (bool? cs).map .bool
    else if tag = coreTag "int" then (word? cs).join
    else if tag = coreTag "float" then (real? cs).map fun x => .number (.real x)
    else if tag = coreTag "null" then (if isNull cs then some .null else none)
    else if tag.head? = some (some '!') then untagged
    else some (.string (String.ofList cs))

end Scalar

end AnalyzerBench.Yaml
