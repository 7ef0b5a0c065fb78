import AnalyzerBench.Binary64

/-!
# Values of a YAML document

The keys of one mapping differ.  Keys are compared as typed values: an integer never equals a real number or a string,
the two zeros are equal, a NaN equals a NaN, and the order of the entries of a mapping does not matter.
-/

namespace AnalyzerBench.Yaml

inductive Number where
  | integer (i : Int)
  | real (x : Binary64)
  deriving DecidableEq, Repr

/-- Equality of numbers as keys. -/
def Number.same : Number → Number → Bool
  | .integer i, .integer j => i == j
  | .real x, .real y => x.sameNumber y
  | _, _ => false

inductive Value where
  | null
  | bool (b : Bool)
  | number (n : Number)
  | string (s : String)
  | sequence (items : List Value)
  | mapping (entries : List (Value × Value))
  /-- A value under a local tag, given with its exclamation mark. -/
  | tagged (tag : String) (value : Value)
  deriving Repr

namespace Value

mutual

/-- Equality of values as keys. -/
def same : Value → Value → Bool
  | .null, .null => true
  | .bool a, .bool b => a == b
  | .number a, .number b => a.same b
  | .string a, .string b => a == b
  | .sequence as, .sequence bs => sameItems as bs
  | .mapping as, .mapping bs => as.length == bs.length && sameEntries as bs
  | .tagged t a, .tagged u b => t == u && a.same b
  | _, _ => false

def sameItems : List Value → List Value → Bool
  | [], [] => true
  | a :: as, b :: bs => a.same b && sameItems as bs
  | _, _ => false

/-- Whether every entry of the first list is in the second one. -/
def sameEntries : List (Value × Value) → List (Value × Value) → Bool
  | [], _ => true
  | (k, v) :: es, bs => bs.any (fun e => k.same e.1 && v.same e.2) && sameEntries es bs

end

/-- Whether one of the values occurs twice. -/
def repeats : List Value → Bool
  | [] => false
  | v :: vs => vs.any v.same || repeats vs

end Value

end AnalyzerBench.Yaml
