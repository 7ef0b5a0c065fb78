/-!
# Binary64 values as bit patterns

A double is kept as its 64 bits, so that signed zeros and the payload of every NaN survive.  Above 52 significand bits
stand 11 exponent bits and the sign bit.
-/

namespace AnalyzerBench

/-- A binary64 value, given by its bit pattern. -/
structure Binary64 where
  bits : UInt64
  deriving DecidableEq, Repr

namespace Binary64

/-- The sign bit. -/
def isNegative (x : Binary64) : Bool := x.bits >>> 63 == 1

/-- The biased exponent. -/
def exponentField (x : Binary64) : Nat := ((x.bits >>> 52) &&& 0x7FF).toNat

/-- The trailing significand. -/
def significandField (x : Binary64) : Nat := (x.bits &&& 0xFFFFFFFFFFFFF).toNat

/-- The pattern of the other sign, if `negative` holds. -/
def negateIf (negative : Bool) (x : Binary64) : Binary64 :=
  if negative then ⟨x.bits ^^^ 0x8000000000000000⟩ else x

/-- Whether the pattern is a NaN. -/
def isNaN (x : Binary64) : Bool := x.exponentField == 0x7FF && x.significandField != 0

/-- Whether the pattern is an infinity. -/
def isInfinite (x : Binary64) : Bool := x.exponentField == 0x7FF && x.significandField == 0

/-- Whether the pattern is a number other than an infinity. -/
def isFinite (x : Binary64) : Bool := x.exponentField != 0x7FF

/-- Whether the pattern is a zero of either sign. -/
def isZero (x : Binary64) : Bool := x.exponentField == 0 && x.significandField == 0

def infinity : Binary64 := ⟨0x7FF0000000000000⟩

/-- The quiet NaN without a payload. -/
def quietNaN : Binary64 := ⟨0x7FF8000000000000⟩

/-- A finite magnitude as `m * 2 ^ q`: the pair of `m` and `q + 1074`. -/
def magnitude (x : Binary64) : Nat × Nat :=
  if x.exponentField = 0 then (x.significandField, 0) else (x.significandField + 0x10000000000000, x.exponentField - 1)

/-- Equality of numbers as keys of a mapping: the two zeros are equal, and so are all NaNs. -/
def sameNumber (x y : Binary64) : Bool :=
  (x.isNaN && y.isNaN) || (x.isZero && y.isZero) || x.bits == y.bits

end Binary64

end AnalyzerBench
