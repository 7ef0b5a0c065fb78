/-!
# Powers with integer exponents

A power with a negative exponent is a fraction, so scaling by a power means multiplying one of two natural numbers: the
numerator if the exponent is positive, the denominator if it is negative.
-/

namespace AnalyzerBench.Power

/-- The numerator of the power of a base. -/
def num (base : Nat) (k : Int) : Nat := Nat.pow base k.toNat

/-- The denominator of the power of a base. -/
def den (base : Nat) (k : Int) : Nat := Nat.pow base (-k).toNat

end AnalyzerBench.Power
