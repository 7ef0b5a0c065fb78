import AnalyzerBench.Binary64
import AnalyzerBench.Decimal.Power
import AnalyzerBench.Text.Digits

/-!
# Reading decimal numerals

A numeral is read as the nearest binary64 value, a tie going to the even significand.  The value of the numeral is
kept exactly, as a quotient of natural numbers, until the one rounding.  Magnitudes that lie far outside the range of
binary64 are settled before that, so an exponent may be as long as it likes.
-/

namespace AnalyzerBench

namespace Binary64

/-- The quotient to the nearest natural number, a tie going to the even one. -/
def roundQuotient (num den : Nat) : Nat :=
  let q := num / den
  let twice := 2 * (num % den)
  if twice < den || (twice == den && q % 2 == 0) then q else q + 1

/-- The greatest `k` with `2 ^ k ≤ num / den`, for positive `num` and `den`. -/
def binaryOrder (num den : Nat) : Int :=
  let k : Int := (num.log2 : Int) - (den.log2 : Int)
  if den * Power.num 2 k ≤ num * Power.den 2 k then k else k - 1

/-- The binary64 value nearest to a quotient of positive numbers; beyond the greatest finite value, infinity. -/
def ofQuotient (num den : Nat) : Binary64 :=
  let e : Int := max (binaryOrder num den - 52) (-1074)
  let significand := roundQuotient (num * Power.den 2 e) (den * Power.num 2 e)
  let pattern := (e + 1074).toNat * 0x10000000000000 + significand
  if pattern < 0x7FF0000000000000 then ⟨UInt64.ofNat pattern⟩ else infinity

/-- The binary64 value nearest to `digits * 10 ^ exponent`, where `digits` has at most `count` digits. -/
def ofScaled (digits count : Nat) (exponent : Int) : Binary64 :=
  if digits = 0 then ⟨0⟩
  else if exponent > 310 then infinity
  else if exponent + count < -330 then ⟨0⟩
  else ofQuotient (digits * Power.num 10 exponent) (Power.den 10 exponent)

end Binary64

namespace Decimal

/-- A leading sign, true for minus, and the rest. -/
def takeSign : List Char → Bool × List Char
  | '-' :: cs => (true, cs)
  | '+' :: cs => (false, cs)
  | cs => (false, cs)

/-- The exponent part of a numeral: nothing, or a letter, a sign if any and digits. -/
def exponent? : List Char → Option Int
  | [] => some 0
  | c :: cs =>
    if c = 'e' || c = 'E' then
      let (negative, ds) := takeSign cs
      (Text.number? 10 ds).map fun n => if negative then -(n : Int) else n
    else none

/-- A numeral without a sign: digits with at most one point, at least one digit, and an exponent part. -/
def unsigned? (cs : List Char) : Option Binary64 :=
  let whole := cs.takeWhile Char.isDigit
  let afterWhole := cs.dropWhile Char.isDigit
  let (fraction, rest) := match afterWhole with
    | '.' :: r => (r.takeWhile Char.isDigit, r.dropWhile Char.isDigit)
    | r => ([], r)
  match Text.number? 10 (whole ++ fraction), exponent? rest with
  | some digits, some e =>
    some (Binary64.ofScaled digits (whole.length + fraction.length) (e - fraction.length))
  | _, _ => none

/-- The words for an infinity and for a NaN, in any case. -/
def special? (cs : List Char) : Option Binary64 :=
  let word := cs.map Char.toLower
  if word = ['i', 'n', 'f'] || word = ['i', 'n', 'f', 'i', 'n', 'i', 't', 'y'] then some .infinity
  else if word = ['n', 'a', 'n'] then some .quietNaN
  else none

end Decimal

/-- The binary64 value that a numeral, or a word for an infinity or a NaN, stands for. -/
def Binary64.ofNumeral? (cs : List Char) : Option Binary64 :=
  let (negative, body) := Decimal.takeSign cs
  match Decimal.special? body with
  | some x => some (x.negateIf negative)
  | none => (Decimal.unsigned? body).map (·.negateIf negative)

end AnalyzerBench
