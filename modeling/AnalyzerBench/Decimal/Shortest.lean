import AnalyzerBench.Binary64
import AnalyzerBench.Decimal.Power

/-!
# Shortest decimal digits

A positive finite binary64 value `m * 2 ^ q` is the nearest one for all reals of an interval around it, whose ends
belong to it exactly if `m` is even.  The digits of the value are those of the coarsest decimal grid with a point in
that interval, and of two such points the nearer one, an exact tie going to the even digit.
-/

namespace AnalyzerBench.Decimal

/-- A decimal numeral `0.d₁d₂… * 10 ^ point`, its digits given as a number without trailing zeros and their count. -/
structure Digits where
  digits : Nat
  count : Nat
  point : Int
  deriving DecidableEq, Repr

/-- Reals that round to one binary64 value, in units of `1 / scale`: the value and the ends of the interval. -/
structure Interval where
  scale : Nat
  value : Nat
  lower : Nat
  upper : Nat
  closed : Bool

/-- The interval of a positive finite value, with quarter units in the last place. -/
def Interval.ofBinary64 (x : Binary64) : Interval :=
  let (m, q) := x.magnitude
  let quarter := Power.num 2 q
  let value := 4 * m * quarter
  let below := if m = 0x10000000000000 && q > 0 then quarter else 2 * quarter
  { scale := Power.num 2 1076, value, lower := value - below, upper := value + 2 * quarter, closed := m % 2 == 0 }

/-- Whether the fraction `num / den` lies in the interval. -/
def Interval.holds (i : Interval) (num den : Nat) : Bool :=
  let p := num * i.scale
  if i.closed then i.lower * den ≤ p && p ≤ i.upper * den else i.lower * den < p && p < i.upper * den

/-- The least `k` with `num / den < 10 ^ k`, for a positive fraction, sought downward from `bound`. -/
def decimalOrder (num den : Nat) (bound : Int) : Nat → Int
  | 0 => bound
  | steps + 1 =>
    let k := bound - 1
    if num * Power.den 10 k < den * Power.num 10 k then decimalOrder num den k steps else bound

/-- The point of the grid `10 ^ k` in the interval, in steps of the grid: the nearer one of the value's neighbours. -/
def Interval.gridPoint? (i : Interval) (k : Int) : Option Nat :=
  let num := i.value * Power.den 10 k
  let den := i.scale * Power.num 10 k
  let below := num / den
  let inside (n : Nat) : Bool := i.holds (n * Power.num 10 k) (Power.den 10 k)
  let twice := 2 * (num % den)
  let nearer := if twice < den || (twice == den && below % 2 == 0) then below else below + 1
  let other := if nearer = below then below + 1 else below
  if nearer > 0 && inside nearer then some nearer
  else if other > 0 && inside other then some other
  else none

/-- The first grid point found with `count`, `count + 1`, … digits after the decimal order `order`. -/
def Interval.search (i : Interval) (order : Int) (count : Nat) : Nat → Nat × Int
  | 0 => (0, 0)
  | steps + 1 =>
    let k := order - count
    match i.gridPoint? k with
    | some n => (n, k)
    | none => i.search order (count + 1) steps

/-- The number without its trailing zeros, and their count added to `k`. -/
def dropZeros (n : Nat) (k : Int) : Nat → Nat × Int
  | 0 => (n, k)
  | steps + 1 => if n % 10 = 0 then dropZeros (n / 10) (k + 1) steps else (n, k)

/-- The shortest digits of a positive finite binary64 value. -/
def shortest (x : Binary64) : Digits :=
  let i := Interval.ofBinary64 x
  let order := decimalOrder i.value i.scale 309 640
  let (n, k) := i.search order 1 17
  let (n, k) := dropZeros n k 17
  let count := (Nat.toDigits 10 n).length
  { digits := n, count := count, point := k + count }

end AnalyzerBench.Decimal
