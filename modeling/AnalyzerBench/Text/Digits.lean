/-!
# Digits

Numbers are written with a fixed count of digits in bases up to sixteen, and read back from digits of either case.
-/

namespace AnalyzerBench.Text

/-- The last `width` digits of `n` in the base, the most significant first, with small letters. -/
def fixedDigits (base : Nat) : (width n : Nat) → List Char
  | 0, _ => []
  | width + 1, n => fixedDigits base width (n / base) ++ [Nat.digitChar (n % base)]

/-- The value of a hexadecimal digit of either case. -/
def digitValue? (c : Char) : Option Nat :=
  if '0' ≤ c ∧ c ≤ '9' then some (c.toNat - '0'.toNat)
  else if 'a' ≤ c ∧ c ≤ 'f' then some (c.toNat - 'a'.toNat + 10)
  else if 'A' ≤ c ∧ c ≤ 'F' then some (c.toNat - 'A'.toNat + 10)
  else none

/-- The value of a digit in the base. -/
def digitIn? (base : Nat) (c : Char) : Option Nat :=
  match digitValue? c with
  | some d => if d < base then some d else none
  | none => none

/-- The number that the digits write after the number `start`. -/
def readDigits? (base : Nat) : (start : Nat) → List Char → Option Nat
  | start, [] => some start
  | start, c :: cs =>
    match digitIn? base c with
    | some d => readDigits? base (start * base + d) cs
    | none => none

/-- The number of a nonempty row of digits. -/
def number? (base : Nat) (cs : List Char) : Option Nat :=
  if cs.isEmpty then none else readDigits? base 0 cs

/-- A number in decimal digits. -/
def decimal (n : Nat) : String := String.ofList (Nat.toDigits 10 n)

/-- The hexadecimal digits of a code point, without leading zeros. -/
def codePointDigits (c : Char) : List Char :=
  match (fixedDigits 16 6 c.toNat).dropWhile (· = '0') with
  | [] => ['0']
  | ds => ds

end AnalyzerBench.Text
