import AnalyzerBench.Decimal.Shortest
import AnalyzerBench.Text.Digits

/-!
# Laying out decimal digits

The digits of a number are laid out positionally while the point stays near them, and with an exponent otherwise.
Positional numerals keep a fraction digit, so that a real number cannot be taken for an integer.
-/

namespace AnalyzerBench.Decimal

/-- How a real number is laid out. -/
structure Layout where
  /-- The least exponent of the first digit that is still written positionally. -/
  leastPositional : Int
  /-- The greatest exponent of the first digit that is still written positionally. -/
  greatestPositional : Int
  /-- Whether a positive exponent carries a plus sign. -/
  signedExponent : Bool
  deriving DecidableEq, Repr

/-- An integer in decimal digits. -/
def integerText (i : Int) : String :=
  if i < 0 then "-" ++ Text.decimal i.natAbs else Text.decimal i.natAbs

/-- Digits laid out positionally. -/
def positional (ds : List Char) (point : Int) : List Char :=
  if point ≤ 0 then ['0', '.'] ++ List.replicate (-point).toNat '0' ++ ds
  else if ds.length ≤ point.toNat then ds ++ List.replicate (point.toNat - ds.length) '0' ++ ['.', '0']
  else ds.take point.toNat ++ '.' :: ds.drop point.toNat

/-- Digits laid out with an exponent. -/
def scientific (layout : Layout) (ds : List Char) (exponent : Int) : List Char :=
  let mantissa := match ds with
    | d :: e :: rest => d :: '.' :: e :: rest
    | short => short
  let sign := if layout.signedExponent && exponent ≥ 0 then ['+'] else []
  mantissa ++ 'e' :: sign ++ (integerText exponent).toList

/-- A finite binary64 value as the shortest numeral that reads back. -/
def Layout.write (layout : Layout) (x : Binary64) : String :=
  let sign := if x.isNegative then ['-'] else []
  let body :=
    if x.isZero then ['0', '.', '0']
    else
      let d := shortest x
      let ds := Nat.toDigits 10 d.digits
      let exponent := d.point - 1
      if layout.leastPositional ≤ exponent && exponent ≤ layout.greatestPositional then positional ds d.point
      else scientific layout ds exponent
  String.ofList (sign ++ body)

end AnalyzerBench.Decimal
