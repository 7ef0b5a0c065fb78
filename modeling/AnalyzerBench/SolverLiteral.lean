import AnalyzerBench.Binary64
import AnalyzerBench.Fault
import AnalyzerBench.Text.Blank
import AnalyzerBench.Text.Digits
import AnalyzerBench.Text.Search

/-!
# Solver literals

A double is written for a solver as the literal `(fp #b<sign> #b<exponent> #x<significand>)` with 1 and 11 binary and
13 hexadecimal digits.  The literal spells the bit pattern and nothing else, so signed zeros, infinities, subnormals
and the payloads of NaNs need no special case.  Reading allows any blanks where printing puts one space, blanks around
the literal and before its closing bracket, and digits of either case.
-/

namespace AnalyzerBench

/-- A binary64 value split into its fields. -/
structure SolverLiteral where
  sign : Bool
  exponent : Nat
  significand : Nat
  deriving DecidableEq, Repr

namespace SolverLiteral

/-- The fields of a double. -/
def ofDouble (x : Binary64) : SolverLiteral := ⟨x.isNegative, x.exponentField, x.significandField⟩

/-- The fields of a bit pattern. -/
def ofBits (bits : UInt64) : SolverLiteral := ofDouble ⟨bits⟩

/-- The bit pattern with the given fields. -/
def toBits (l : SolverLiteral) : UInt64 :=
  (l.sign.toUInt64 <<< 63) ||| (UInt64.ofNat l.exponent <<< 52) ||| UInt64.ofNat l.significand

/-- The double with the given fields. -/
def toDouble (l : SolverLiteral) : Binary64 := ⟨l.toBits⟩

/-- The characters of a literal. -/
def chars (l : SolverLiteral) : List Char :=
  ['(', 'f', 'p', ' ', '#', 'b'] ++ Text.fixedDigits 2 1 l.sign.toNat ++ [' ', '#', 'b'] ++
    Text.fixedDigits 2 11 l.exponent ++ [' ', '#', 'x'] ++ Text.fixedDigits 16 13 l.significand ++ [')']

/-- The text of a literal. -/
def print (l : SolverLiteral) : String := String.ofList l.chars

/-! ### Reading -/

/-- The text between the opening `(fp` and the closing bracket. -/
def body? (cs : List Char) : Option (List Char) :=
  match Text.Chars.afterStart? ['(', 'f', 'p'] cs with
  | some rest => if rest.getLast? = some ')' then some rest.dropLast else none
  | none => none

/-- The number in a field, after its tag, of exactly `width` digits. -/
def field? (tag : List Char) (base width : Nat) (cs : List Char) : Option Nat :=
  match Text.Chars.afterStart? tag cs with
  | some digits => if digits.length = width then Text.number? base digits else none
  | none => none

/-- The literal that a text spells. -/
def parse? (text : String) : Option SolverLiteral := do
  let body ← body? (Text.Chars.trim text.toList)
  match Text.Chars.words body with
  | [sign, exponent, significand] =>
    let sign ← field? ['#', 'b'] 2 1 sign
    let exponent ← field? ['#', 'b'] 2 11 exponent
    let significand ← field? ['#', 'x'] 16 13 significand
    some { sign := sign == 1, exponent, significand }
  | _ => none

/-- The literal that a text spells; any other text is reported whole. -/
def parse (text : String) : Except Fault SolverLiteral :=
  match parse? text with
  | some l => .ok l
  | none => .error (.invalidLiteral text)

end SolverLiteral

/-- The solver literal of a double. -/
def Binary64.encode (x : Binary64) : String := (SolverLiteral.ofDouble x).print

end AnalyzerBench
