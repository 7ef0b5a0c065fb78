import AnalyzerBench.SolverLiteral

/-!
# Fixtures of doubles

A fixture pairs identifiers with doubles.  For each pair it holds a check, which says what the analyzer must find, and
an instruction that makes the value: the value is added to zero as a hexadecimal constant, which spells its bits and
cannot be folded away by the code generator's own notation of numbers.
-/

namespace AnalyzerBench

/-- Checks and instructions; the `i`-th of both name the same identifier. -/
structure Fixture where
  checks : List String := []
  instructions : List String := []
  deriving DecidableEq, Repr

namespace Fixture

/-- What opens a check unless another text is given. -/
def defaultDirective : String := "; VERIFY:"

/-- The identifiers of a fixture unless others are given: the letters from a to z. -/
def alphabet : List Char := (List.range 26).map fun i => Char.ofNat ('a'.toNat + i)

/-- The doubles of a fixture unless others are given: ones, twos, zeros, infinities and the least subnormals, each of
both signs. -/
def defaultValues : List Binary64 :=
  [⟨0x3FF0000000000000⟩, ⟨0xBFF0000000000000⟩, ⟨0x4000000000000000⟩, ⟨0xC000000000000000⟩, ⟨0x0000000000000000⟩,
    ⟨0x8000000000000000⟩, ⟨0x7FF0000000000000⟩, ⟨0xFFF0000000000000⟩, ⟨0x0000000000000001⟩, ⟨0x8000000000000001⟩]

/-- The check of one value. -/
def check (directive : String) (name : Char) (x : Binary64) : String :=
  directive ++ " %" ++ String.singleton name ++ " -> " ++ x.encode

/-- The bit pattern of a double in sixteen digits with capital letters. -/
def constant (x : Binary64) : String := String.ofList ((Text.fixedDigits 16 16 x.bits.toNat).map Char.toUpper)

/-- The instruction that makes one value. -/
def instruction (name : Char) (x : Binary64) : String :=
  "%" ++ String.singleton name ++ " = fadd double 0.0, 0x" ++ constant x

/-- The fixture of names and values, as long as the shorter of both. -/
def ofPairs (directive : String) (names : List Char) (values : List Binary64) : Fixture where
  checks := (names.zip values).map fun (name, x) => check directive name x
  instructions := (names.zip values).map fun (name, x) => instruction name x

def size (f : Fixture) : Nat := f.checks.length

/-- The printed fixture: its checks, an empty line and its instructions. -/
def text (f : Fixture) : String :=
  String.join ((f.checks ++ [""] ++ f.instructions).map (· ++ "\n"))

end Fixture

end AnalyzerBench
