import AnalyzerBench.Command.Arguments
import AnalyzerBench.Command.Outcome
import AnalyzerBench.Decimal.Reading
import AnalyzerBench.Fixture

/-!
# The fixture generator

Prints the fixture of the given doubles, or of the default ones.  There are as many identifiers as letters; values
beyond them are dropped with a warning.
-/

namespace AnalyzerBench.Command

/-- What the fixture generator is asked for. -/
structure FixtureRequest where
  directive : String
  values : List Binary64
  verbose : Bool
  deriving DecidableEq, Repr

namespace FixtureRequest

def rules : Rules := { valued := ["directive"], negativeNumbers := true }

/-- The items of a command line so far. -/
structure Given where
  directive : Option String := none
  values : List Binary64 := []
  verbose : Bool := false

def Given.add (g : Given) : Argument → Option Given
  | .flag "verbose" => (setOnce g.verbose).map fun verbose => { g with verbose }
  | .option _ value => (giveOnce g.directive value).map fun directive => { g with directive }
  | .operand text => (Binary64.ofNumeral? text.toList).map fun x => { g with values := g.values ++ [x] }
  | _ => none

def Given.request (g : Given) : FixtureRequest where
  directive := g.directive.getD Fixture.defaultDirective
  values := if g.values.isEmpty then Fixture.defaultValues else g.values
  verbose := g.verbose

def ofArguments (arguments : List String) : Asked FixtureRequest :=
  ask Given.add (fun g => some g.request) {} (rules.read arguments)

/-- The outcome of a request. -/
def outcome (r : FixtureRequest) : Outcome :=
  let fixture := Fixture.ofPairs r.directive Fixture.alphabet r.values
  let warnings := if fixture.size < r.values.length then [Event.dropped fixture.size (r.values.length - fixture.size)]
    else []
  { stdout := fixture.text, log := warnings }

def help : String :=
  "Generate bit-exact floating-point literal fixtures

Usage: fpgen [OPTIONS] [FLOAT]...

Arguments:
  [FLOAT]...  Values to encode (default: signed ones, twos, zeros, infinities and smallest subnormals)

Options:
      --directive <TEXT>  Prefix of each verification directive [default: \"; VERIFY:\"]
  -v, --verbose           Enable debug logging
  -h, --help              Print help
  -V, --version           Print version
"

end FixtureRequest

end AnalyzerBench.Command
