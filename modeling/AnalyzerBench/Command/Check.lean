import AnalyzerBench.Check.Checker
import AnalyzerBench.Command.Arguments
import AnalyzerBench.Command.Outcome

/-!
# The result checker

Prints the findings of a check, in colors if asked for.  The status tells a failed check only in strict mode.
-/

namespace AnalyzerBench.Command

/-- When findings are colored; by default never, as the tool does not write to a terminal. -/
inductive ColorChoice where
  | auto
  | always
  | never
  deriving DecidableEq, Repr

def ColorChoice.ofName? : String → Option ColorChoice
  | "auto" => some .auto
  | "always" => some .always
  | "never" => some .never
  | _ => none

/-- What the result checker is asked for. -/
structure CheckRequest where
  file : String
  expectation : Option Expectation
  strict : Bool
  color : ColorChoice
  verbose : Bool
  deriving DecidableEq, Repr

namespace CheckRequest

def rules : Rules := { flags := ["strict"], valued := ["color"] }

/-- The items of a command line so far. -/
structure Given where
  file : Option String := none
  target : Option String := none
  expected : Option String := none
  strict : Bool := false
  color : Option ColorChoice := none
  verbose : Bool := false

/-- Takes an operand into account: the file, the target and the expected value come in this order. -/
def Given.addOperand (g : Given) (text : String) : Option Given :=
  if g.file.isNone then (if text = "" then none else some { g with file := some text })
  else if g.target.isNone then some { g with target := some text }
  else if g.expected.isNone then some { g with expected := some text }
  else none

def Given.add (g : Given) : Argument → Option Given
  | .flag "strict" => (setOnce g.strict).map fun strict => { g with strict }
  | .flag "verbose" => (setOnce g.verbose).map fun verbose => { g with verbose }
  | .option _ value => do
    let choice ← ColorChoice.ofName? value
    let color ← giveOnce g.color choice
    some { g with color }
  | .operand text => g.addOperand text
  | _ => none

/-- The request, unless the file is missing or a target is given without an expected value. -/
def Given.request? (g : Given) : Option CheckRequest := do
  let file ← g.file
  let expectation ← match g.target, g.expected with
    | some target, some expected => some (some { target, expected : Expectation })
    | none, none => some none
    | _, _ => none
  some { file, expectation, strict := g.strict, color := g.color.getD .auto, verbose := g.verbose }

def ofArguments (arguments : List String) : Asked CheckRequest :=
  ask Given.add Given.request? {} (rules.read arguments)

/-- The control sequence that starts a finding's color. -/
def colorOf : Diagnostic → String
  | .bottom _ => "\x1b[33m"
  | .topOverride _ _ => "\x1b[36m"
  | .matched _ _ => "\x1b[32m"
  | .mismatch _ _ _ | .targetMissing _ => "\x1b[1;31m"

/-- The control sequence that ends a color. -/
def colorEnd : String := "\x1b[0m"

/-- A text in a color, which starts again wherever the text itself ends it. -/
def colored (color text : String) : String := color ++ Text.addAfter colorEnd color text ++ colorEnd

/-- The printed line of a finding. -/
def line (r : CheckRequest) (finding : Diagnostic) : String :=
  (if r.color = .always then colored (colorOf finding) finding.message else finding.message) ++ "\n"

/-- Checks the file, given what reading it gave. -/
def run (r : CheckRequest) : Except ReadFault String → Run Report
  | .error reason => Run.fault (.unreadable r.file reason)
  | .ok text => checkText text r.expectation

/-- The outcome of a request, given what reading the file gave. -/
def outcome (r : CheckRequest) (content : Except ReadFault String) : Outcome :=
  .ofRun r.verbose [] (r.run content) fun report =>
    { exit := if r.strict && report.verdict.isFailure then 1 else 0
      stdout := String.join (report.diagnostics.map r.line) }

def help : String :=
  "Check analyzer results against an expected value

Usage: check-results [OPTIONS] <RESULTS> [TARGET] [EXPECTED]

Arguments:
  <RESULTS>   Result dump to check
  [TARGET]    Identifier whose value is checked
  [EXPECTED]  Expected value of TARGET

Options:
      --strict         Exit with status 1 when the target mismatches or is missing
      --color <COLOR>  When to color the output [default: auto] [possible values: auto, always, never]
  -v, --verbose        Enable debug logging
  -h, --help           Print help
  -V, --version        Print version
"

end CheckRequest

end AnalyzerBench.Command
