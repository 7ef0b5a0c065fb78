import AnalyzerBench.Command.Arguments
import AnalyzerBench.Command.Outcome
import AnalyzerBench.Extraction

/-!
# The directive extractor

Prints the payloads of an annotated file, one a line.
-/

namespace AnalyzerBench.Command

/-- What the directive extractor is asked for. -/
structure ExtractionRequest where
  file : String
  marker : Marker
  verbose : Bool
  deriving DecidableEq, Repr

namespace ExtractionRequest

def rules : Rules := { valued := ["marker"] }

/-- The items of a command line so far. -/
structure Given where
  file : Option String := none
  marker : Option String := none
  verbose : Bool := false

def Given.add (g : Given) : Argument → Option Given
  | .flag "verbose" => (setOnce g.verbose).map fun verbose => { g with verbose }
  | .option _ value => (giveOnce g.marker value).map fun marker => { g with marker }
  | .operand text => if text = "" then none else (giveOnce g.file text).map fun file => { g with file }
  | _ => none

def Given.request? (g : Given) : Option ExtractionRequest :=
  g.file.map fun file => { file, marker := (g.marker.map Marker.mk).getD {}, verbose := g.verbose }

def ofArguments (arguments : List String) : Asked ExtractionRequest :=
  ask Given.add Given.request? {} (rules.read arguments)

/-- Extracts the payloads of the file, given what reading it gave. -/
def run (r : ExtractionRequest) : Except ReadFault String → Run (List String)
  | .error reason => Run.fault (.unreadable r.file reason)
  | .ok text => extractText r.marker text

/-- The outcome of a request, given what reading the file gave. -/
def outcome (r : ExtractionRequest) (content : Except ReadFault String) : Outcome :=
  .ofRun r.verbose [] (r.run content) fun payloads =>
    { stdout := String.join (payloads.map (· ++ "\n")), log := [.extracted payloads.length r.file] }

def help : String :=
  "Extract embedded directives from an annotated test file

Usage: extract-directives [OPTIONS] <FILE>

Arguments:
  <FILE>  Annotated test file

Options:
      --marker <TOKEN>  Marker token introducing a directive (matched as `<TOKEN>:`) [default: CONFIG]
  -v, --verbose         Enable debug logging
  -h, --help            Print help
  -V, --version         Print version
"

end ExtractionRequest

end AnalyzerBench.Command
