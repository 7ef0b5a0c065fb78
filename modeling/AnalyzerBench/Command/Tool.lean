import AnalyzerBench.Command.Check
import AnalyzerBench.Command.Extraction
import AnalyzerBench.Command.Fixture
import AnalyzerBench.Command.Migration

/-!
# The tools

Four tools share their flags and their version.  A tool reads at most one file, and may replace the text of that one.
-/

namespace AnalyzerBench.Command

inductive Tool where
  | fixture
  | extraction
  | migration
  | check
  deriving DecidableEq, Repr

/-- The tool of a name. -/
def Tool.ofName? : String → Option Tool
  | "fpgen" => some .fixture
  | "extract-directives" => some .extraction
  | "migrate-config" => some .migration
  | "check-results" => some .check
  | _ => none

/-- What one of the tools is asked for. -/
inductive Request where
  | fixture (r : FixtureRequest)
  | extraction (r : ExtractionRequest)
  | migration (r : MigrationRequest)
  | check (r : CheckRequest)
  deriving DecidableEq, Repr

/-- A request of one tool as a request of any. -/
def Asked.map {α β : Type} (f : α → β) : Asked α → Asked β
  | .usageFault => .usageFault
  | .help => .help
  | .version => .version
  | .request a => .request (f a)

namespace Tool

/-- What a command line asks the tool for. -/
def asked (t : Tool) (arguments : List String) : Asked Request :=
  match t with
  | .fixture => (FixtureRequest.ofArguments arguments).map .fixture
  | .extraction => (ExtractionRequest.ofArguments arguments).map .extraction
  | .migration => (MigrationRequest.ofArguments arguments).map .migration
  | .check => (CheckRequest.ofArguments arguments).map .check

def help : Tool → String
  | .fixture => FixtureRequest.help
  | .extraction => ExtractionRequest.help
  | .migration => MigrationRequest.help
  | .check => CheckRequest.help

def version : String := "absint-testkit 0.1.0\n"

end Tool

namespace Request

/-- The file that a request is about. -/
def file? : Request → Option String
  | .fixture _ => none
  | .extraction r => some r.file
  | .migration r => some r.file
  | .check r => some r.file

/-- What reading the file of a request gives in a directory; a request without a file reads nothing. -/
def content (d : Directory) (r : Request) : Except ReadFault String :=
  match r.file? with
  | some path => d.read path
  | none => .ok ""

/-- The outcome of a request, given what reading its file gave. -/
def outcome (content : Except ReadFault String) : Request → Outcome
  | .fixture r => r.outcome
  | .extraction r => r.outcome content
  | .migration r => r.outcome content
  | .check r => r.outcome content

/-- The directory that is left: the file of the request has a new text, if the outcome asks for that. -/
def left (d : Directory) (r : Request) (o : Outcome) : Directory :=
  match r.file?, o.replacement with
  | some path, some text => d.replace path text
  | _, _ => d

end Request

/-- Runs a tool in a directory, together with the directory that is left. -/
def Tool.run (t : Tool) (arguments : List String) (d : Directory) : Outcome × Directory :=
  match t.asked arguments with
  | .usageFault => (.usageFault, d)
  | .help => (.printing t.help, d)
  | .version => (.printing Tool.version, d)
  | .request r =>
    let o := r.outcome (r.content d)
    (o, r.left d o)

end AnalyzerBench.Command
