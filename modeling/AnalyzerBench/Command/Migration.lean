import AnalyzerBench.Command.Arguments
import AnalyzerBench.Command.Outcome
import AnalyzerBench.Session

/-!
# The configuration migrator

Migrates a file in place, or in a dry run prints what the file would become.
-/

namespace AnalyzerBench.Command

/-- What the configuration migrator is asked for. -/
structure MigrationRequest where
  file : String
  marker : Marker
  dryRun : Bool
  verbose : Bool
  deriving DecidableEq, Repr

namespace MigrationRequest

def rules : Rules := { flags := ["dry-run"], valued := ["marker"] }

/-- The items of a command line so far. -/
structure Given where
  file : Option String := none
  marker : Option String := none
  dryRun : Bool := false
  verbose : Bool := false

def Given.add (g : Given) : Argument → Option Given
  | .flag "dry-run" => (setOnce g.dryRun).map fun dryRun => { g with dryRun }
  | .flag "verbose" => (setOnce g.verbose).map fun verbose => { g with verbose }
  | .option _ value => (giveOnce g.marker value).map fun marker => { g with marker }
  | .operand text => if text = "" then none else (giveOnce g.file text).map fun file => { g with file }
  | _ => none

def Given.request? (g : Given) : Option MigrationRequest :=
  g.file.map fun file =>
    { file, marker := (g.marker.map Marker.mk).getD {}, dryRun := g.dryRun, verbose := g.verbose }

def ofArguments (arguments : List String) : Asked MigrationRequest :=
  ask Given.add Given.request? {} (rules.read arguments)

/-- What a fault of migrating the file is reported within. -/
def context (r : MigrationRequest) : List String := ["migrating " ++ r.file]

/-- The outcome of a dry run, given what reading the file gave. -/
def dryOutcome (r : MigrationRequest) : Except ReadFault String → Outcome
  | .error reason => { exit := 1, chain := ["reading " ++ r.file, reason.message] }
  | .ok text => .ofRun r.verbose r.context (migrate r.marker .builtin text) fun migration =>
      .printing migration.text

/-- The outcome of migrating in place, given what reading the file gave. -/
def inPlaceOutcome (r : MigrationRequest) (content : Except ReadFault String) : Outcome :=
  let run := match content with
    | .error reason => Run.fault (.unreadable r.file reason)
    | .ok text => migrateAt r.marker .builtin r.file text
  .ofRun r.verbose r.context run fun migration =>
    { log := [.migrated r.file migration.keys.length migration.domains], replacement := some migration.text }

/-- The outcome of a request, given what reading the file gave. -/
def outcome (r : MigrationRequest) (content : Except ReadFault String) : Outcome :=
  if r.dryRun then r.dryOutcome content else r.inPlaceOutcome content

def help : String :=
  "Migrate a legacy configuration block in place

Usage: migrate-config [OPTIONS] <FILE>

Arguments:
  <FILE>  Test file to rewrite

Options:
      --marker <TOKEN>  Marker token introducing a directive (matched as `<TOKEN>:`) [default: CONFIG]
      --dry-run         Print the migrated file instead of rewriting it
  -v, --verbose         Enable debug logging
  -h, --help            Print help
  -V, --version         Print version
"

end MigrationRequest

end AnalyzerBench.Command
