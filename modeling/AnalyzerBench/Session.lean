import AnalyzerBench.Check.Checker
import AnalyzerBench.Directory
import AnalyzerBench.Extraction
import AnalyzerBench.Migration.Migrate

/-!
# Working on the files of a directory

Extraction and checking read a file; migration replaces its content, and only once everything else has succeeded.  A
session is a sequence of such steps, each working on the directory that the one before it left.
-/

namespace AnalyzerBench

/-- Extracts the payloads of a file. -/
def extractFile (d : Directory) (m : Marker) (path : String) : Run (List String) :=
  match d.read path with
  | .ok text => extractText m text
  | .error reason => Run.fault (.unreadable path reason)

/-- Checks a dump. -/
def checkFile (d : Directory) (path : String) (expectation : Option Expectation) : Run Report :=
  match d.read path with
  | .ok text => checkText text expectation
  | .error reason => Run.fault (.unreadable path reason)

/-- Migrates the text at a path. -/
def migrateAt (m : Marker) (r : Registry) (path text : String) : Run Migration := do
  let migration ← migrate m r text
  Run.say (.replaced path)
  pure migration

/-- Migrates a file in place, together with the directory that is left. -/
def migrateFile (d : Directory) (m : Marker) (r : Registry) (path : String) : Run Migration × Directory :=
  match d.read path with
  | .error reason => (Run.fault (.unreadable path reason), d)
  | .ok text =>
    let run := migrateAt m r path text
    match run.result with
    | .ok migration => (run, d.replace path migration.text)
    | .error _ => (run, d)

namespace Session

/-- A step of a session. -/
inductive Step where
  | write (path : String) (content : Content)
  | makeFolder (path : String)
  | extract (marker : Marker) (path : String)
  | migrate (marker : Marker) (registry : Registry) (path : String)
  | check (path : String) (expectation : Option Expectation)
  | list
  deriving DecidableEq, Repr

/-- What a step answers. -/
inductive Answer where
  | done
  | extracted (run : Run (List String))
  | migrated (run : Run Migration)
  | checked (run : Run Report)
  | listed (files : List (String × Content))

/-- Takes one step. -/
def step (d : Directory) : Step → Answer × Directory
  | .write path content => (.done, d.write path content)
  | .makeFolder path => (.done, d.makeFolder (pathPlace path))
  | .extract marker path => (.extracted (extractFile d marker path), d)
  | .migrate marker registry path =>
    let (run, left) := migrateFile d marker registry path
    (.migrated run, left)
  | .check path expectation => (.checked (checkFile d path expectation), d)
  | .list => (.listed d.listing, d)

/-- Takes all steps, together with the directory that is left. -/
def run (d : Directory) : List Step → List Answer × Directory
  | [] => ([], d)
  | s :: rest =>
    let (answer, d) := step d s
    let (answers, d) := run d rest
    (answer :: answers, d)

end Session

end AnalyzerBench
