import AnalyzerBench.Check.Report
import AnalyzerBench.Domain
import AnalyzerBench.Fault

/-!
# Logs

What the operations say while they work is part of their result.  An operation either succeeds or ends with a fault,
and its log holds what was said up to that point.
-/

namespace AnalyzerBench

inductive Level where
  | debug
  | info
  | warn
  deriving DecidableEq, Repr

/-- Something worth a line in the log. -/
inductive Event where
  /-- A directive was found on a line. -/
  | directive (line : Nat) (payload : String)
  /-- A directive on a line was moved to the first ones, over ordinary lines. -/
  | regathered (line : Nat)
  /-- The payloads of the directives make up a document. -/
  | document (text : String)
  | knownDomain (domain : Domain)
  | unknownDomain (name : String) (known : List String)
  /-- The check came to a finding about its target. -/
  | targetFound (finding : Diagnostic)
  | replaced (path : String)
  | extracted (count : Nat) (path : String)
  | migrated (path : String) (keys : Nat) (domains : List String)
  /-- More values than identifiers were given. -/
  | dropped (kept surplus : Nat)
  deriving DecidableEq, Repr

namespace Event

def level : Event → Level
  | regathered _ | unknownDomain _ _ | dropped _ _ => .warn
  | migrated _ _ _ => .info
  | _ => .debug

def message : Event → String
  | directive line payload => "line " ++ Text.decimal line ++ ": directive " ++ Text.quoted payload
  | regathered line =>
    "line " ++ Text.decimal line ++ ": directive after ordinary lines; merging it into the first block"
  | document text => "directive document: " ++ Text.quoted text
  | knownDomain domain => "domain " ++ domain.name ++ ": " ++ domain.description
  | unknownDomain name known =>
    "unknown abstract domain " ++ Text.quoted name ++ " (known: " ++ String.intercalate ", " known ++ ")"
  | targetFound finding => "target found: " ++ finding.logged
  | replaced path => "rewrote " ++ path
  | extracted count path => Text.decimal count ++ " directives in " ++ path
  | migrated path keys domains =>
    path ++ ": " ++ Text.decimal keys ++ " keys, domains [" ++ String.intercalate ", " (domains.map Text.quoted) ++ "]"
  | dropped kept surplus =>
    "only " ++ Text.decimal kept ++ " identifiers available, dropping " ++ Text.decimal surplus ++ " values"

/-- Whether an event is worth a line at a level. -/
def shownAt (verbose : Bool) (e : Event) : Bool := verbose || e.level == .warn

end Event

/-- The log of an operation and its result. -/
structure Run (α : Type) where
  log : List Event := []
  result : Except Fault α

namespace Run

variable {α β : Type}

/-- An operation that says nothing. -/
def ofExcept (result : Except Fault α) : Run α := { result }

/-- An operation that only says something. -/
def say (e : Event) : Run Unit := { log := [e], result := .ok () }

/-- An operation that only says several things. -/
def sayAll (es : List Event) : Run Unit := { log := es, result := .ok () }

def fault (f : Fault) : Run α := { result := .error f }

/-- One operation after another; a fault of the first one ends both. -/
def andThen (r : Run α) (next : α → Run β) : Run β :=
  match r.result with
  | .error f => { log := r.log, result := .error f }
  | .ok a => { log := r.log ++ (next a).log, result := (next a).result }

instance : Monad Run where
  pure a := { result := .ok a }
  bind := andThen

end Run

end AnalyzerBench
