import AnalyzerBench.Log

/-!
# Outcomes of a tool

A tool prints a text, logs events and ends with a status: 0 after success, 1 after a fault or a failed strict check, 2
after a wrong command line.  Without the verbose flag only warnings are logged.  How log and reports are laid out on the
terminal is no part of an outcome.
-/

namespace AnalyzerBench.Command

structure Outcome where
  exit : Nat := 0
  stdout : String := ""
  log : List Event := []
  /-- The reports of a fault and its causes, the outermost first. -/
  chain : List String := []
  /-- The new text of the file the tool was given, if the tool replaces it. -/
  replacement : Option String := none
  deriving DecidableEq, Repr

namespace Outcome

/-- The outcome of a wrong command line. -/
def usageFault : Outcome := { exit := 2 }

/-- The outcome of a request for a text. -/
def printing (text : String) : Outcome := { stdout := text }

/-- The outcome of an operation: a fault ends with status 1 and its reports, within those of the `context`. -/
def ofRun {α : Type} (verbose : Bool) (context : List String) (run : Run α) (success : α → Outcome) : Outcome :=
  let log := run.log.filter (·.shownAt verbose)
  match run.result with
  | .ok a => { success a with log := log ++ (success a).log.filter (·.shownAt verbose) }
  | .error f => { exit := 1, log, chain := context ++ f.chain }

/-- Whether nothing is said besides the printed text. -/
def isQuiet (o : Outcome) : Bool := o.exit != 2 && o.log.isEmpty && o.chain.isEmpty

end Outcome

end AnalyzerBench.Command
