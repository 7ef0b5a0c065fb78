import AnalyzerBench.Check.Entry
import AnalyzerBench.Check.Report
import AnalyzerBench.Log
import AnalyzerBench.Text.Lines

/-!
# Checking a result dump

The entries of a dump are looked at in order.  Every bottom is reported.  The first entry of the target decides the
check: a top counts as sound whatever was expected, any other value is compared with the expected one.  Entries after
it are not looked at, nor are the lines after it read.  Without a target only bottoms are reported.
-/

namespace AnalyzerBench

/-- The identifier to look for and the value it should have. -/
structure Expectation where
  target : String
  expected : String
  deriving DecidableEq, Repr

/-- What is found out when the target has the value of an entry. -/
def Expectation.compare (x : Expectation) (e : Entry) : Diagnostic :=
  if e.isTop then .topOverride e.identifier x.expected
  else if e.value = x.expected then .matched e.identifier e.value
  else .mismatch e.identifier e.value x.expected

/-- Whether a checker still looks at entries. -/
inductive State where
  | scanning
  | done
  deriving DecidableEq, Repr

/-- A check under way. -/
structure Checker where
  expectation : Option Expectation := none
  state : State := .scanning
  report : Report := {}
  deriving DecidableEq, Repr

namespace Checker

/-- What an entry tells about the target, if it is looked at and is that of the target. -/
def finding? (c : Checker) (e : Entry) : Option Diagnostic :=
  match c.state, c.expectation with
  | .scanning, some x => if e.identifier = x.target then some (x.compare e) else none
  | _, _ => none

/-- The checker after one more entry. -/
def step (c : Checker) (e : Entry) : Checker :=
  match c.state with
  | .done => c
  | .scanning =>
    let bottoms := if e.isBottom then [.bottom e.identifier] else []
    let finding := c.finding? e
    { c with
      state := if finding.isSome then .done else .scanning
      report :=
        { diagnostics := c.report.diagnostics ++ bottoms ++ finding.toList, scanned := c.report.scanned + 1 } }

/-- The checker after more entries. -/
def feed (c : Checker) (entries : List Entry) : Checker := entries.foldl step c

/-- The report, where a target that did not occur is reported too. -/
def finish (c : Checker) : Report :=
  match c.state, c.expectation with
  | .scanning, some x => { c.report with diagnostics := c.report.diagnostics ++ [.targetMissing x.target] }
  | _, _ => c.report

/-- Looks at the lines from the one with the number `number` on, until the check is decided. -/
def scan (c : Checker) : (number : Nat) → List String → Run Report
  | _, [] => pure c.finish
  | number, line :: lines =>
    if Text.isAllBlank line then c.scan (number + 1) lines
    else do
      let e ← Run.ofExcept (Entry.parse line number)
      Run.sayAll ((c.finding? e).toList.map .targetFound)
      let c := c.step e
      match c.state with
      | .done => pure c.finish
      | .scanning => c.scan (number + 1) lines

end Checker

/-- Checks the lines of a dump. -/
def check (lines : List String) (expectation : Option Expectation) : Run Report :=
  ({ expectation } : Checker).scan 1 lines

/-- Checks a dump. -/
def checkText (text : String) (expectation : Option Expectation) : Run Report :=
  check (Text.lines text) expectation

end AnalyzerBench
