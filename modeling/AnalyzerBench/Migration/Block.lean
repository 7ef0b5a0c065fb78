import AnalyzerBench.Domain
import AnalyzerBench.Migration.Layout
import AnalyzerBench.Migration.Settings

/-!
# The migrated block

A migrated configuration is a block of directives, one assignment each.  Settings come first, in the order of the
document, with their values as JSON; the last assignment lists the domains, each looked up in the registry when the
configuration is loaded.
-/

namespace AnalyzerBench.Migration

/-- A key and the text it is assigned. -/
structure Assignment where
  key : String
  value : String
  deriving DecidableEq, Repr

namespace Assignment

/-- The text of an assignment. -/
def text (a : Assignment) : String := "config." ++ a.key ++ " = " ++ a.value

/-- The assignment of one setting. -/
def ofEntry (entry : String × Yaml.Value) : Except Fault Assignment :=
  match entry.2.json with
  | .ok value => .ok { key := entry.1, value }
  | .error reason => .error (.render reason)

/-- The assignment of the domain list. -/
def ofDomains (domains : List String) : Assignment := { key := domainKey, value := domainList domains }

end Assignment

/-- The assignments of the settings, or the fault of the first value that cannot be written. -/
def Settings.assignments (s : Settings) : Except Fault (List Assignment) := s.entries.mapM Assignment.ofEntry

namespace Layout

/-- The line of an assignment in the block. -/
def line (l : Layout) (a : Assignment) : String := l.opening ++ " " ++ a.text ++ l.lineEnd.text

/-- The lines of the block. -/
def block (l : Layout) (assignments : List Assignment) (domains : List String) : List String :=
  (assignments ++ [Assignment.ofDomains domains]).map l.line

/-- The migrated text. -/
def assemble (l : Layout) (assignments : List Assignment) (domains : List String) : String :=
  String.join l.leading ++ String.join (l.block assignments domains) ++ String.join l.trailing

end Layout

end AnalyzerBench.Migration
