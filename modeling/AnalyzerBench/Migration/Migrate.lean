import AnalyzerBench.Log
import AnalyzerBench.Migration.Block

/-!
# Migrating a configuration

The directives of a file are replaced by a block of assignments in the place of the first one.  The registry of domains
only decides what the log says about the listed names; an unknown domain is migrated like a known one.
-/

namespace AnalyzerBench

/-- A migrated file. -/
structure Migration where
  /-- The content of the file. -/
  text : String
  /-- The assignments of the settings, in order. -/
  assignments : List Migration.Assignment
  /-- The names of the abstract domains. -/
  domains : List String
  /-- Whether ordinary lines stood between directives. -/
  interleaved : Bool
  deriving DecidableEq, Repr

/-- The keys of the settings, in order. -/
def Migration.keys (m : Migration) : List String := m.assignments.map (·.key)

/-- What is said about a listed domain. -/
def Registry.remark (r : Registry) (name : String) : Event :=
  match r.lookup name with
  | some d => .knownDomain d
  | none => .unknownDomain name r.names

/-- Migrates a file whose document is read by `parse`. -/
def migrateBy (parse : String → Option Yaml.Value) (m : Marker) (r : Registry) (text : String) : Run Migration :=
  match Migration.Layout.ofLines? m (Text.lines text) with
  | none => Run.fault (.missingKey Migration.domainKey)
  | some l => do
    let document := Migration.documentOf l.payloads
    Run.sayAll (l.regathered.toList.map .regathered)
    Run.say (.document document)
    let settings ← Run.ofExcept (Migration.Settings.ofDocumentBy parse document)
    Run.sayAll (settings.domains.map r.remark)
    let assignments ← Run.ofExcept settings.assignments
    pure {
      text := l.assemble assignments settings.domains
      assignments
      domains := settings.domains
      interleaved := l.regathered.isSome }

/-- Migrates a file. -/
def migrate (m : Marker) (r : Registry) (text : String) : Run Migration := migrateBy Yaml.Value.ofText? m r text

end AnalyzerBench
