import AnalyzerBench.Fault
import AnalyzerBench.Text.Blank
import AnalyzerBench.Yaml.Document

/-!
# Settings of an analyzer run

A legacy configuration is a mapping from keys to values.  One reserved key lists the abstract domains to run, as a
list of names or as a single name; all other keys are settings with a value of any kind.
-/

namespace AnalyzerBench.Migration

/-- The reserved key for the abstract domains. -/
def domainKey : String := "AbstractDomain"

/-- What a configuration says. -/
structure Settings where
  /-- The settings in the order of the document, without the reserved key. -/
  entries : List (String × Yaml.Value)
  /-- The names of the abstract domains. -/
  domains : List String
  deriving Repr

/-- An entry whose key is a string. -/
def keyedEntry : Yaml.Value × Yaml.Value → Except Fault (String × Yaml.Value)
  | (.string key, value) => .ok (key, value)
  | (key, _) => .error (.invalidKey key)

/-- The name of a domain. -/
def domainName : Yaml.Value → Except Fault String
  | .string name => .ok name
  | _ => .error (.invalidDomainList domainKey)

/-- The names in a domain list. -/
def domainNames : Yaml.Value → Except Fault (List String)
  | .string name => .ok [name]
  | .sequence items => items.mapM domainName
  | _ => .error (.invalidDomainList domainKey)

namespace Settings

/-- What the entries of a mapping say.  A key that is no string is worse than a missing or malformed domain list. -/
def ofEntries (entries : List (Yaml.Value × Yaml.Value)) : Except Fault Settings := do
  let entries ← entries.mapM keyedEntry
  match entries.lookup domainKey with
  | none => throw (.missingKey domainKey)
  | some list => return { entries := entries.filter (·.1 != domainKey), domains := ← domainNames list }

/-- What a document says, given its value; an empty document is an empty mapping. -/
def ofValue : Yaml.Value → Except Fault Settings
  | .mapping entries => ofEntries entries
  | .null => ofEntries []
  | _ => .error .notAMapping

/-- What a document says, read by `parse`.  A blank one lacks the reserved key whatever the parser makes of it. -/
def ofDocumentBy (parse : String → Option Yaml.Value) (text : String) : Except Fault Settings :=
  if Text.isAllBlank text then .error (.missingKey domainKey)
  else match parse text with
    | none => .error .document
    | some v => ofValue v

/-- What a document says. -/
def ofDocument (text : String) : Except Fault Settings := ofDocumentBy Yaml.Value.ofText? text

end Settings

end AnalyzerBench.Migration
