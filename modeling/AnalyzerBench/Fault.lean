import AnalyzerBench.Text.Quoted
import AnalyzerBench.Yaml.Value.Json
import AnalyzerBench.Yaml.Value.Shown

/-!
# Faults

What can go wrong while test files are read, scanned or migrated, and how it is reported.
-/

namespace AnalyzerBench

/-- Why a file cannot be read as text. -/
inductive ReadFault where
  | notFound
  | notADirectory
  | isADirectory
  | notUtf8
  deriving DecidableEq, Repr

def ReadFault.message : ReadFault → String
  | .notFound => "No such file or directory (os error 2)"
  | .notADirectory => "Not a directory (os error 20)"
  | .isADirectory => "Is a directory (os error 21)"
  | .notUtf8 => "stream did not contain valid UTF-8"

inductive Fault where
  | unreadable (path : String) (reason : ReadFault)
  /-- A line lacks its line feed. -/
  | missingTerminator (line : Nat)
  /-- A line of a dump holds no arrow. -/
  | missingSeparator (line : Nat) (text : String)
  /-- The payloads of the directives are no YAML document. -/
  | document
  | notAMapping
  | missingKey (key : String)
  | invalidKey (key : Yaml.Value)
  | invalidDomainList (key : String)
  /-- A value cannot be written as JSON. -/
  | render (reason : Yaml.JsonFault)
  /-- A text is no solver literal. -/
  | invalidLiteral (text : String)
  deriving Repr

namespace Fault

/-- The report of a fault. -/
def message : Fault → String
  | unreadable path reason => "I/O error on " ++ path ++ ": " ++ reason.message
  | missingTerminator line =>
    "line " ++ Text.decimal line ++ " is missing its line terminator (truncated file?)"
  | missingSeparator line text =>
    "line " ++ Text.decimal line ++ " is not of the form `<identifier> -> <value>`: " ++ Text.quoted text
  -- `<yaml>` stands for the parser's own report of what it could not read and where, which is not modelled.
  | document => "cannot parse directive document: <yaml>"
  | notAMapping => "directive document is not a key/value mapping"
  | missingKey key => "directive document has no `" ++ key ++ "` key"
  | invalidKey key => "directive document key is not a string: " ++ key.shown
  | invalidDomainList key => "`" ++ key ++ "` must be a list of domain names"
  | render reason => "cannot render configuration value: " ++ reason.message
  | invalidLiteral text => "malformed floating-point literal: " ++ Text.quoted text

/-- Whether a fault lies in what was read, rather than in reading it. -/
def isFormatFault : Fault → Bool
  | unreadable _ _ => false
  | _ => true

/-- The fault's report, followed by that of its cause if it has one.  The cause of a `document` fault is the parser's own
report, which is left out here, too. -/
def chain (f : Fault) : List String :=
  f.message :: match f with
    | unreadable _ reason => [reason.message]
    | render reason => [reason.message]
    | _ => []

end Fault

end AnalyzerBench
