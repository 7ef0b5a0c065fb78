import AnalyzerBench.Main
import AnalyzerBench.Proofs.Text.Search
import AnalyzerBench.Proofs.Text.Lines
import AnalyzerBench.Proofs.Text.LineEnds
import AnalyzerBench.Proofs.Text.Blank
import AnalyzerBench.Proofs.Text.Quoted
import AnalyzerBench.Proofs.Text.Numeral
import AnalyzerBench.Proofs.Domain
import AnalyzerBench.Proofs.Except
import AnalyzerBench.Proofs.Yaml.Json
import AnalyzerBench.Proofs.Marker
import AnalyzerBench.Proofs.Extraction
import AnalyzerBench.Proofs.Migration.Layout
import AnalyzerBench.Proofs.Migration.Migrate
import AnalyzerBench.Proofs.Migration.Frame
import AnalyzerBench.Proofs.Migration.Reading
import AnalyzerBench.Proofs.Migration.Unambiguous
import AnalyzerBench.Proofs.Migration.Payloads
import AnalyzerBench.Proofs.Binary64
import AnalyzerBench.Proofs.SolverLiteral
import AnalyzerBench.Proofs.Check.Checker
import AnalyzerBench.Proofs.Check.Entry
import AnalyzerBench.Proofs.Check.Scan
import AnalyzerBench.Proofs.Check.Expectation
import AnalyzerBench.Proofs.Fixture
import AnalyzerBench.Proofs.Directory
import AnalyzerBench.Proofs.Session
import AnalyzerBench.Proofs.Decimal.Rounding
import AnalyzerBench.Proofs.Decimal.Shortest
import AnalyzerBench.Proofs.Decimal.Reading
import AnalyzerBench.Proofs.Decimal.Layout
import AnalyzerBench.Proofs.Yaml.Plain
import AnalyzerBench.Proofs.Yaml.PlainText
import AnalyzerBench.Proofs.Yaml.Value
import AnalyzerBench.Proofs.Migration.Values
import AnalyzerBench.Proofs.Migration.Interleaving
import AnalyzerBench.Proofs.Command.Migration
import AnalyzerBench.Proofs.Migration.Outcome
import AnalyzerBench.Proofs.Migration.LineEnds
import AnalyzerBench.Proofs.Readers
import AnalyzerBench.Proofs.SolverLiteral.Grammar
import AnalyzerBench.Proofs.Check.Format
import AnalyzerBench.Proofs.Command.Extraction
import AnalyzerBench.Proofs.Migration.Registry
import AnalyzerBench.Proofs.Fixture.Blocks
import AnalyzerBench.Proofs.Command.Check
import AnalyzerBench.Proofs.Extraction.Written
