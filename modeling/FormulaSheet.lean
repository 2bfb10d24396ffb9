import FormulaSheet.CommandLine.Arguments
import FormulaSheet.CommandLine.Output
import FormulaSheet.CommandLine.Run
import FormulaSheet.Fault
import FormulaSheet.Formula.Evaluation
import FormulaSheet.Formula.Evaluator
import FormulaSheet.Formula.Failure
import FormulaSheet.Formula.Lexeme
import FormulaSheet.Formula.Reach
import FormulaSheet.Formula.Source
import FormulaSheet.Formula.Stack
import FormulaSheet.Formula.Token
import FormulaSheet.Formula.Trace
import FormulaSheet.Json
import FormulaSheet.Json.Printer
import FormulaSheet.Json.Reader
import FormulaSheet.Label
import FormulaSheet.Log
import FormulaSheet.Log.Event
import FormulaSheet.Log.Journal
import FormulaSheet.Log.Stamp
import FormulaSheet.Machine
import FormulaSheet.Main
import FormulaSheet.Number.Binary64
import FormulaSheet.Number.Decimal
import FormulaSheet.Number.Layout
import FormulaSheet.Number.Shortest
import FormulaSheet.Path
import FormulaSheet.Proofs.CommandLine.Cells
import FormulaSheet.Proofs.CommandLine.Eval
import FormulaSheet.Proofs.CommandLine.Loading
import FormulaSheet.Proofs.CommandLine.Output
import FormulaSheet.Proofs.Formula.Chain
import FormulaSheet.Proofs.Formula.Contribution
import FormulaSheet.Proofs.Formula.Denotation
import FormulaSheet.Proofs.Formula.Dependence
import FormulaSheet.Proofs.Formula.Display
import FormulaSheet.Proofs.Formula.Grammar
import FormulaSheet.Proofs.Formula.Guard
import FormulaSheet.Proofs.Formula.Kinds
import FormulaSheet.Proofs.Formula.Lexeme
import FormulaSheet.Proofs.Formula.Locality
import FormulaSheet.Proofs.Formula.Lookahead
import FormulaSheet.Proofs.Formula.Nested
import FormulaSheet.Proofs.Formula.Notices
import FormulaSheet.Proofs.Formula.Numeral
import FormulaSheet.Proofs.Formula.Outcome
import FormulaSheet.Proofs.Formula.Parallel
import FormulaSheet.Proofs.Formula.Placement
import FormulaSheet.Proofs.Formula.Program
import FormulaSheet.Proofs.Formula.Progress
import FormulaSheet.Proofs.Formula.Provenance
import FormulaSheet.Proofs.Formula.Reachability
import FormulaSheet.Proofs.Formula.Reading
import FormulaSheet.Proofs.Formula.Record
import FormulaSheet.Proofs.Formula.Recovery
import FormulaSheet.Proofs.Formula.Reference
import FormulaSheet.Proofs.Formula.Returns
import FormulaSheet.Proofs.Formula.Room
import FormulaSheet.Proofs.Formula.Session
import FormulaSheet.Proofs.Formula.Splitting
import FormulaSheet.Proofs.Formula.Sticky
import FormulaSheet.Proofs.Formula.Unbounded
import FormulaSheet.Proofs.Formula.Unguarded
import FormulaSheet.Proofs.Formula.Walk
import FormulaSheet.Proofs.Json.Length
import FormulaSheet.Proofs.Json.Number
import FormulaSheet.Proofs.Json.Numeral
import FormulaSheet.Proofs.Json.Plain
import FormulaSheet.Proofs.Json.Refusal
import FormulaSheet.Proofs.Json.Roundtrip
import FormulaSheet.Proofs.Json.Sorted
import FormulaSheet.Proofs.Json.Strict
import FormulaSheet.Proofs.Json.Text
import FormulaSheet.Proofs.Label
import FormulaSheet.Proofs.Label.Column
import FormulaSheet.Proofs.Label.Position
import FormulaSheet.Proofs.Log.Evaluation
import FormulaSheet.Proofs.Log.Event
import FormulaSheet.Proofs.Log.Influence
import FormulaSheet.Proofs.Log.Journal
import FormulaSheet.Proofs.Log.Reading
import FormulaSheet.Proofs.Log.Recorder
import FormulaSheet.Proofs.Log.Size
import FormulaSheet.Proofs.Log.Telling
import FormulaSheet.Proofs.Log.Window
import FormulaSheet.Proofs.Number.Bits
import FormulaSheet.Proofs.Number.Decimal
import FormulaSheet.Proofs.Number.Display
import FormulaSheet.Proofs.Number.Rounding
import FormulaSheet.Proofs.Number.Shortest
import FormulaSheet.Proofs.Register
import FormulaSheet.Proofs.Result
import FormulaSheet.Proofs.Sheet.Acyclic
import FormulaSheet.Proofs.Sheet.Calls
import FormulaSheet.Proofs.Sheet.Description
import FormulaSheet.Proofs.Sheet.Locality
import FormulaSheet.Proofs.Sheet.Positions
import FormulaSheet.Proofs.Sheet.Recalculation
import FormulaSheet.Proofs.Sheet.References
import FormulaSheet.Proofs.Sheet.Refusal
import FormulaSheet.Proofs.Sheet.Spec
import FormulaSheet.Proofs.Sheet.Sweep
import FormulaSheet.Proofs.Text.Blank
import FormulaSheet.Proofs.Text.Digit
import FormulaSheet.Proofs.Value
import FormulaSheet.Register
import FormulaSheet.Settings
import FormulaSheet.Sheet
import FormulaSheet.Sheet.File
import FormulaSheet.Sheet.Recalculation
import FormulaSheet.Sheet.Spec
import FormulaSheet.Sheet.Sweep
import FormulaSheet.Text
import FormulaSheet.Text.Base64
import FormulaSheet.Text.Blank
import FormulaSheet.Text.Digit
import FormulaSheet.Text.Line
import FormulaSheet.Text.LowerCase
import FormulaSheet.Text.Printable
import FormulaSheet.Text.Quoted
import FormulaSheet.Text.UpperCase
import FormulaSheet.Text.Utf8
import FormulaSheet.Timestamp
import FormulaSheet.Value
import FormulaSheet.Yaml.Cursor
import FormulaSheet.Yaml.Document
import FormulaSheet.Yaml.Graph
import FormulaSheet.Yaml.Graph.Merge
import FormulaSheet.Yaml.Graph.Reader
import FormulaSheet.Yaml.Graph.Value
import FormulaSheet.Yaml.Scalar
import FormulaSheet.Yaml.Scalar.Value
import FormulaSheet.Yaml.Tag
import FormulaSheet.Yaml.Timestamp
import FormulaSheet.Yaml.Token
