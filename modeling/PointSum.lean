import PointSum.Main
import PointSum.Log.Pattern
import PointSum.Log.Pattern.Reading
import PointSum.Proofs.Number.Digits
import PointSum.Proofs.Number.Word
import PointSum.Proofs.Text.Trim
import PointSum.Proofs.Point.Grammar
import PointSum.Proofs.Number.Decimal
import PointSum.Proofs.Number.Literal
import PointSum.Proofs.Number.Layout
import PointSum.Proofs.Number.Shortest
import PointSum.Proofs.Point.FloatText
import PointSum.Proofs.Point.Sum
import PointSum.Proofs.Run.Sum
import PointSum.Proofs.Number.Whole
import PointSum.Proofs.Run.Modes
import PointSum.Proofs.CommandLine.Request
import PointSum.Proofs.Run.Records
import PointSum.Proofs.Point.Total
import PointSum.Proofs.Run.Status
import PointSum.Proofs.Run.Chain
import PointSum.Proofs.Point.NormalForm
import PointSum.Proofs.Log.Filter
import PointSum.Proofs.Text.Slice
import PointSum.Proofs.Log.Trap
import PointSum.Proofs.Text.Terminal
import PointSum.Proofs.Run.Log
import PointSum.Proofs.Run.Harmless
import PointSum.Proofs.Toml.Scanner
import PointSum.Proofs.Settings.Written
import PointSum.Proofs.Number.Rounded
import PointSum.Proofs.Number.Addition
import PointSum.Proofs.Number.DecimalLiteral
import PointSum.Proofs.Point.BinaryTotal
import PointSum.Proofs.Point.Checked
import PointSum.Proofs.Point.Literals
import PointSum.Proofs.Number.SignificantDigits
import PointSum.Proofs.Number.Minimal
import PointSum.Proofs.Point.ShortestText
import PointSum.Proofs.Point.ExactTotal
import PointSum.Proofs.Number.WordFault
import PointSum.Proofs.Point.Faults
import PointSum.Proofs.Point.Grouping
import PointSum.Proofs.Toml.Lines
import PointSum.Proofs.Toml.Document
import PointSum.Proofs.Toml.Reading
import PointSum.Proofs.Settings.Refusal
import PointSum.Proofs.Number.Laws
import PointSum.Proofs.Run.Swapped
import PointSum.Proofs.Toml.Changes
import PointSum.Proofs.Toml.Begun
import PointSum.Proofs.Toml.TextLiteral
import PointSum.Proofs.Toml.NumberLiteral
import PointSum.Proofs.Toml.DecimalInteger
import PointSum.Proofs.Toml.Plain
import PointSum.Proofs.Settings.WrongKind
import PointSum.Proofs.Toml.Continued
import PointSum.Proofs.Settings.Irrelevant
import PointSum.Proofs.CommandLine.Decided
import PointSum.Proofs.Log.Clause
import PointSum.Proofs.Log.Selection
import PointSum.Proofs.Run.Clauses
import PointSum.Proofs.Text.Quoted
import PointSum.Proofs.Run.Renderings
