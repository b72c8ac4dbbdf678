import StackScript.Command.FileError
import StackScript.Command.Options
import StackScript.Command.Response
import StackScript.Diagnostic.Basic
import StackScript.Diagnostic.Failure
import StackScript.Diagnostic.Kind
import StackScript.Diagnostic.Template
import StackScript.Entries
import StackScript.Execution
import StackScript.Json.Diagnostic
import StackScript.Json.Flaw
import StackScript.Json.Numeral
import StackScript.Json.Program
import StackScript.Json.Quoted
import StackScript.Json.Reader
import StackScript.Json.Settings
import StackScript.Json.Shape
import StackScript.Json.Skip
import StackScript.Json.Source
import StackScript.Json.Value
import StackScript.Json.Writer
import StackScript.Library.Arrays
import StackScript.Library.Basic
import StackScript.Library.Builtin
import StackScript.Library.Math
import StackScript.Library.Text
import StackScript.Machine.Bindings
import StackScript.Machine.Event
import StackScript.Machine.Run
import StackScript.Machine.Stack
import StackScript.Machine.State
import StackScript.Machine.Step
import StackScript.Number.Arithmetic
import StackScript.Number.Decimal
import StackScript.Number.Numeral
import StackScript.Number.Shortest
import StackScript.Number.Style
import StackScript.Number.Text
import StackScript.Program.Basic
import StackScript.Program.Op
import StackScript.Proofs.Bounds
import StackScript.Proofs.FirstFailure
import StackScript.Proofs.LimitMonotonicity
import StackScript.Proofs.Operations
import StackScript.Proofs.Runs
import StackScript.Proofs.Termination
import StackScript.Report
import StackScript.Settings.Limits
import StackScript.Settings.Log
import StackScript.Source.Context
import StackScript.Source.Range
import StackScript.Source.Token
import StackScript.Text.Blank
import StackScript.Text.Case
import StackScript.Text.CaseTable
import StackScript.Text.Cased
import StackScript.Text.CharClass
import StackScript.Text.Hidden
import StackScript.Text.Quoted
import StackScript.Value.Arithmetic
import StackScript.Value.Array
import StackScript.Value.Basic
import StackScript.Value.Comparison
import StackScript.Main
import StackScript.Proofs.Subroutines
import StackScript.Proofs.Failures
import StackScript.Proofs.Validation
import StackScript.Proofs.Diagnostics
import StackScript.Proofs.WholeNumbers
import StackScript.Proofs.Json.Reading
import StackScript.Proofs.WholeText
import StackScript.Proofs.Json.Nesting
import StackScript.Proofs.Json.Numbers
import StackScript.Proofs.Json.Representation
import StackScript.Proofs.Json.RoundTrip
import StackScript.Proofs.Noninterference
import StackScript.Proofs.Sessions
import StackScript.Proofs.Endings
import StackScript.Proofs.Store
import StackScript.Proofs.Elements
import StackScript.Proofs.StackDiscipline
import StackScript.Proofs.StoredNumbers
import StackScript.Proofs.Rounding
import StackScript.Proofs.NearestReading
import StackScript.Proofs.Blanks
import StackScript.Proofs.Numerals
import StackScript.Proofs.NumberText
import StackScript.Proofs.ShownArrays
import StackScript.Proofs.FaithfulText
import StackScript.Proofs.ElementOrder
import StackScript.Proofs.NumberOrder
import StackScript.Proofs.NumberForm
import StackScript.Proofs.ComparisonLaws
import StackScript.Proofs.ArrayMethods
import StackScript.Proofs.ArrayHistory
import StackScript.Proofs.NumericReading
import StackScript.Proofs.Rendering
import StackScript.Proofs.SourceContext
