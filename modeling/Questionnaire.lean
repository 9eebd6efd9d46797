import Questionnaire.Answers
import Questionnaire.Breakdown
import Questionnaire.Command.Argument
import Questionnaire.Command.Invocation
import Questionnaire.Command.Run
import Questionnaire.Computation.Cache
import Questionnaire.Computation.Order
import Questionnaire.Computation.Resolve
import Questionnaire.Condition
import Questionnaire.Condition.Comparison
import Questionnaire.Condition.Holds
import Questionnaire.Decimal.Basic
import Questionnaire.Decimal.Binary
import Questionnaire.Decimal.Notation
import Questionnaire.Decimal.Numeral
import Questionnaire.Decimal.Places
import Questionnaire.Decimal.Shortest
import Questionnaire.Diagnosis
import Questionnaire.Formula
import Questionnaire.Formula.Evaluate
import Questionnaire.Formula.Name
import Questionnaire.Formula.Token
import Questionnaire.Json.Reader
import Questionnaire.Json.Writer
import Questionnaire.Main
import Questionnaire.Proofs.Answers
import Questionnaire.Proofs.Answers.Frame
import Questionnaire.Proofs.Breakdown
import Questionnaire.Proofs.Breakdown.Prefill
import Questionnaire.Proofs.Computation.Cache
import Questionnaire.Proofs.Computation.Closed
import Questionnaire.Proofs.Computation.Dependence
import Questionnaire.Proofs.Computation.Failing
import Questionnaire.Proofs.Computation.Order
import Questionnaire.Proofs.Computation.Permutation
import Questionnaire.Proofs.Computation.Shown
import Questionnaire.Proofs.Computation.Sorting
import Questionnaire.Proofs.Condition.Candidates
import Questionnaire.Proofs.Condition.Coherence
import Questionnaire.Proofs.Condition.Comparing
import Questionnaire.Proofs.Condition.Connectives
import Questionnaire.Proofs.Condition.Counted
import Questionnaire.Proofs.Condition.Declared
import Questionnaire.Proofs.Condition.Dependence
import Questionnaire.Proofs.Condition.Descent
import Questionnaire.Proofs.Condition.Disjunction
import Questionnaire.Proofs.Condition.FailOpen
import Questionnaire.Proofs.Condition.Leaves
import Questionnaire.Proofs.Condition.Malformed
import Questionnaire.Proofs.Condition.Negation
import Questionnaire.Proofs.Condition.Normalization
import Questionnaire.Proofs.Condition.Place
import Questionnaire.Proofs.Condition.Quantified
import Questionnaire.Proofs.Condition.Reads
import Questionnaire.Proofs.Condition.Rows
import Questionnaire.Proofs.Condition.Selection
import Questionnaire.Proofs.Condition.Settled
import Questionnaire.Proofs.Condition.Shape
import Questionnaire.Proofs.Condition.Signs
import Questionnaire.Proofs.Condition.Stable
import Questionnaire.Proofs.Condition.Tests
import Questionnaire.Proofs.Decimal.Magnitude
import Questionnaire.Proofs.Decimal.Notation
import Questionnaire.Proofs.Decimal.Numeral
import Questionnaire.Proofs.Decimal.Ordering
import Questionnaire.Proofs.Decimal.Places
import Questionnaire.Proofs.Decimal.PlainNumber
import Questionnaire.Proofs.Decimal.Rounding
import Questionnaire.Proofs.Decimal.Shortest
import Questionnaire.Proofs.Decimal.Writing
import Questionnaire.Proofs.Formula.Detection
import Questionnaire.Proofs.Formula.Distinct
import Questionnaire.Proofs.Formula.Grammar
import Questionnaire.Proofs.Formula.Names
import Questionnaire.Proofs.Formula.Operands
import Questionnaire.Proofs.Formula.Precedence
import Questionnaire.Proofs.Formula.Printing
import Questionnaire.Proofs.Formula.Spelling
import Questionnaire.Proofs.Json.Documents
import Questionnaire.Proofs.Json.Strings
import Questionnaire.Proofs.Json.Words
import Questionnaire.Proofs.Rendering
import Questionnaire.Proofs.Report.Circle
import Questionnaire.Proofs.Report.Parts
import Questionnaire.Proofs.Report.Texts
import Questionnaire.Proofs.Report.Undefined
import Questionnaire.Proofs.Report.Unused
import Questionnaire.Proofs.Source.Apart
import Questionnaire.Proofs.Source.Attributes
import Questionnaire.Proofs.Source.Behind
import Questionnaire.Proofs.Source.Checked
import Questionnaire.Proofs.Source.Containers
import Questionnaire.Proofs.Source.Content
import Questionnaire.Proofs.Source.Cursor
import Questionnaire.Proofs.Source.Effect
import Questionnaire.Proofs.Source.Entries
import Questionnaire.Proofs.Source.Failures
import Questionnaire.Proofs.Source.Fences
import Questionnaire.Proofs.Source.Fitting
import Questionnaire.Proofs.Source.Form
import Questionnaire.Proofs.Source.Growth
import Questionnaire.Proofs.Source.Heard
import Questionnaire.Proofs.Source.Identity
import Questionnaire.Proofs.Source.Independence
import Questionnaire.Proofs.Source.Last
import Questionnaire.Proofs.Source.Layouts
import Questionnaire.Proofs.Source.Leads
import Questionnaire.Proofs.Source.Ledger
import Questionnaire.Proofs.Source.Lines
import Questionnaire.Proofs.Source.Lookahead
import Questionnaire.Proofs.Source.Malformed
import Questionnaire.Proofs.Source.Modifiers
import Questionnaire.Proofs.Source.Navigation
import Questionnaire.Proofs.Source.Numbering
import Questionnaire.Proofs.Source.Opaque
import Questionnaire.Proofs.Source.Outline
import Questionnaire.Proofs.Source.Parallel
import Questionnaire.Proofs.Source.ParallelLines
import Questionnaire.Proofs.Source.Passages
import Questionnaire.Proofs.Source.Places
import Questionnaire.Proofs.Source.Pointing
import Questionnaire.Proofs.Source.Questions
import Questionnaire.Proofs.Source.Ranges
import Questionnaire.Proofs.Source.Reachable
import Questionnaire.Proofs.Source.Reading
import Questionnaire.Proofs.Source.Renumbering
import Questionnaire.Proofs.Source.Reworded
import Questionnaire.Proofs.Source.Rows
import Questionnaire.Proofs.Source.Run
import Questionnaire.Proofs.Source.Signals
import Questionnaire.Proofs.Source.Standing
import Questionnaire.Proofs.Source.Taking
import Questionnaire.Proofs.Source.Unquoted
import Questionnaire.Proofs.Source.Untitled
import Questionnaire.Proofs.Source.Values
import Questionnaire.Proofs.Survey.Document
import Questionnaire.Proofs.Survey.Navigation
import Questionnaire.Proofs.Survey.Record
import Questionnaire.Proofs.Survey.WellFormed
import Questionnaire.Proofs.Template.Branches
import Questionnaire.Proofs.Template.Filling
import Questionnaire.Proofs.Template.Scan
import Questionnaire.Proofs.Template.Sweep
import Questionnaire.Proofs.Template.Tree
import Questionnaire.Proofs.Text.Alone
import Questionnaire.Proofs.Text.Cut
import Questionnaire.Proofs.Text.LowerCase
import Questionnaire.Proofs.Text.Rewriting
import Questionnaire.Proofs.Text.Trim
import Questionnaire.Proofs.Text.Visible
import Questionnaire.Proofs.Text.Words
import Questionnaire.Proofs.Validation.Duplicates
import Questionnaire.Proofs.Value.Range
import Questionnaire.Proofs.Value.Scope
import Questionnaire.Proofs.Value.TextNumber
import Questionnaire.Rendering
import Questionnaire.Report
import Questionnaire.Report.Circle
import Questionnaire.Report.Usage
import Questionnaire.Sample
import Questionnaire.Source.Compile
import Questionnaire.Source.Field
import Questionnaire.Source.Line
import Questionnaire.Source.Lookahead
import Questionnaire.Source.Quotation
import Questionnaire.Source.Reading
import Questionnaire.Source.State
import Questionnaire.Source.Warning
import Questionnaire.Survey
import Questionnaire.Survey.Question
import Questionnaire.Survey.Record
import Questionnaire.Survey.Record.Reader
import Questionnaire.Template
import Questionnaire.Template.Block
import Questionnaire.Text.Blank
import Questionnaire.Text.CaseTable
import Questionnaire.Text.Cut
import Questionnaire.Text.Digit
import Questionnaire.Text.LowerCase
import Questionnaire.Text.Order
import Questionnaire.Text.PrintableTable
import Questionnaire.Text.Quoted
import Questionnaire.Text.Ranges
import Questionnaire.Text.Word
import Questionnaire.Text.WordTable
import Questionnaire.Validation
import Questionnaire.Validation.Reference
import Questionnaire.Value
import Questionnaire.Value.Display
import Questionnaire.Value.Listing
import Questionnaire.View
