import Fiscal.Builtin
import Fiscal.Command.Arguments
import Fiscal.Command.Dialogue
import Fiscal.Command.Json
import Fiscal.Command.Run
import Fiscal.Command.Transcript
import Fiscal.Csv.Column
import Fiscal.Csv.Heading
import Fiscal.Csv.Records
import Fiscal.Csv.Table
import Fiscal.Failure
import Fiscal.Fault
import Fiscal.Files.Basic
import Fiscal.Files.Path
import Fiscal.Finance.Average
import Fiscal.Finance.Discount
import Fiscal.Finance.Risk
import Fiscal.Finance.Scalar
import Fiscal.Finance.Schedule
import Fiscal.Grammar.Cursor
import Fiscal.Grammar.Expression
import Fiscal.Grammar.Statement
import Fiscal.Library.Apply
import Fiscal.Library.Callbacks
import Fiscal.Library.Lists
import Fiscal.Library.Storage
import Fiscal.Machine.Account
import Fiscal.Machine.Basic
import Fiscal.Machine.Call
import Fiscal.Machine.Cashflow
import Fiscal.Machine.Evaluator
import Fiscal.Machine.Expression
import Fiscal.Machine.Operator
import Fiscal.Machine.Run
import Fiscal.Machine.Scenario
import Fiscal.Machine.Statement
import Fiscal.Main
import Fiscal.Named
import Fiscal.Number.Arithmetic
import Fiscal.Number.Binary
import Fiscal.Number.Decimal
import Fiscal.Number.Numeral
import Fiscal.Number.Shortest
import Fiscal.Number.Sum
import Fiscal.Number.Text
import Fiscal.Program.Expr
import Fiscal.Program.Outline
import Fiscal.Program.Stmt
import Fiscal.Proofs.Library.Apply
import Fiscal.Proofs.Machine.Action
import Fiscal.Proofs.Machine.Call
import Fiscal.Proofs.Machine.Depth
import Fiscal.Proofs.Machine.Expression
import Fiscal.Proofs.Machine.Faults
import Fiscal.Proofs.Machine.Law
import Fiscal.Proofs.Machine.Moves
import Fiscal.Proofs.Machine.Statement
import Fiscal.Proofs.Program.Parts
import Fiscal.Proofs.Scope.Binding
import Fiscal.Proofs.Scope.Tree
import Fiscal.Proofs.Session.Escape
import Fiscal.Proofs.Session.States
import Fiscal.Proofs.Session.Tree
import Fiscal.Proofs.Token.Literal
import Fiscal.Proofs.Token.Round
import Fiscal.Proofs.Value.Coercion
import Fiscal.Scope
import Fiscal.Session
import Fiscal.Settings.Basic
import Fiscal.Settings.Load
import Fiscal.Settings.Setting
import Fiscal.Source.Diagnostic
import Fiscal.Source.Issue
import Fiscal.Source.Span
import Fiscal.Text.Blank
import Fiscal.Text.Digit
import Fiscal.Text.Identifier
import Fiscal.Text.Letter
import Fiscal.Text.Lines
import Fiscal.Text.Printable
import Fiscal.Text.Quoted
import Fiscal.Text.Ranges
import Fiscal.Text.Upper
import Fiscal.Token.Basic
import Fiscal.Token.Kind
import Fiscal.Token.Literal
import Fiscal.Token.OpenBlocks
import Fiscal.Token.Scan
import Fiscal.Value.Basic
import Fiscal.Value.Coercion
import Fiscal.Value.Ledger
import Fiscal.Value.Portfolio
import Fiscal.Value.Table
import Fiscal.Yaml.Block
import Fiscal.Yaml.Flow
import Fiscal.Yaml.Scalar
import Fiscal.Proofs.Token.Layout
import Fiscal.Proofs.Token.LineStart
import Fiscal.Proofs.Session.Made
import Fiscal.Proofs.Session.Posting
import Fiscal.Proofs.Number.Order
import Fiscal.Proofs.Session.Portfolios
import Fiscal.Proofs.Grammar.Course
import Fiscal.Proofs.Grammar.Expression
import Fiscal.Proofs.Grammar.Statement
import Fiscal.Proofs.Grammar.Program
import Fiscal.Proofs.Grammar.Parallel
import Fiscal.Proofs.Grammar.ParallelExpression
import Fiscal.Proofs.Grammar.ParallelStatement
import Fiscal.Proofs.Grammar.ParallelRecovery
import Fiscal.Proofs.Grammar.Lines
import Fiscal.Proofs.Program.Bare
import Fiscal.Proofs.Grammar.Places
import Fiscal.Proofs.Grammar.PlacesStatement
import Fiscal.Proofs.Grammar.Composition
import Fiscal.Proofs.Token.Lookahead
import Fiscal.Proofs.Token.Beside
import Fiscal.Proofs.Token.Append
import Fiscal.Proofs.Session.Composition
import Fiscal.Proofs.Machine.Return
import Fiscal.Proofs.Token.Calls
import Fiscal.Proofs.Token.Completion
import Fiscal.Proofs.Relocation.Closure
import Fiscal.Proofs.Relocation.Simulation
import Fiscal.Proofs.Token.Coverage
import Fiscal.Proofs.Session.OpenBlocks
import Fiscal.Proofs.Session.Placeholders
import Fiscal.Proofs.Session.RoundTrip
import Fiscal.Proofs.Token.Nesting
import Fiscal.Proofs.Token.Reports
import Fiscal.Proofs.Grammar.Measure
import Fiscal.Proofs.Grammar.MeasureRules
import Fiscal.Proofs.Grammar.Origin
import Fiscal.Proofs.Grammar.OriginExpression
import Fiscal.Proofs.Grammar.OriginStatement
import Fiscal.Proofs.Text.Lines
import Fiscal.Proofs.Session.Tables
import Fiscal.Proofs.Session.Scripts
import Fiscal.Proofs.Value.Table
import Fiscal.Proofs.Number.Sign
import Fiscal.Proofs.Machine.Advance
import Fiscal.Proofs.Machine.AdvanceRules
import Fiscal.Proofs.Machine.Breaks
import Fiscal.Proofs.Session.Ledgers
import Fiscal.Proofs.Machine.Issues
import Fiscal.Proofs.Token.Order
import Fiscal.Proofs.Grammar.Spans
import Fiscal.Proofs.Grammar.SpansExpression
import Fiscal.Proofs.Grammar.SpansStatement
import Fiscal.Proofs.Grammar.Depth
import Fiscal.Proofs.Grammar.Frames
import Fiscal.Proofs.Grammar.Precedence
import Fiscal.Proofs.Token.Neighbours
import Fiscal.Proofs.Finance.Exact
import Fiscal.Proofs.Finance.Schedule
import Fiscal.Proofs.Finance.Discount
import Fiscal.Proofs.Finance.Average
import Fiscal.Proofs.Finance.InternalRate
import Fiscal.Proofs.Machine.Counting
import Fiscal.Proofs.Scope.Algebra
import Fiscal.Proofs.Machine.Cashflow
import Fiscal.Proofs.Number.Rank
import Fiscal.Proofs.Number.Addition
import Fiscal.Proofs.Program.Equality
import Fiscal.Proofs.Value.Equality
import Fiscal.Proofs.Library.Filter
import Fiscal.Proofs.Settings.Mapping
import Fiscal.Proofs.Source.Caret
import Fiscal.Proofs.Grammar.Walk
import Fiscal.Proofs.Grammar.Limit
import Fiscal.Proofs.Token.Quotation
import Fiscal.Proofs.Token.LineEnds
