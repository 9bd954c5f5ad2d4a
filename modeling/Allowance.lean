import Allowance.Calendar.Date
import Allowance.Calendar.International
import Allowance.Calendar.Month
import Allowance.Calendar.Reading
import Allowance.Calendar.Week
import Allowance.Change
import Allowance.Console.Command
import Allowance.Console.Conventions
import Allowance.Console.Display
import Allowance.Console.Entries
import Allowance.Console.Listing
import Allowance.Console.Program
import Allowance.Console.Reading
import Allowance.Console.Session
import Allowance.Console.SetUp
import Allowance.Console.Summary
import Allowance.Currency
import Allowance.Data.Value
import Allowance.Environment
import Allowance.Failure
import Allowance.Files.Database
import Allowance.Files.Path
import Allowance.Files.Tree
import Allowance.Ledger.Aggregate
import Allowance.Ledger.Basic
import Allowance.Ledger.Log
import Allowance.Ledger.Request
import Allowance.Ledger.Search
import Allowance.Ledger.Table
import Allowance.Ledger.Transaction
import Allowance.Ledger.Work
import Allowance.LogLevel
import Allowance.Main
import Allowance.Money.Basic
import Allowance.Money.Calculation
import Allowance.Money.Operand
import Allowance.Money.Reading
import Allowance.Money.Scale
import Allowance.Month.Basic
import Allowance.Month.Recompute
import Allowance.Number.Binary64
import Allowance.Number.Decimal.Basic
import Allowance.Number.Decimal.Key
import Allowance.Number.Decimal.Text
import Allowance.Number.Power
import Allowance.Number.Rounding
import Allowance.Number.Shortest
import Allowance.Proofs.Calendar.Month
import Allowance.Proofs.Calendar.Period
import Allowance.Proofs.Calendar.Succession
import Allowance.Proofs.Console.Aftermath
import Allowance.Proofs.Console.Amounts
import Allowance.Proofs.Console.Clients
import Allowance.Proofs.Console.Commitment
import Allowance.Proofs.Console.Program
import Allowance.Proofs.Console.Readiness
import Allowance.Proofs.Console.SetUp
import Allowance.Proofs.Currency
import Allowance.Proofs.Failure
import Allowance.Proofs.Files.Growth
import Allowance.Proofs.Files.Tree
import Allowance.Proofs.Ledger.Admission
import Allowance.Proofs.Ledger.Balance
import Allowance.Proofs.Ledger.Consistency
import Allowance.Proofs.Ledger.Depth
import Allowance.Proofs.Ledger.Effect
import Allowance.Proofs.Ledger.Figures
import Allowance.Proofs.Ledger.Forest
import Allowance.Proofs.Ledger.Integrity
import Allowance.Proofs.Ledger.Numbering
import Allowance.Proofs.Ledger.Persistence
import Allowance.Proofs.Ledger.Readings
import Allowance.Proofs.Ledger.Recomputation
import Allowance.Proofs.Ledger.Rendering
import Allowance.Proofs.Ledger.Revision
import Allowance.Proofs.Ledger.Run
import Allowance.Proofs.Ledger.Search
import Allowance.Proofs.Ledger.Settlement
import Allowance.Proofs.Ledger.Settling
import Allowance.Proofs.Ledger.Transaction
import Allowance.Proofs.Ledger.Undo
import Allowance.Proofs.Ledger.Validity
import Allowance.Proofs.Ledger.WriteBack
import Allowance.Proofs.Money.Arithmetic
import Allowance.Proofs.Money.Decimal
import Allowance.Proofs.Money.Key
import Allowance.Proofs.Money.Reading
import Allowance.Proofs.Money.Rounding
import Allowance.Proofs.Money.Total
import Allowance.Proofs.Money.Uniform
import Allowance.Proofs.Money.Units
import Allowance.Proofs.Money.Value
import Allowance.Proofs.Month.Recompute
import Allowance.Proofs.Month.Uniform
import Allowance.Proofs.Number.Context
import Allowance.Proofs.Number.Decimal
import Allowance.Proofs.Number.Normal
import Allowance.Proofs.Number.Order
import Allowance.Proofs.Number.Power
import Allowance.Proofs.Number.Rounding
import Allowance.Proofs.Outcome
import Allowance.Proofs.Search.Criteria
import Allowance.Proofs.Search.Exact
import Allowance.Proofs.Search.Like
import Allowance.Proofs.Search.Order
import Allowance.Proofs.Search.Pattern
import Allowance.Proofs.Search.Piece
import Allowance.Proofs.Search.Select
import Allowance.Proofs.Search.Statement
import Allowance.Proofs.Settings
import Allowance.Proofs.SpendType.Ancestors
import Allowance.Proofs.SpendType.Cycle
import Allowance.Proofs.SpendType.Depth
import Allowance.Proofs.SpendType.Forest
import Allowance.Proofs.SpendType.FullName
import Allowance.Proofs.Statistics.ByDay
import Allowance.Proofs.Statistics.Charges
import Allowance.Proofs.Statistics.DailyReport
import Allowance.Proofs.Statistics.Distribution
import Allowance.Proofs.Statistics.Intervals
import Allowance.Proofs.Statistics.Percentile
import Allowance.Proofs.Statistics.Preorder
import Allowance.Proofs.Statistics.Rollup
import Allowance.Proofs.Statistics.Shape
import Allowance.Proofs.Statistics.Standing
import Allowance.Proofs.Statistics.Sums
import Allowance.Proofs.Statistics.Traversal
import Allowance.Proofs.Table
import Allowance.Proofs.Terminal
import Allowance.Proofs.Text.Blank
import Allowance.Proofs.Text.Case
import Allowance.Proofs.Text.Numeral
import Allowance.Proofs.Text.Sigma
import Allowance.Proofs.Text.Upper
import Allowance.Search.Like
import Allowance.Search.Pattern
import Allowance.Search.Query
import Allowance.Search.Select
import Allowance.Settings
import Allowance.SpendType.Basic
import Allowance.SpendType.Hierarchy
import Allowance.Statistics.ByDay
import Allowance.Statistics.ByType
import Allowance.Statistics.Costs
import Allowance.Terminal.Archive
import Allowance.Terminal.Conventions
import Allowance.Terminal.Customary
import Allowance.Terminal.DateReader
import Allowance.Terminal.Layout
import Allowance.Terminal.Parts
import Allowance.Terminal.Token
import Allowance.Terminal.TomlWriter
import Allowance.Terminal.WholeNumber
import Allowance.Terminal.Words
import Allowance.Text.Blank
import Allowance.Text.Case
import Allowance.Text.Case.Tables
import Allowance.Text.Digit
import Allowance.Text.Numeral
import Allowance.Text.Pieces
import Allowance.Text.Printable
import Allowance.Text.Quoted
import Allowance.Toml.Document
import Allowance.Toml.Reader
import Allowance.Toml.Scanner
