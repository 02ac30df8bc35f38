import TableSchema.Binary64.Basic
import TableSchema.Binary64.Printer
import TableSchema.Binary64.Reader
import TableSchema.Binary64.Shortest
import TableSchema.Code
import TableSchema.Column
import TableSchema.Descriptor.Basic
import TableSchema.Descriptor.Definition
import TableSchema.Descriptor.Projection
import TableSchema.Descriptor.Query
import TableSchema.Descriptor.Statement
import TableSchema.Descriptor.Where
import TableSchema.EnumValue
import TableSchema.Fault
import TableSchema.Filter
import TableSchema.ForeignKey
import TableSchema.Issue
import TableSchema.Journal
import TableSchema.Literal
import TableSchema.Proofs.Descriptor.AliasedColumn
import TableSchema.Proofs.Descriptor.ClauseComposition
import TableSchema.Proofs.Descriptor.Coercion
import TableSchema.Proofs.Descriptor.ConditionCount
import TableSchema.Proofs.Descriptor.ConstraintBlock
import TableSchema.Proofs.Descriptor.ConstraintName
import TableSchema.Proofs.Descriptor.DistinctColumns
import TableSchema.Proofs.Descriptor.EnumReading
import TableSchema.Proofs.Descriptor.Extension
import TableSchema.Proofs.Descriptor.FrozenCopy
import TableSchema.Proofs.Descriptor.Generation
import TableSchema.Proofs.Descriptor.Ledger
import TableSchema.Proofs.Descriptor.MatchedColumns
import TableSchema.Proofs.Descriptor.OutputName
import TableSchema.Proofs.Descriptor.PlainNames
import TableSchema.Proofs.Descriptor.ShownFilter
import TableSchema.Proofs.Descriptor.ShownStatement
import TableSchema.Proofs.Descriptor.SuppliedFilter
import TableSchema.Proofs.Descriptor.Unmetered
import TableSchema.Proofs.Descriptor.UpdateWords
import TableSchema.Proofs.Session.Accounting
import TableSchema.Proofs.Session.Builder
import TableSchema.Proofs.Session.Call
import TableSchema.Proofs.Session.Capture
import TableSchema.Proofs.Session.Environment
import TableSchema.Proofs.Session.Freezing
import TableSchema.Proofs.Session.History
import TableSchema.Proofs.Session.Inheritance
import TableSchema.Proofs.Session.Invariant
import TableSchema.Proofs.Session.StrictFreezing
import TableSchema.Proofs.Session.Unmetered
import TableSchema.Proofs.Sql.Constant
import TableSchema.Proofs.Sql.DollarMark
import TableSchema.Proofs.Sql.FallbackLabel
import TableSchema.Proofs.Sql.LiteralPart
import TableSchema.Proofs.Sql.LiteralSafety
import TableSchema.Proofs.Sql.Parallel
import TableSchema.Proofs.Sql.ReadBack
import TableSchema.Proofs.Sql.Reading
import TableSchema.Proofs.Sql.SuppliedText
import TableSchema.Proofs.Text.BlankText
import TableSchema.Proofs.Text.Identifier
import TableSchema.Proofs.Text.KeywordWord
import TableSchema.Proofs.Text.LineBreak
import TableSchema.Proofs.Text.Lowering
import TableSchema.Proofs.Text.NumberForm
import TableSchema.Proofs.Text.Numeral
import TableSchema.Proofs.Text.PhraseCount
import TableSchema.Proofs.Text.Recasing
import TableSchema.Proofs.Text.Trimming
import TableSchema.Proofs.Text.Uppering
import TableSchema.Proofs.Text.WordToken
import TableSchema.Proofs.Validation.Consistency
import TableSchema.Proofs.Validation.Counting
import TableSchema.Proofs.Validation.DefectCount
import TableSchema.Proofs.Validation.DefectReport
import TableSchema.Proofs.Validation.KnownOperator
import TableSchema.Proofs.Validation.MissingKey
import TableSchema.Proofs.Validation.ShadowedArm
import TableSchema.Proofs.Validation.ValueClass
import TableSchema.Proofs.Verification.Agreement
import TableSchema.Proofs.Verification.BlockCase
import TableSchema.Proofs.Verification.BlockShape
import TableSchema.Proofs.Verification.ConstraintVerdict
import TableSchema.Proofs.Verification.Decision
import TableSchema.Proofs.Verification.Degeneracy
import TableSchema.Proofs.Verification.Enclosure
import TableSchema.Proofs.Verification.InsertTarget
import TableSchema.Proofs.Verification.LiteralMasking
import TableSchema.Proofs.Verification.LiteralVerdict
import TableSchema.Proofs.Verification.Masking
import TableSchema.Proofs.Verification.PlaceholderContract
import TableSchema.Proofs.Verification.PlaceholderPlace
import TableSchema.Proofs.Verification.Qualifier
import TableSchema.Proofs.Verification.TargetList
import TableSchema.Proofs.Verification.UpdateProblem
import TableSchema.Proofs.Verification.Verdict
import TableSchema.Record
import TableSchema.Session
import TableSchema.Settings
import TableSchema.Text.Blank
import TableSchema.Text.Case
import TableSchema.Text.CaseTable
import TableSchema.Text.CasedTable
import TableSchema.Text.CodeRange
import TableSchema.Text.Digit
import TableSchema.Text.Keyword
import TableSchema.Text.Lines
import TableSchema.Text.Occurrence
import TableSchema.Text.PrintableTable
import TableSchema.Text.Quoted
import TableSchema.Text.Word
import TableSchema.Text.WordTable
import TableSchema.Validation
import TableSchema.Value.Access
import TableSchema.Value.Basic
import TableSchema.Value.Display
import TableSchema.Value.Equality
import TableSchema.Verification.DoBlock
import TableSchema.Verification.InsertTarget
import TableSchema.Verification.Placeholder
import TableSchema.Verification.Report
import TableSchema.Verification.UpdateProblem
import TableSchema.Verification.Verdict
