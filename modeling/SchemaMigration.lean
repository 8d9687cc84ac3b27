import SchemaMigration.CommandLine.Arguments
import SchemaMigration.CommandLine.Program
import SchemaMigration.CommandLine.Setting
import SchemaMigration.Config.Binary
import SchemaMigration.Config.Octets
import SchemaMigration.Config.Quantity
import SchemaMigration.Config.Timestamp
import SchemaMigration.Config.Value
import SchemaMigration.DependencyOrder
import SchemaMigration.Digest
import SchemaMigration.Dump.Comment
import SchemaMigration.Dump.Definition
import SchemaMigration.Dump.Statement
import SchemaMigration.Journal
import SchemaMigration.Main
import SchemaMigration.Migration.Event
import SchemaMigration.Migration.Phase
import SchemaMigration.Migration.SchemaComparison
import SchemaMigration.Migration.Statement
import SchemaMigration.Migration.Step
import SchemaMigration.Migration.TableChange
import SchemaMigration.Migration.TableComparison
import SchemaMigration.ObjectKind
import SchemaMigration.Options.Basic
import SchemaMigration.Options.Config
import SchemaMigration.Options.File
import SchemaMigration.Options.Rule
import SchemaMigration.Pattern.Basic
import SchemaMigration.Pattern.CharacterTest
import SchemaMigration.Pattern.Fault
import SchemaMigration.Pattern.Matcher
import SchemaMigration.Pattern.Parser
import SchemaMigration.Pattern.Plan
import SchemaMigration.Pattern.Reader
import SchemaMigration.Pattern.Substitution
import SchemaMigration.Proofs.CommandLine.Password
import SchemaMigration.Proofs.CommandLine.PasswordRequest
import SchemaMigration.Proofs.CommandLine.PasswordWord
import SchemaMigration.Proofs.DependencyOrder
import SchemaMigration.Proofs.Dump.BlockComment
import SchemaMigration.Proofs.Dump.CommentReader
import SchemaMigration.Proofs.Dump.CommentStart
import SchemaMigration.Proofs.Dump.Decoding
import SchemaMigration.Proofs.Dump.Delimiter
import SchemaMigration.Proofs.Dump.DropStatement
import SchemaMigration.Proofs.Dump.LineComment
import SchemaMigration.Proofs.Dump.LinePadding
import SchemaMigration.Proofs.Dump.QuotedText
import SchemaMigration.Proofs.Dump.Segment
import SchemaMigration.Proofs.Dump.Statement
import SchemaMigration.Proofs.KeyedList
import SchemaMigration.Proofs.Migration.Agreement
import SchemaMigration.Proofs.Migration.ArrivingKey
import SchemaMigration.Proofs.Migration.AutoIncrement
import SchemaMigration.Proofs.Migration.ColumnOrder
import SchemaMigration.Proofs.Migration.Comment
import SchemaMigration.Proofs.Migration.Convergence
import SchemaMigration.Proofs.Migration.CreatedTable
import SchemaMigration.Proofs.Migration.CreationOrder
import SchemaMigration.Proofs.Migration.Difference
import SchemaMigration.Proofs.Migration.DropOrder
import SchemaMigration.Proofs.Migration.Execution
import SchemaMigration.Proofs.Migration.ForeignKeyService
import SchemaMigration.Proofs.Migration.Guard
import SchemaMigration.Proofs.Migration.GuardName
import SchemaMigration.Proofs.Migration.Header
import SchemaMigration.Proofs.Migration.Idempotence
import SchemaMigration.Proofs.Migration.IndexReplay
import SchemaMigration.Proofs.Migration.InlineKey
import SchemaMigration.Proofs.Migration.KeyCover
import SchemaMigration.Proofs.Migration.KeyRoute
import SchemaMigration.Proofs.Migration.KeyService
import SchemaMigration.Proofs.Migration.OptionConvergence
import SchemaMigration.Proofs.Migration.OptionFilter
import SchemaMigration.Proofs.Migration.PhaseOrder
import SchemaMigration.Proofs.Migration.PrimaryKey
import SchemaMigration.Proofs.Migration.ReferenceList
import SchemaMigration.Proofs.Migration.ReferencedTable
import SchemaMigration.Proofs.Migration.Replay
import SchemaMigration.Proofs.Migration.Report
import SchemaMigration.Proofs.Migration.Resumption
import SchemaMigration.Proofs.Migration.SchemaChanges
import SchemaMigration.Proofs.Migration.SchemaState
import SchemaMigration.Proofs.Migration.SingleAutoIncrement
import SchemaMigration.Proofs.Migration.TableChanges
import SchemaMigration.Proofs.Migration.TableState
import SchemaMigration.Proofs.Pattern.Keyword
import SchemaMigration.Proofs.Pattern.Setting
import SchemaMigration.Proofs.Routine.Characteristics
import SchemaMigration.Proofs.Routine.ReadBack
import SchemaMigration.Proofs.Routine.Spacing
import SchemaMigration.Proofs.Schema.Concatenation
import SchemaMigration.Proofs.Schema.Dropping
import SchemaMigration.Proofs.Schema.Remainder
import SchemaMigration.Proofs.Schema.Signature
import SchemaMigration.Proofs.Schema.Step
import SchemaMigration.Proofs.Schema.WellFormed
import SchemaMigration.Proofs.Source.Canonicalisation
import SchemaMigration.Proofs.Source.Cleanup
import SchemaMigration.Proofs.Source.DatabaseCommand
import SchemaMigration.Proofs.Source.Loading
import SchemaMigration.Proofs.Table.Balanced
import SchemaMigration.Proofs.Table.Clause
import SchemaMigration.Proofs.Table.ClosedCounter
import SchemaMigration.Proofs.Table.ColumnLine
import SchemaMigration.Proofs.Table.Completeness
import SchemaMigration.Proofs.Table.Counter
import SchemaMigration.Proofs.Table.Creation
import SchemaMigration.Proofs.Table.Draft
import SchemaMigration.Proofs.Table.Enclosed
import SchemaMigration.Proofs.Table.KeyPart
import SchemaMigration.Proofs.Table.Line
import SchemaMigration.Proofs.Table.ListItems
import SchemaMigration.Proofs.Table.LiteralClause
import SchemaMigration.Proofs.Table.Name
import SchemaMigration.Proofs.Table.OneLine
import SchemaMigration.Proofs.Table.OptionLines
import SchemaMigration.Proofs.Table.Origin
import SchemaMigration.Proofs.Table.PaddedWord
import SchemaMigration.Proofs.Table.TolerantOptions
import SchemaMigration.Proofs.Table.TrailingLines
import SchemaMigration.Proofs.Table.WellFormed
import SchemaMigration.Proofs.Text.Ending
import SchemaMigration.Proofs.Text.Layout
import SchemaMigration.Proofs.Text.LetterCase
import SchemaMigration.Proofs.Text.LineEnd
import SchemaMigration.Proofs.Text.PartedText
import SchemaMigration.Proofs.Text.Phrase
import SchemaMigration.Proofs.Text.Piece
import SchemaMigration.Proofs.Text.Recogniser
import SchemaMigration.Proofs.Text.Search
import SchemaMigration.Proofs.Text.Spacing
import SchemaMigration.Proofs.Text.StringLiteral
import SchemaMigration.Proofs.View.CheckOption
import SchemaMigration.Proofs.View.ReadBack
import SchemaMigration.Proofs.Walk
import SchemaMigration.Report
import SchemaMigration.Routine.Basic
import SchemaMigration.Routine.Characteristic
import SchemaMigration.Routine.Parser
import SchemaMigration.Schema.Basic
import SchemaMigration.Schema.Parser
import SchemaMigration.Source.Basic
import SchemaMigration.Source.Client
import SchemaMigration.Source.Connection
import SchemaMigration.Source.Path
import SchemaMigration.Source.Scratch
import SchemaMigration.Source.Session
import SchemaMigration.Table.Basic
import SchemaMigration.Table.Creation
import SchemaMigration.Table.KeyPart
import SchemaMigration.Table.Line
import SchemaMigration.Table.Options
import SchemaMigration.Table.Parser
import SchemaMigration.Text.Basic
import SchemaMigration.Text.Blank
import SchemaMigration.Text.CharacterName
import SchemaMigration.Text.CharacterName.BelowU11000
import SchemaMigration.Text.CharacterName.BelowU1B000
import SchemaMigration.Text.CharacterName.BelowU2000
import SchemaMigration.Text.CharacterName.BelowUA000
import SchemaMigration.Text.CharacterName.FromU1B000
import SchemaMigration.Text.Digit
import SchemaMigration.Text.Identifier
import SchemaMigration.Text.Keyword
import SchemaMigration.Text.LetterCase
import SchemaMigration.Text.Numeral
import SchemaMigration.Text.Quoted
import SchemaMigration.Text.Search
import SchemaMigration.Text.Utf8
import SchemaMigration.Text.WordCharacter
import SchemaMigration.View
import SchemaMigration.Yaml.Cursor
import SchemaMigration.Yaml.Document
import SchemaMigration.Yaml.Layout
import SchemaMigration.Yaml.Node
import SchemaMigration.Yaml.Numeral
import SchemaMigration.Yaml.Scalar
import SchemaMigration.Yaml.Tag
import SchemaMigration.Yaml.Token
