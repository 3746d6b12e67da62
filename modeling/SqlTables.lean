import SqlTables.Command.Arguments
import SqlTables.Command.Parse
import SqlTables.Command.Run
import SqlTables.Json.Mapping
import SqlTables.Json.Read
import SqlTables.Json.Value
import SqlTables.Json.Write
import SqlTables.Main
import SqlTables.Name.Ident
import SqlTables.Name.Mapping
import SqlTables.Name.Quotes
import SqlTables.Name.Sets
import SqlTables.Proofs.Command.Assembly
import SqlTables.Proofs.Name.Answers
import SqlTables.Proofs.Name.Entries
import SqlTables.Proofs.Name.Lookup
import SqlTables.Proofs.Name.Spelling
import SqlTables.Proofs.Reference.Balance
import SqlTables.Proofs.Reference.Coverage
import SqlTables.Proofs.Reference.Descent
import SqlTables.Proofs.Reference.History
import SqlTables.Proofs.Reference.Independence
import SqlTables.Proofs.Reference.LetterCase
import SqlTables.Proofs.Reference.Node
import SqlTables.Proofs.Reference.Recorded
import SqlTables.Proofs.Reference.Revised
import SqlTables.Proofs.Reference.Scope
import SqlTables.Proofs.Reference.Walk
import SqlTables.Proofs.Reference.WellFormed
import SqlTables.Proofs.Rename.Aliases
import SqlTables.Proofs.Rename.Carry
import SqlTables.Proofs.Rename.Coherence
import SqlTables.Proofs.Rename.Delimited
import SqlTables.Proofs.Rename.Hits
import SqlTables.Proofs.Rename.Idle
import SqlTables.Proofs.Rename.Inverse
import SqlTables.Proofs.Rename.LeftToRight
import SqlTables.Proofs.Rename.Matches
import SqlTables.Proofs.Rename.Order
import SqlTables.Proofs.Rename.Pending
import SqlTables.Proofs.Rename.Placement
import SqlTables.Proofs.Rename.Protected
import SqlTables.Proofs.Rename.Qualifiers
import SqlTables.Proofs.Rename.Relevant
import SqlTables.Proofs.Rename.Resolve
import SqlTables.Proofs.Rename.Safety
import SqlTables.Proofs.Rename.Spelled
import SqlTables.Proofs.Rename.Splice
import SqlTables.Proofs.Rename.Stage
import SqlTables.Proofs.Request.Dispatch
import SqlTables.Proofs.Sql.Readings
import SqlTables.Proofs.Sql.Revision
import SqlTables.Proofs.Sql.Scanning
import SqlTables.Proofs.Text.Cutting
import SqlTables.Proofs.Text.Folding
import SqlTables.Proofs.Text.Positions
import SqlTables.Proofs.Text.Trimming
import SqlTables.Reference.Collect
import SqlTables.Reference.Kind
import SqlTables.Reference.Record
import SqlTables.Rename.Anchor
import SqlTables.Rename.Apply
import SqlTables.Renamer
import SqlTables.Request
import SqlTables.Sql.Cursor
import SqlTables.Sql.Dialect
import SqlTables.Sql.Keyword
import SqlTables.Sql.LexError
import SqlTables.Sql.Lexer
import SqlTables.Sql.Literal
import SqlTables.Sql.Parse
import SqlTables.Sql.Parse.Admin
import SqlTables.Sql.Parse.Alter
import SqlTables.Sql.Parse.Basic
import SqlTables.Sql.Parse.Calls
import SqlTables.Sql.Parse.Change
import SqlTables.Sql.Parse.Columns
import SqlTables.Sql.Parse.Control
import SqlTables.Sql.Parse.Expression
import SqlTables.Sql.Parse.Forms
import SqlTables.Sql.Parse.From
import SqlTables.Sql.Parse.Names
import SqlTables.Sql.Parse.Nested
import SqlTables.Sql.Parse.Objects
import SqlTables.Sql.Parse.Operand
import SqlTables.Sql.Parse.Precedence
import SqlTables.Sql.Parse.Projection
import SqlTables.Sql.Parse.Query
import SqlTables.Sql.Parse.Statement
import SqlTables.Sql.Parse.Table
import SqlTables.Sql.Parse.Types
import SqlTables.Sql.Token
import SqlTables.Sql.Tree
import SqlTables.Text.Bytes
import SqlTables.Text.Classes
import SqlTables.Text.Escape
import SqlTables.Text.Fold
import SqlTables.Text.FoldTable
import SqlTables.Text.LetterTable
import SqlTables.Text.Lines
import SqlTables.Text.NumberTable
import SqlTables.Text.Shortest
import SqlTables.Text.WordTable
