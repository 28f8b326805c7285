import ScimQuery.Decimal.Shortest
import ScimQuery.Decimal.Nearest
import ScimQuery.Decimal.Layout
import ScimQuery.Json.Basic
import ScimQuery.Json.Parse
import ScimQuery.Json.Print
import ScimQuery.Text.Ranges
import ScimQuery.Text.Alphanumeric
import ScimQuery.Text.Printable
import ScimQuery.Text.UpperCase
import ScimQuery.Text.Blank
import ScimQuery.Text.Debug
import ScimQuery.Sql.Value
import ScimQuery.Sql.Dialect
import ScimQuery.Sql.Token
import ScimQuery.Sql.Syntax
import ScimQuery.Sql.Render
import ScimQuery.Sql.Build
import ScimQuery.Sql.Json
import ScimQuery.Attribute.Path
import ScimQuery.Attribute.Kind
import ScimQuery.Filter.Value
import ScimQuery.Filter.Node
import ScimQuery.Filter.Json
import ScimQuery.Join.Basic
import ScimQuery.Join.Set
import ScimQuery.Join.Order
import ScimQuery.Error
import ScimQuery.Json.Decode
import ScimQuery.Catalog.Declaration
import ScimQuery.Catalog.Location
import ScimQuery.Positions
import ScimQuery.Catalog.Mapping
import ScimQuery.Catalog.Registry
import ScimQuery.Catalog.Builtin
import ScimQuery.Catalog.Json
import ScimQuery.Decimal.Parse
import ScimQuery.Filter.Timestamp
import ScimQuery.Filter.Coerce
import ScimQuery.Filter.Like
import ScimQuery.Filter.Compile
import ScimQuery.Config.Settings
import ScimQuery.Config.Environment
import ScimQuery.Config.Json
import ScimQuery.Plan.SortKey
import ScimQuery.Plan.Page
import ScimQuery.Plan.Request
import ScimQuery.Plan.Json
import ScimQuery.Plan.PlannedQuery
import ScimQuery.Result.Row
import ScimQuery.Result.Mapper
import ScimQuery.Result.Execute
import ScimQuery.Result.Script
import ScimQuery.Store.Cell
import ScimQuery.Store.Table
import ScimQuery.Store.Eval
import ScimQuery.Store.Prepare
import ScimQuery.Store.Lexer
import ScimQuery.Store.Statement
import ScimQuery.Store.Run
import ScimQuery.Store.Fixture
import ScimQuery.Store.Executor
import ScimQuery.Toml.Lexical
import ScimQuery.Toml.Document
import ScimQuery.Config.Host
import ScimQuery.Config.Files
import ScimQuery.Config.Load
import ScimQuery.Catalog.File
import ScimQuery.Cli.Args
import ScimQuery.Cli.Help
import ScimQuery.Cli.Connection
import ScimQuery.Cli.Run
import ScimQuery.Main
import ScimQuery.Proofs.Stages
import ScimQuery.Proofs.Precedence
import ScimQuery.Proofs.FirstOccurrences
import ScimQuery.Proofs.JoinSetRuns
import ScimQuery.Proofs.Linearize
import ScimQuery.Proofs.SelfCheck
import ScimQuery.Proofs.Evaluation
import ScimQuery.Proofs.JoinedRows
import ScimQuery.Proofs.RowPositions
import ScimQuery.Proofs.RowIds
import ScimQuery.Proofs.Grouping
import ScimQuery.Proofs.Pagination
import ScimQuery.Proofs.Parameters
import ScimQuery.Proofs.Scoping
import ScimQuery.Proofs.FilterReference
import ScimQuery.Proofs.ThreeValued
import ScimQuery.Proofs.OuterJoins
import ScimQuery.Proofs.Negation
import ScimQuery.Proofs.LikePatterns
import ScimQuery.Proofs.IntegerLiterals
import ScimQuery.Proofs.PageWindow
import ScimQuery.Proofs.RowOrder
import ScimQuery.Proofs.Folding
import ScimQuery.Proofs.StatementOrder
import ScimQuery.Proofs.PathGrammar
import ScimQuery.Proofs.Labels
import ScimQuery.Proofs.Lookup
import ScimQuery.Proofs.References
import ScimQuery.Proofs.Quoting
import ScimQuery.Proofs.Diagnosis
import ScimQuery.Proofs.FloatFree
