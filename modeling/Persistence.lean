import Persistence.Catalog
import Persistence.Catalog.Memo
import Persistence.CommandLine.Arguments
import Persistence.CommandLine.Filter
import Persistence.CommandLine.Run
import Persistence.CommandLine.Words
import Persistence.Dialect
import Persistence.Error
import Persistence.Instance.Basic
import Persistence.Instance.Codec
import Persistence.Json.Decoding
import Persistence.Json.Reader
import Persistence.Json.Scalar
import Persistence.Json.Tree
import Persistence.Main
import Persistence.Mapping
import Persistence.Number.Binary
import Persistence.Number.Decimal
import Persistence.Number.Reading
import Persistence.Number.Shortest
import Persistence.Proofs.Cache.Inclusion
import Persistence.Proofs.Cache.LastUse
import Persistence.Proofs.Cache.LookUp
import Persistence.Proofs.Cache.RecencyList
import Persistence.Proofs.Cache.Refinement
import Persistence.Proofs.Cache.Statistics
import Persistence.Proofs.Catalog.ColumnNames
import Persistence.Proofs.Catalog.Compilation
import Persistence.Proofs.Catalog.CriteriaFaults
import Persistence.Proofs.Catalog.DeclaringSide
import Persistence.Proofs.Catalog.ForeignKey
import Persistence.Proofs.Catalog.Insertion
import Persistence.Proofs.Catalog.JoinTable
import Persistence.Proofs.Catalog.KeyLiteral
import Persistence.Proofs.Catalog.KeyTypes
import Persistence.Proofs.Catalog.MappableEntity
import Persistence.Proofs.Catalog.Memo
import Persistence.Proofs.Catalog.Resolution
import Persistence.Proofs.Catalog.RowColumns
import Persistence.Proofs.Catalog.StatementShape
import Persistence.Proofs.Catalog.StorageType
import Persistence.Proofs.Catalog.TableNames
import Persistence.Proofs.Catalog.Validation
import Persistence.Proofs.CommandLine.Filter
import Persistence.Proofs.Instance.DeferredLoading
import Persistence.Proofs.Instance.Identity
import Persistence.Proofs.Json.Reading
import Persistence.Proofs.Json.RoundTrip
import Persistence.Proofs.Number.Integer
import Persistence.Proofs.Outcome
import Persistence.Proofs.Session.CacheHistory
import Persistence.Proofs.Session.CacheTrace
import Persistence.Proofs.Session.CachedLinks
import Persistence.Proofs.Session.ColumnOrder
import Persistence.Proofs.Session.Counting
import Persistence.Proofs.Session.CursorPlace
import Persistence.Proofs.Session.CursorScope
import Persistence.Proofs.Session.FailedOperation
import Persistence.Proofs.Session.Freshness
import Persistence.Proofs.Session.LinkReading
import Persistence.Proofs.Session.LinkRemoval
import Persistence.Proofs.Session.LookUpCount
import Persistence.Proofs.Session.MappingFirst
import Persistence.Proofs.Session.Materialization
import Persistence.Proofs.Session.OnlyRow
import Persistence.Proofs.Session.Operation
import Persistence.Proofs.Session.Presence
import Persistence.Proofs.Session.Reconciliation
import Persistence.Proofs.Session.RowReading
import Persistence.Proofs.Session.Sent
import Persistence.Proofs.Session.UpdatedRow
import Persistence.Proofs.Sql.ConditionReading
import Persistence.Proofs.Sql.Effect
import Persistence.Proofs.Sql.Grammar
import Persistence.Proofs.Sql.LinkRows
import Persistence.Proofs.Sql.LiteralForm
import Persistence.Proofs.Sql.LiteralReading
import Persistence.Proofs.Sql.QueryReading
import Persistence.Proofs.Sql.SelectionReading
import Persistence.Proofs.Sql.StoredValue
import Persistence.Proofs.Sql.Token
import Persistence.Proofs.Sql.TokenShape
import Persistence.Query
import Persistence.Relationship
import Persistence.Schema.Basic
import Persistence.Schema.Codec
import Persistence.Session.Basic
import Persistence.Session.Cache
import Persistence.Session.ForwardCursor
import Persistence.Session.Reading
import Persistence.Session.Row
import Persistence.Session.Writing
import Persistence.Sql.Change
import Persistence.Sql.Definition
import Persistence.Sql.Linking
import Persistence.Sql.Literal
import Persistence.Sql.Statement
import Persistence.Text.Blank
import Persistence.Text.CaseTable
import Persistence.Text.Display
import Persistence.Text.DisplayTable
import Persistence.Text.Hexadecimal
import Persistence.Text.Join
import Persistence.Text.Lowercase
import Persistence.Text.Ranges
import Persistence.Text.Units
import Persistence.Text.Utf8
import Persistence.Value.Basic
import Persistence.Value.Display
import Persistence.Value.Hash
