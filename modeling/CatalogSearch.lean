import CatalogSearch.Schema.Migration
import CatalogSearch.Schema.Table
import CatalogSearch.Service
import CatalogSearch.Proofs.Registry
import CatalogSearch.Proofs.Compilation
import CatalogSearch.Proofs.Pairing
import CatalogSearch.Proofs.Sql.Nesting
import CatalogSearch.Proofs.Sql.Tame
import CatalogSearch.Proofs.Sql.Shape
import CatalogSearch.Proofs.Conjuncts
import CatalogSearch.Proofs.Transcript
import CatalogSearch.Proofs.Visibility
import CatalogSearch.Proofs.Alike
import CatalogSearch.Proofs.PageCount
import CatalogSearch.Proofs.Keys
import CatalogSearch.Proofs.Conversation
import CatalogSearch.Proofs.Completion
import CatalogSearch.Proofs.Protocol
import CatalogSearch.Proofs.Paging
import CatalogSearch.Proofs.LinkStrategies
import CatalogSearch.Proofs.SoftDelete
import CatalogSearch.Proofs.Log
import CatalogSearch.Proofs.ActiveFilter
import CatalogSearch.Proofs.DefaultSize
import CatalogSearch.Proofs.ClauseWise
import CatalogSearch.Proofs.Grouping
import CatalogSearch.Proofs.Attachment
import CatalogSearch.Proofs.RelatedRows
import CatalogSearch.Proofs.Restriction
import CatalogSearch.Proofs.Sql.Like
import CatalogSearch.Proofs.PathPrefix
import CatalogSearch.Proofs.Authorization
import CatalogSearch.Proofs.Reading
import CatalogSearch.Proofs.Sql.Expression
import CatalogSearch.Proofs.Sql.Reader
import CatalogSearch.Proofs.Sql.Meaning
import CatalogSearch.Proofs.Operators
import CatalogSearch.Proofs.Negation
import CatalogSearch.Proofs.Joins
import CatalogSearch.Proofs.Declined
import CatalogSearch.Proofs.Execution
import CatalogSearch.Proofs.PageTotals
import CatalogSearch.Proofs.WindowBounds
import CatalogSearch.Proofs.Binding
import CatalogSearch.Proofs.Composition
import CatalogSearch.Proofs.StoreFailure
import CatalogSearch.Proofs.Json.Arrays
import CatalogSearch.Proofs.Json.Limits
import CatalogSearch.Proofs.DocumentPaths
import CatalogSearch.Proofs.ListedPaths
import CatalogSearch.Proofs.JoinAliases
import CatalogSearch.Proofs.Partition
import CatalogSearch.Proofs.Json.Texts
import CatalogSearch.Proofs.Json.Objects
import CatalogSearch.Proofs.Signing
import CatalogSearch.Proofs.Issuance
