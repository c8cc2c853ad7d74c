import BulkSql.Bulk
import BulkSql.Bulk.Operation
import BulkSql.Json.Reader
import BulkSql.Options.Document
import BulkSql.Pool
import BulkSql.Proofs.Arithmetic
import BulkSql.Proofs.Decomposition
import BulkSql.Proofs.Hoisting
import BulkSql.Proofs.Joining
import BulkSql.Proofs.Lexing
import BulkSql.Proofs.Membership
import BulkSql.Proofs.Merging
import BulkSql.Proofs.Projecting
import BulkSql.Proofs.Quoting
import BulkSql.Proofs.Scopes
import BulkSql.Proofs.Sources
import BulkSql.Proofs.Splitting
import BulkSql.Proofs.Stability
import BulkSql.Proofs.Touching
import BulkSql.Proofs.Transaction
import BulkSql.Proofs.Union
import BulkSql.Proofs.Updater
import BulkSql.Proofs.Wire
import BulkSql.Session
import BulkSql.Store.Rule
