import BulkSql.Bulk
import BulkSql.Session

/-!
Operations on sets of rows: the statement of an operation is made first and then run.
-/
namespace BulkSql

inductive Operation
  | insert (rows : List Row)
  /-- Deletes the rows of a query. -/
  | delete (query : Query)
  /-- Updates the rows of a query by an updater. -/
  | update (query : Query) (updater : Expr)

namespace Bulk

/-- The statement of an operation; an INSERT may have nothing to do. -/
def statement (b : Bulk) (mapping : Except Error Entity) :
    Operation → Except Error (Option Statement)
  | .insert rows => b.insertStatement mapping rows
  | .delete query => some <$> b.deleteStatement mapping query
  | .update query updater => some <$> b.updateStatement mapping query updater

/-- Makes the statement of an operation and runs it, in a scope of its own unless it is to run
`direct`. -/
def perform {σ : Type} (b : Bulk) (c : Connection σ) (depth : Nat) (direct : Bool)
    (mapping : Except Error Entity) (operation : Operation) : Call (Session σ) Nat :=
  Session.executeBuilt c depth b.options direct (b.statement mapping operation)

end Bulk

end BulkSql
