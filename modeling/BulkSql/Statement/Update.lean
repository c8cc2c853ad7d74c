import BulkSql.Assignment
import BulkSql.Select
import BulkSql.Sql.Projection
import BulkSql.Statement
import BulkSql.Statement.Join

/-!
An UPDATE of the rows of a query. Constants are parameters. What is computed from the row is written
as a column of the same query, and its expression is moved to the updated table.
-/
namespace BulkSql.Statement

/-- The right-hand side of an assignment, and the settings behind those needed before. -/
def assignedFragment (write : QueryWriter) (options : Options) (entity : Entity) (query : Query)
    (prelude : List Setting) : Assigned → Except Error (Fragment × List Setting)
  | .constant v => .ok (if v.isNull then .raw "NULL".toList else .bind v, prelude)
  | .computed e => do
    let projection ← Projection.ofSql (← write entity (query.selecting e))
    let prelude ← (Setting.join prelude projection.prelude).mapError .unsupported
    let moved ← (projection.realias options.updateAlias.toList).mapError .unsupported
    return (.raw moved, prelude)

/-- The assignments as they stand behind SET, and all settings. -/
def assignments (write : QueryWriter) (options : Options) (entity : Entity) (query : Query)
    (prelude : List Setting) : List Assignment → Except Error (List Fragment × List Setting)
  | [] => .ok ([], prelude)
  | a :: rest => do
    let (value, prelude) ← assignedFragment write options entity query prelude a.value
    let (others, prelude) ← assignments write options entity query prelude rest
    return ((.raw (a.column.name.toSql ++ " = ".toList) ++ value) :: others, prelude)

/-- Updates the rows of a query over whole rows by an updater. -/
def update (write : QueryWriter) (options : Options) (entity : Entity) (query : Query)
    (updater : Expr) : Except Error Statement := do
  let assigned ← Assignment.ofUpdater entity updater
  let keys ← entity.keys
  let derived ← DerivedQuery.ofSql (← write entity query)
  let (set, prelude) ← assignments write options entity query derived.prelude assigned
  return {
    kind := .update
    table := entity.table.toSql
    prelude := prelude.map Setting.statement
    body := .raw ("UPDATE ".toList ++ (target options entity ++ " SET ".toList)) ++
      (.commaList set ++ .raw (" FROM ".toList ++ joined options keys derived.body)) }

end BulkSql.Statement
