import BulkSql.Statement
import BulkSql.Statement.Join

/-!
A DELETE of the rows of a query.
-/
namespace BulkSql.Statement

/-- Deletes the rows of the query with the text `query`, whose settings run before. -/
def delete (options : Options) (entity : Entity) (query : Sql) : Except Error Statement := do
  let keys ← entity.keys
  let derived ← DerivedQuery.ofSql query
  return {
    kind := .delete
    table := entity.table.toSql
    prelude := derived.prelude.map Setting.statement
    body := .raw ("DELETE FROM ".toList ++ (target options entity ++ (" USING ".toList ++
      joined options keys derived.body))) }

end BulkSql.Statement
