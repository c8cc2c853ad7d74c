import BulkSql.Entity
import BulkSql.Options
import BulkSql.Sql.Derived

/-!
The join of a table with a query over the same table: the rows of the table are those whose key is in
the query.
-/
namespace BulkSql.Statement

/-- A column of a table or query that is called `name`. -/
def qualified (name : String) (c : Column) : Sql := name.toList ++ '.' :: c.name.toSql

/-- One equation for each key column. -/
def keyCondition (options : Options) (keys : List Column) : Sql :=
  " AND ".toList.intercalate (keys.map fun c =>
    qualified options.updateAlias c ++ (" = ".toList ++ qualified options.joinAlias c))

/-- The query as a derived table, and the condition that joins it. -/
def joined (options : Options) (keys : List Column) (query : Sql) : Sql :=
  '(' :: (query ++ (") AS ".toList ++ (options.joinAlias.toList ++ (" WHERE ".toList ++
    keyCondition options keys))))

/-- The table under the name that the statement uses. -/
def target (options : Options) (entity : Entity) : Sql :=
  entity.table.toSql ++ (" AS ".toList ++ options.updateAlias.toList)

end BulkSql.Statement
