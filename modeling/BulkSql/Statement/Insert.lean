import BulkSql.Entity
import BulkSql.Options
import BulkSql.Statement

/-!
One INSERT for many rows: a group of parameters for each row, in the order of the columns.
-/
namespace BulkSql.Statement

/-- The stored value of a member of a row. -/
def cell (entity : Entity) (row : Row) (c : Column) : Except Error Value :=
  match row c.member with
  | none => .error (.metadata (.notExposed entity.name c.member))
  | some v => c.toStore v

def cells (entity : Entity) (columns : List Column) (row : Row) : Except Error (List Value) :=
  columns.mapM (cell entity row)

/-- The parameters of a row in parentheses. -/
def group (values : List Value) : Fragment :=
  .raw ['('] ++ (.commaList (values.map .bind) ++ .raw [')'])

def columnNames (columns : List Column) : List Fragment :=
  columns.map fun c => .raw c.name.toSql

def insertBody (entity : Entity) (columns : List Column) (rows : List (List Value)) : Fragment :=
  .raw ("INSERT INTO ".toList ++ (entity.table.toSql ++ " (".toList)) ++
    (.commaList (columnNames columns) ++ (.raw ") VALUES ".toList ++ .commaList (rows.map group)))

/-- The INSERT of some rows; none, if there are no rows or the store makes all values. -/
def insert (options : Options) (entity : Entity) (rows : List Row) :
    Except Error (Option Statement) :=
  let columns := entity.insertable
  if rows.isEmpty || columns.isEmpty then .ok none
  else if options.maxParameters < rows.length * columns.length then
    .error (.validation (.tooManyCells rows.length columns.length (.ofList entity.table.toSql)
      options.maxParameters))
  else do
    let values ← rows.mapM (cells entity columns)
    return some ⟨.insert, entity.table.toSql, [], insertBody entity columns values⟩

end BulkSql.Statement
