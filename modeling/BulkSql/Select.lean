import BulkSql.Query
import BulkSql.Select.Capture
import BulkSql.Setting

/-!
Queries as text: a SELECT over the table of an entity, with the captured values set before it.
-/
namespace BulkSql

/-- A way to write queries as text. -/
abbrev QueryWriter := Entity → Query → Except Error Sql

namespace Select

/-- The rows of a table are called by the first letter of its name. -/
def rowName (table : String) : Sql :=
  match table.toList.find? Char.isAlpha with
  | some c => [c.toLower]
  | none => ['t']

def scope (space : SettingSpace) (entity : Entity) : TextScope :=
  ⟨entity, rowName entity.table.name.name, space⟩

/-- The selected columns, or the selected value. -/
def columns (s : TextScope) (q : Query) : Sql :=
  match q.projection? with
  | none => Expr.commaList (s.entity.columns.map s.column)
  | some e => s.text e

def orderTerm (s : TextScope) (t : OrderTerm) : Sql :=
  s.text t.expr ++ (if t.descending then " DESC" else "").toList

/-- A clause that may be missing. -/
def clause {α : Type} (keyword : String) (write : α → Sql) : Option α → Sql
  | none => []
  | some x => keyword.toList ++ write x

def orderClause (s : TextScope) (terms : List OrderTerm) : Sql :=
  if terms.isEmpty then []
  else " ORDER BY ".toList ++ Expr.commaList (terms.map (orderTerm s))

def count (n : Nat) : Sql := (toString n).toList

/-- The SELECT statement of a query. -/
def text (s : TextScope) (q : Query) : Sql :=
  "SELECT ".toList ++ (columns s q ++ (" FROM ".toList ++ (s.entity.table.toSql ++
    (" AS ".toList ++ (s.rowName ++ (clause " WHERE " s.text q.filter? ++
      (orderClause s q.orderBy ++ (clause " LIMIT " count q.limit? ++
        clause " OFFSET " count q.offset?))))))))

def projectionVisits (entity : Entity) : Option Expr → List Visit
  | none => []
  | some (.init name _) => [.refused (.unsupported (.initializerSelected name))]
  | some e => Visit.ofExpr entity e

/-- The visits of all expressions of a query, in the order of its text. -/
def visits (entity : Entity) (q : Query) : List Visit :=
  projectionVisits entity q.projection? ++ (q.filter?.elim [] (Visit.ofExpr entity) ++
    q.orderBy.flatMap fun t => Visit.ofExpr entity t.expr)

/-- A line that sets each captured value. -/
def preludeText (space : SettingSpace) (captures : Captures) : Sql :=
  captures.flatMap fun c =>
    Setting.line (space.setting c.1.toList) (c.2.text?.getD []) ++ ['\n']

/-- The settings of the captured values, a line each, and the SELECT statement. -/
def writer (space : SettingSpace) : QueryWriter := fun entity q => do
  let captures ← Captures.ofVisits [] (visits entity q)
  return preludeText space captures ++ text (scope space entity) q

end Select

end BulkSql
