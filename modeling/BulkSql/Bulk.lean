import BulkSql.Statement.Delete
import BulkSql.Statement.Insert
import BulkSql.Statement.Update

/-!
Statements for whole sets of rows. Options and mapping are checked for each statement; a mapping can
be faulty from the start.
-/
namespace BulkSql

structure Bulk where
  write : QueryWriter
  options : Options

namespace Bulk

/-- The entity of a mapping, where it and the options are in order. -/
def resolve (b : Bulk) (mapping : Except Error Entity) : Except Error Entity := do
  b.options.validate
  let entity ← mapping
  entity.validate
  return entity

theorem resolve_eq_ok_iff {b : Bulk} {mapping : Except Error Entity} {entity : Entity} :
    b.resolve mapping = .ok entity ↔
      b.options.validate = .ok () ∧ mapping = .ok entity ∧ entity.validate = .ok () := by
  cases valid : b.options.validate with
  | error e => simp [resolve, valid, bind, Except.bind]
  | ok =>
    cases mapping with
    | error e => simp [resolve, valid, bind, Except.bind]
    | ok found =>
      cases mapped : found.validate with
      | error e =>
        simp only [resolve, valid, mapped, bind, Except.bind]
        grind
      | ok =>
        simp only [resolve, valid, mapped, bind, Except.bind, pure, Except.pure]
        grind

/-- Only a query over whole rows says which rows to change. -/
def checkShape (entity : Entity) (query : Query) : Except Error Unit :=
  if query.isEntityShaped then .ok () else .error (.unsupported (.projectedRows entity.name))

/-- The INSERT of some rows. Where there are none, nothing is checked. -/
def insertStatement (b : Bulk) (mapping : Except Error Entity) (rows : List Row) :
    Except Error (Option Statement) :=
  if rows.isEmpty then .ok none
  else do Statement.insert b.options (← b.resolve mapping) rows

/-- The DELETE of the rows of a query. -/
def deleteStatement (b : Bulk) (mapping : Except Error Entity) (query : Query) :
    Except Error Statement := do
  let entity ← b.resolve mapping
  checkShape entity query
  Statement.delete b.options entity (← b.write entity query)

/-- The UPDATE of the rows of a query. -/
def updateStatement (b : Bulk) (mapping : Except Error Entity) (query : Query) (updater : Expr) :
    Except Error Statement := do
  let entity ← b.resolve mapping
  checkShape entity query
  Statement.update b.write b.options entity query updater

end Bulk

end BulkSql
