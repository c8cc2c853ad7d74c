import BulkSql.Entity
import BulkSql.Expr.Eval

/-!
Assignments to columns, from a member-initializer. What does not look at the row is evaluated and
converted at once.
-/
namespace BulkSql

inductive Assigned
  /-- A value as it is stored. -/
  | constant (value : Value)
  /-- An expression over the row. -/
  | computed (expr : Expr)

namespace Assigned

def isComputed : Assigned → Bool
  | constant _ => false
  | computed _ => true

end Assigned

structure Assignment where
  column : Column
  value : Assigned

namespace Assignment

/-- The value of a column from an expression. -/
def assigned (column : Column) (expr : Expr) : Except Error Assigned :=
  if expr.referencesRow then .ok (.computed expr)
  else do return .constant (← column.toStore (← expr.evaluate))

/-- The assignment of one member, behind those made before. -/
def ofBinding (entity : Entity) (earlier : List Assignment) :
    Binding → Except Error Assignment
  | .nested member _ => .error (.binding (.nestedInitializer member))
  | .assign member expr =>
    match entity.columnFor? member with
    | none => .error (.binding (.unmappedMember entity.name member))
    | some column =>
      if earlier.any fun a => a.column.member == column.member then
        .error (.binding (.assignedTwice member))
      else if expr.isInit then .error (.binding (.assignedInitializer member))
      else do return ⟨column, ← assigned column expr⟩

def ofBindings (entity : Entity) (earlier : List Assignment) :
    List Binding → Except Error (List Assignment)
  | [] => .ok []
  | b :: bs => do
    let a ← ofBinding entity earlier b
    return a :: (← ofBindings entity (earlier ++ [a]) bs)

/-- The assignments of an updater, in its order. The updater has to be a member-initializer of the
entity that sets something. -/
def ofUpdater (entity : Entity) : Expr → Except Error (List Assignment)
  | .init name bindings =>
    if name ≠ entity.name then .error (.binding (.otherEntity name entity.name))
    else if bindings.isEmpty then .error (.validation (.noAssignments entity.name))
    else ofBindings entity [] bindings
  | e => .error (.unsupported (.updaterShape (.ofList e.shown)))

end Assignment

end BulkSql
