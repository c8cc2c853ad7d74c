import BulkSql.Error
import BulkSql.Value

/-!
Connections to a store. A connection is known by its calls: each changes the state of the store and
answers or fails.
-/
namespace BulkSql

/-- A call on a store in some state. What a failed call did to the store stays. -/
abbrev Call (σ : Type) := ExceptT Error (StateM σ)

/-- The calls of a connection. Each is told how many transaction scopes are open around it; a scope
is closed by a call from inside. -/
structure Connection (σ : Type) where
  /-- Runs statements without parameters. -/
  batch : (depth : Nat) → Sql → Call σ Unit
  /-- Runs one statement and answers how many rows it changed. -/
  execute : (depth : Nat) → Sql → List Value → Call σ Nat
  /-- Runs one query and answers how many rows it has. -/
  query : (depth : Nat) → Sql → List Value → Call σ Nat
  /-- Opens a transaction, or a savepoint inside one. -/
  enter : (depth : Nat) → Call σ Unit
  commit : (depth : Nat) → Call σ Unit
  rollback : (depth : Nat) → Call σ Unit
  /-- Gives up an open scope; nobody waits for the answer. -/
  abandon : (depth : Nat) → σ → σ

/-- A scope inside another one is a savepoint. -/
def isNested (depth : Nat) : Bool := depth != 0

theorem isNested_eq (depth : Nat) : isNested depth = decide (0 < depth) := by
  cases depth <;> rfl

end BulkSql
