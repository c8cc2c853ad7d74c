import BulkSql.Connection
import BulkSql.Event
import BulkSql.Options
import BulkSql.Text.Utf8

/-!
Running statements on a connection. A statement runs with its prelude in one transaction scope, which
is committed if everything went well and is given up otherwise.
-/
namespace BulkSql

/-- The state of a store, and what was logged. -/
structure Session (σ : Type) where
  store : σ
  trace : List Event := []

namespace Session

variable {σ α : Type}

/-- A call on the store of a session. -/
def call (c : Call σ α) : Call (Session σ) α := fun s =>
  let (result, store) := c s.store
  (result, { s with store })

def log (e : Event) : Call (Session σ) Unit := fun s =>
  (.ok (), { s with trace := s.trace ++ [e] })

/-- Gives up the scope at `depth`, unless it was closed. -/
def drop (c : Connection σ) (depth : Nat) (s : Session σ) : Session σ :=
  { store := c.abandon depth s.store
    trace := s.trace ++ [.dropped (isNested (depth - 1))] }

/-- Work inside the scope at `depth`, which is given up if the work fails. -/
def guarded (c : Connection σ) (depth : Nat) (work : Call (Session σ) α) : Call (Session σ) α :=
  fun s =>
    match work s with
    | (.ok x, s) => (.ok x, s)
    | (.error e, s) => (.error e, drop c depth s)

/-- The prelude and then the statement, up to the first that fails. -/
def run (c : Connection σ) (depth : Nat) (s : Statement) : Call (Session σ) Nat := do
  s.prelude.forM fun sql => call (c.batch depth sql)
  call (c.execute depth s.sql s.params)

/-- A statement in a scope of its own. -/
def runScoped (c : Connection σ) (depth : Nat) (s : Statement) : Call (Session σ) Nat := do
  call (c.enter depth)
  log (.opened (isNested depth))
  let affected ← guarded c (depth + 1) (run c (depth + 1) s)
  call (c.commit (depth + 1))
  return affected

/-- Runs a statement that is within the limits, in a scope of its own unless it is to run `direct`,
and answers how many rows it changed. -/
def execute (c : Connection σ) (depth : Nat) (options : Options) (direct : Bool) (s : Statement) :
    Call (Session σ) Nat := do
  ExceptT.mk (pure (s.validate options.maxParameters))
  log (.executing s.kind s.table s.params.length s.prelude.length (!direct)
    (Utf8.shortened options.maxLogLength s.sql))
  let affected ← if direct then run c depth s else runScoped c depth s
  log (.finished s.kind s.table affected)
  return affected

/-- Runs a statement if there is one. -/
def executeBuilt (c : Connection σ) (depth : Nat) (options : Options) (direct : Bool)
    (built : Except Error (Option Statement)) : Call (Session σ) Nat :=
  match built with
  | .error e => throw e
  | .ok none => return 0
  | .ok (some s) => execute c depth options direct s

end Session

inductive Ending
  | commit | rollback | drop
  deriving DecidableEq, Repr

/-- What is done in a session. -/
inductive Step
  /-- A statement for a set of rows, if there is one and it could be made. -/
  | bulk (built : Except Error (Option Statement)) (options : Options) (direct : Bool)
  | batch (sql : Sql)
  | execute (sql : Sql) (params : List Value)
  | query (sql : Sql) (params : List Value)
  /-- Steps in a transaction scope. -/
  | scope (steps : List Step) (ending : Ending)

/-- How a step came out. -/
inductive Outcome
  | failed (why : Error)
  | done
  | affected (count : Nat)
  | rows (count : Nat)
  | scope (nested : Bool) (results : List Outcome) (ending : Except Error Unit)

namespace Session

variable {σ : Type}

/-- The outcome of a call. -/
def outcome {α : Type} (make : α → Outcome) (c : Call (Session σ) α) : StateM (Session σ) Outcome :=
  fun s =>
    match c s with
    | (.ok x, s) => (make x, s)
    | (.error e, s) => (.failed e, s)

/-- Ends the scope at `depth`. -/
def finish (c : Connection σ) (depth : Nat) :
    Ending → Session σ → Except Error Unit × Session σ
  | .commit, s => call (c.commit depth) s
  | .rollback, s => call (c.rollback depth) s
  | .drop, s => (.ok (), drop c depth s)

mutual

/-- Takes a step with `depth` scopes open around it. -/
def step (c : Connection σ) (depth : Nat) : Step → StateM (Session σ) Outcome
  | .bulk built options direct => outcome .affected (executeBuilt c depth options direct built)
  | .batch sql => outcome (fun _ => .done) (call (c.batch depth sql))
  | .execute sql params => outcome .affected (call (c.execute depth sql params))
  | .query sql params => outcome .rows (call (c.query depth sql params))
  | .scope inner ending => fun s =>
    match call (c.enter depth) s with
    | (.error e, s) => (.failed e, s)
    | (.ok _, s) =>
      let (results, s) := steps c (depth + 1) inner s
      let (ended, s) := finish c (depth + 1) ending s
      (.scope (isNested depth) results ended, s)

/-- Takes all steps; one that fails does not stop those after it. -/
def steps (c : Connection σ) (depth : Nat) : List Step → StateM (Session σ) (List Outcome)
  | [] => fun s => ([], s)
  | x :: xs => fun s =>
    let (result, s) := step c depth x s
    let (results, s) := steps c depth xs s
    (result :: results, s)

end

/-- Takes all steps inside one transaction, which is committed at the end. -/
def transaction (c : Connection σ) (inner : List Step) : Call (Session σ) (List Outcome) := fun s =>
  match call (c.enter 0) s with
  | (.error e, s) => (.error e, s)
  | (.ok _, s) =>
    let (results, s) := steps c 1 inner s
    let (_, s) := finish c 1 .commit s
    (.ok results, s)

end Session

end BulkSql
