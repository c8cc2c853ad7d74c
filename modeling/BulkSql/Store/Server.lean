import BulkSql.Connection
import BulkSql.Sql.Token
import BulkSql.Value.Wire

/-!
A database server, as far as a connection sees it: it receives entries, and answers each.
-/
namespace BulkSql

/-- What a server receives. -/
inductive Entry
  /-- Statements without parameters. -/
  | simple (sql : Sql)
  /-- A statement to prepare. -/
  | parse (sql : Sql)
  /-- The parameters for a prepared statement, each in its binary form or NULL. -/
  | execute (sql : Sql) (params : List (Option (List UInt8)))
  deriving DecidableEq, Repr

def Entry.sql : Entry → Sql
  | simple sql | parse sql | execute sql _ => sql

inductive Reply
  /-- It went well; a number of rows can be given. -/
  | done (affected : Option Nat := none)
  | refused (report : ServerReport)
  /-- The connection ends without an answer. -/
  | hangUp
  deriving DecidableEq, Repr

/-- How a server answers: the last entry of all that it has received. -/
abbrev Replies := List Entry → Reply

structure Server where
  log : List Entry := []
  closed : Bool := false
  deriving DecidableEq, Repr

namespace Server

def closedError : Error := .connection "connection closed"

/-- Sends an entry. A NUL ends a statement on its way to the server, so none can hold one. Nothing
reaches a server behind a closed connection. -/
def send (replies : Replies) (e : Entry) : Call Server (Option Nat) := fun s =>
  if e.sql.contains '\x00' then (.error (.query none), s)
  else if s.closed then (.error closedError, s)
  else
    let s := { s with log := s.log ++ [e] }
    match replies s.log with
    | .done affected => (.ok affected, s)
    | .refused report => (.error (.ofReport report), s)
    | .hangUp => (.error closedError, { s with closed := true })

def simple (replies : Replies) (sql : Sql) : Call Server Unit := do
  let _ ← send replies (.simple sql)

/-- The binary forms of parameters, by their types in order. -/
def encoded (types : Nat → ParameterType) (params : List Value) :
    Except WireFault (List (Option (List UInt8))) :=
  params.zipIdx.mapM fun (v, i) => v.wire (types i)

/-- The number of a parameter. -/
def parameterNumber : Lexeme → Nat
  | .token .param t => (t.drop 1).foldl (fun n c => n * 10 + (c.toNat - '0'.toNat)) 0
  | _ => 0

/-- The highest number of a parameter. A dollar sign in a literal, a name or a comment makes none. -/
def parameterCount (sql : Sql) : Nat :=
  (Lexeme.readAll sql).1.foldl (fun n l => max n (parameterNumber l)) 0

/-- Prepares a statement, learns the number and the types of its parameters and runs it. Without
another answer, it changes a row for each parameter. -/
def execute (replies : Replies) (types : Nat → ParameterType) (sql : Sql) (params : List Value) :
    Call Server Nat := do
  let _ ← send replies (.parse sql)
  if params.length ≠ parameterCount sql then throw (.query none)
  match encoded types params with
  | .error _ => throw (.query none)
  | .ok sent =>
    let affected ← send replies (.execute sql sent)
    return affected.getD params.length

/-- The name of the savepoint of a scope with `depth` scopes around it. -/
def savepoint (depth : Nat) : Sql := "sp_".toList ++ (toString depth).toList

def commitText (depth : Nat) : Sql :=
  if depth = 1 then "COMMIT".toList else "RELEASE ".toList ++ savepoint (depth - 1)

def rollbackText (depth : Nat) : Sql :=
  if depth = 1 then "ROLLBACK".toList else "ROLLBACK TO ".toList ++ savepoint (depth - 1)

/-- A transaction that cannot be started is rolled back, a savepoint is not. -/
def enter (replies : Replies) (depth : Nat) : Call Server Unit := fun s =>
  if depth = 0 then
    match simple replies "START TRANSACTION".toList s with
    | (.ok _, s) => (.ok (), s)
    | (.error e, s) => (.error e, (simple replies (rollbackText 1) s).2)
  else simple replies ("SAVEPOINT ".toList ++ savepoint depth) s

def connection (replies : Replies) (types : Nat → ParameterType) : Connection Server where
  batch _ sql := simple replies sql
  execute _ sql params := execute replies types sql params
  query _ sql params := do
    let _ ← execute replies types sql params
    return 0
  enter := enter replies
  commit depth := simple replies (commitText depth)
  rollback depth := simple replies (rollbackText depth)
  abandon depth s := (simple replies (rollbackText depth) s).2

end Server

end BulkSql
