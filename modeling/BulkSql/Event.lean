import BulkSql.Statement

/-!
What is logged while statements run.
-/
namespace BulkSql

inductive Event
  | executing (kind : StatementKind) (table : Sql) (params settings : Nat) (transaction : Bool)
      (sql : Sql)
  | opened (nested : Bool)
  | finished (kind : StatementKind) (table : Sql) (affected : Nat)
  | dropped (nested : Bool)
  deriving DecidableEq, Repr

namespace Event

def level : Event → String
  | executing .. | finished .. => "DEBUG"
  | opened _ => "TRACE"
  | dropped _ => "WARN"

def target : Event → String
  | executing .. => "pgbulk.sql"
  | _ => "pgbulk.exec"

def message : Event → String
  | executing .. => "executing bulk statement"
  | opened _ => "transaction scope opened"
  | finished .. => "bulk statement finished"
  | dropped _ => "transaction scope dropped without commit; rolling back"

def truth (b : Bool) : String := if b then "true" else "false"

/-- The fields and their texts. -/
def fields (e : Event) : List (String × String) :=
  ("message", e.message) ::
    match e with
    | executing kind table params settings transaction sql =>
      [("kind", kind.name), ("table", .ofList table), ("param_count", toString params),
       ("prelude", toString settings), ("transaction", truth transaction), ("sql", .ofList sql)]
    | opened nested => [("nested", truth nested)]
    | finished kind table affected =>
      [("kind", kind.name), ("table", .ofList table), ("affected", toString affected)]
    | dropped nested => [("nested", truth nested)]

end Event

end BulkSql
