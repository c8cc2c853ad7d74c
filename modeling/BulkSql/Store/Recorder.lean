import BulkSql.Connection

/-!
A store that only keeps what it is asked to do, and has no transactions.
-/
namespace BulkSql

inductive Recorded
  | simple (sql : Sql)
  | execute (sql : Sql) (params : Nat)
  | query (sql : Sql) (params : Nat)
  deriving DecidableEq, Repr

namespace Recorder

/-- Keeps a record; it fails where `faults` has a reason for it. -/
def keep (faults : List Recorded → Option String) (r : Recorded) : Call (List Recorded) Unit :=
  fun log =>
    match faults (log ++ [r]) with
    | none => (.ok (), log ++ [r])
    | some reason => (.error (.other reason), log ++ [r])

def noTransactions : Error := .connection "recorder has no transactions"

def connection (faults : List Recorded → Option String) : Connection (List Recorded) where
  batch _ sql := keep faults (.simple sql)
  execute _ sql params := do
    keep faults (.execute sql params.length)
    return params.length
  query _ sql params := do
    keep faults (.query sql params.length)
    return 0
  enter _ := throw noTransactions
  commit _ := throw noTransactions
  rollback _ := throw noTransactions
  abandon _ log := log

end Recorder

end BulkSql
