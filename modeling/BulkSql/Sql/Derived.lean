import BulkSql.Setting
import BulkSql.Sql.Source

/-!
A query text that can stand as a derived table: its settings, its statement, and the alias of the
source that it reads.
-/
namespace BulkSql

structure DerivedQuery where
  prelude : List Setting
  body : Sql
  sourceAlias? : Option Sql
  deriving DecidableEq, Repr

namespace DerivedQuery

def ofSql (s : Sql) : Except Error DerivedQuery := do
  let (prelude, text) := splitPrelude s
  let body ← (Body.ofSql text).mapError .unsupported
  match ← Token.splitAt? "from" body.tokens with
  | none => throw (.unsupported .noFrom)
  | some (_, behind) => return ⟨prelude, body.text, (← Source.ofTokens behind).alias?⟩

end DerivedQuery

end BulkSql
