import BulkSql.Store.Recorder
import BulkSql.Store.Server

/-!
Answers by rules: a rule is for entries of one phase that have some text in their SQL, and of several
such rules the first counts.
-/
namespace BulkSql

structure Rule (α : Type) where
  /-- The kind of entry that the rule is for. -/
  phase : String
  text : Sql
  answer : α

/-- Whether `part` stands somewhere in a text. -/
def occursIn (part : Sql) : Sql → Bool
  | [] => part.isEmpty
  | c :: cs => part.isPrefixOf (c :: cs) || occursIn part cs

namespace Entry

def phase : Entry → String
  | simple _ => "simple"
  | parse _ => "parse"
  | execute _ _ => "execute"

end Entry

namespace Recorded

def phase : Recorded → String
  | simple _ => "simple"
  | execute _ _ => "execute"
  | query _ _ => "query"

def sql : Recorded → Sql
  | simple sql | execute sql _ | query sql _ => sql

end Recorded

namespace Rule

variable {α : Type}

/-- The answer of the first rule for an entry. -/
def answer? (rules : List (Rule α)) (phase : String) (sql : Sql) : Option α :=
  (rules.find? fun r => r.phase == phase && occursIn r.text sql).map Rule.answer

/-- Without a rule, all goes well. -/
def replies (rules : List (Rule Reply)) : Replies := fun log =>
  (log.getLast?.bind fun e => answer? rules e.phase e.sql).getD .done

def faults (rules : List (Rule String)) (log : List Recorded) : Option String :=
  log.getLast?.bind fun r => answer? rules r.phase r.sql

end Rule

end BulkSql
