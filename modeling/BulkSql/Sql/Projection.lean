import BulkSql.Setting
import BulkSql.Sql.Reference
import BulkSql.Sql.Source

/-!
A query text that selects a single column: its settings, the expression that it selects and the
source that it reads.
-/
namespace BulkSql

structure Projection where
  prelude : List Setting
  expression : Sql
  columnAlias? : Option Sql
  source : Source
  deriving DecidableEq, Repr

namespace Projection

/-- The tokens of a selected column without its alias, and the token of the alias. -/
def splitAlias (tokens : List Token) : List Token × Option Token :=
  match tokens.reverse with
  | name :: word :: t :: ts =>
    if word.depth = 0 && word.isKeyword "as" && name.isName then ((t :: ts).reverse, some name)
    else (tokens, none)
  | _ => (tokens, none)

/-- Refuses all but a single column without a quantifier. -/
def checkColumn (tokens : List Token) : Except Unsupported Unit :=
  match tokens with
  | [] => .error .emptyProjection
  | t :: _ =>
    if t.isKeyword "distinct" || t.isKeyword "all" then .error .quantifiedProjection
    else if tokens.any fun t => t.depth == 0 && t.kind == .comma then .error .severalColumns
    else .ok ()

def ofSql (s : Sql) : Except Error Projection := do
  let (prelude, text) := splitPrelude s
  let body ← (Body.ofSql text).mapError .unsupported
  match ← Token.splitAt? "from" body.tokens with
  | none => throw (.unsupported .projectionWithoutFrom)
  | some (front, behind) =>
    let column := front.drop 1
    (checkColumn column).mapError .unsupported
    let (expression, name) := splitAlias column
    let source ← Source.ofTokens behind
    return ⟨prelude, Token.textOf expression, name.map Token.text, source⟩

/-- The expression over another name for its source. -/
def realias (p : Projection) (target : Sql) : Except Unsupported Sql :=
  match p.source.reference? with
  | none => .ok p.expression
  | some reference => moveReference p.expression reference target

end Projection

end BulkSql
