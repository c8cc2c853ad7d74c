import BulkSql.Sql.Token

/-!
References to a source inside an expression, and moving them to another name. A name is no reference
behind a dot, where it is a member, behind a cast, where it is a type, and before a parenthesis, where
it is a function.
-/
namespace BulkSql

namespace Token

/-- The token is the sign of a cast, as seen from behind it. -/
def endsCast (t : Token) : Bool := t.kind == .symbol && t.text == [':']

/-- Whether the token between two others is a reference to the source named `reference`. -/
def refersTo (reference : Sql) (previous : Option Token) (t : Token) (next : Option Token) : Bool :=
  t.isName && t.meaning == reference &&
    !(previous.any fun p => p.kind == .dot || p.endsCast) &&
    !(next.any fun n => n.kind == .openParen)

/-- The text of some tokens, with `target` in place of the references. -/
def moved (reference target : Sql) (previous : Option Token) : List Token → Sql
  | [] => []
  | t :: ts =>
    t.before ++ ((if t.refersTo reference previous ts.head? then target else t.text) ++
      moved reference target (some t) ts)

end Token

/-- An expression with its references to `reference` moved to `target`. -/
def moveReference (expression reference target : Sql) : Except Unsupported Sql := do
  let scan ← Scan.ofSql expression
  return Token.moved reference target none scan.tokens ++ scan.after

/-- The same for a reference as it is written, which has to be a single name. -/
def replaceAlias (expression name target : Sql) : Except Unsupported Sql := do
  match (← Scan.ofSql name).tokens with
  | [t] =>
    if t.isName then moveReference expression t.meaning target
    else throw (.notIdentifier (.ofList name))
  | _ => throw (.notIdentifier (.ofList name))

end BulkSql
