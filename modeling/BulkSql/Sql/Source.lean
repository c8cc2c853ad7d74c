import BulkSql.Sql.Body

/-!
The source of a FROM clause: one table, or one query in parentheses, with or without an alias.
-/
namespace BulkSql

/-- The words that can follow a source, and so are no alias. -/
def sourceTailWords : List String :=
  ["where", "group", "having", "window", "order", "limit", "offset", "fetch", "for", "union",
   "intersect", "except", "join", "inner", "left", "right", "full", "cross", "natural", "on",
   "using", "tablesample"]

/-- The words that start a further source. -/
def joinWords : List String := ["join", "inner", "left", "right", "full", "cross", "natural"]

structure Source where
  text : Sql
  /-- The alias as it is written. -/
  alias? : Option Sql
  /-- The name that stands for the source in the query. -/
  reference? : Option Sql
  deriving DecidableEq, Repr

namespace Source

/-- The parts of a table name behind its first part, and what follows them. -/
def nameParts : List Token → List Token × List Token
  | [] => ([], [])
  | [t] => ([], [t])
  | dot :: part :: rest =>
    if dot.kind = .dot ∧ part.isName then
      (dot :: part :: (nameParts rest).1, (nameParts rest).2)
    else ([], dot :: part :: rest)

/-- The text of the source, the name of its table, and what follows. -/
def item : List Token → Except Error (Sql × Option Sql × List Token)
  | [] => .error (.unsupported .fromWithoutSource)
  | t :: rest =>
    if t.kind = .openParen then
      let inside := rest.takeWhile fun u => !(u.kind == .closeParen && u.depth == t.depth)
      match rest.drop inside.length with
      | [] => .error (.unsupported .unbalancedSubquery)
      | close :: rest => .ok (Token.textOf (t :: (inside ++ [close])), none, rest)
    else if t.isName then do
      let (parts, rest) := nameParts rest
      let name ← (parts.getLastD t).readMeaning
      return (Token.textOf (t :: parts), some name, rest)
    else do
      throw (.unsupported (.unexpectedSource (.ofList (← t.read))))

/-- The token of an alias, and what follows. -/
def aliasToken : List Token → Except Error (Option Token × List Token)
  | [] => .ok (none, [])
  | t :: rest => do
    if ← t.reads "as" then
      match rest with
      | named :: rest =>
        if named.isName then return (some named, rest) else throw (.unsupported .aliasMissing)
      | [] => throw (.unsupported .aliasMissing)
    else if t.kind = .quotedName then return (some t, rest)
    else if t.kind = .word then
      if ← t.readsAny sourceTailWords then return (none, t :: rest) else return (some t, rest)
    else return (none, t :: rest)

/-- Refuses a further source. -/
def checkSingle : List Token → Except Error Unit
  | [] => .ok ()
  | t :: _ =>
    if t.depth = 0 then do
      if t.kind = .comma then throw (.unsupported .severalSources)
      if ← t.readsAny joinWords then throw (.unsupported .severalSources)
    else .ok ()

/-- The source at the front of the tokens behind FROM. -/
def ofTokens (tokens : List Token) : Except Error Source := do
  let (text, table, rest) ← item tokens
  let (named, rest) ← aliasToken rest
  checkSingle rest
  match named with
  | none => return ⟨text, none, table⟩
  | some t => return ⟨text, some (← t.read), some (← t.readMeaning)⟩

end Source

end BulkSql
