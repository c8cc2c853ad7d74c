import BulkSql.Name

/-!
What can be chosen about statements: the two names that they use, and their limits.
-/
namespace BulkSql

structure Options where
  /-- What an update or a delete calls its table. -/
  updateAlias : String := "ut1"
  /-- What an update or a delete calls the query that it joins. -/
  joinAlias : String := "jt1"
  maxParameters : Nat := 65535
  /-- Longer SQL is cut where it is logged. -/
  maxLogLength : Nat := 200
  deriving DecidableEq, Repr

/-- The protocol of the store allows no more parameters. -/
def parameterBound : Nat := 65535

namespace Options

def checkAlias (option name : String) : Except Error Unit :=
  if isBareName name then .ok () else .error (.validation (.aliasNotBare option name))

/-- The names are different bare names, and the limit is one that the protocol allows. -/
def validate (o : Options) : Except Error Unit := do
  checkAlias "update_alias" o.updateAlias
  checkAlias "join_alias" o.joinAlias
  if o.updateAlias = o.joinAlias then throw (.validation (.aliasesEqual o.joinAlias))
  if o.maxParameters = 0 ∨ parameterBound < o.maxParameters then
    throw (.validation (.parameterLimit parameterBound o.maxParameters))

theorem validate_eq_ok_iff {o : Options} :
    o.validate = .ok () ↔
      isBareName o.updateAlias = true ∧ isBareName o.joinAlias = true ∧
        o.updateAlias ≠ o.joinAlias ∧ 1 ≤ o.maxParameters ∧ o.maxParameters ≤ parameterBound := by
  unfold validate checkAlias
  by_cases bare : isBareName o.updateAlias = true
  case neg => simp [bare, bind, Except.bind]
  by_cases bare' : isBareName o.joinAlias = true
  case neg => simp [bare, bare', bind, Except.bind]
  by_cases same : o.updateAlias = o.joinAlias
  case pos => simp [bare', same, bind, Except.bind, throw, throwThe, MonadExceptOf.throw]
  by_cases outside : o.maxParameters = 0 ∨ parameterBound < o.maxParameters
  · have none : ¬ (1 ≤ o.maxParameters ∧ o.maxParameters ≤ parameterBound) := by omega
    simp [bare, bare', same, outside, none, bind, Except.bind, throw, throwThe, MonadExceptOf.throw]
  · have within : 1 ≤ o.maxParameters ∧ o.maxParameters ≤ parameterBound := by omega
    simp [bare, bare', same, outside, within, bind, Except.bind, pure, Except.pure]

end Options

end BulkSql
