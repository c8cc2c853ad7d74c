import BulkSql.Expr

/-!
Which rows of an entity are meant, and what of each row.
-/
namespace BulkSql

structure OrderTerm where
  expr : Expr
  descending : Bool

structure Query where
  filter? : Option Expr := none
  orderBy : List OrderTerm := []
  limit? : Option Nat := none
  offset? : Option Nat := none
  /-- A single value for each row; without it the query is over whole rows. -/
  projection? : Option Expr := none

namespace Query

/-- Every row. -/
def all : Query := {}

/-- Rows that meet a further condition. -/
def filtered (q : Query) (condition : Expr) : Query :=
  { q with
    filter? := some (match q.filter? with
      | none => condition
      | some earlier => .binary .and earlier condition) }

def orderedBy (q : Query) (expr : Expr) (descending : Bool) : Query :=
  { q with orderBy := q.orderBy ++ [⟨expr, descending⟩] }

def limited (q : Query) (count : Nat) : Query := { q with limit? := some count }

def skipping (q : Query) (count : Nat) : Query := { q with offset? := some count }

def selecting (q : Query) (expr : Expr) : Query := { q with projection? := some expr }

/-- Whether the query is over whole rows. -/
def isEntityShaped (q : Query) : Bool := q.projection?.isNone

@[simp] theorem isEntityShaped_all : all.isEntityShaped = true := rfl

@[simp] theorem isEntityShaped_filtered (q : Query) (condition : Expr) :
    (q.filtered condition).isEntityShaped = q.isEntityShaped := rfl

@[simp] theorem isEntityShaped_selecting (q : Query) (expr : Expr) :
    (q.selecting expr).isEntityShaped = false := rfl

end Query

end BulkSql
