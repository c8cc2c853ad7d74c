import BulkSql.Select.Text

/-!
The captured values of an expression, in the order of its text, and what in it cannot stand in a
query. One name holds one value in the whole query.
-/
namespace BulkSql

/-- What matters about a part of an expression, where its text is written. -/
inductive Visit
  | refused (why : Error)
  /-- A captured value that is not NULL, with its name in lower case. -/
  | captured (name : String) (value : Value)

namespace Visit

def ofCaptured (name : String) (value : Value) : List Visit :=
  if value.isNull then []
  else
    let key := String.ofList (capturedKey name)
    if isSettingName key then [.captured key value]
    else [.refused (.unsupported (.capturedName key))]

def ofField (entity : Entity) (member : String) : List Visit :=
  match entity.columnFor? member with
  | some _ => []
  | none => [.refused (.metadata (.unmappedMember entity.name member))]

/-- Whether a function takes so many arguments. -/
def takes (f : Func) (count : Nat) : Bool := if f = .coalesce then count ≠ 0 else count = 1

mutual

/-- The visits of an expression. Nothing behind an empty list is visited: its text is a constant. -/
def ofExpr (entity : Entity) : Expr → List Visit
  | .literal _ => []
  | .captured name v => ofCaptured name v
  | .field member => ofField entity member
  | .unary _ x => ofExpr entity x
  | .binary _ x y => ofExpr entity x ++ ofExpr entity y
  | .call f args =>
    if takes f args.length then ofExprs entity args
    else [.refused (.unsupported (.argumentCount f.name args.length))]
  | .inList x items _ => if items.isEmpty then [] else ofExpr entity x ++ ofExprs entity items
  | .init name _ => [.refused (.unsupported (.initializerInQuery name))]

def ofExprs (entity : Entity) : List Expr → List Visit
  | [] => []
  | x :: xs => ofExpr entity x ++ ofExprs entity xs

end

end Visit

/-- Captured values by name, in the order of their first use. -/
abbrev Captures := List (String × Value)

namespace Captures

/-- One more use of a name, which has to agree with the earlier ones. -/
def add (cs : Captures) (name : String) (value : Value) : Except Error Captures :=
  match cs.find? fun c => c.1 == name with
  | none => .ok (cs ++ [(name, value)])
  | some (_, earlier) =>
    if earlier.same value then .ok cs else .error (.unsupported (.capturedTwice name))

/-- The captured values of some visits, of which none is refused. -/
def ofVisits (cs : Captures) : List Visit → Except Error Captures
  | [] => .ok cs
  | .refused why :: _ => .error why
  | .captured name value :: vs => do ofVisits (← cs.add name value) vs

@[simp] theorem ofVisits_nil (cs : Captures) : cs.ofVisits [] = .ok cs := rfl

end Captures

end BulkSql
