import BulkSql.Name
import BulkSql.Value

/-!
How the members of an entity are stored: its table, its columns, and the conversion of values on
their way into a column.
-/
namespace BulkSql

/-- When the store makes the value of a column. -/
inductive Generation
  | never | onAdd | onAddOrUpdate
  deriving DecidableEq, Repr

structure Column where
  member : String
  name : Identifier
  generation : Generation := .never
  isKey : Bool := false
  convert? : Option (Value → Except Error Value) := none

namespace Column

def isStoreGenerated (c : Column) : Bool := c.generation != .never

/-- An error of a conversion names a column; one that does not gets the name of this one. -/
def conversionError (c : Column) : Error → Error
  | .conversion column reason => .conversion column reason
  | e => .conversion c.name.name e.message

/-- The value as it is stored. NULL is never converted. -/
def toStore (c : Column) (v : Value) : Except Error Value :=
  match c.convert? with
  | none => .ok v
  | some convert => if v.isNull then .ok v else (convert v).mapError c.conversionError

@[simp] theorem toStore_null (c : Column) : c.toStore .null = .ok .null := by
  unfold toStore
  split <;> rfl

end Column

structure Entity where
  name : String
  table : QualifiedName
  columns : List Column := []

/-- A row, by its members. -/
abbrev Row := String → Option Value

namespace Entity

def columnFor? (e : Entity) (member : String) : Option Column :=
  e.columns.find? fun c => c.member == member

/-- The columns whose values an insert supplies. -/
def insertable (e : Entity) : List Column := e.columns.filter fun c => !c.isStoreGenerated

/-- The columns of the primary key; there is at least one. -/
def keys (e : Entity) : Except Error (List Column) :=
  match e.columns.filter Column.isKey with
  | [] => .error (.metadata (.noKey e.name))
  | c :: cs => .ok (c :: cs)

/-- Refuses a member or a column name that an earlier column has. -/
def checkDistinct (entity : String) : (earlier : List Column) → List Column → Except Error Unit
  | _, [] => .ok ()
  | earlier, c :: cs =>
    if earlier.any fun d => d.member == c.member then
      .error (.metadata (.memberTwice entity c.member))
    else if earlier.any fun d => d.name.name == c.name.name then
      .error (.metadata (.columnTwice entity c.name.name))
    else checkDistinct entity (earlier ++ [c]) cs

def validate (e : Entity) : Except Error Unit :=
  if e.columns.isEmpty then .error (.metadata (.noColumns e.name))
  else checkDistinct e.name [] e.columns

end Entity

end BulkSql
