import BulkSql.Decimal.Notation
import BulkSql.Instant
import BulkSql.Json
import BulkSql.Uuid

/-!
Values of columns and parameters: their type, their text as the database prints it, and their form
as a literal inside a statement.
-/
namespace BulkSql

inductive Value
  | null
  | bool (b : Bool)
  | int (i : Int64)
  | float (x : Binary64)
  | text (s : String)
  | bytes (b : List UInt8)
  | uuid (u : Uuid)
  | timestamp (t : Instant)
  | json (j : Json)

namespace Value

def isNull : Value → Bool
  | null => true
  | _ => false

def typeName : Value → String
  | null => "null"
  | bool _ => "bool"
  | int _ => "int"
  | float _ => "float"
  | text _ => "text"
  | bytes _ => "bytes"
  | uuid _ => "uuid"
  | timestamp _ => "timestamp"
  | json _ => "json"

/-- The type that the text of the value is cast to; NULL and text need no cast. -/
def cast? : Value → Option String
  | null | text _ => none
  | bool _ => some "boolean"
  | int _ => some "int8"
  | float _ => some "float8"
  | bytes _ => some "bytea"
  | uuid _ => some "uuid"
  | timestamp _ => some "timestamptz"
  | json _ => some "jsonb"

/-- Floats are plain from `0.0001` up to `10 ^ 16`; a positive exponent has no sign. -/
def floatNotation : DecimalNotation := ⟨-4, 16, false, .up⟩

def floatText (x : Binary64) : Sql :=
  if x.isNaN then "NaN".toList
  else if x.isInfinite then if x.isNegative then "-Infinity".toList else "Infinity".toList
  else floatNotation.finite x

/-- The text of a value that is not NULL. -/
def text? : Value → Option Sql
  | null => none
  | bool b => some (if b then "true" else "false").toList
  | int i => some (toString i.toInt).toList
  | float x => some (floatText x)
  | text s => some s.toList
  | bytes b => some ('\\' :: 'x' :: Hex.text b)
  | uuid u => some u.text
  | timestamp t => some t.text
  | json j => some j.text

/-- A quoted text with a cast after it. -/
def castLiteral (s : Sql) (type : String) : Sql := quoteLiteral s ++ ':' :: ':' :: type.toList

/-- A number below zero stands in parentheses. -/
def signedLiteral (negative : Bool) (s : Sql) : Sql :=
  if negative then '(' :: (s ++ [')']) else s

/-- The value as a literal. -/
def literal : Value → Sql
  | null => "NULL".toList
  | bool b => (if b then "TRUE" else "FALSE").toList
  | int i => signedLiteral (i.toInt < 0) (toString i.toInt).toList
  | float x =>
    if x.isFinite then signedLiteral (x.key < 0) (floatText x)
    else castLiteral (floatText x) "float8"
  | text s => quoteLiteral s.toList
  | bytes b => castLiteral ('\\' :: 'x' :: Hex.text b) "bytea"
  | uuid u => castLiteral u.text "uuid"
  | timestamp t => castLiteral t.text "timestamptz"
  | json j => castLiteral j.text "jsonb"

/-- Equality of values of one type; floats are equal as numbers. -/
def same : Value → Value → Bool
  | null, null => true
  | bool a, bool b => a == b
  | int i, int j => i == j
  | float x, float y => x.numEq y
  | text s, text t => s == t
  | bytes a, bytes b => a == b
  | uuid u, uuid v => u == v
  | timestamp s, timestamp t => s == t
  | json i, json j => i.same j
  | _, _ => false

end Value

end BulkSql
