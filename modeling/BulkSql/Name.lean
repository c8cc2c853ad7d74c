import BulkSql.Error
import BulkSql.Text.Quoted

/-!
Names of tables and columns. A name is written bare where that is unambiguous and quoted otherwise.
-/
namespace BulkSql

/-- The words that cannot stand bare as a table or column name. -/
def reservedWords : List String :=
  ["all", "analyse", "analyze", "and", "any", "array", "as", "asc", "asymmetric", "both",
   "case", "cast", "check", "collate", "column", "constraint", "create", "current_date",
   "current_role", "current_time", "current_timestamp", "current_user", "default",
   "deferrable", "desc", "distinct", "do", "else", "end", "except", "false", "fetch", "for",
   "foreign", "from", "grant", "group", "having", "in", "initially", "intersect", "into",
   "join", "lateral", "leading", "limit", "localtime", "localtimestamp", "not", "null",
   "offset", "on", "only", "or", "order", "placing", "primary", "references", "returning",
   "select", "session_user", "set", "some", "symmetric", "table", "then", "to", "trailing",
   "true", "union", "unique", "user", "using", "variadic", "when", "where", "window", "with"]

/-- The first character of a bare name. -/
def isBareStart (c : Char) : Bool := c == '_' || c.isLower

/-- A character of a bare name. -/
def isBareChar (c : Char) : Bool := c == '_' || c == '$' || c.isLower || c.isDigit

/-- The shape of a bare name, reserved or not. -/
def hasBareShape : Sql → Bool
  | [] => false
  | c :: cs => isBareStart c && cs.all isBareChar

/-- A name that is read as itself when it stands without quotes. -/
def isBareName (name : String) : Bool :=
  hasBareShape name.toList && !reservedWords.contains name

/-- The name of a schema, table, column or alias. -/
structure Identifier where
  name : String
  name_ne : name ≠ ""
  no_nul : '\x00' ∉ name.toList
  deriving DecidableEq

namespace Identifier

/-- Any text is a name but the empty one and those with a NUL character. -/
def ofString (name : String) : Except Error Identifier :=
  if h : name = "" then .error (.metadata .emptyIdentifier)
  else if h' : '\x00' ∈ name.toList then .error (.metadata .nulInIdentifier)
  else .ok ⟨name, h, h'⟩

def isBare (i : Identifier) : Bool := isBareName i.name

def toSql (i : Identifier) : Sql :=
  if i.isBare then i.name.toList else Quoted.quote '"' i.name.toList

@[simp] theorem toSql_of_isBare {i : Identifier} (h : i.isBare = true) :
    i.toSql = i.name.toList := by simp [toSql, h]

@[simp] theorem toSql_of_not_isBare {i : Identifier} (h : i.isBare = false) :
    i.toSql = Quoted.quote '"' i.name.toList := by simp [toSql, h]

end Identifier

/-- A table name, possibly with the schema that it is in. -/
structure QualifiedName where
  schema : Option Identifier := none
  name : Identifier
  deriving DecidableEq

namespace QualifiedName

def ofString (name : String) : Except Error QualifiedName := do
  return { name := ← Identifier.ofString name }

def withSchema (n : QualifiedName) (schema : String) : Except Error QualifiedName := do
  return { n with schema := some (← Identifier.ofString schema) }

def toSql (n : QualifiedName) : Sql :=
  match n.schema with
  | none => n.name.toSql
  | some schema => schema.toSql ++ '.' :: n.name.toSql

end QualifiedName

end BulkSql
