import BulkSql.Entity
import BulkSql.Expr

/-!
The text of an expression inside a query. Literals stand in the text; a captured value is read from a
session setting, so that the text has no parameters.
-/
namespace BulkSql

/-- The shape of a part of a setting's name. -/
def isSettingName (name : String) : Bool := isBareName name && !name.toList.contains '$'

/-- The first part of the names of settings that hold captured values. -/
structure SettingSpace where
  name : String := "bulk"
  valid : isSettingName name = true := by decide +kernel

namespace SettingSpace

def ofString (name : String) : Except Error SettingSpace :=
  if h : isSettingName name = true then .ok ⟨name, h⟩
  else .error (.validation (.settingNamespace name))

/-- The setting that holds a captured value. -/
def setting (space : SettingSpace) (name : Sql) : Sql := space.name.toList ++ '.' :: name

end SettingSpace

/-- A captured name in lower case, as it stands in the name of a setting. -/
def capturedKey (name : String) : Sql := name.toList.map Char.toLower

namespace Func

/-- The text around the arguments of a call. -/
def around : Func → String × String
  | toText => ("CAST(", " AS text)")
  | lower => ("lower(", ")")
  | upper => ("upper(", ")")
  | trim => ("btrim(", ")")
  | length => ("char_length(", ")")
  | abs => ("abs(", ")")
  | coalesce => ("COALESCE(", ")")

end Func

/-- The names that a text is written with: those of the entity, of its rows and of settings. -/
structure TextScope where
  entity : Entity
  rowName : Sql
  space : SettingSpace

namespace TextScope

/-- A column of the row. -/
def column (s : TextScope) (c : Column) : Sql := s.rowName ++ '.' :: c.name.toSql

def captured (s : TextScope) (name : String) (value : Value) : Sql :=
  if value.isNull then "NULL".toList
  else
    let cast := match value.cast? with
      | none => []
      | some type => ':' :: ':' :: type.toList
    "current_setting('".toList ++ (s.space.setting (capturedKey name) ++ ("')".toList ++ cast))

def unary (op : UnaryOp) (x : Sql) : Sql :=
  match op with
  | .not => "(NOT ".toList ++ (x ++ [')'])
  | .neg => "(-".toList ++ (x ++ [')'])
  | .isNull => '(' :: (x ++ " IS NULL)".toList)
  | .isNotNull => '(' :: (x ++ " IS NOT NULL)".toList)

mutual

/-- The text of an expression. Parts that cannot stand in a query have none. -/
def text (s : TextScope) : Expr → Sql
  | .literal v => v.literal
  | .captured name v => s.captured name v
  | .field member => (s.entity.columnFor? member).elim [] s.column
  | .unary op x => unary op (s.text x)
  | .binary op x y =>
    '(' :: (s.text x ++ ' ' :: (op.sign.toList ++ ' ' :: (s.text y ++ [')'])))
  | .call f args => f.around.1.toList ++ (Expr.commaList (s.texts args) ++ f.around.2.toList)
  | .inList x items negated =>
    if items.isEmpty then (if negated then "TRUE" else "FALSE").toList
    else
      '(' :: (s.text x ++ ((if negated then " NOT IN (" else " IN (").toList ++
        (Expr.commaList (s.texts items) ++ "))".toList)))
  | .init _ _ => []

def texts (s : TextScope) : List Expr → List Sql
  | [] => []
  | x :: xs => s.text x :: s.texts xs

end

end TextScope

end BulkSql
