import BulkSql.Error
import BulkSql.Value

/-!
Statements with parameters. The text keeps the places of parameters apart from the text between them
and numbers them when it is written.
-/
namespace BulkSql

inductive StatementKind
  | insert | update | delete
  deriving DecidableEq, Repr

namespace StatementKind

def name : StatementKind → String
  | insert => "insert"
  | update => "update"
  | delete => "delete"

end StatementKind

inductive Piece
  | raw (text : Sql)
  | param
  deriving DecidableEq, Repr

/-- A part of a statement, and the values of its parameters. -/
structure Fragment where
  pieces : List Piece
  params : List Value

namespace Fragment

/-- Text without parameters. -/
def raw (text : Sql) : Fragment := ⟨[.raw text], []⟩

/-- The place of a parameter. -/
def bind (value : Value) : Fragment := ⟨[.param], [value]⟩

instance : Append Fragment := ⟨fun a b => ⟨a.pieces ++ b.pieces, a.params ++ b.params⟩⟩

@[simp] theorem pieces_append (a b : Fragment) : (a ++ b).pieces = a.pieces ++ b.pieces := rfl

@[simp] theorem params_append (a b : Fragment) : (a ++ b).params = a.params ++ b.params := rfl

@[simp] theorem params_raw (text : Sql) : (raw text).params = [] := rfl

@[simp] theorem params_bind (value : Value) : (bind value).params = [value] := rfl

def concat (fragments : List Fragment) : Fragment :=
  ⟨fragments.flatMap Fragment.pieces, fragments.flatMap Fragment.params⟩

/-- Fragments with a comma and a blank between them. -/
def commaList (fragments : List Fragment) : Fragment :=
  concat (fragments.intersperse (raw ", ".toList))

def placeholderCount (f : Fragment) : Nat := f.pieces.count .param

@[simp] theorem placeholderCount_raw (text : Sql) : (raw text).placeholderCount = 0 := rfl

@[simp] theorem placeholderCount_bind (value : Value) : (bind value).placeholderCount = 1 := rfl

@[simp] theorem placeholderCount_append (a b : Fragment) :
    (a ++ b).placeholderCount = a.placeholderCount + b.placeholderCount := by
  simp [placeholderCount]

/-- The parameter with number `n`. -/
def placeholder (n : Nat) : Sql := '$' :: (toString n).toList

/-- The text of pieces behind `n` parameters. -/
def numbered (n : Nat) : List Piece → Sql
  | [] => []
  | .raw text :: ps => text ++ numbered n ps
  | .param :: ps => placeholder (n + 1) ++ numbered (n + 1) ps

/-- The text, with the parameters numbered from one. -/
def sql (f : Fragment) : Sql := numbered 0 f.pieces

end Fragment

structure Statement where
  kind : StatementKind
  /-- The table as it is written in the statement. -/
  table : Sql
  /-- Statements that run before, in the same scope. -/
  prelude : List Sql
  body : Fragment

namespace Statement

def sql (s : Statement) : Sql := s.body.sql

def params (s : Statement) : List Value := s.body.params

def placeholderCount (s : Statement) : Nat := s.body.placeholderCount

/-- Each parameter has its place, and there are at most `limit` of them. -/
def validate (s : Statement) (limit : Nat) : Except Error Unit :=
  if s.placeholderCount ≠ s.params.length then
    .error (.validation (.misalignedParameters s.kind.name (.ofList s.table) s.placeholderCount
      s.params.length))
  else if limit < s.params.length then
    .error (.validation (.tooManyParameters s.kind.name (.ofList s.table) s.params.length limit))
  else .ok ()

/-- The prelude, a line each, and the statement. -/
def shown (s : Statement) : Sql := s.prelude.flatMap (fun line => line ++ ['\n']) ++ s.sql

end Statement

end BulkSql
