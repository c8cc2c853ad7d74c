import BulkSql.Value

/-!
Expressions over a row: literals, captured values, members of the row, operators, scalar functions,
lists and member-initializers.
-/
namespace BulkSql

inductive UnaryOp
  | not | neg | isNull | isNotNull
  deriving DecidableEq, Repr

inductive BinaryOp
  | add | sub | mul | div | rem | concat | eq | ne | lt | le | gt | ge | and | or
  deriving DecidableEq, Repr

namespace UnaryOp

def name : UnaryOp → String
  | not => "Not"
  | neg => "Neg"
  | isNull => "IsNull"
  | isNotNull => "IsNotNull"

end UnaryOp

namespace BinaryOp

def name : BinaryOp → String
  | add => "Add"
  | sub => "Sub"
  | mul => "Mul"
  | div => "Div"
  | rem => "Rem"
  | concat => "Concat"
  | eq => "Eq"
  | ne => "Ne"
  | lt => "Lt"
  | le => "Le"
  | gt => "Gt"
  | ge => "Ge"
  | and => "And"
  | or => "Or"

/-- The operator as it is written in SQL. -/
def sign : BinaryOp → String
  | add => "+"
  | sub => "-"
  | mul => "*"
  | div => "/"
  | rem => "%"
  | concat => "||"
  | eq => "="
  | ne => "<>"
  | lt => "<"
  | le => "<="
  | gt => ">"
  | ge => ">="
  | and => "AND"
  | or => "OR"

end BinaryOp

/-- The scalar functions; the last one takes any number of arguments, the others one. -/
inductive Func
  | toText | lower | upper | trim | length | abs | coalesce
  deriving DecidableEq, Repr

namespace Func

def name : Func → String
  | toText => "ToText"
  | lower => "Lower"
  | upper => "Upper"
  | trim => "Trim"
  | length => "Length"
  | abs => "Abs"
  | coalesce => "Coalesce"

end Func

mutual

inductive Expr
  | literal (value : Value)
  /-- A named value from the scope of the caller. -/
  | captured (name : String) (value : Value)
  /-- A member of the row. -/
  | field (member : String)
  | unary (op : UnaryOp) (operand : Expr)
  | binary (op : BinaryOp) (left right : Expr)
  | call (func : Func) (args : List Expr)
  | inList (needle : Expr) (items : List Expr) (negated : Bool)
  /-- A new value of an entity's shape. -/
  | init (entity : String) (bindings : List Binding)

/-- What a member of a new value is set to. -/
inductive Binding
  | assign (member : String) (value : Expr)
  | nested (member : String) (bindings : List Binding)

end

namespace Binding

def member : Binding → String
  | assign m _ => m
  | nested m _ => m

end Binding

namespace Expr

mutual

/-- The expression and all its parts, each before its own parts. -/
def nodes : Expr → List Expr
  | literal v => [literal v]
  | captured n v => [captured n v]
  | field m => [field m]
  | unary op x => unary op x :: nodes x
  | binary op x y => binary op x y :: (nodes x ++ nodes y)
  | call f args => call f args :: nodesOfList args
  | inList x items negated => inList x items negated :: (nodes x ++ nodesOfList items)
  | init e bindings => init e bindings :: nodesOfBindings bindings

def nodesOfList : List Expr → List Expr
  | [] => []
  | x :: xs => nodes x ++ nodesOfList xs

def nodesOfBinding : Binding → List Expr
  | .assign _ x => nodes x
  | .nested _ bindings => nodesOfBindings bindings

def nodesOfBindings : List Binding → List Expr
  | [] => []
  | b :: bs => nodesOfBinding b ++ nodesOfBindings bs

end

def field? : Expr → Option String
  | field m => some m
  | _ => none

def isInit : Expr → Bool
  | init _ _ => true
  | _ => false

/-- The members of the row that occur anywhere, in the order of the nodes. -/
def fields (e : Expr) : List String := e.nodes.filterMap field?

/-- Whether a member of the row occurs anywhere. -/
def referencesRow (e : Expr) : Bool := e.nodes.any fun n => n.field?.isSome

/-- A node by its kind and its own label. -/
def label : Expr → String
  | literal v => "Literal:" ++ v.typeName
  | captured n _ => "Captured:" ++ n
  | field m => "Field:" ++ m
  | unary op _ => "Unary:" ++ op.name
  | binary op _ _ => "Binary:" ++ op.name
  | call f _ => "Call:" ++ f.name
  | inList _ _ negated => "InList:" ++ (if negated then "true" else "false")
  | init e _ => "MemberInit:" ++ e

/-- Parts with a comma and a blank between them. -/
def commaList : List Sql → Sql
  | [] => []
  | [s] => s
  | s :: t :: rest => s ++ ',' :: ' ' :: commaList (t :: rest)

mutual

/-- The expression as messages show it. -/
def shown : Expr → Sql
  | literal v => v.literal
  | captured n _ => n.toList
  | field m => "row.".toList ++ m.toList
  | unary .not x => '!' :: '(' :: (shown x ++ [')'])
  | unary .neg x => '-' :: '(' :: (shown x ++ [')'])
  | unary .isNull x => '(' :: (shown x ++ ") is null".toList)
  | unary .isNotNull x => '(' :: (shown x ++ ") is not null".toList)
  | binary op x y => '(' :: (shown x ++ ' ' :: (op.sign.toList ++ ' ' :: (shown y ++ [')'])))
  | call f args => f.name.toList ++ '(' :: (commaList (shownList args) ++ [')'])
  | inList x items negated =>
    shown x ++ ' ' :: ((if negated then "not " else "").toList ++
      ("in [".toList ++ (commaList (shownList items) ++ [']'])))
  | init e bindings =>
    "new ".toList ++ (e.toList ++ (" \x7b ".toList ++
      (commaList (shownBindings bindings) ++ " \x7d".toList)))

def shownList : List Expr → List Sql
  | [] => []
  | x :: xs => shown x :: shownList xs

def shownBinding : Binding → Sql
  | .assign m x => m.toList ++ (" = ".toList ++ shown x)
  | .nested m _ => m.toList ++ " = \x7b .. \x7d".toList

def shownBindings : List Binding → List Sql
  | [] => []
  | b :: bs => shownBinding b :: shownBindings bs

end

end Expr

end BulkSql
