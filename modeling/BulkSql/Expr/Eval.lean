import BulkSql.Error
import BulkSql.Expr
import BulkSql.Text.Case

/-!
The value of an expression that does not look at a row. NULL propagates through arithmetic,
comparison and concatenation; AND and OR have three values.
-/
namespace BulkSql

/-- A value of three-valued logic; `none` is unknown. -/
abbrev Truth := Option Bool

namespace Truth

def and : Truth → Truth → Truth
  | some false, _ | _, some false => some false
  | some true, some true => some true
  | _, _ => none

def or : Truth → Truth → Truth
  | some true, _ | _, some true => some true
  | some false, some false => some false
  | _, _ => none

def not : Truth → Truth := Option.map (!·)

end Truth

namespace Value

/-- The error of an operation on values that it is not defined for. -/
def undefined (operation : String) (values : List Value) : Error :=
  .unsupported (.undefinedFor operation (values.map typeName))

def ofTruth : Truth → Value
  | none => null
  | some b => bool b

def truth : Value → Except Error Truth
  | null => .ok none
  | bool b => .ok (some b)
  | v => .error (undefined "boolean logic" [v])

/-- An integer that has 64 bits. -/
def checkedInt (i : Int) : Option Value :=
  if Int64.minValue.toInt ≤ i ∧ i ≤ Int64.maxValue.toInt then some (int (Int64.ofInt i)) else none

/-- An integer or a float as a float. -/
def toFloat? : Value → Option Binary64
  | int i => some (.ofInt i.toInt)
  | float x => some x
  | _ => none

def ordering {α : Type} [LT α] [DecidableLT α] [DecidableEq α] (a b : α) : Ordering :=
  if a < b then .lt else if a = b then .eq else .gt

/-- Values of one type are ordered, but for JSON; integers and floats are ordered together. -/
def compare? : Value → Value → Option Ordering
  | int i, int j => some (ordering i.toInt j.toInt)
  | bool a, bool b => some (ordering a.toNat b.toNat)
  | text s, text t => some (ordering s t)
  | bytes a, bytes b => some (ordering a b)
  | uuid u, uuid v => some (ordering u.bytes v.bytes)
  | timestamp s, timestamp t => some (s.compare t)
  | json a, json b => if a.same b then some .eq else none
  | v, w =>
    match v.toFloat?, w.toFloat? with
    | some x, some y => x.compare? y
    | _, _ => none

def compare (v w : Value) : Except Error Ordering :=
  match v.compare? w with
  | some o => .ok o
  | none => .error (undefined "comparison" [v, w])

end Value

namespace UnaryOp

def apply (op : UnaryOp) (v : Value) : Except Error Value :=
  match op, v with
  | isNull, v => .ok (.bool v.isNull)
  | isNotNull, v => .ok (.bool !v.isNull)
  | _, .null => .ok .null
  | not, .bool b => .ok (.bool !b)
  | not, v => .error (Value.undefined "NOT" [v])
  | neg, .int i =>
    match Value.checkedInt (-i.toInt) with
    | some v => .ok v
    | none => .error (.validation .negationOverflow)
  | neg, .float x => .ok (.float x.neg)
  | neg, v => .error (Value.undefined "negation" [v])

end UnaryOp

namespace BinaryOp

/-- What a comparison says of the order of its operands, if the operator is one. -/
def comparison? : BinaryOp → Option (Ordering → Bool)
  | eq => some (· == .eq)
  | ne => some (· != .eq)
  | lt => some (· == .lt)
  | le => some (· != .gt)
  | gt => some (· == .gt)
  | ge => some (· != .lt)
  | _ => none

def isDivision (op : BinaryOp) : Bool := op == div || op == rem

/-- Integer arithmetic; division is cut toward zero, and a remainder is refused with its quotient.
Nothing is returned where the result has no 64 bits. -/
def onInts (op : BinaryOp) (a b : Int) : Option Value :=
  match op with
  | add => Value.checkedInt (a + b)
  | sub => Value.checkedInt (a - b)
  | mul => Value.checkedInt (a * b)
  | div => Value.checkedInt (a.tdiv b)
  | _ => (Value.checkedInt (a.tdiv b)).bind fun _ => Value.checkedInt (a.tmod b)

def onFloats (op : BinaryOp) (x y : Binary64) : Binary64 :=
  match op with
  | add => x.add y
  | sub => x.sub y
  | mul => x.mul y
  | div => x.div y
  | _ => x.rem y

def arithmetic (op : BinaryOp) : Value → Value → Except Error Value
  | .int i, .int j =>
    if op.isDivision ∧ j.toInt = 0 then .error (.validation .divisionByZero)
    else match op.onInts i.toInt j.toInt with
      | some v => .ok v
      | none => .error (.validation (.overflow i.toInt op.sign j.toInt))
  | v, w =>
    match v.toFloat?, w.toFloat? with
    | some x, some y =>
      if op.isDivision ∧ y.isZero then .error (.validation .divisionByZero)
      else .ok (.float (op.onFloats x y))
    | _, _ => .error (Value.undefined op.sign [v, w])

/-- Operators other than AND and OR give NULL as soon as an operand is NULL. -/
def applyStrict (op : BinaryOp) (v w : Value) : Except Error Value :=
  if v.isNull || w.isNull then .ok .null
  else
    match op.comparison? with
    | some holds => (v.compare w).map fun o => .bool (holds o)
    | none =>
      if op = concat then .ok (.text (String.ofList (v.text?.getD [] ++ w.text?.getD [])))
      else op.arithmetic v w

def apply (op : BinaryOp) (v w : Value) : Except Error Value :=
  match op with
  | and => do return .ofTruth (Truth.and (← v.truth) (← w.truth))
  | or => do return .ofTruth (Truth.or (← v.truth) (← w.truth))
  | op => op.applyStrict v w

end BinaryOp

namespace Func

/-- The text without blanks at its ends. -/
def trimmed (s : Sql) : Sql :=
  ((s.dropWhile (· == ' ')).reverse.dropWhile (· == ' ')).reverse

/-- A function of one argument that is not NULL. -/
def applyOne (f : Func) (v : Value) : Except Error Value :=
  match f, v with
  | toText, v => .ok (v.text?.elim .null fun s => .text (String.ofList s))
  | lower, .text s => .ok (.text (String.ofList (Case.lower s.toList)))
  | upper, .text s => .ok (.text (String.ofList (Case.upper s.toList)))
  | trim, .text s => .ok (.text (String.ofList (trimmed s.toList)))
  | length, .text s => .ok (.int (Int64.ofNat s.toList.length))
  | abs, .int i =>
    match Value.checkedInt (i.toInt.natAbs) with
    | some v => .ok v
    | none => .error (.validation .absOverflow)
  | abs, .float x => .ok (.float x.abs)
  | f, v => .error (Value.undefined f.name [v])

def apply (f : Func) (args : List Value) : Except Error Value :=
  match f, args with
  | coalesce, args => .ok ((args.find? fun v => !v.isNull).getD .null)
  | _, [.null] => .ok .null
  | f, [v] => f.applyOne v
  | f, args => .error (.unsupported (.notOneArgument f.name args.length))

end Func

namespace Expr

mutual

/-- The value of the expression; both operands of every operator are evaluated, the left one
first. -/
def evaluate : Expr → Except Error Value
  | literal v => .ok v
  | captured _ v => .ok v
  | field m => .error (.binding (.rowMember m))
  | unary op x => do op.apply (← evaluate x)
  | binary op x y => do
    let v ← evaluate x
    let w ← evaluate y
    op.apply v w
  | call f args => do f.apply (← evaluateList args)
  | inList x items negated => do
    let needle ← evaluate x
    if needle.isNull then return .null
    let found ← isAmong needle items
    return .ofTruth (if negated then Truth.not found else found)
  | init e _ => .error (.unsupported (.initializerAsScalar e))

def evaluateList : List Expr → Except Error (List Value)
  | [] => .ok []
  | x :: xs => do
    let v ← evaluate x
    return v :: (← evaluateList xs)

/-- Whether an item equals the needle; the items behind the first such one are not evaluated, and
without one a NULL item leaves it unknown. -/
def isAmong (needle : Value) : List Expr → Except Error Truth
  | [] => .ok (some false)
  | x :: xs => do
    let v ← evaluate x
    if v.isNull then
      return if (← isAmong needle xs) = some true then some true else none
    if (← needle.compare v) = .eq then return some true
    isAmong needle xs

end

end Expr

end BulkSql
