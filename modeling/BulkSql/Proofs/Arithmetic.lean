import BulkSql.Expr.Eval
import BulkSql.Proofs.Traversal

/-!
Expressions of integers. Their value is the exact number if no divisor is zero and all parts of the
expression have 64 bits, and they are refused otherwise. One remainder is refused as well that has
64 bits, that of the least integer by minus one, of which the quotient has more.
-/
namespace BulkSql

/-! ### Numbers of 64 bits -/

/-- A number that has 64 bits. -/
def Fits (i : Int) : Prop := Int64.minValue.toInt ≤ i ∧ i ≤ Int64.maxValue.toInt

theorem fits_iff {i : Int} : Fits i ↔ -9223372036854775808 ≤ i ∧ i ≤ 9223372036854775807 := Iff.rfl

theorem fits_toInt (i : Int64) : Fits i.toInt := ⟨i.minValue_le_toInt, i.toInt_le⟩

theorem exists_of_fits {i : Int} (h : Fits i) : ∃ j : Int64, j.toInt = i :=
  ⟨Int64.ofInt i, Int64.toInt_ofInt_of_le h.1 (Int.lt_add_one_of_le h.2)⟩

theorem Value.checkedInt_toInt (i : Int64) : checkedInt i.toInt = some (int i) :=
  (if_pos (fits_toInt i)).trans (by rw [Int64.ofInt_toInt])

theorem Value.checkedInt_of_not_fits {i : Int} (h : ¬ Fits i) : checkedInt i = none := if_neg h

/-- A quotient is no larger than the dividend, but can have the other sign. -/
theorem Fits.tdiv_iff {a b : Int} (ha : Fits a) (hb : b ≠ 0) :
    Fits (a.tdiv b) ↔ ¬ (a = Int64.minValue.toInt ∧ b = -1) := by
  have least : Int64.minValue.toInt = -9223372036854775808 := rfl
  rw [fits_iff] at ha
  rcases eq_or_ne b 1 with rfl | one
  · rw [Int.tdiv_one, fits_iff]
    omega
  rcases eq_or_ne b (-1) with rfl | minus
  · rw [Int.tdiv_neg, Int.tdiv_one, fits_iff, least]
    omega
  have half : (a.tdiv b).natAbs ≤ a.natAbs / 2 := by
    rw [Int.natAbs_tdiv]
    exact Nat.div_le_div_left (by omega) (by decide)
  rw [fits_iff]
  omega

/-! ### Exact numbers -/

namespace BinaryOp

def isArithmetic : BinaryOp → Bool
  | add | sub | mul | div | rem => true
  | _ => false

/-- The exact result of an arithmetic operator. A quotient is cut toward zero, and a remainder has
the sign of the dividend; there is none by zero. -/
def number? (op : BinaryOp) (a b : Int) : Option Int :=
  match op with
  | add => some (a + b)
  | sub => some (a - b)
  | mul => some (a * b)
  | div => if b = 0 then none else some (a.tdiv b)
  | rem => if b = 0 then none else some (a.tmod b)
  | _ => none

end BinaryOp

namespace Expr

/-- An expression that is made of integers with the arithmetic operators, negation and absolute
values. -/
inductive IsIntegral : Expr → Prop
  | literal (i : Int64) : IsIntegral (.literal (.int i))
  | captured (name : String) (i : Int64) : IsIntegral (.captured name (.int i))
  | neg {x} (hx : IsIntegral x) : IsIntegral (.unary .neg x)
  | abs {x} (hx : IsIntegral x) : IsIntegral (.call .abs [x])
  | binary {op x y} (arithmetic : op.isArithmetic = true) (hx : IsIntegral x)
    (hy : IsIntegral y) : IsIntegral (.binary op x y)

mutual

/-- The number that an expression of integers stands for, where no divisor is zero. -/
def number? : Expr → Option Int
  | literal (.int i) => some i.toInt
  | captured _ (.int i) => some i.toInt
  | unary .neg x => (number? x).map fun a => -a
  | call .abs args => (numberOfOnly? args).map fun a => a.natAbs
  | binary op x y => (number? x).bind fun a => (number? y).bind fun b => op.number? a b
  | _ => none

/-- The number that the only member of a list stands for. -/
def numberOfOnly? : List Expr → Option Int
  | [x] => number? x
  | _ => none

end

/-- The expression stands for a number of 64 bits. -/
def IsBounded (e : Expr) : Prop := ∃ i, e.number? = some i ∧ Fits i

/-- A remainder of the least integer by minus one. -/
def IsLeastRemainder : Expr → Prop
  | .binary .rem x y => x.number? = some Int64.minValue.toInt ∧ y.number? = some (-1)
  | _ => False

end Expr

/-! ### Results -/

/-- A result that is the exact number if `fits` holds, and a refusal otherwise. -/
structure Decides (fits : Prop) (number? : Option Int) (x : Except Error Value) : Prop where
  exact : fits → ∃ i : Int64, number? = some i.toInt ∧ x = .ok (.int i)
  refused : ¬ fits → ∃ why, x = .error (.validation why)

namespace Decides

variable {p q : Prop} {a? b? : Option Int} {x : Except Error Value}

theorem congr (h : Decides p a? x) (same : q ↔ p) : Decides q a? x :=
  ⟨fun fits => h.exact (same.1 fits), fun fails => h.refused (mt same.2 fails)⟩

theorem int (i : Int64) : Decides True (some i.toInt) (.ok (.int i)) :=
  ⟨fun _ => ⟨i, rfl, rfl⟩, fun fails => absurd trivial fails⟩

theorem refusal (why : ValidationFault) (a? : Option Int) :
    Decides False a? (.error (.validation why)) := ⟨nofun, fun _ => ⟨why, rfl⟩⟩

theorem checked (k : Int) (why : ValidationFault) :
    Decides (Fits k) (some k) (match Value.checkedInt k with
      | some v => .ok v
      | none => .error (.validation why)) := by
  refine ⟨fun fits => ?_, fun fails => ?_⟩
  · obtain ⟨i, rfl⟩ := exists_of_fits fits
    rw [Value.checkedInt_toInt]
    exact ⟨i, rfl, rfl⟩
  · rw [Value.checkedInt_of_not_fits fails]
    exact ⟨why, rfl⟩

/-- An operation on a number comes after what the number is computed from. -/
theorem bind {f : Value → Except Error Value} (hx : Decides p a? x)
    (hf : ∀ i : Int64, a? = some i.toInt → Decides q b? (f (.int i))) :
    Decides (q ∧ p) b? (x >>= f) := by
  refine ⟨fun ⟨hq, hp⟩ => ?_, fun fails => ?_⟩
  · obtain ⟨i, e, rfl⟩ := hx.exact hp
    exact (hf i e).exact hq
  · by_cases hp : p
    · obtain ⟨i, e, rfl⟩ := hx.exact hp
      exact (hf i e).refused fun hq => fails ⟨hq, hp⟩
    · obtain ⟨why, rfl⟩ := hx.refused hp
      exact ⟨why, rfl⟩

end Decides

/-! ### Operators -/

namespace BinaryOp

theorem apply_ints {op : BinaryOp} (arithmetic : op.isArithmetic = true) (i j : Int64) :
    op.apply (.int i) (.int j) =
      if op.isDivision ∧ j.toInt = 0 then .error (.validation .divisionByZero)
      else match op.onInts i.toInt j.toInt with
        | some v => .ok v
        | none => .error (.validation (.overflow i.toInt op.sign j.toInt)) := by
  cases op <;> first | rfl | cases arithmetic

theorem onInts_rem {a b : Int} (ha : Fits a) (hb : b ≠ 0) :
    onInts rem a b =
      if a = Int64.minValue.toInt ∧ b = -1 then none else Value.checkedInt (a.tmod b) := by
  have both : onInts rem a b =
      (Value.checkedInt (a.tdiv b)).bind fun _ => Value.checkedInt (a.tmod b) := rfl
  rw [both]
  split
  · next least =>
    rw [Value.checkedInt_of_not_fits ((ha.tdiv_iff hb).not_left.2 least), Option.bind_none]
  · next other =>
    obtain ⟨i, e⟩ := exists_of_fits ((ha.tdiv_iff hb).2 other)
    rw [← e, Value.checkedInt_toInt, Option.bind_some]

/-- An arithmetic operator on integers of 64 bits. -/
theorem decides_apply {op : BinaryOp} (arithmetic : op.isArithmetic = true) (i j : Int64) :
    Decides ((∃ k, op.number? i.toInt j.toInt = some k ∧ Fits k) ∧
        ¬ (op = rem ∧ i.toInt = Int64.minValue.toInt ∧ j.toInt = -1))
      (op.number? i.toInt j.toInt) (op.apply (.int i) (.int j)) := by
  rw [apply_ints arithmetic]
  cases op with
  | add => exact (Decides.checked _ _).congr (by simp [number?])
  | sub => exact (Decides.checked _ _).congr (by simp [number?])
  | mul => exact (Decides.checked _ _).congr (by simp [number?])
  | div =>
    by_cases zero : j.toInt = 0
    · rw [if_pos ⟨rfl, zero⟩]
      exact (Decides.refusal _ _).congr (by simp [number?, zero])
    · rw [if_neg fun h => zero h.2, number?, if_neg zero]
      exact (Decides.checked _ _).congr (by simp)
  | rem =>
    by_cases zero : j.toInt = 0
    · rw [if_pos ⟨rfl, zero⟩]
      exact (Decides.refusal _ _).congr (by simp [number?, zero])
    · rw [if_neg fun h => zero h.2, number?, if_neg zero, onInts_rem (fits_toInt i) zero]
      by_cases least : i.toInt = Int64.minValue.toInt ∧ j.toInt = -1
      · rw [if_pos least]
        exact (Decides.refusal _ _).congr (by simp [least])
      · rw [if_neg least]
        exact (Decides.checked _ _).congr
          ⟨fun ⟨⟨_, e, fits⟩, _⟩ => Option.some.inj e ▸ fits,
            fun fits => ⟨⟨_, rfl, fits⟩, fun h => least h.2⟩⟩
  | _ => cases arithmetic

end BinaryOp

namespace Expr

theorem isLeastRemainder_binary {op : BinaryOp} {x y : Expr} {i j : Int} (hx : x.number? = some i)
    (hy : y.number? = some j) :
    (binary op x y).IsLeastRemainder ↔ op = .rem ∧ i = Int64.minValue.toInt ∧ j = -1 := by
  cases op <;> simp [IsLeastRemainder, hx, hy]

theorem evaluate_abs (x : Expr) :
    (call .abs [x]).evaluate = x.evaluate >>= fun v => Func.abs.apply [v] := by
  simp only [evaluate, evaluateList]
  cases x.evaluate <;> rfl

/-- An expression of integers is evaluated to the number that it stands for, if its parts stand for
numbers of 64 bits and none of them is a remainder of the least integer by minus one. Otherwise it
is refused. -/
theorem evaluate_integral {e : Expr} (h : IsIntegral e) :
    Decides (∀ n ∈ e.nodes, n.IsBounded ∧ ¬ n.IsLeastRemainder) e.number? e.evaluate := by
  -- an expression is decided by its operands first, and then by its own number in `step`
  induction h with
  | literal i =>
    refine (Decides.int i).congr ?_
    simp [nodes, IsBounded, number?, fits_toInt, IsLeastRemainder]
  | captured name i =>
    refine (Decides.int i).congr ?_
    simp [nodes, IsBounded, number?, fits_toInt, IsLeastRemainder]
  | @neg x hx ih =>
    have step (i : Int64) (e : x.number? = some i.toInt) :
        Decides (unary .neg x).IsBounded (unary .neg x).number? (UnaryOp.neg.apply (.int i)) := by
      rw [IsBounded, number?, e]
      exact (Decides.checked _ _).congr (by simp)
    refine (ih.bind step).congr ?_
    simp [nodes, IsLeastRemainder]
  | @abs x hx ih =>
    have step (i : Int64) (e : x.number? = some i.toInt) :
        Decides (call .abs [x]).IsBounded (call .abs [x]).number? (Func.abs.apply [.int i]) := by
      rw [IsBounded, number?, numberOfOnly?, e]
      exact (Decides.checked _ _).congr (by simp)
    rw [evaluate_abs]
    refine (ih.bind step).congr ?_
    simp [nodes, nodesOfList, IsLeastRemainder]
  | @binary op x y arithmetic hx hy ihx ihy =>
    have step (i : Int64) (ex : x.number? = some i.toInt)
        (j : Int64) (ey : y.number? = some j.toInt) :
        Decides ((binary op x y).IsBounded ∧ ¬ (binary op x y).IsLeastRemainder)
          (binary op x y).number? (op.apply (.int i) (.int j)) := by
      rw [IsBounded, isLeastRemainder_binary ex ey, number?, ex, ey]
      exact BinaryOp.decides_apply arithmetic i j
    refine (ihx.bind fun i ex => ihy.bind (step i ex)).congr ?_
    simp only [nodes, List.forall_mem_cons, List.forall_mem_append]
    tauto

/-- Divisions and remainders next to the least integer. -/
def nearLeast : Expr :=
  .binary .add (.call .abs [.binary .rem (.literal (.int Int64.minValue)) (.literal (.int (-3)))])
    (.binary .div (.unary .neg (.captured "n" (.int Int64.maxValue))) (.literal (.int 2)))

theorem isIntegral_nearLeast : IsIntegral nearLeast :=
  .binary rfl (.abs (.binary rfl (.literal _) (.literal _)))
    (.binary rfl (.neg (.captured _ _)) (.literal _))

/-- They are all exact. -/
theorem evaluate_integral_nearLeast :
    IsIntegral nearLeast ∧ (∀ n ∈ nearLeast.nodes, n.IsBounded ∧ ¬ n.IsLeastRemainder) ∧
      nearLeast.evaluate = .ok (.int (-4611686018427387901)) := by
  have parts : ∀ n ∈ nearLeast.nodes, n.IsBounded ∧ ¬ n.IsLeastRemainder := by
    simp [nearLeast, nodes, nodesOfList, IsBounded, fits_iff, IsLeastRemainder, number?,
      numberOfOnly?, BinaryOp.number?, Int64.toInt_maxValue]
  obtain ⟨i, same, value⟩ := (evaluate_integral isIntegral_nearLeast).exact parts
  have number : nearLeast.number? = some (-4611686018427387901 : Int64).toInt := by decide
  rw [number] at same
  rw [value, ← Int64.toInt_inj.1 (Option.some.inj same)]
  exact ⟨isIntegral_nearLeast, parts, rfl⟩

/-- The least integer modulo minus one. -/
def leastRemainder : Expr :=
  .binary .rem (.literal (.int Int64.minValue)) (.literal (.int (-1)))

/-- It is zero, and all its parts have 64 bits, but it is refused. -/
theorem not_decides_leastRemainder :
    IsIntegral leastRemainder ∧ leastRemainder.number? = some 0 ∧
      ¬ Decides (∀ n ∈ leastRemainder.nodes, n.IsBounded) leastRemainder.number?
        leastRemainder.evaluate := by
  refine ⟨.binary rfl (.literal _) (.literal _), by decide, fun claimed => ?_⟩
  have parts : ∀ n ∈ leastRemainder.nodes, n.IsBounded := by
    simp [leastRemainder, nodes, IsBounded, fits_iff, number?, BinaryOp.number?]
  obtain ⟨i, -, value⟩ := claimed.exact parts
  have refused : leastRemainder.evaluate =
      .error (.validation (.overflow Int64.minValue.toInt "%" (-1))) := by rfl
  rw [refused] at value
  cases value

end Expr

end BulkSql
