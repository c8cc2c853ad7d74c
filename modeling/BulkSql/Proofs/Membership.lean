import BulkSql.Expr.Eval
import BulkSql.Proofs.Traversal
import BulkSql.Select.Text

/-!
Membership in a list. It is the disjunction of the equalities with the items, as SQL has it, but for
a needle that is NULL or fails in front of no items: in a query that is a constant.
-/
namespace BulkSql

/-! ### Three-valued logic -/

namespace Truth

instance : Std.Associative Truth.or := ⟨by decide⟩

instance : Std.Commutative Truth.or := ⟨by decide⟩

theorem some_true_or (t : Truth) : or (some true) t = some true := by cases t <;> rfl

theorem some_false_or (t : Truth) : or (some false) t = t := by revert t; decide

theorem none_or (t : Truth) : or none t = if t = some true then some true else none := by
  revert t; decide

/-- The disjunction of a list of truths. -/
def any (ts : List Truth) : Truth := ts.foldr or (some false)

@[simp] theorem any_nil : any [] = some false := rfl

@[simp] theorem any_cons (t : Truth) (ts : List Truth) : any (t :: ts) = or t (any ts) := rfl

theorem foldl_or (ts : List Truth) : ts.foldl or (some false) = any ts := List.foldl_eq_foldr

end Truth

namespace Value

@[simp] theorem truth_ofTruth (t : Truth) : (ofTruth t).truth = .ok t := by cases t <;> rfl

theorem isNull_eq_true_iff {v : Value} : v.isNull = true ↔ v = null := by cases v <;> simp [isNull]

end Value

@[simp] theorem BinaryOp.or_apply_ofTruth (s t : Truth) :
    BinaryOp.or.apply (.ofTruth s) (.ofTruth t) = .ok (.ofTruth (s.or t)) := by
  simp [BinaryOp.apply, bind, Except.bind, pure, Except.pure]

@[simp] theorem UnaryOp.not_apply_ofTruth (t : Truth) :
    UnaryOp.not.apply (.ofTruth t) = .ok (.ofTruth t.not) := by cases t <;> rfl

/-- An equality is unknown where a side is NULL, and else what the order of the sides says. -/
theorem BinaryOp.eq_apply_eq_ok {v w u : Value} (h : BinaryOp.eq.apply v w = .ok u) :
    ((v = .null ∨ w = .null) ∧ u = .null) ∨
      (v ≠ .null ∧ w ≠ .null ∧ ∃ o, v.compare w = .ok o ∧ u = .bool (o == .eq)) := by
  have strict : BinaryOp.eq.apply v w = if v.isNull || w.isNull then .ok .null
      else (v.compare w).map fun o => .bool (o == .eq) := rfl
  rw [strict] at h
  split at h
  · next null =>
    rw [Bool.or_eq_true, Value.isNull_eq_true_iff, Value.isNull_eq_true_iff] at null
    exact .inl ⟨null, (Except.ok.inj h).symm⟩
  · next both =>
    rw [Bool.or_eq_true, Value.isNull_eq_true_iff, Value.isNull_eq_true_iff, not_or] at both
    obtain ⟨o, order, e⟩ := map_eq_ok_iff.1 h
    exact .inr ⟨both.1, both.2, o, order, e.symm⟩

namespace Expr

/-! ### Equalities -/

/-- The equality of the needle with an item has a truth. -/
def Equals (needle : Value) (item : Expr) (t : Truth) : Prop :=
  ∃ v, item.evaluate = .ok v ∧ BinaryOp.eq.apply needle v = .ok (.ofTruth t)

/-- FALSE, or the needle equals an item, or the next item, and so on. -/
def anyEqual (x : Expr) (items : List Expr) : Expr :=
  items.foldl (fun e y => .binary .or e (.binary .eq x y)) (.literal (.bool false))

/-- Membership in a list as a disjunction. -/
def spelledOut (x : Expr) (items : List Expr) (negated : Bool) : Expr :=
  if negated then .unary .not (anyEqual x items) else anyEqual x items

variable {x : Expr} {items : List Expr} {needle : Value} {ts : List Truth}

theorem evaluate_binary_eq_ok_iff {op : BinaryOp} {y : Expr} {u : Value} :
    (binary op x y).evaluate = .ok u ↔
      ∃ v w, x.evaluate = .ok v ∧ y.evaluate = .ok w ∧ op.apply v w = .ok u := by
  rw [evaluate, bind_eq_ok_iff]
  refine exists_congr fun v => ?_
  rw [bind_eq_ok_iff]
  tauto

/-- If all equalities have a value, they have a truth each. -/
theorem exists_truths (hx : x.evaluate = .ok needle)
    (compared : ∀ y ∈ items, ∃ v, (binary .eq x y).evaluate = .ok v) :
    ∃ ts, List.Forall₂ (Equals needle) items ts := by
  induction items with
  | nil => exact ⟨[], .nil⟩
  | cons y ys ih =>
    obtain ⟨ts, others⟩ := ih fun z hz => compared z (List.mem_cons_of_mem _ hz)
    obtain ⟨u, hu⟩ := compared y List.mem_cons_self
    obtain ⟨v, w, hv, hw, eq⟩ := evaluate_binary_eq_ok_iff.1 hu
    obtain rfl : needle = v := Except.ok.inj (hx.symm.trans hv)
    have truth : ∃ t, u = .ofTruth t := by
      obtain ⟨-, rfl⟩ | ⟨-, -, o, -, rfl⟩ := BinaryOp.eq_apply_eq_ok eq
      · exact ⟨none, rfl⟩
      · exact ⟨some _, rfl⟩
    obtain ⟨t, rfl⟩ := truth
    exact ⟨t :: ts, .cons ⟨w, hw, eq⟩ others⟩

theorem evaluate_anyEqual (hx : x.evaluate = .ok needle)
    (equalities : List.Forall₂ (Equals needle) items ts) :
    (anyEqual x items).evaluate = .ok (.ofTruth (Truth.any ts)) := by
  rw [← Truth.foldl_or, anyEqual]
  -- the disjunction is nested to the left, so its start takes up the items in front
  suffices ∀ e t, e.evaluate = .ok (.ofTruth t) →
      (items.foldl (fun e y => binary .or e (.binary .eq x y)) e).evaluate =
        .ok (.ofTruth (ts.foldl Truth.or t)) from this _ (some false) rfl
  induction equalities with
  | nil => exact fun e t he => he
  | cons equality _ ih =>
    obtain ⟨w, hw, eq⟩ := equality
    refine fun e t he => ih _ _ (evaluate_binary_eq_ok_iff.2 ?_)
    exact ⟨_, _, he, evaluate_binary_eq_ok_iff.2 ⟨_, _, hx, hw, eq⟩, BinaryOp.or_apply_ofTruth _ _⟩

/-- The search stops at the first equal item, which does not change the disjunction. -/
theorem isAmong_eq (known : needle ≠ .null)
    (equalities : List.Forall₂ (Equals needle) items ts) :
    isAmong needle items = .ok (Truth.any ts) := by
  induction equalities with
  | nil => rfl
  | @cons y t ys ts equality _ ih =>
    obtain ⟨w, hw, eq⟩ := equality
    rw [isAmong, hw, Truth.any_cons, ih]
    obtain ⟨null, e⟩ | ⟨-, item, o, order, e⟩ := BinaryOp.eq_apply_eq_ok eq
    · obtain rfl := null.resolve_left known
      obtain rfl : t = none := by cases t <;> simp_all [Value.ofTruth]
      rw [Truth.none_or]
      rfl
    · obtain rfl : t = Option.some (o == .eq) := by cases t <;> simp_all [Value.ofTruth]
      have present : w.isNull = false := Bool.eq_false_iff.2 (mt Value.isNull_eq_true_iff.1 item)
      cases o
      all_goals simp [bind, Except.bind, pure, Except.pure, present, order, Truth.some_false_or,
        Truth.some_true_or]

/-! ### Lists -/

theorem evaluate_spelledOut {t : Truth} (h : (anyEqual x items).evaluate = .ok (.ofTruth t))
    (negated : Bool) :
    (spelledOut x items negated).evaluate = .ok (.ofTruth (if negated then t.not else t)) := by
  cases negated with
  | false => exact h
  | true =>
    rw [spelledOut, if_pos rfl, evaluate, h]
    exact UnaryOp.not_apply_ofTruth t

theorem spelledOut_nil (x : Expr) (negated : Bool) :
    (spelledOut x [] negated).evaluate = .ok (.bool negated) := by cases negated <;> rfl

theorem evaluate_inList {t : Truth} (hx : x.evaluate = .ok needle) (known : needle ≠ .null)
    (found : isAmong needle items = .ok t) (negated : Bool) :
    (inList x items negated).evaluate = .ok (.ofTruth (if negated then t.not else t)) := by
  have present : needle.isNull = false := Bool.eq_false_iff.2 (mt Value.isNull_eq_true_iff.1 known)
  rw [evaluate, hx]
  simp [bind, Except.bind, present, found, pure, Except.pure]

/-- What is NULL or fails is looked at before the items. -/
theorem evaluate_inList_unknown (hx : ∀ v, x.evaluate = .ok v → v = .null) (items : List Expr)
    (negated : Bool) : (inList x items negated).evaluate = x.evaluate := by
  rw [evaluate]
  match e : x.evaluate with
  | .error why => rfl
  | .ok v =>
    rw [hx v e]
    rfl

theorem unknown_of_null {y : Expr} {t : Truth} (h : Equals .null y t) : t = none := by
  obtain ⟨w, -, eq⟩ := h
  cases t with
  | none => rfl
  | some b => cases eq

theorem any_of_null (equalities : List.Forall₂ (Equals .null) items ts) (ne : items ≠ []) :
    Truth.any ts = none := by
  induction equalities with
  | nil => exact absurd rfl ne
  | @cons y t ys ts equality others ih =>
    rw [unknown_of_null equality, Truth.any_cons]
    rcases eq_or_ne ys [] with rfl | more
    · rw [List.forall₂_nil_left_iff.1 others]
      rfl
    · rw [ih more]
      rfl

/-- With a needle that is NULL and with no items, membership in a list is not the disjunction of the
equalities with the items, and not the constant that stands for it in a query. It is if there are
items, or the needle is not NULL. -/
theorem evaluate_inList_iff (x : Expr) (items : List Expr) (negated : Bool)
    (compared : ∀ y ∈ items, ∃ v, (binary .eq x y).evaluate = .ok v) :
    ((inList x items negated).evaluate = (spelledOut x items negated).evaluate ↔
      items ≠ [] ∨ ∃ v, x.evaluate = .ok v ∧ v ≠ .null) ∧
    (items = [] → (spelledOut x items negated).evaluate = .ok (.bool negated) ∧
      ∀ s : TextScope, s.text (inList x items negated) = (Value.bool negated).literal) := by
  refine ⟨?_, ?_⟩
  swap
  · rintro rfl
    exact ⟨spelledOut_nil x negated, fun s => by rw [TextScope.text]; rfl⟩
  by_cases known : ∃ v, x.evaluate = .ok v ∧ v ≠ .null
  · refine iff_of_true ?_ (.inr known)
    obtain ⟨v, hx, hv⟩ := known
    obtain ⟨ts, equalities⟩ := exists_truths hx compared
    rw [evaluate_inList hx hv (isAmong_eq hv equalities),
      evaluate_spelledOut (evaluate_anyEqual hx equalities)]
  have unknown : ∀ v, x.evaluate = .ok v → v = .null := by simpa using known
  rw [evaluate_inList_unknown unknown, or_iff_left known]
  cases items with
  | nil =>
    rw [spelledOut_nil]
    exact iff_of_false (fun e => Value.noConfusion (unknown _ e)) (not_not_intro rfl)
  | cons y ys =>
    refine iff_of_true ?_ (List.cons_ne_nil y ys)
    obtain ⟨u, hu⟩ := compared y List.mem_cons_self
    obtain ⟨v, -, hx, -, -⟩ := evaluate_binary_eq_ok_iff.1 hu
    obtain rfl := unknown v hx
    obtain ⟨ts, equalities⟩ := exists_truths hx compared
    rw [evaluate_spelledOut (evaluate_anyEqual hx equalities),
      any_of_null equalities (List.cons_ne_nil y ys), hx]
    cases negated <;> rfl

/-- It is unknown whether two is among one and NULL, and so it is for the disjunction. -/
theorem evaluate_inList_iff_unknown :
    (∀ y ∈ [.literal (.int 1), .literal .null],
      ∃ v, (binary .eq (.captured "n" (.int 2)) y).evaluate = .ok v) ∧
    (inList (.captured "n" (.int 2)) [.literal (.int 1), .literal .null] true).evaluate =
      .ok .null ∧
    (inList (.captured "n" (.int 2)) [.literal (.int 1), .literal .null] true).evaluate =
      (spelledOut (.captured "n" (.int 2)) [.literal (.int 1), .literal .null] true).evaluate := by
  have compared : ∀ y ∈ [.literal (.int 1), .literal .null],
      ∃ v, (binary .eq (.captured "n" (.int 2)) y).evaluate = .ok v := by
    simp only [List.forall_mem_cons]
    exact ⟨⟨.bool false, rfl⟩, ⟨.null, rfl⟩, nofun⟩
  exact ⟨compared, rfl, (evaluate_inList_iff _ _ true compared).1.2 (.inl (List.cons_ne_nil _ _))⟩

/-- Whether NULL is among no items is unknown, and not FALSE. -/
theorem not_evaluate_inList_null :
    (∀ y ∈ ([] : List Expr), ∃ v, (binary .eq (.literal .null) y).evaluate = .ok v) ∧
      (inList (.literal .null) [] false).evaluate ≠
        (spelledOut (.literal .null) [] false).evaluate :=
  ⟨by simp, nofun⟩

end Expr

end BulkSql
