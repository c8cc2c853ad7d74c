import BulkSql.Assignment
import BulkSql.Proofs.Insertion
import BulkSql.Proofs.Traversal

/-!
What an updater is bound to. It is refused for its first binding that cannot be bound, and an error
of a binding says that its member cannot be set, never that a value cannot be computed.
-/
namespace BulkSql

/-! ### Values without a row -/

/-- A result that is not the error of a binding. -/
def NotBinding {α : Type} (x : Except Error α) : Prop :=
  ∀ why, x = .error why → why.isBinding = false

namespace NotBinding

variable {α β : Type} {x : Except Error α}

theorem ok (a : α) : NotBinding (.ok a : Except Error α) := nofun

theorem error {why : Error} (h : why.isBinding = false) :
    NotBinding (.error why : Except Error α) := by
  rintro _ ⟨⟩
  exact h

theorem bind {f : α → Except Error β} (hx : NotBinding x) (hf : ∀ a, NotBinding (f a)) :
    NotBinding (x >>= f) := by
  intro why h
  obtain h | ⟨a, -, h⟩ := bind_eq_error_iff.1 h
  · exact hx why h
  · exact hf a why h

theorem map (f : α → β) (hx : NotBinding x) : NotBinding (x.map f) := by
  cases x with
  | ok a => exact ok _
  | error why => exact error (hx why rfl)

theorem unaryOp (op : UnaryOp) (v : Value) : NotBinding (op.apply v) := by
  fun_cases UnaryOp.apply op v
  all_goals first | exact ok _ | exact error rfl

theorem truth (v : Value) : NotBinding v.truth := by
  fun_cases Value.truth v
  all_goals first | exact ok _ | exact error rfl

theorem compare (v w : Value) : NotBinding (v.compare w) := by
  fun_cases Value.compare v w
  all_goals first | exact ok _ | exact error rfl

theorem arithmetic (op : BinaryOp) (v w : Value) : NotBinding (op.arithmetic v w) := by
  fun_cases BinaryOp.arithmetic op v w
  all_goals first | exact ok _ | exact error rfl

theorem binaryOp (op : BinaryOp) (v w : Value) : NotBinding (op.apply v w) := by
  have strict : NotBinding (op.applyStrict v w) := by
    fun_cases BinaryOp.applyStrict op v w
    · exact ok _
    · exact (compare v w).map _
    · exact ok _
    · exact arithmetic op v w
  cases op with
  | and | or => exact (truth v).bind fun s => (truth w).bind fun t => ok _
  | _ => exact strict

theorem func (f : Func) (args : List Value) : NotBinding (f.apply args) := by
  have one (v : Value) : NotBinding (f.applyOne v) := by
    fun_cases Func.applyOne f v
    all_goals first | exact ok _ | exact error rfl
  fun_cases Func.apply f args
  all_goals first | exact ok _ | exact error rfl | exact one _

end NotBinding

namespace Expr

theorem field?_eq_none_of_not_referencesRow {e : Expr} (h : e.referencesRow = false) :
    ∀ n ∈ e.nodes, n.field? = none := by
  rw [referencesRow, List.any_eq_false] at h
  intro n hn
  simpa using h n hn

mutual

/-- Every member of the row that evaluation meets is a node. -/
theorem notBinding_evaluate (e : Expr) (h : ∀ n ∈ e.nodes, n.field? = none) :
    NotBinding e.evaluate := by
  cases e with
  | literal v => exact .ok v
  | captured name v => exact .ok v
  | field m => cases h _ List.mem_cons_self
  | unary op x =>
    rw [nodes, List.forall_mem_cons] at h
    rw [evaluate]
    exact (notBinding_evaluate x h.2).bind fun v => .unaryOp op v
  | binary op x y =>
    rw [nodes, List.forall_mem_cons, List.forall_mem_append] at h
    rw [evaluate]
    exact (notBinding_evaluate x h.2.1).bind fun v =>
      (notBinding_evaluate y h.2.2).bind fun w => .binaryOp op v w
  | call f args =>
    rw [nodes, List.forall_mem_cons] at h
    rw [evaluate]
    exact (notBinding_evaluateList args h.2).bind fun vs => .func f vs
  | inList x items negated =>
    rw [nodes, List.forall_mem_cons, List.forall_mem_append] at h
    rw [evaluate]
    refine (notBinding_evaluate x h.2.1).bind fun v => ?_
    split
    · exact .ok _
    · exact (notBinding_isAmong v items h.2.2).bind fun t => .ok _
  | init entity bindings =>
    rw [evaluate]
    exact .error rfl

theorem notBinding_evaluateList (es : List Expr) (h : ∀ n ∈ nodesOfList es, n.field? = none) :
    NotBinding (evaluateList es) := by
  cases es with
  | nil => exact .ok _
  | cons x xs =>
    rw [nodesOfList, List.forall_mem_append] at h
    rw [evaluateList]
    exact (notBinding_evaluate x h.1).bind fun v =>
      (notBinding_evaluateList xs h.2).bind fun vs => .ok _

theorem notBinding_isAmong (needle : Value) (es : List Expr)
    (h : ∀ n ∈ nodesOfList es, n.field? = none) : NotBinding (isAmong needle es) := by
  cases es with
  | nil => exact .ok _
  | cons x xs =>
    rw [nodesOfList, List.forall_mem_append] at h
    have others := notBinding_isAmong needle xs h.2
    rw [isAmong]
    refine (notBinding_evaluate x h.1).bind fun v => ?_
    split
    · exact others.bind fun t => .ok _
    · refine (NotBinding.compare needle v).bind fun o => ?_
      split
      · exact .ok _
      · exact others

end

end Expr

namespace Assignment

/-! ### Bindings -/

/-- A member of the entity is set: its column gets the expression where that looks at the row, and
else the value of the expression as it is stored. -/
inductive Assigns (entity : Entity) : Binding → Assignment → Prop
  | computed {member expr column} (mapped : entity.columnFor? member = some column)
    (plain : expr.isInit = false) (row : expr.referencesRow = true) :
    Assigns entity (.assign member expr) ⟨column, .computed expr⟩
  | constant {member expr column v w} (mapped : entity.columnFor? member = some column)
    (plain : expr.isInit = false) (row : expr.referencesRow = false)
    (value : expr.evaluate = .ok v) (stored : column.toStore v = .ok w) :
    Assigns entity (.assign member expr) ⟨column, .constant w⟩

/-- The member of a binding cannot be set, behind the members set before. -/
inductive Misplaced (entity : Entity) (earlier : List String) : Binding → BindingFault → Prop
  | nested {member bindings} : Misplaced entity earlier (.nested member bindings)
      (.nestedInitializer member)
  | unmapped {member expr} (h : entity.columnFor? member = none) :
    Misplaced entity earlier (.assign member expr) (.unmappedMember entity.name member)
  | repeated {member expr column} (mapped : entity.columnFor? member = some column)
    (h : member ∈ earlier) :
    Misplaced entity earlier (.assign member expr) (.assignedTwice member)
  | initializer {member expr column} (mapped : entity.columnFor? member = some column)
    (fresh : member ∉ earlier) (h : expr.isInit = true) :
    Misplaced entity earlier (.assign member expr) (.assignedInitializer member)

/-- What is wrong with a binding behind the members set before: its member cannot be set, or its
constant value has no value or cannot be stored. -/
inductive Offends (entity : Entity) (earlier : List String) : Binding → Error → Prop
  | misplaced {b fault} (h : Misplaced entity earlier b fault) :
    Offends entity earlier b (.binding fault)
  | evaluation {member expr column why} (mapped : entity.columnFor? member = some column)
    (fresh : member ∉ earlier) (plain : expr.isInit = false) (row : expr.referencesRow = false)
    (h : expr.evaluate = .error why) (other : why.isBinding = false) :
    Offends entity earlier (.assign member expr) why
  | conversion {member expr column v name reason}
    (mapped : entity.columnFor? member = some column) (fresh : member ∉ earlier)
    (plain : expr.isInit = false) (row : expr.referencesRow = false)
    (value : expr.evaluate = .ok v) (h : column.toStore v = .error (.conversion name reason)) :
    Offends entity earlier (.assign member expr) (.conversion name reason)

/-- Every binding assigns, and to a member of its own. -/
structure Binds (entity : Entity) (bindings : List Binding) (as : List Assignment) : Prop where
  assigns : List.Forall₂ (Assigns entity) bindings as
  distinct : (bindings.map Binding.member).Nodup

/-- Why an updater is refused; a binding is at fault if all bindings in front of it assign. -/
inductive Refuses (entity : Entity) : Expr → Error → Prop
  | shape {e} (h : e.isInit = false) :
    Refuses entity e (.unsupported (.updaterShape (.ofList e.shown)))
  | otherEntity {name bindings} (h : name ≠ entity.name) :
    Refuses entity (.init name bindings) (.binding (.otherEntity name entity.name))
  | empty : Refuses entity (.init entity.name []) (.validation (.noAssignments entity.name))
  | offends {front b behind as why} (bound : Binds entity front as)
    (h : Offends entity (front.map Binding.member) b why) :
    Refuses entity (.init entity.name (front ++ b :: behind)) why

/-- The members whose columns are assigned to. -/
def members (as : List Assignment) : List String := as.map fun a => a.column.member

variable {entity : Entity} {earlier : List Assignment} {b : Binding} {a : Assignment}
  {bs : List Binding} {as : List Assignment} {why : Error}

theorem member_of_columnFor? {member : String} {c : Column}
    (h : entity.columnFor? member = some c) : c.member = member := by
  simpa using List.find?_some h

theorem Assigns.member_eq (h : Assigns entity b a) : a.column.member = b.member := by
  cases h with
  | computed mapped => exact member_of_columnFor? mapped
  | constant mapped => exact member_of_columnFor? mapped

theorem Assigns.column_mem (h : Assigns entity b a) : a.column ∈ entity.columns := by
  cases h with
  | computed mapped => exact List.mem_of_find?_eq_some mapped
  | constant mapped => exact List.mem_of_find?_eq_some mapped

theorem members_eq (h : List.Forall₂ (Assigns entity) bs as) :
    members as = bs.map Binding.member := by
  induction h with
  | nil => rfl
  | cons first _ ih => rw [members, List.map_cons, List.map_cons, first.member_eq, ← ih, members]

theorem not_any_member_iff {member : String} :
    (earlier.any fun a => a.column.member == member) = false ↔ member ∉ members earlier := by
  simp [members]

section Assign

variable {member : String} {expr : Expr} {column : Column}

theorem ofBinding_repeated (mapped : entity.columnFor? member = some column)
    (h : member ∈ members earlier) : ofBinding entity earlier (.assign member expr) =
      .error (.binding (.assignedTwice member)) := by
  rw [← member_of_columnFor? mapped] at h
  have taken : (earlier.any fun a => a.column.member == column.member) = true :=
    not_not.1 fun e => not_any_member_iff.1 (Bool.eq_false_iff.2 e) h
  simp only [ofBinding, mapped, taken, if_true]

/-- The member that is not set yet gets its value. -/
theorem ofBinding_fresh (mapped : entity.columnFor? member = some column)
    (fresh : member ∉ members earlier) (plain : expr.isInit = false) :
    ofBinding entity earlier (.assign member expr) =
      (assigned column expr).map (Assignment.mk column) := by
  rw [← member_of_columnFor? mapped] at fresh
  simp only [ofBinding, mapped, not_any_member_iff.2 fresh, plain]
  cases assigned column expr <;> rfl

theorem ofBinding_initializer (mapped : entity.columnFor? member = some column)
    (fresh : member ∉ members earlier) (h : expr.isInit = true) :
    ofBinding entity earlier (.assign member expr) =
      .error (.binding (.assignedInitializer member)) := by
  rw [← member_of_columnFor? mapped] at fresh
  simp only [ofBinding, mapped, not_any_member_iff.2 fresh, h]
  rfl

theorem assigned_computed (row : expr.referencesRow = true) :
    assigned column expr = .ok (.computed expr) := if_pos row

theorem assigned_constant {v : Value} (row : expr.referencesRow = false)
    (value : expr.evaluate = .ok v) :
    assigned column expr = (column.toStore v).map .constant := by
  rw [assigned, if_neg (Bool.eq_false_iff.1 row), value]
  change (column.toStore v >>= fun w => .ok (Assigned.constant w)) = _
  cases column.toStore v <;> rfl

theorem assigned_error (row : expr.referencesRow = false) (h : expr.evaluate = .error why) :
    assigned column expr = .error why := by
  rw [assigned, if_neg (Bool.eq_false_iff.1 row), h]
  rfl

end Assign

/-- A binding assigns or is at fault. What the checks leave is a value that is computed, or one that
has to be evaluated and stored. -/
theorem ofBinding_cases (entity : Entity) (earlier : List Assignment) (b : Binding) :
    (∃ a, ofBinding entity earlier b = .ok a ∧ Assigns entity b a ∧ b.member ∉ members earlier) ∨
      ∃ why, ofBinding entity earlier b = .error why ∧ Offends entity (members earlier) b why := by
  cases b with
  | nested member bindings => exact .inr ⟨_, rfl, .misplaced .nested⟩
  | assign member expr =>
    match mapped : entity.columnFor? member with
    | none => exact .inr ⟨_, by simp only [ofBinding, mapped], .misplaced (.unmapped mapped)⟩
    | some column =>
      by_cases fresh : member ∈ members earlier
      · exact .inr ⟨_, ofBinding_repeated mapped fresh, .misplaced (.repeated mapped fresh)⟩
      cases plain : expr.isInit with
      | true =>
        exact .inr ⟨_, ofBinding_initializer mapped fresh plain,
          .misplaced (.initializer mapped fresh plain)⟩
      | false =>
        rw [ofBinding_fresh mapped fresh plain]
        cases row : expr.referencesRow with
        | true =>
          rw [assigned_computed row]
          exact .inl ⟨_, rfl, .computed mapped plain row, fresh⟩
        | false =>
          match value : expr.evaluate with
          | .error why =>
            have other := Expr.notBinding_evaluate expr
              (Expr.field?_eq_none_of_not_referencesRow row) why value
            rw [assigned_error row value]
            exact .inr ⟨why, rfl, .evaluation mapped fresh plain row value other⟩
          | .ok v =>
            rw [assigned_constant row value]
            match stored : column.toStore v with
            | .ok w => exact .inl ⟨_, rfl, .constant mapped plain row value stored, fresh⟩
            | .error why =>
              obtain ⟨name, reason, rfl⟩ := Column.exists_of_toStore_error stored
              exact .inr ⟨_, rfl, .conversion mapped fresh plain row value stored⟩

theorem ofBinding_eq_ok_iff : ofBinding entity earlier b = .ok a ↔
    Assigns entity b a ∧ b.member ∉ members earlier := by
  constructor
  · intro h
    obtain ⟨a', e, assigns⟩ | ⟨why, e, -⟩ := ofBinding_cases entity earlier b
    · rwa [Except.ok.inj (h.symm.trans e)]
    · cases h.symm.trans e
  · rintro ⟨assigns, fresh⟩
    cases assigns with
    | computed mapped plain row =>
      rw [ofBinding_fresh mapped fresh plain, assigned_computed row]
      rfl
    | constant mapped plain row value stored =>
      rw [ofBinding_fresh mapped fresh plain, assigned_constant row value, stored]
      rfl

theorem binds_nil_iff : Binds entity [] as ↔ as = [] :=
  ⟨fun h => List.forall₂_nil_left_iff.1 h.assigns, fun e => e ▸ ⟨.nil, List.nodup_nil⟩⟩

theorem binds_cons_iff : Binds entity (b :: bs) as ↔ ∃ a rest, as = a :: rest ∧
    Assigns entity b a ∧ Binds entity bs rest ∧ ∀ c ∈ bs, c.member ≠ b.member := by
  constructor
  · rintro ⟨assigns, distinct⟩
    obtain ⟨a, rest, first, others, rfl⟩ := List.forall₂_cons_left_iff.1 assigns
    rw [List.map_cons, List.nodup_cons] at distinct
    exact ⟨a, rest, rfl, first, ⟨others, distinct.2⟩,
      fun c hc e => distinct.1 (List.mem_map.2 ⟨c, hc, e⟩)⟩
  · rintro ⟨a, rest, rfl, first, others, fresh⟩
    refine ⟨.cons first others.assigns, List.nodup_cons.2 ⟨fun hb => ?_, others.distinct⟩⟩
    obtain ⟨c, hc, e⟩ := List.mem_map.1 hb
    exact fresh c hc e

theorem ofBindings_cons (earlier : List Assignment) (b : Binding) (bs : List Binding) :
    ofBindings entity earlier (b :: bs) =
      ofBinding entity earlier b >>= fun a =>
        (ofBindings entity (earlier ++ [a]) bs).map (a :: ·) := by
  rw [ofBindings]
  rfl

theorem members_append_singleton (h : Assigns entity b a) :
    members (earlier ++ [a]) = members earlier ++ [b.member] := by
  simp [members, h.member_eq]

theorem ofBindings_eq_ok_iff : ofBindings entity earlier bs = .ok as ↔
    Binds entity bs as ∧ ∀ b ∈ bs, b.member ∉ members earlier := by
  induction bs generalizing earlier as with
  | nil =>
    rw [binds_nil_iff, ofBindings]
    simp [eq_comm]
  | cons b bs ih =>
    rw [ofBindings_cons, bind_eq_ok_iff, binds_cons_iff, List.forall_mem_cons]
    constructor
    · rintro ⟨a, first, h⟩
      obtain ⟨rest, others, rfl⟩ := map_eq_ok_iff.1 h
      obtain ⟨assigns, fresh⟩ := ofBinding_eq_ok_iff.1 first
      obtain ⟨binds, apart⟩ := ih.1 others
      simp only [members_append_singleton assigns, List.mem_append, List.mem_singleton,
        not_or] at apart
      exact ⟨⟨a, rest, rfl, assigns, binds, fun c hc => (apart c hc).2⟩, fresh,
        fun c hc => (apart c hc).1⟩
    · rintro ⟨⟨a, rest, rfl, assigns, binds, apart⟩, fresh, others⟩
      refine ⟨a, ofBinding_eq_ok_iff.2 ⟨assigns, fresh⟩,
        map_eq_ok_iff.2 ⟨rest, ih.2 ⟨binds, ?_⟩, rfl⟩⟩
      simp only [members_append_singleton assigns, List.mem_append, List.mem_singleton, not_or]
      exact fun c hc => ⟨others c hc, apart c hc⟩

theorem ofUpdater_init (bindings : List Binding) (ne : bindings ≠ []) :
    ofUpdater entity (.init entity.name bindings) = ofBindings entity [] bindings := by
  simp [ofUpdater, ne]

theorem binds_iff : ofBindings entity [] bs = .ok as ↔ Binds entity bs as := by
  simp [ofBindings_eq_ok_iff, members]

theorem ofUpdater_eq_ok_iff {updater : Expr} : ofUpdater entity updater = .ok as ↔
    ∃ bindings, updater = .init entity.name bindings ∧ bindings ≠ [] ∧
      Binds entity bindings as := by
  constructor
  · intro h
    cases updater with
    | init name bindings =>
      simp only [ofUpdater] at h
      split at h
      · cases h
      · next same =>
        obtain rfl := not_not.1 same
        split at h
        · cases h
        · next some => exact ⟨bindings, rfl, by simpa using some, binds_iff.1 h⟩
    | _ => cases h
  · rintro ⟨bindings, rfl, ne, binds⟩
    rw [ofUpdater_init bindings ne]
    exact binds_iff.2 binds

/-- The columns are those of the members. -/
theorem Binds.columns (h : Binds entity bs as) :
    as.map Assignment.column ⊆ entity.columns ∧ (members as).Nodup := by
  obtain ⟨assigns, distinct⟩ := h
  rw [← members_eq assigns] at distinct
  refine ⟨?_, distinct⟩
  clear distinct
  induction assigns with
  | nil => exact List.nil_subset _
  | cons first _ ih => exact List.cons_subset.2 ⟨first.column_mem, ih⟩

theorem Binds.names (h : Binds entity bs as)
    (apart : (entity.columns.map fun c => c.name.name).Nodup) :
    (as.map fun a => a.column.name.name).Nodup := by
  obtain ⟨among, distinct⟩ := h.columns
  have columns : (as.map Assignment.column).Nodup := by
    refine .of_map Column.member ?_
    rwa [List.map_map]
  have names := columns.map_on fun c hc d hd e =>
    List.inj_on_of_nodup_map apart (among hc) (among hd) e
  rwa [List.map_map] at names

/-- An error of a binding says that the updater makes a value of another entity, or that the member
of a binding cannot be set. -/
theorem Refuses.misplaced {updater : Expr} {fault : BindingFault}
    (h : Refuses entity updater (.binding fault)) :
    ∃ name bindings, updater = .init name bindings ∧ (name ≠ entity.name ∨
      ∃ front b behind, bindings = front ++ b :: behind ∧
        Misplaced entity (front.map Binding.member) b fault) := by
  cases h with
  | otherEntity other => exact ⟨_, _, rfl, .inl other⟩
  | @offends front b behind _ _ _ h =>
    refine ⟨_, _, rfl, .inr ⟨front, b, behind, rfl, ?_⟩⟩
    cases h with
    | misplaced h => exact h
    | evaluation _ _ _ _ _ other => cases other

end Assignment

end BulkSql
