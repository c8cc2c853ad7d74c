import BulkSql.Proofs.Capturing

/-!
Which queries can be written, and why the others cannot. A part is looked at on its own, wherever it
stands, and captured values are compared with each other; but nothing is looked at behind an empty
list.
-/
namespace BulkSql

namespace Expr

/-- Why a part cannot stand in a query, whatever its own parts are. -/
def fault? (entity : Entity) : Expr → Option Error
  | field member =>
    if (entity.columnFor? member).isSome then none
    else some (.metadata (.unmappedMember entity.name member))
  | captured name v =>
    if v.isNull || isSettingName (String.ofList (capturedKey name)) then none
    else some (.unsupported (.capturedName (String.ofList (capturedKey name))))
  | call f args =>
    if f = .coalesce ∧ args ≠ [] ∨ f ≠ .coalesce ∧ args.length = 1 then none
    else some (.unsupported (.argumentCount f.name args.length))
  | init name _ => some (.unsupported (.initializerInQuery name))
  | literal _ | unary _ _ | binary _ _ _ | inList _ _ _ => none

/-- Whether a part is an IN over no values, which is a constant. -/
def isConstantIn : Expr → Bool
  | inList _ items _ => items.isEmpty
  | _ => false

mutual

/-- The parts of an expression that its text depends on, in the order of the nodes: all but those of
an IN over no values. -/
def rendered : Expr → List Expr
  | literal v => [literal v]
  | captured n v => [captured n v]
  | field m => [field m]
  | unary op x => unary op x :: rendered x
  | binary op x y => binary op x y :: (rendered x ++ rendered y)
  | call f args => call f args :: renderedOfList args
  | inList x items negated =>
    inList x items negated :: if items.isEmpty then [] else rendered x ++ renderedOfList items
  | init e bindings => init e bindings :: nodesOfBindings bindings

def renderedOfList : List Expr → List Expr
  | [] => []
  | x :: xs => rendered x ++ renderedOfList xs

end

mutual

/-- Every part counts where each IN has values. -/
theorem rendered_eq_nodes (e : Expr) (h : ∀ x ∈ e.nodes, x.isConstantIn = false) :
    e.rendered = e.nodes := by
  cases e with
  | literal v => rfl
  | captured n v => rfl
  | field m => rfl
  | init n bindings => rfl
  | unary op x =>
    rw [nodes, List.forall_mem_cons] at h
    rw [rendered, nodes, rendered_eq_nodes x h.2]
  | binary op x y =>
    rw [nodes, List.forall_mem_cons, List.forall_mem_append] at h
    rw [rendered, nodes, rendered_eq_nodes x h.2.1, rendered_eq_nodes y h.2.2]
  | call f args =>
    rw [nodes, List.forall_mem_cons] at h
    rw [rendered, nodes, renderedOfList_eq_nodes args h.2]
  | inList x items negated =>
    rw [nodes, List.forall_mem_cons, List.forall_mem_append] at h
    obtain ⟨some, needle, values⟩ := h
    rw [rendered, nodes, rendered_eq_nodes x needle, renderedOfList_eq_nodes items values, if_neg]
    simpa [isConstantIn] using some

theorem renderedOfList_eq_nodes (es : List Expr)
    (h : ∀ x ∈ nodesOfList es, x.isConstantIn = false) : renderedOfList es = nodesOfList es := by
  cases es with
  | nil => rfl
  | cons x xs =>
    rw [nodesOfList, List.forall_mem_append] at h
    rw [renderedOfList, nodesOfList, rendered_eq_nodes x h.1, renderedOfList_eq_nodes xs h.2]

end

end Expr

namespace Visit

variable {entity : Entity} {vs ws : List Visit} {xs ys : List Expr} {x : Expr} {why : Error}

/-- Visits find the faults of some parts: what is refused is a fault of one of them, and where
nothing is refused they have none. -/
structure Finds (entity : Entity) (vs : List Visit) (xs : List Expr) : Prop where
  sound : ∀ why, .refused why ∈ vs → ∃ x ∈ xs, x.fault? entity = some why
  complete : (∀ v ∈ vs, v.isRefused = false) → ∀ x ∈ xs, x.fault? entity = none

namespace Finds

theorem nil : Finds entity [] [] := ⟨by simp, by simp⟩

theorem append (h : Finds entity vs xs) (h' : Finds entity ws ys) :
    Finds entity (vs ++ ws) (xs ++ ys) := by
  constructor
  · intro why refused
    rcases List.mem_append.1 refused with refused | refused
    · obtain ⟨x, hx, fault⟩ := h.sound why refused
      exact ⟨x, List.mem_append_left _ hx, fault⟩
    · obtain ⟨x, hx, fault⟩ := h'.sound why refused
      exact ⟨x, List.mem_append_right _ hx, fault⟩
  · intro accepted
    rw [List.forall_mem_append] at accepted ⊢
    exact ⟨h.complete accepted.1, h'.complete accepted.2⟩

/-- A part without a fault of its own. -/
theorem cons (own : x.fault? entity = none) (h : Finds entity vs xs) :
    Finds entity vs (x :: xs) := by
  constructor
  · intro why refused
    obtain ⟨y, hy, fault⟩ := h.sound why refused
    exact ⟨y, List.mem_cons_of_mem _ hy, fault⟩
  · intro accepted
    exact List.forall_mem_cons.2 ⟨own, h.complete accepted⟩

/-- A part with a fault is refused, whatever else there is below it. -/
theorem refused (own : x.fault? entity = some why) (xs : List Expr) :
    Finds entity [.refused why] (x :: xs) := by
  constructor
  · intro other refused
    obtain rfl : other = why := by simpa using refused
    exact ⟨x, List.mem_cons_self, own⟩
  · intro accepted
    exact absurd (accepted _ List.mem_cons_self) (by simp [isRefused])

theorem captured {n name : String} {v value : Value}
    (own : (Expr.captured n v).fault? entity = none) :
    Finds entity [.captured name value] [.captured n v] :=
  ⟨by simp, fun _ => List.forall_mem_singleton.2 own⟩

end Finds

theorem takes_iff {f : Func} {args : List Expr} : takes f args.length = true ↔
    f = .coalesce ∧ args ≠ [] ∨ f ≠ .coalesce ∧ args.length = 1 := by
  unfold takes
  split <;> simp [*]

theorem finds_ofCaptured (entity : Entity) (name : String) (v : Value) :
    Finds entity (ofCaptured name v) [.captured name v] := by
  unfold ofCaptured
  split
  · next null => exact .cons (if_pos (by simp [null])) .nil
  · next some =>
    dsimp only
    split
    · next named => exact .captured (if_pos (by simp [named]))
    · next unnamed =>
      have own : (Expr.captured name v).fault? entity = _ := if_neg (by simp [some, unnamed])
      exact .refused own []

theorem finds_ofField (entity : Entity) (member : String) :
    Finds entity (ofField entity member) [.field member] := by
  unfold ofField
  split
  · next c mapped => exact .cons (if_pos (by simp [mapped])) .nil
  · next unmapped =>
    have own : (Expr.field member).fault? entity = _ := if_neg (by simp [unmapped])
    exact .refused own []

mutual

theorem finds_ofExpr (entity : Entity) (e : Expr) : Finds entity (ofExpr entity e) e.rendered := by
  cases e with
  | literal v => exact .cons rfl .nil
  | captured name v => exact finds_ofCaptured entity name v
  | field member => exact finds_ofField entity member
  | unary op x => exact .cons rfl (finds_ofExpr entity x)
  | binary op x y => exact .cons rfl ((finds_ofExpr entity x).append (finds_ofExpr entity y))
  | call f args =>
    unfold ofExpr Expr.rendered
    split
    · next taken => exact .cons (if_pos (takes_iff.1 taken)) (finds_ofExprs entity args)
    · next other =>
      have own : (Expr.call f args).fault? entity = _ := if_neg (mt takes_iff.2 other)
      exact .refused own _
  | inList x items negated =>
    unfold ofExpr Expr.rendered
    split
    · exact .cons rfl .nil
    · exact .cons rfl ((finds_ofExpr entity x).append (finds_ofExprs entity items))
  | init name bindings => exact .refused rfl _

theorem finds_ofExprs (entity : Entity) (es : List Expr) :
    Finds entity (ofExprs entity es) (Expr.renderedOfList es) := by
  cases es with
  | nil => exact .nil
  | cons x xs => exact (finds_ofExpr entity x).append (finds_ofExprs entity xs)

end

end Visit

namespace Query

/-- The expressions of a query: the selected value, the condition, the order of the rows. -/
def exprs (q : Query) : List Expr :=
  q.projection?.toList ++ (q.filter?.toList ++ q.orderBy.map OrderTerm.expr)

/-- All parts of a query. -/
def nodes (q : Query) : List Expr := q.exprs.flatMap Expr.nodes

/-- The parts of a query that its text depends on. -/
def rendered (q : Query) : List Expr := q.exprs.flatMap Expr.rendered

theorem rendered_eq_nodes (q : Query) (h : ∀ x ∈ q.nodes, x.isConstantIn = false) :
    q.rendered = q.nodes := by
  rw [nodes, List.forall_mem_flatMap] at h
  exact List.flatMap_congr fun e he => e.rendered_eq_nodes (h e he)

end Query

namespace Select

variable {space : SettingSpace} {entity : Entity} {q : Query} {sql : Sql} {why : Error}

/-- A selected initializer is refused with a message of its own. -/
def SelectsInit (q : Query) (why : Error) : Prop :=
  ∃ name bindings, q.projection? = some (.init name bindings) ∧
    why = .unsupported (.initializerSelected name)

theorem finds_visits (entity : Entity) (q : Query) :
    (∀ why, .refused why ∈ visits entity q →
      (∃ x ∈ q.rendered, x.fault? entity = some why) ∨ SelectsInit q why) ∧
    ((∀ v ∈ visits entity q, v.isRefused = false) → ∀ x ∈ q.rendered, x.fault? entity = none) := by
  have filter : Visit.Finds entity (q.filter?.elim [] (Visit.ofExpr entity))
      (q.filter?.toList.flatMap Expr.rendered) := by
    cases q.filter? with
    | none => exact .nil
    | some e => simpa using Visit.finds_ofExpr entity e
  have order : Visit.Finds entity (q.orderBy.flatMap fun t => Visit.ofExpr entity t.expr)
      ((q.orderBy.map OrderTerm.expr).flatMap Expr.rendered) := by
    induction q.orderBy with
    | nil => exact .nil
    | cons t ts ih => exact (Visit.finds_ofExpr entity t.expr).append ih
  have others := filter.append order
  rw [← List.flatMap_append] at others
  unfold visits Query.rendered Query.exprs SelectsInit
  rw [List.flatMap_append]
  generalize q.projection? = selected
  unfold projectionVisits
  split
  · exact ⟨fun why refused => .inl (others.sound why refused), others.complete⟩
  · next name bindings =>
    refine ⟨fun why refused => ?_, fun accepted => ?_⟩
    · rcases List.mem_cons.1 refused with same | refused
      · exact .inr ⟨name, bindings, rfl, by simpa using same⟩
      · obtain ⟨x, hx, fault⟩ := others.sound why refused
        exact .inl ⟨x, List.mem_append_right _ hx, fault⟩
    · exact absurd (accepted _ List.mem_cons_self) (by simp [Visit.isRefused])
  · next e scalar =>
    have found := (Visit.finds_ofExpr entity e).append others
    rw [Option.toList_some, List.flatMap_singleton]
    exact ⟨fun why refused => .inl (found.sound why refused), found.complete⟩

/-- A query is written where no part of it is refused and no two uses disagree. -/
theorem exists_writer_iff : (∃ sql, writer space entity q = .ok sql) ↔
    (∀ v ∈ visits entity q, v.isRefused = false) ∧ q.uses.Pairwise Use.Compatible := by
  constructor
  · rintro ⟨sql, written⟩
    obtain ⟨captures, visited, -⟩ := map_eq_ok_iff.1 written
    exact ⟨not_isRefused_of_ofVisits visited, (holds_of_ofVisits visited).pairwise⟩
  · rintro ⟨accepted, compatible⟩
    cases written : writer space entity q with
    | ok sql => exact ⟨sql, rfl⟩
    | error e =>
      rcases writer_error written with refused | ⟨name, -, differ⟩
      · cases accepted _ refused
      · exact absurd compatible differ

theorem SelectsInit.exists_fault (h : SelectsInit q why) (entity : Entity) :
    (∃ fault, why = .unsupported fault) ∧
      ∃ x ∈ q.rendered, x.isInit = true ∧ x.fault? entity ≠ none := by
  obtain ⟨name, bindings, selected, rfl⟩ := h
  refine ⟨⟨_, rfl⟩, .init name bindings, ?_, rfl, by simp [Expr.fault?]⟩
  simp [Query.rendered, Query.exprs, selected, Expr.rendered]

theorem not_isRefused_visits_iff : (∀ v ∈ visits entity q, v.isRefused = false) ↔
    ∀ x ∈ q.rendered, x.fault? entity = none := by
  obtain ⟨sound, complete⟩ := finds_visits entity q
  refine ⟨complete, fun faultless v hv => ?_⟩
  cases v with
  | captured name value => rfl
  | refused why =>
    rcases sound why hv with ⟨x, hx, fault⟩ | selects
    · rw [faultless x hx] at fault
      cases fault
    · obtain ⟨-, x, hx, -, fault⟩ := selects.exists_fault entity
      exact absurd (faultless x hx) fault

/-- The fault of a member is one of the entity. -/
theorem metadata_of_field {x : Expr} (own : x.fault? entity = some why)
    (field : x.field?.isSome = true) : ∃ fault, why = .metadata fault := by
  cases x <;> simp only [Expr.field?, Option.isSome_none, Bool.false_eq_true] at field
  simp only [Expr.fault?, ite_eq_iff, reduceCtorEq, and_false, false_or, Option.some.injEq] at own
  exact ⟨_, own.2.symm⟩

theorem unsupported_of_isInit {x : Expr} (own : x.fault? entity = some why)
    (init : x.isInit = true) : ∃ fault, why = .unsupported fault := by
  cases x <;> simp only [Expr.isInit, Bool.false_eq_true] at init
  exact ⟨_, (Option.some.inj own).symm⟩

/-- A query that is refused though equal names have equal values is refused for a fault. -/
theorem exists_error (compatible : q.uses.Pairwise Use.Compatible)
    (faulty : ∃ x ∈ q.rendered, x.fault? entity ≠ none) :
    ∃ why, writer space entity q = .error why ∧
      ((∃ x ∈ q.rendered, x.fault? entity = some why) ∨ SelectsInit q why) := by
  obtain ⟨x, hx, fault⟩ := faulty
  cases written : writer space entity q with
  | ok sql =>
    have accepted := (exists_writer_iff.1 ⟨sql, written⟩).1
    exact absurd (not_isRefused_visits_iff.1 accepted x hx) fault
  | error why =>
    rcases writer_error written with refused | ⟨name, -, differ⟩
    · exact ⟨why, rfl, (finds_visits entity q).1 why refused⟩
    · exact absurd compatible differ

/-- A query is written exactly where no part that its text depends on has a fault and equal names
have equal values. -/
theorem accepts_iff (space : SettingSpace) (entity : Entity) (q : Query) :
    ((∃ sql, writer space entity q = .ok sql) ↔
      (∀ x ∈ q.rendered, x.fault? entity = none) ∧
        q.uses.Pairwise fun u t => u.1 = t.1 → u.2.same t.2 = true) ∧
    (∀ e, writer space entity q = .error e →
      (∃ x ∈ q.rendered, x.fault? entity = some e) ∨ SelectsInit q e ∨
        ∃ name, e = .unsupported (.capturedTwice name) ∧
          ¬ q.uses.Pairwise fun u t => u.1 = t.1 → u.2.same t.2 = true) ∧
    ((∀ x ∈ q.nodes, x.isConstantIn = false) → q.rendered = q.nodes) ∧
    (q.uses.Pairwise (fun u t => u.1 = t.1 → u.2.same t.2 = true) →
      (∃ x ∈ q.rendered, x.fault? entity ≠ none) →
      ((∀ x ∈ q.rendered, x.fault? entity ≠ none → x.field?.isSome = true) →
        ∃ fault, writer space entity q = .error (.metadata fault)) ∧
      ((∀ x ∈ q.rendered, x.fault? entity ≠ none → x.isInit = true) →
        ∃ fault, writer space entity q = .error (.unsupported fault))) := by
  have compatible : (q.uses.Pairwise fun u t => u.1 = t.1 → u.2.same t.2 = true) ↔
      q.uses.Pairwise Use.Compatible := List.Pairwise.iff fun _ _ => Use.compatible_iff.symm
  rw [compatible]
  refine ⟨?_, fun e failed => ?_, q.rendered_eq_nodes, fun agree faulty => ⟨?_, ?_⟩⟩
  · rw [exists_writer_iff, not_isRefused_visits_iff]
  · rcases writer_error failed with refused | twice
    · exact ((finds_visits entity q).1 e refused).imp_right .inl
    · exact .inr (.inr twice)
  · intro onlyFields
    obtain ⟨why, failed, ⟨x, hx, own⟩ | selects⟩ := exists_error agree faulty
    · obtain ⟨fault, rfl⟩ := metadata_of_field own (onlyFields x hx (by simp [own]))
      exact ⟨fault, failed⟩
    · obtain ⟨-, x, hx, init, fault⟩ := selects.exists_fault entity
      have field := onlyFields x hx fault
      cases x <;> simp [Expr.isInit, Expr.field?] at init field
  · intro onlyInits
    obtain ⟨why, failed, ⟨x, hx, own⟩ | selects⟩ := exists_error agree faulty
    · obtain ⟨fault, rfl⟩ := unsupported_of_isInit own (onlyInits x hx (by simp [own]))
      exact ⟨fault, failed⟩
    · obtain ⟨⟨fault, rfl⟩, -⟩ := selects.exists_fault entity
      exact ⟨fault, failed⟩

/-- An expression below others, in the order of the rows. -/
def within (e : Expr) : Query where
  orderBy := [⟨.inList (.captured "Level" (.int 7))
    [.unary .neg (.call .coalesce [.literal .null, e]), .captured "LEVEL" (.int 7)] true, true⟩]

/-- A member that is not mapped is noticed behind other parts, and so is an initializer. -/
theorem accepts_iff_within :
    (∃ sql, writer session samples (within (.field "level")) = .ok sql) ∧
    (∃ fault, writer session samples (within (.field "nope")) = .error (.metadata fault)) ∧
    ∃ fault, writer session samples (within (.init "Sample" [])) = .error (.unsupported fault) := by
  have agree (e : Expr) (constant : e.uses = []) : (within e).uses.Pairwise
      fun u t => u.1 = t.1 → u.2.same t.2 = true := by
    have uses : (within e).uses = [("level", .int 7)] ++ (e.uses ++ [("level", .int 7)]) := by
      simp [within, Query.uses, Expr.uses, Expr.usesOfList, Value.isNull, capturedKey]
    rw [uses, constant]
    exact List.pairwise_pair.2 fun _ => rfl
  have named : isSettingName (String.ofList (capturedKey "Level")) = true ∧
      isSettingName (String.ofList (capturedKey "LEVEL")) = true := by decide +kernel
  have faults (e x : Expr) : x ∈ (within e).rendered → x.fault? samples ≠ none →
      x ∈ e.rendered := by
    simp only [within, Query.rendered, Query.exprs, Option.toList_none, List.nil_append,
      List.map_cons, List.map_nil, List.flatMap_cons, List.flatMap_nil, List.append_nil,
      Expr.rendered, Expr.renderedOfList, List.isEmpty_cons, Bool.false_eq_true, if_false,
      List.mem_cons, List.mem_append, List.not_mem_nil, or_false]
    rintro (rfl | rfl | (rfl | rfl | rfl | below) | rfl) fault
    case inr.inr.inl.inr.inr.inr => exact below
    all_goals exact absurd (by simp [Expr.fault?, named]) fault
  obtain ⟨level, -⟩ := accepts_iff session samples (within (.field "level"))
  obtain ⟨-, -, -, unmapped⟩ := accepts_iff session samples (within (.field "nope"))
  obtain ⟨-, -, -, selected⟩ := accepts_iff session samples (within (.init "Sample" []))
  have below (e : Expr) : e ∈ e.rendered → e ∈ (within e).rendered := by
    intro self
    simp [within, Query.rendered, Query.exprs, Expr.rendered, Expr.renderedOfList, self]
  refine ⟨level.2 ⟨?_, agree _ rfl⟩, ?_, ?_⟩
  · intro x hx
    by_contra fault
    obtain rfl : x = .field "level" := List.mem_singleton.1 (faults _ x hx fault)
    exact fault (by decide)
  · have mem := below (.field "nope") List.mem_cons_self
    refine (unmapped (agree _ rfl) ⟨_, mem, by decide⟩).1 fun x hx fault => ?_
    rw [List.mem_singleton.1 (faults _ x hx fault)]
    rfl
  · have mem := below (.init "Sample" []) List.mem_cons_self
    refine (selected (agree _ rfl) ⟨_, mem, by decide⟩).2 fun x hx fault => ?_
    rw [List.mem_singleton.1 (faults _ x hx fault)]
    rfl

/-- The samples with a value among none. -/
def amongNone (e : Expr) : Query where
  filter? := some (.inList e [] false)

/-- A member that is not mapped, and an initializer, go unnoticed as the value that an IN looks for
among none. -/
theorem not_accepts_amongNone :
    (∃ x ∈ (amongNone (.field "nope")).nodes, x.fault? samples ≠ none) ∧
    (∃ sql, writer session samples (amongNone (.field "nope")) = .ok sql) ∧
    (∃ x ∈ (amongNone (.init "Sample" [])).nodes, x.fault? samples ≠ none) ∧
    ∃ sql, writer session samples (amongNone (.init "Sample" [])) = .ok sql := by
  refine ⟨⟨.field "nope", ?_, ?_⟩, ⟨_, rfl⟩, ⟨.init "Sample" [], ?_, ?_⟩, ⟨_, rfl⟩⟩
  all_goals simp [amongNone, Query.nodes, Query.exprs, Expr.nodes, Expr.nodesOfList, Expr.fault?, Expr.nodesOfBindings]
  decide

end Select

end BulkSql
