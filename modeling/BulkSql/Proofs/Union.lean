import BulkSql.Bulk.Operation
import BulkSql.Proofs.Appearance
import BulkSql.Proofs.Insertion
import BulkSql.Proofs.Refinement
import BulkSql.Proofs.Unreadable

/-!
The settings that run before a statement, taken together from the texts that it is made of. Those of
its rows are taken as they stand, those of each computed value are joined to them: variables that
agree come once, in the order of their first appearance, unless the first text repeats one.
-/
namespace BulkSql

/-! ### Joined settings -/

namespace Setting

instance (xs : List Setting) : Decidable (Agree xs) :=
  inferInstanceAs (Decidable (∀ x ∈ xs, ∀ y ∈ xs, x.name = y.name → x.value = y.value))

variable {joined incoming settings all xs ys : List Setting}

/-- One setting for each variable of `all`, with the value that it has there, in the order in which
the variables first appear. -/
structure IsUnion (settings all : List Setting) : Prop where
  names : settings.map name = (all.map name).eraseDups
  subset : settings ⊆ all
  covers : ∀ x ∈ all, ∃ y ∈ settings, y.name = x.name ∧ y.value = x.value

theorem IsUnion.nodup (h : IsUnion settings all) : (settings.map name).Nodup :=
  h.names ▸ nodup_eraseDups _

/-- Where there is a union, no variable has two values. -/
theorem IsUnion.agree (h : IsUnion settings all) : Agree all := by
  intro x hx y hy name
  obtain ⟨x', hx', nx, vx⟩ := h.covers x hx
  obtain ⟨y', hy', ny, vy⟩ := h.covers y hy
  obtain rfl : x' = y' := List.inj_on_of_nodup_map h.nodup hx' hy' (nx.trans (name.trans ny.symm))
  rw [← vx, vy]

@[simp] theorem join_nil (joined : List Setting) : join joined [] = .ok joined := rfl

theorem join_cons (joined : List Setting) (s : Setting) (rest : List Setting) :
    join joined (s :: rest) = match joined.find? fun t => t.name == s.name with
      | none => join (joined ++ [s]) rest
      | some t =>
        if t.value = s.value then join joined rest
        else .error (.settingTwice (.ofList s.name) (.ofList t.value) (.ofList s.value)) := by
  unfold join
  rw [merge]
  cases joined.find? fun t => t.name == s.name with
  | none => rfl
  | some t =>
    by_cases same : t.value = s.value
    · simp only [same, if_true]
    · simp only [same, if_false]

theorem join_eq_ok_iff : join joined incoming = .ok settings ↔
    merge joined incoming = (settings, none) := by
  unfold join
  rcases merge joined incoming with ⟨found, - | fault⟩ <;> simp

/-- Settings are joined one after the other. -/
theorem join_append (joined xs ys : List Setting) :
    join joined (xs ++ ys) = join joined xs >>= fun settings => join settings ys := by
  induction xs generalizing joined with
  | nil => rfl
  | cons s rest ih =>
    rw [List.cons_append, join_cons, join_cons]
    split
    · exact ih _
    · split
      · exact ih _
      · rfl

/-- What was joined stays in its place, whether all can be joined or not. -/
theorem prefix_merge (joined incoming : List Setting) : joined <+: (merge joined incoming).1 := by
  fun_induction merge joined incoming with
  | case1 joined => exact List.prefix_refl joined
  | case2 joined s rest found ih => exact (List.prefix_append joined [s]).trans ih
  | case3 joined s rest t found same ih => exact ih
  | case4 joined s rest t found differ => exact List.prefix_refl joined

theorem prefix_of_merge (h : merge joined incoming = (settings, none)) : joined <+: settings := by
  simpa only [h] using prefix_merge joined incoming

theorem subset_of_merge (h : merge joined incoming = (settings, none)) :
    settings ⊆ joined ++ incoming := by
  fun_induction merge joined incoming with
  | case1 joined => simp [(Prod.mk.inj h).1]
  | case2 joined s rest found ih => simpa using ih h
  | case3 joined s rest t found same ih =>
    exact List.Subset.trans (ih h) (List.append_subset.2 ⟨by simp, fun x hx => by simp [hx]⟩)
  | case4 joined s rest t found differ => cases h

theorem covers_of_merge (h : merge joined incoming = (settings, none)) :
    ∀ x ∈ incoming, ∃ y ∈ settings, y.name = x.name ∧ y.value = x.value := by
  fun_induction merge joined incoming with
  | case1 joined => simp
  | case2 joined s rest found ih =>
    have kept : s ∈ settings := (prefix_of_merge h).subset (by simp)
    exact List.forall_mem_cons.2 ⟨⟨s, kept, rfl, rfl⟩, ih h⟩
  | case3 joined s rest t found same ih =>
    have kept : t ∈ settings := (prefix_of_merge h).subset (List.mem_of_find?_eq_some found)
    have name : t.name = s.name := by simpa using List.find?_some found
    exact List.forall_mem_cons.2 ⟨⟨t, kept, name, same⟩, ih h⟩
  | case4 joined s rest t found differ => cases h

theorem names_of_merge (once : (joined.map name).Nodup)
    (h : merge joined incoming = (settings, none)) :
    settings.map name = ((joined ++ incoming).map name).eraseDups := by
  fun_induction merge joined incoming with
  | case1 joined =>
    obtain rfl : joined = settings := (Prod.mk.inj h).1
    rw [List.append_nil, eraseDups_of_nodup once]
  | case2 joined s rest found ih =>
    have fresh : s.name ∉ joined.map name := by simpa [List.find?_eq_none] using found
    have once' : ((joined ++ [s]).map name).Nodup := by
      rw [List.map_append, List.map_singleton]
      simpa using once.concat fresh
    rw [ih once' h, List.append_assoc, List.singleton_append]
  | case3 joined s rest t found same ih =>
    have name : t.name = s.name := by simpa using List.find?_some found
    have known : s.name ∈ joined.map Setting.name :=
      List.mem_map.2 ⟨t, List.mem_of_find?_eq_some found, name⟩
    rw [ih once h, List.map_append, List.map_append, List.map_cons, eraseDups_append_cons known]
  | case4 joined s rest t found differ => cases h

/-- Settings that could be joined to others are a union with them exactly if the others repeat no
variable. -/
theorem isUnion_join_iff (h : join joined incoming = .ok settings) :
    IsUnion settings (joined ++ incoming) ↔ (joined.map name).Nodup := by
  have merged := join_eq_ok_iff.1 h
  have kept := prefix_of_merge merged
  refine ⟨fun union => (kept.sublist.map name).nodup union.nodup, fun once => ?_⟩
  have names := names_of_merge once merged
  refine ⟨names, ?_, ?_⟩
  · exact subset_of_merge merged
  · intro x hx
    rcases List.mem_append.1 hx with old | new
    · exact ⟨x, kept.subset old, rfl, rfl⟩
    · exact covers_of_merge merged x new

/-- Settings that repeat no variable can be joined only where all agree. -/
theorem exists_error_of_join (once : (joined.map name).Nodup) (h : ¬ Agree (joined ++ incoming)) :
    ∃ why, join joined incoming = .error why := by
  cases e : join joined incoming with
  | error why => exact ⟨why, rfl⟩
  | ok settings => exact absurd ((isUnion_join_iff e).2 once).agree h

end Setting

/-- All settings in front of some texts. -/
def settingsOf (texts : List Sql) : List Setting := texts.flatMap fun t => (splitPrelude t).1

namespace Statement

variable {write : QueryWriter} {options : Options} {entity : Entity} {query : Query}

/-! ### The settings of assignments -/

/-- The settings of the texts of all computed values are joined, one text after the other. -/
theorem join_of_assignments {as : List Assignment} {prelude settings : List Setting}
    {set : List Fragment}
    (h : assignments write options entity query prelude as = .ok (set, settings)) :
    ∃ texts, (selections query as).mapM (write entity) = .ok texts ∧
      Setting.join prelude (settingsOf texts) = .ok settings := by
  induction as generalizing prelude set with
  | nil =>
    obtain ⟨rfl, rfl⟩ := Prod.mk.inj (Except.ok.inj h)
    exact ⟨[], rfl, rfl⟩
  | cons a as ih =>
    obtain ⟨f, joined, others, first, rest, -⟩ := assignments_cons_iff.1 h
    obtain ⟨texts, compiled, join⟩ := ih rest
    obtain ⟨column, assigned⟩ := a
    cases assigned with
    | constant v =>
      obtain ⟨-, rfl⟩ := Prod.mk.inj (Except.ok.inj first)
      exact ⟨texts, compiled, join⟩
    | computed e =>
      obtain ⟨t, p, moved, written, read, own, -, -⟩ := assignedFragment_computed_iff.1 first
      rw [Projection.prelude_of_ofSql read] at own
      refine ⟨t :: texts, mapM_eq_ok_iff.2 (.cons written (mapM_eq_ok_iff.1 compiled)), ?_⟩
      rw [settingsOf, List.flatMap_cons, Setting.join_append, own]
      exact join

/-- Where the texts of all computed values can be written, only reading them can fail. -/
theorem reading_assignments {as : List Assignment} {texts : List Sql}
    (compiled : (selections query as).mapM (write entity) = .ok texts) (prelude : List Setting) :
    Reading (assignments write options entity query prelude as) := by
  induction as generalizing texts prelude with
  | nil => exact .ok _
  | cons a as ih =>
    obtain ⟨column, assigned⟩ := a
    cases assigned with
    | constant v => exact (Reading.ok _).bind fun _ => (ih compiled _).bind fun _ => .ok _
    | computed e =>
      obtain ⟨t, ts, written, others, rfl⟩ :=
        List.forall₂_cons_left_iff.1 (mapM_eq_ok_iff.1 compiled)
      have text : Reading (write entity (query.selecting e)) := written ▸ .ok t
      have first : Reading (assignedFragment write options entity query prelude (.computed e)) :=
        text.bind fun t => (Reading.projection t).bind fun _ => (Reading.mapError _).bind fun _ =>
          (Reading.mapError _).bind fun _ => .ok _
      exact first.bind fun _ => (ih (mapM_eq_ok_iff.2 others) _).bind fun _ => .ok _

/-! ### The settings of a statement -/

theorem prelude_of_insert {rows : List Row} {s : Statement}
    (h : insert options entity rows = .ok (some s)) : s.prelude = [] := by
  obtain ⟨-, -, -, values, -, rfl⟩ := insert_eq_some_iff.1 h
  rfl

theorem prelude_of_delete {sql : Sql} {s : Statement} (h : delete options entity sql = .ok s) :
    s.prelude = (splitPrelude sql).1.map Setting.statement := by
  obtain ⟨keys, derived, -, read, rfl⟩ := delete_eq_ok_iff.1 h
  rw [← DerivedQuery.prelude_of_ofSql read]

/-- The settings of the rows come first, and those of the computed values are joined to them. -/
theorem join_of_update {updater : Expr} {s : Statement}
    (h : update write options entity query updater = .ok s) :
    ∃ as text texts settings, Assignment.ofUpdater entity updater = .ok as ∧
      write entity query = .ok text ∧ (selections query as).mapM (write entity) = .ok texts ∧
      Setting.join (splitPrelude text).1 (settingsOf texts) = .ok settings ∧
      s.prelude = settings.map Setting.statement := by
  obtain ⟨as, keys, text, derived, set, settings, bound, -, written, read, made, rfl⟩ :=
    update_eq_ok_iff.1 h
  obtain ⟨texts, compiled, join⟩ := join_of_assignments made
  rw [DerivedQuery.prelude_of_ofSql read] at join
  exact ⟨as, text, texts, settings, bound, written, compiled, join, rfl⟩

end Statement

/-! ### Operations -/

/-- The queries whose texts the statement of an operation is made of: that of its rows, and one for
each value that is computed from the row. -/
def Operation.queries (entity : Entity) : Operation → Except Error (List Query)
  | insert _ => .ok []
  | delete query => .ok [query]
  | update query updater => do
    return query :: Statement.selections query (← Assignment.ofUpdater entity updater)

namespace Bulk

/-- The texts that the statement of an operation is made of. -/
def queryTexts (b : Bulk) (entity : Entity) (operation : Operation) : Except Error (List Sql) := do
  (← operation.queries entity).mapM (b.write entity)

variable {b : Bulk} {mapping : Except Error Entity} {entity : Entity} {keys : List Column}
  {operation : Operation} {s : Statement} {texts : List Sql}

/-- What a statement runs before: the settings of its first text with those of the others joined to
them. -/
theorem join_of_statement (h : b.statement mapping operation = .ok (some s)) :
    ∃ entity texts settings, b.resolve mapping = .ok entity ∧
      b.queryTexts entity operation = .ok texts ∧
      Setting.join (settingsOf (texts.take 1)) (settingsOf (texts.drop 1)) = .ok settings ∧
      s.prelude = settings.map Setting.statement := by
  cases operation with
  | insert rows =>
    simp only [statement, insertStatement] at h
    split at h
    · cases h
    · obtain ⟨entity, resolved, h⟩ := bind_eq_ok_iff.1 h
      exact ⟨entity, [], [], resolved, rfl, rfl, Statement.prelude_of_insert h⟩
  | delete query =>
    replace h : b.deleteStatement mapping query = .ok s := by simpa using map_eq_ok_iff.1 h
    obtain ⟨entity, resolved, h⟩ := bind_eq_ok_iff.1 h
    obtain ⟨_, -, h⟩ := bind_eq_ok_iff.1 h
    obtain ⟨text, written, h⟩ := bind_eq_ok_iff.1 h
    exact ⟨entity, [text], (splitPrelude text).1, resolved,
      mapM_eq_ok_iff.2 (.cons written .nil), by simp [settingsOf], Statement.prelude_of_delete h⟩
  | update query updater =>
    replace h : b.updateStatement mapping query updater = .ok s := by
      simpa using map_eq_ok_iff.1 h
    obtain ⟨entity, resolved, h⟩ := bind_eq_ok_iff.1 h
    obtain ⟨_, -, h⟩ := bind_eq_ok_iff.1 h
    obtain ⟨as, text, texts, settings, bound, written, compiled, join, prelude⟩ :=
      Statement.join_of_update h
    refine ⟨entity, text :: texts, settings, resolved, ?_, by simpa [settingsOf] using join, prelude⟩
    exact bind_eq_ok_iff.2 ⟨_, bind_eq_ok_iff.2 ⟨as, bound, rfl⟩,
      mapM_eq_ok_iff.2 (.cons written (mapM_eq_ok_iff.1 compiled))⟩

/-- Where its texts can be written, a statement over the rows of a query fails only where one of
them cannot be read or their settings cannot be joined. -/
theorem reading_statement (resolved : b.resolve mapping = .ok entity)
    (keyed : entity.keys = .ok keys) (written : b.queryTexts entity operation = .ok texts)
    (some : texts ≠ []) : Reading (b.statement mapping operation) := by
  have shape (query : Query) : Reading (checkShape entity query) := by
    unfold checkShape
    split
    · exact .ok _
    · exact .unsupported _
  obtain ⟨queries, all, written⟩ := bind_eq_ok_iff.1 written
  cases operation with
  | insert rows =>
    obtain rfl := Except.ok.inj all
    exact absurd (Except.ok.inj written).symm some
  | delete query =>
    obtain rfl := Except.ok.inj all
    obtain ⟨text, -, first, -, rfl⟩ := List.forall₂_cons_left_iff.1 (mapM_eq_ok_iff.1 written)
    refine .map _ (.bind_of_eq resolved ((shape query).bind fun _ => .bind_of_eq first ?_))
    exact .bind_of_eq keyed ((Reading.derived text).bind fun _ => .ok _)
  | update query updater =>
    obtain ⟨assigned, bound, all⟩ := bind_eq_ok_iff.1 all
    obtain rfl := Except.ok.inj all
    obtain ⟨text, others, first, rest, rfl⟩ :=
      List.forall₂_cons_left_iff.1 (mapM_eq_ok_iff.1 written)
    refine .map _ (.bind_of_eq resolved ((shape query).bind fun _ => .bind_of_eq bound ?_))
    refine .bind_of_eq keyed (.bind_of_eq first ((Reading.derived text).bind fun derived => ?_))
    exact (Statement.reading_assignments (mapM_eq_ok_iff.2 rest) _).bind fun _ => .ok _

/-- Only an operation that reads no query can have nothing to do. -/
theorem texts_of_statement_none (h : b.statement mapping operation = .ok none)
    (written : b.queryTexts entity operation = .ok texts) : texts = [] := by
  cases operation with
  | insert rows => exact (Except.ok.inj written).symm
  | delete query => simpa using map_eq_ok_iff.1 h
  | update query updater => simpa using map_eq_ok_iff.1 h

/-- The settings that run before a statement are the union of those of its texts exactly if its
first text, that of its rows, repeats no variable. Then texts that give one variable two values have
no statement. -/
theorem prelude_isUnion_iff (b : Bulk) (mapping : Except Error Entity) (operation : Operation) :
    (∀ s, b.statement mapping operation = .ok (some s) →
      ∃ entity texts settings, b.resolve mapping = .ok entity ∧
        b.queryTexts entity operation = .ok texts ∧
        Setting.join (settingsOf (texts.take 1)) (settingsOf (texts.drop 1)) = .ok settings ∧
        s.prelude = settings.map Setting.statement ∧
        (Setting.IsUnion settings (settingsOf texts) ↔
          ((settingsOf (texts.take 1)).map Setting.name).Nodup)) ∧
    ∀ entity keys texts, b.resolve mapping = .ok entity → entity.keys = .ok keys →
      b.queryTexts entity operation = .ok texts →
      ((settingsOf (texts.take 1)).map Setting.name).Nodup → ¬ Setting.Agree (settingsOf texts) →
      ∃ e, b.statement mapping operation = .error e ∧ e.IsUnreadable := by
  have whole (texts : List Sql) :
      settingsOf (texts.take 1) ++ settingsOf (texts.drop 1) = settingsOf texts := by
    rw [settingsOf, settingsOf, ← List.flatMap_append, List.take_append_drop]
    rfl
  refine ⟨fun s h => ?_, fun entity keys texts resolved keyed written once differ => ?_⟩
  · obtain ⟨entity, texts, settings, resolved, written, join, prelude⟩ := join_of_statement h
    refine ⟨entity, texts, settings, resolved, written, join, prelude, ?_⟩
    rw [← whole texts]
    exact Setting.isUnion_join_iff join
  · obtain ⟨why, fault⟩ := Setting.exists_error_of_join once (whole texts ▸ differ)
    have nonempty : texts ≠ [] := by
      rintro rfl
      exact differ nofun
    have reads := reading_statement resolved keyed written nonempty
    cases made : b.statement mapping operation with
    | error e => exact ⟨e, rfl, reads e made⟩
    | ok found =>
      cases found with
      | none => exact absurd (texts_of_statement_none made written) nonempty
      | some s =>
        obtain ⟨entity', texts', settings, resolved', written', join, -⟩ := join_of_statement made
        obtain rfl : entity = entity' := Except.ok.inj (resolved.symm.trans resolved')
        obtain rfl : texts = texts' := Except.ok.inj (written.symm.trans written')
        rw [fault] at join
        cases join

def orders : Entity :=
  ⟨"Order", ⟨none, ⟨"orders", by decide, by decide⟩⟩,
    [{ member := "number", name := ⟨"number", by decide, by decide⟩, isKey := true },
     { member := "total", name := ⟨"total", by decide, by decide⟩ }]⟩

/-- Queries over the orders of a tenant, with the settings that a value of them needs. -/
def tenant (settings : String) : QueryWriter := fun _ q =>
  .ok (match q.projection? with
    | none => "SET app.tenant = 1; SELECT o.number FROM orders AS o".toList
    | some _ => settings.toList ++ " SELECT o.total + 1 FROM orders AS o".toList)

/-- Adds to the total of each order. -/
def raise : Operation := .update .all (.init "Order"
  [.assign "total" (.binary .add (.field "total") (.literal (.int 1)))])

/-- A variable that both texts set comes once where they agree about it, and nothing is made where
they do not. -/
theorem prelude_isUnion_iff_tenant :
    (∃ s settings,
      statement ⟨tenant "set App.Tenant to 1; SET b.c = 'x';", {}⟩ (.ok orders) raise =
        .ok (some s) ∧
      s.prelude = ["SET app.tenant = 1;".toList, "SET b.c = 'x';".toList] ∧
      s.prelude = settings.map Setting.statement ∧
      Setting.IsUnion settings (settingsOf [
        "SET app.tenant = 1; SELECT o.number FROM orders AS o".toList,
        "set App.Tenant to 1; SET b.c = 'x'; SELECT o.total + 1 FROM orders AS o".toList])) ∧
    ∃ e, statement ⟨tenant "SET app.tenant = 2;", {}⟩ (.ok orders) raise = .error e ∧
      e.IsUnreadable := by
  constructor
  · have evaluated : (statement ⟨tenant "set App.Tenant to 1; SET b.c = 'x';", {}⟩ (.ok orders)
        raise).toOption.map (fun s => s.map Statement.prelude) =
          some (some ["SET app.tenant = 1;".toList, "SET b.c = 'x';".toList]) := by decide +kernel
    obtain ⟨s, made, lines⟩ : ∃ s, statement ⟨tenant "set App.Tenant to 1; SET b.c = 'x';", {}⟩
        (.ok orders) raise = .ok (some s) ∧
          s.prelude = ["SET app.tenant = 1;".toList, "SET b.c = 'x';".toList] := by
      revert evaluated
      generalize statement _ _ _ = made
      rcases made with e | - | s <;> simp [Except.toOption]
    obtain ⟨entity, texts, settings, resolved, written, -, prelude, union⟩ :=
      (prelude_isUnion_iff _ _ _).1 s made
    obtain rfl : orders = entity := Except.ok.inj resolved
    obtain rfl := Except.ok.inj written
    exact ⟨s, settings, made, lines, prelude, union.2 (by decide +kernel)⟩
  · exact (prelude_isUnion_iff _ _ _).2 orders _ _ rfl rfl rfl
      (by decide +kernel) (by decide +kernel)

/-- A text that sets a variable to two values is not refused, and both settings run. -/
theorem not_isUnion_repeated :
    let text := "SET app.tenant = 1; SET app.tenant = 2; SELECT o.number FROM orders AS o".toList
    ∃ s, statement ⟨fun _ _ => .ok text, {}⟩ (.ok orders) (.delete .all) = .ok (some s) ∧
      s.prelude = ["SET app.tenant = 1;".toList, "SET app.tenant = 2;".toList] ∧
      ¬ Setting.Agree (settingsOf [text]) :=
  ⟨_, by cbv, by cbv, by decide +kernel⟩

end Bulk

end BulkSql
