import BulkSql.Bulk
import BulkSql.Proofs.Embedding
import BulkSql.Proofs.Reading

/-!
An update or a delete of the rows of a written query. What is read back from the texts of the query
and of the selected values is put together to the statement that could have been written at once.
-/
namespace BulkSql

/-! ### Settings that agree -/

namespace Setting

/-- No two settings give one variable different values. -/
def Agree (xs : List Setting) : Prop := ∀ x ∈ xs, ∀ y ∈ xs, x.name = y.name → x.value = y.value

theorem Agree.subset {xs ys : List Setting} (h : Agree ys) (sub : xs ⊆ ys) : Agree xs :=
  fun x hx y hy => h x (sub hx) y (sub hy)

theorem exists_merge (joined incoming : List Setting) (h : Agree (joined ++ incoming)) :
    ∃ settings, merge joined incoming = (settings, none) ∧ settings ⊆ joined ++ incoming := by
  fun_induction merge joined incoming with
  | case1 joined => exact ⟨joined, rfl, by simp⟩
  | case2 joined s rest found ih =>
    obtain ⟨settings, e, sub⟩ := ih (by simpa using h)
    exact ⟨settings, e, by simpa using sub⟩
  | case3 joined s rest t found same ih =>
    have fewer : joined ++ rest ⊆ joined ++ s :: rest :=
      List.append_subset.2 ⟨by simp, fun x hx => by simp [hx]⟩
    obtain ⟨settings, e, sub⟩ := ih (h.subset fewer)
    exact ⟨settings, e, List.Subset.trans sub fewer⟩
  | case4 joined s rest t found differ =>
    have name : t.name = s.name := by simpa using List.find?_some found
    exact absurd (h t (by simp [List.mem_of_find?_eq_some found]) s (by simp) name) differ

/-- Settings that agree can be joined, and nothing is added. -/
theorem exists_join {joined incoming : List Setting} (h : Agree (joined ++ incoming)) :
    ∃ settings, join joined incoming = .ok settings ∧ settings ⊆ joined ++ incoming := by
  obtain ⟨settings, e, sub⟩ := exists_merge joined incoming h
  exact ⟨settings, by simp [join, e], sub⟩

end Setting

namespace Captures

/-- No name is captured twice. -/
theorem nodup_of_ofVisits {vs : List Visit} {captures : Captures}
    (h : ofVisits [] vs = .ok captures) : (captures.map Prod.fst).Nodup := by
  refine ofVisits_preserves (P := fun cs => (cs.map Prod.fst).Nodup)
    (fun cs name value _ distinct fresh => ?_) (by simp) h
  rw [List.map_append, List.map_singleton]
  refine List.nodup_append_comm.1 (List.nodup_cons.2 ⟨fun used => ?_, distinct⟩)
  obtain ⟨c, mem, same⟩ := List.mem_map.1 used
  exact fresh c mem same

end Captures

theorem Query.negatesZero_selecting {q : Query} {e : Expr} (hq : q.negatesZero = false)
    (he : e.negatesZero = false) : (q.selecting e).negatesZero = false := by
  simp only [negatesZero, Bool.or_eq_false_iff] at hq ⊢
  exact ⟨⟨he, hq.1.2⟩, hq.2⟩

namespace Select

open Lexeme (Phrase)

variable {space : SettingSpace} {entity : Entity} {q : Query} {sql : Sql}

/-- The settings of a single written query agree. -/
theorem agree_writer (h : writer space entity q = .ok sql) :
    Setting.Agree (splitPrelude sql).1 := by
  obtain ⟨captures, visited, split⟩ := splitPrelude_writer h
  have distinct : (captures.map Prod.fst).Nodup := Captures.nodup_of_ofVisits visited
  rw [split]
  intro x hx y hy name
  obtain ⟨c, hc, rfl⟩ := List.mem_map.1 hx
  obtain ⟨d, hd, rfl⟩ := List.mem_map.1 hy
  have same : c.1 = d.1 := by simpa [setting, SettingSpace.setting, String.toList_inj] using name
  rw [List.inj_on_of_nodup_map distinct hc hd same]

/-- A selected value is moved to another name as if it had been written over it. -/
theorem exists_projection {e : Expr} (hq : q.negatesZero = false) (he : e.negatesZero = false)
    (h : writer space entity (q.selecting e) = .ok sql) :
    ∃ p, Projection.ofSql sql = .ok p ∧ p.prelude = (splitPrelude sql).1 ∧
      ∀ target, p.realias target = .ok (((scope space entity).moveTo target).text e) := by
  obtain ⟨source, reference, read⟩ := projection_of_writer (Query.negatesZero_selecting hq he) h
  refine ⟨_, read, rfl, fun target => ?_⟩
  obtain ⟨c, row, -⟩ := rowName_eq entity.table.name.name
  have value : Phrase ((scope space entity).lexemes e) True :=
    ((scope space entity).phrase_lexemes (isWord_rowName _) e (not_isRefused_of_writer h)).congr
      (by simp [he])
  simp only [Projection.realias, reference]
  exact TextScope.moveReference_text (s := scope space entity) (by simp [scope, row])
    (map_toLower_rowName _) value

end Select

/-! ### Assignments -/

namespace Assigned

/-- The parameter of an assignment. NULL has none, and neither has what is computed. -/
def params : Assigned → List Value
  | constant v => if v.isNull then [] else [v]
  | computed _ => []

/-- The right-hand side of an assignment behind `n` parameters. -/
def text (s : TextScope) (n : Nat) : Assigned → Sql
  | constant v => if v.isNull then "NULL".toList else '$' :: (toString (n + 1)).toList
  | computed e => s.text e

def fragment (s : TextScope) : Assigned → Fragment
  | constant v => if v.isNull then .raw "NULL".toList else .bind v
  | computed e => .raw (s.text e)

theorem fragment_spec (s : TextScope) (n : Nat) (a : Assigned) :
    Fragment.numbered n (a.fragment s).pieces = a.text s n ∧ (a.fragment s).params = a.params ∧
      (a.fragment s).placeholderCount = a.params.length := by
  cases a with
  | computed e => exact ⟨List.append_nil _, rfl, rfl⟩
  | constant v =>
    simp only [fragment, text, params]
    split <;> exact ⟨List.append_nil _, rfl, rfl⟩

/-- The expression that is computed, if the value is no constant. -/
def computed? : Assigned → Option Expr
  | constant _ => none
  | computed e => some e

end Assigned

namespace Assignment

/-- Assignments behind `n` parameters, as they stand behind SET. -/
def texts (s : TextScope) (n : Nat) : List Assignment → List Sql
  | [] => []
  | a :: rest =>
    (a.column.name.toSql ++ (" = ".toList ++ a.value.text s n)) ::
      texts s (n + a.value.params.length) rest

def fragment (s : TextScope) (a : Assignment) : Fragment :=
  .raw (a.column.name.toSql ++ " = ".toList) ++ a.value.fragment s

theorem texts_map_fragment (s : TextScope) (n : Nat) (as : List Assignment) :
    Fragment.texts n (as.map (fragment s)) = texts s n as := by
  induction as generalizing n with
  | nil => rfl
  | cons a as ih =>
    obtain ⟨text, -, count⟩ := a.value.fragment_spec s n
    have count' : (a.fragment s).placeholderCount = a.value.params.length := by
      simp [fragment, count]
    have text' : Fragment.numbered n (a.fragment s).pieces =
        a.column.name.toSql ++ (" = ".toList ++ a.value.text s n) := by
      rw [← text, ← List.append_assoc]
      rfl
    simp only [List.map_cons, Fragment.texts, texts, text', count', ih]

theorem flatMap_params_fragment (s : TextScope) (as : List Assignment) :
    (as.map (fragment s)).flatMap Fragment.params = as.flatMap fun a => a.value.params := by
  rw [List.flatMap_map]
  exact List.flatMap_congr fun a _ => (a.value.fragment_spec s 0).2.1

end Assignment

/-! ### Statements -/

namespace Statement

open Select (writer scope)

variable {space : SettingSpace} {options : Options} {entity : Entity} {query : Query}

/-- The scope of what is computed: the rows are those of the updated table. -/
abbrev updateScope (space : SettingSpace) (options : Options) (entity : Entity) : TextScope :=
  (scope space entity).moveTo options.updateAlias.toList

/-- The queries that are written for the assignments of an update. -/
def selections (query : Query) (as : List Assignment) : List Query :=
  (as.filterMap fun a => a.value.computed?).map query.selecting

/-- A computed value is read back from a query of its own, whose settings are joined to the others. -/
theorem assignedFragment_computed_iff {write : QueryWriter} {e : Expr} {f : Fragment}
    {prelude settings : List Setting} :
    assignedFragment write options entity query prelude (.computed e) = .ok (f, settings) ↔
      ∃ sql p moved, write entity (query.selecting e) = .ok sql ∧ Projection.ofSql sql = .ok p ∧
        Setting.join prelude p.prelude = .ok settings ∧
        p.realias options.updateAlias.toList = .ok moved ∧ f = .raw moved := by
  simp only [assignedFragment, bind_eq_ok_iff, mapError_eq_ok_iff, pure, Except.pure,
    Except.ok.injEq, Prod.mk.injEq]
  constructor
  · rintro ⟨sql, written, p, read, _, join, moved, again, rfl, rfl⟩
    exact ⟨sql, p, moved, written, read, join, again, rfl⟩
  · rintro ⟨sql, p, moved, written, read, join, again, rfl⟩
    exact ⟨sql, written, p, read, _, join, moved, again, rfl, rfl⟩

theorem assignments_cons_iff {write : QueryWriter} {a : Assignment} {as : List Assignment}
    {set : List Fragment} {prelude settings : List Setting} :
    assignments write options entity query prelude (a :: as) = .ok (set, settings) ↔
      ∃ f joined rest,
        assignedFragment write options entity query prelude a.value = .ok (f, joined) ∧
        assignments write options entity query joined as = .ok (rest, settings) ∧
        set = (.raw (a.column.name.toSql ++ " = ".toList) ++ f) :: rest := by
  simp only [assignments, bind_eq_ok_iff, Prod.exists, pure, Except.pure, Except.ok.injEq,
    Prod.mk.injEq]
  constructor
  · rintro ⟨f, joined, first, rest, _, others, rfl, rfl⟩
    exact ⟨f, joined, rest, first, others, rfl⟩
  · rintro ⟨f, joined, rest, first, others, rfl⟩
    exact ⟨f, joined, first, rest, _, others, rfl, rfl⟩

/-- Assignments stand behind SET over the name of the updated table, where the settings agree. -/
theorem exists_assignments (sound : query.negatesZero = false) {as : List Assignment}
    (values : ∀ a ∈ as, ∀ e, a.value = .computed e → e.negatesZero = false) {texts : List Sql}
    (compiled : (selections query as).mapM (writer space entity) = .ok texts)
    {prelude : List Setting}
    (agree : Setting.Agree (prelude ++ texts.flatMap fun t => (splitPrelude t).1)) :
    ∃ settings, assignments (writer space) options entity query prelude as =
      .ok (as.map (Assignment.fragment (updateScope space options entity)), settings) := by
  induction as generalizing texts prelude with
  | nil => exact ⟨prelude, rfl⟩
  | cons a as ih =>
    simp only [List.forall_mem_cons] at values
    obtain ⟨column, value⟩ := a
    cases value with
    | constant v =>
      obtain ⟨settings, rest⟩ := ih values.2 compiled agree
      exact ⟨settings, assignments_cons_iff.2 ⟨_, _, _, rfl, rest, rfl⟩⟩
    | computed e =>
      obtain ⟨t, ts, first, others, rfl⟩ :=
        List.forall₂_cons_left_iff.1 (mapM_eq_ok_iff.1 compiled)
      obtain ⟨p, read, own, moved⟩ := Select.exists_projection sound (values.1 e rfl) first
      rw [List.flatMap_cons, ← own, ← List.append_assoc] at agree
      obtain ⟨joined, join, sub⟩ := Setting.exists_join
        (agree.subset (List.subset_append_left _ _))
      -- what is joined are settings that were there before, so the rest agrees with it
      have agree' : Setting.Agree (joined ++ ts.flatMap fun t => (splitPrelude t).1) :=
        agree.subset (List.append_subset.2
          ⟨List.subset_append_of_subset_left _ sub, List.subset_append_right _ _⟩)
      obtain ⟨settings, rest⟩ := ih values.2 (mapM_eq_ok_iff.2 others) agree'
      exact ⟨settings, assignments_cons_iff.2 ⟨_, joined, _,
        assignedFragment_computed_iff.2 ⟨t, p, _, first, read, join, moved _, rfl⟩, rest, rfl⟩⟩

/-- Two texts do not set one variable to different values. -/
def SettingsAgree (t u : Sql) : Prop :=
  ∀ x ∈ (splitPrelude t).1, ∀ y ∈ (splitPrelude u).1, x.name = y.name → x.value = y.value

instance : Std.Symm SettingsAgree := ⟨fun _ _ h x hx y hy name => (h y hy x hx name.symm).symm⟩

theorem exists_of_mapM {qs : List Query} {texts : List Sql}
    (h : qs.mapM (writer space entity) = .ok texts) :
    ∀ t ∈ texts, ∃ q, writer space entity q = .ok t := by
  have each := mapM_eq_ok_iff.1 h
  clear h
  induction each with
  | nil => simp
  | cons first _ ih => exact List.forall_mem_cons.2 ⟨⟨_, first⟩, ih⟩

/-- The settings of written texts agree if those of each two texts do. -/
theorem agree_of_pairwise {texts : List Sql}
    (written : ∀ t ∈ texts, ∃ q, writer space entity q = .ok t) (h : texts.Pairwise SettingsAgree) :
    Setting.Agree (texts.flatMap fun t => (splitPrelude t).1) := by
  have alone : ∀ t ∈ texts, SettingsAgree t t := by
    intro t ht
    obtain ⟨q, e⟩ := written t ht
    exact Select.agree_writer e
  intro x hx y hy
  obtain ⟨t, ht, hx⟩ := List.mem_flatMap.1 hx
  obtain ⟨u, hu, hy⟩ := List.mem_flatMap.1 hy
  exact List.Pairwise.forall_of_forall alone h ht hu x hx y hy

/-! ### Letter by letter -/

/-- The query with the text `query` under its name, and an equation for each key column. -/
def joinText (options : Options) (entity : Entity) (query : Sql) : Sql :=
  "(".toList ++ (query ++ (") AS ".toList ++ (options.joinAlias.toList ++ (" WHERE ".toList ++
    " AND ".toList.intercalate ((entity.columns.filter Column.isKey).map fun c =>
      (options.updateAlias.toList ++ '.' :: c.name.toSql) ++
        (" = ".toList ++ (options.joinAlias.toList ++ '.' :: c.name.toSql)))))))

/-- The DELETE of the rows of a query. -/
def deleteText (options : Options) (s : TextScope) (q : Query) : Sql :=
  "DELETE FROM ".toList ++ (s.entity.table.toSql ++ (" AS ".toList ++ (options.updateAlias.toList ++
    (" USING ".toList ++ joinText options s.entity (Select.text s q)))))

/-- The UPDATE of the rows of a query. What is computed is written over the name of the table. -/
def updateText (options : Options) (s : TextScope) (q : Query) (as : List Assignment) : Sql :=
  "UPDATE ".toList ++ (s.entity.table.toSql ++ (" AS ".toList ++ (options.updateAlias.toList ++
    (" SET ".toList ++
      (", ".toList.intercalate (Assignment.texts (s.moveTo options.updateAlias.toList) 0 as) ++
        (" FROM ".toList ++ joinText options s.entity (Select.text s q)))))))

section

variable {sql : Sql} {derived : DerivedQuery}

theorem exists_delete (keyed : entity.columns.filter Column.isKey ≠ [])
    (read : DerivedQuery.ofSql sql = .ok derived)
    (body : derived.body = Select.text (scope space entity) query) :
    ∃ s, delete options entity sql = .ok s ∧
      s.sql = deleteText options (scope space entity) query ∧ s.params = [] := by
  refine ⟨_, delete_eq (Entity.keys_eq_ok_iff.2 ⟨rfl, keyed⟩) read, ?_, rfl⟩
  rw [Statement.sql, Fragment.sql_raw, body, target, List.append_assoc, List.append_assoc]
  rfl

theorem exists_update (keyed : entity.columns.filter Column.isKey ≠ [])
    (compiled : writer space entity query = .ok sql) (read : DerivedQuery.ofSql sql = .ok derived)
    (body : derived.body = Select.text (scope space entity) query)
    {updater : Expr} {as : List Assignment} (bound : Assignment.ofUpdater entity updater = .ok as)
    {settings : List Setting}
    (made : assignments (writer space) options entity query derived.prelude as =
      .ok (as.map (Assignment.fragment (updateScope space options entity)), settings)) :
    ∃ s, update (writer space) options entity query updater = .ok s ∧
      s.sql = updateText options (scope space entity) query as ∧
      s.params = as.flatMap fun a => a.value.params := by
  let set := Fragment.commaList (as.map (Assignment.fragment (updateScope space options entity)))
  refine ⟨_, update_eq_ok_iff.2 ⟨as, _, sql, derived, _, settings, bound,
    Entity.keys_eq_ok_iff.2 ⟨rfl, keyed⟩, compiled, read, made, rfl⟩, ?_, ?_⟩
  · have assigned : set.sql = ", ".toList.intercalate
        (Assignment.texts (updateScope space options entity) 0 as) := by
      rw [Fragment.sql, Fragment.numbered_commaList, Assignment.texts_map_fragment]
    rw [Statement.sql, Fragment.sql_between, assigned, body, target]
    simp only [List.append_assoc]
    rfl
  · rw [← Assignment.flatMap_params_fragment, ← Fragment.params_commaList]
    exact List.append_nil _

end

end Statement

namespace Bulk

open Select (writer scope)
open Statement (selections SettingsAgree deleteText updateText)

variable {space : SettingSpace} {options : Options} {entity : Entity} {query : Query} {sql : Sql}

/-- The statements for a query over whole rows that can be written, letter by letter. No text that
was written is refused where it is read back. NULL stands in the text, other constants are parameters
in their order, and what is computed is written as if the rows of the query had the name that the
statement gives the table. -/
theorem sql_of_writer (valid : options.validate = .ok ()) (mapped : entity.validate = .ok ())
    (keyed : entity.columns.filter Column.isKey ≠ []) (whole : query.isEntityShaped = true)
    (sound : query.negatesZero = false) (compiled : writer space entity query = .ok sql) :
    (∃ s, deleteStatement ⟨writer space, options⟩ (.ok entity) query = .ok s ∧
      s.sql = deleteText options (scope space entity) query ∧ s.params = []) ∧
    ∀ updater as texts, Assignment.ofUpdater entity updater = .ok as →
      (∀ a ∈ as, ∀ e, a.value = .computed e → e.negatesZero = false) →
      (selections query as).mapM (writer space entity) = .ok texts →
      (sql :: texts).Pairwise SettingsAgree →
      ∃ s, updateStatement ⟨writer space, options⟩ (.ok entity) query updater = .ok s ∧
        s.sql = updateText options (scope space entity) query as ∧
        s.params = as.flatMap fun a => a.value.params := by
  have resolved : resolve ⟨writer space, options⟩ (.ok entity) = .ok entity := by
    simp only [resolve, valid, mapped, bind, Except.bind]
    rfl
  have shaped : checkShape entity query = .ok () := if_pos whole
  have columns : entity.columns ≠ [] := fun none => keyed (by simp [none])
  have derived := Select.derived_of_writer columns whole sound compiled
  refine ⟨?_, fun updater as texts bound values written agree => ?_⟩
  · simp only [deleteStatement, resolved, shaped, compiled, bind, Except.bind]
    exact Statement.exists_delete keyed derived rfl
  · have each := List.forall_mem_cons.2 ⟨⟨query, compiled⟩, Statement.exists_of_mapM written⟩
    have settings := Statement.agree_of_pairwise each agree
    rw [List.flatMap_cons] at settings
    obtain ⟨prelude, made⟩ := Statement.exists_assignments sound values written settings
    simp only [updateStatement, resolved, shaped, bind, Except.bind]
    exact Statement.exists_update keyed compiled derived rfl bound made

/-- A table of which a column is called as its rows are. -/
def counters : Entity :=
  ⟨"Counter", ⟨none, ⟨"counters", by decide, by decide⟩⟩,
    [{ member := "key", name := ⟨"key", by decide, by decide⟩, isKey := true },
     { member := "count", name := ⟨"c", by decide, by decide⟩ },
     { member := "note", name := ⟨"Note", by decide, by decide⟩ }]⟩

/-- The settings of a program. -/
def app : SettingSpace := ⟨"app", by decide +kernel⟩

def step : Expr := .captured "step" (.int 5)

/-- The rows that are above a captured value. -/
def high : Query := { filter? := some (.binary .gt (.field "count") step) }

/-- Only the names of rows are moved: no column, no setting and no text is. -/
theorem sql_of_writer_counters :
    (∃ s, deleteStatement ⟨writer app, {}⟩ (.ok counters) high = .ok s ∧ s.sql =
      "DELETE FROM counters AS ut1 USING (SELECT c.key, c.c, c.\"Note\" FROM counters AS c ".toList ++
        "WHERE (c.c > current_setting('app.step')::int8)) AS jt1 WHERE ut1.key = jt1.key".toList) ∧
    ∃ s, updateStatement ⟨writer app, {}⟩ (.ok counters) high (.init "Counter"
        [.assign "count" (.binary .sub (.field "count") step),
          .assign "note" (.literal (.text "c.c"))]) = .ok s ∧
      s.sql = "UPDATE counters AS ut1 SET c = (ut1.c - current_setting('app.step')::int8), ".toList ++
        "\"Note\" = $1 FROM (SELECT c.key, c.c, c.\"Note\" FROM counters AS c ".toList ++
        "WHERE (c.c > current_setting('app.step')::int8)) AS jt1 WHERE ut1.key = jt1.key".toList ∧
      s.params = [.text "c.c"] := by
  obtain ⟨sql, rows⟩ : ∃ sql, writer app counters high = .ok sql := ⟨_, rfl⟩
  obtain ⟨value, selected⟩ : ∃ value, writer app counters
      (high.selecting (.binary .sub (.field "count") step)) = .ok value := ⟨_, rfl⟩
  have valid : Options.validate {} = .ok () := rfl
  have mapped : counters.validate = .ok () := rfl
  obtain ⟨⟨s, made, text, -⟩, update⟩ := sql_of_writer valid mapped (by decide) rfl rfl rows
  refine ⟨⟨s, made, text.trans (by decide +kernel)⟩, ?_⟩
  have settings {q : Query} {sql : Sql} (h : writer app counters q = .ok sql)
      (visited : Captures.ofVisits [] (Select.visits counters q) = .ok [("step", .int 5)]) :
      (splitPrelude sql).1 = [Select.setting app ("step", .int 5)] := by
    obtain ⟨_, visited', split⟩ := Select.splitPrelude_writer h
    obtain rfl := Except.ok.inj (visited.symm.trans visited')
    rw [split]
    rfl
  have agree : [sql, value].Pairwise SettingsAgree := by
    simp [SettingsAgree, settings rows rfl, settings selected rfl]
  have bound : Assignment.ofUpdater counters (.init "Counter"
      [.assign "count" (.binary .sub (.field "count") step), .assign "note" (.literal (.text "c.c"))]) =
        .ok [⟨counters.columns[1], .computed (.binary .sub (.field "count") step)⟩,
          ⟨counters.columns[2], .constant (.text "c.c")⟩] := rfl
  have written : [high.selecting (.binary .sub (.field "count") step)].mapM (writer app counters) =
      .ok [value] := by
    rw [List.mapM_cons, selected]
    rfl
  obtain ⟨s, made, text, params⟩ := update _ _ [value] bound (by simp [step, Expr.negatesZero]) written agree
  exact ⟨s, made, text.trans (by decide +kernel), params⟩

end Bulk

end BulkSql
