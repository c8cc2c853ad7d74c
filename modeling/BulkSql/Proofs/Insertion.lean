import BulkSql.Bulk
import BulkSql.Proofs.Numbering
import BulkSql.Proofs.Traversal

/-!
An INSERT stores each cell of its rows once, row by row. A cell that cannot be stored is reported in
the same order.
-/
namespace BulkSql

/-- Only conversions fail on the way into a column. -/
theorem Column.exists_of_toStore_error {c : Column} {v : Value} {e : Error}
    (h : c.toStore v = .error e) : ∃ column reason, e = .conversion column reason := by
  unfold Column.toStore at h
  split at h
  · cases h
  · split at h
    · cases h
    · obtain ⟨fault, -, rfl⟩ := mapError_eq_error_iff.1 h
      unfold Column.conversionError
      split
      · exact ⟨_, _, rfl⟩
      · exact ⟨_, _, rfl⟩

namespace Statement

/-! ### Cells -/

/-- The cell of a row in a column is stored as `w`. -/
def Stores (row : Row) (c : Column) (w : Value) : Prop :=
  ∃ v, row c.member = some v ∧ c.toStore v = .ok w

/-- Why the cell of a row in a column cannot be stored. -/
inductive Refuses (entity : Entity) (row : Row) (c : Column) : Error → Prop
  | notExposed (missing : row c.member = none) :
    Refuses entity row c (.metadata (.notExposed entity.name c.member))
  | conversion {v : Value} {column reason : String} (found : row c.member = some v)
    (failed : c.toStore v = .error (.conversion column reason)) :
    Refuses entity row c (.conversion column reason)

theorem cell_eq_ok_iff {entity : Entity} {row : Row} {c : Column} {w : Value} :
    cell entity row c = .ok w ↔ Stores row c w := by
  unfold cell Stores
  cases row c.member <;> simp

theorem cell_eq_error_iff {entity : Entity} {row : Row} {c : Column} {e : Error} :
    cell entity row c = .error e ↔ Refuses entity row c e := by
  unfold cell
  constructor
  · intro h
    cases found : row c.member with
    | none =>
      rw [found] at h
      cases h
      exact .notExposed found
    | some v =>
      rw [found] at h
      obtain ⟨column, reason, rfl⟩ := Column.exists_of_toStore_error h
      exact .conversion found h
  · rintro (missing | ⟨found, failed⟩)
    · simp [missing]
    · simp [found, failed]

section Grid

variable {entity : Entity} {columns : List Column} {rows : List Row}

theorem cells_eq_ok_iff {row : Row} {values : List Value} :
    cells entity columns row = .ok values ↔ List.Forall₂ (Stores row) columns values := by
  simp only [cells, mapM_eq_ok_iff, cell_eq_ok_iff]

theorem not_refuses_of_stores {row : Row} {c : Column} {w : Value} {e : Error}
    (stored : Stores row c w) : ¬ Refuses entity row c e := by
  intro refused
  have accepted : cell entity row c = .ok w := cell_eq_ok_iff.2 stored
  rw [cell_eq_error_iff.2 refused] at accepted
  cases accepted

/-- The cells of a row that has values. -/
theorem stores_of_cells {row : Row} {values : List Value}
    (h : cells entity columns row = .ok values) : ∀ c ∈ columns, ∃ w, Stores row c w := by
  intro c hc
  obtain ⟨j, hj, rfl⟩ := List.getElem_of_mem hc
  obtain ⟨same, each⟩ := List.forall₂_iff_get.1 (cells_eq_ok_iff.1 h)
  exact ⟨_, each j hj (same ▸ hj)⟩

/-- The error of a traversal is that of the first cell that is refused, row by row. -/
theorem exists_first_refused {e : Error} (h : rows.mapM (cells entity columns) = .error e) :
    ∃ (i : Nat) (hi : i < rows.length) (j : Nat) (hj : j < columns.length),
      Refuses entity rows[i] columns[j] e ∧
        ∀ (i' : Nat) (hi' : i' < rows.length) (j' : Nat) (hj' : j' < columns.length),
          j' + i' * columns.length < j + i * columns.length →
            ∃ w, Stores rows[i'] columns[j'] w := by
  obtain ⟨i, hi, failed, rowsBefore⟩ := mapM_eq_error_iff.1 h
  obtain ⟨j, hj, refused, cellsBefore⟩ := mapM_eq_error_iff.1 failed
  refine ⟨i, hi, j, hj, cell_eq_error_iff.1 refused, fun i' hi' j' hj' earlier => ?_⟩
  rcases Nat.lt_trichotomy i' i with lt | rfl | gt
  · obtain ⟨values, whole⟩ := rowsBefore i' lt
    exact stores_of_cells whole _ (List.getElem_mem hj')
  · obtain ⟨w, stored⟩ := cellsBefore j' (by omega)
    exact ⟨w, cell_eq_ok_iff.1 stored⟩
  · have next : (i + 1) * columns.length ≤ i' * columns.length := Nat.mul_le_mul_right _ gt
    rw [Nat.add_mul] at next
    omega

/-- Rows of values are there for all rows if no cell is refused. -/
theorem exists_mapM_cells (all : ∀ row ∈ rows, ∀ c ∈ columns, ∃ w, Stores row c w) :
    ∃ values, rows.mapM (cells entity columns) = .ok values := by
  cases result : rows.mapM (cells entity columns) with
  | ok values => exact ⟨values, rfl⟩
  | error e =>
    obtain ⟨i, hi, j, hj, refused, -⟩ := exists_first_refused result
    obtain ⟨w, stored⟩ := all _ (List.getElem_mem hi) _ (List.getElem_mem hj)
    exact absurd refused (not_refuses_of_stores stored)

/-- There is a row of values for each row, and a value for each cell. -/
theorem forall₂_of_mapM_cells {values : List (List Value)}
    (h : rows.mapM (cells entity columns) = .ok values) :
    List.Forall₂ (fun row vs => List.Forall₂ (Stores row) columns vs) rows values := by
  simpa only [mapM_eq_ok_iff, cells_eq_ok_iff] using h

theorem length_of_mapM_cells {values : List (List Value)}
    (h : rows.mapM (cells entity columns) = .ok values) :
    values.length = rows.length ∧ ∀ vs ∈ values, vs.length = columns.length := by
  obtain ⟨count, each⟩ := List.forall₂_iff_get.1 (forall₂_of_mapM_cells h)
  refine ⟨count.symm, fun vs hvs => ?_⟩
  obtain ⟨i, hi, rfl⟩ := List.getElem_of_mem hvs
  exact (each i (count ▸ hi) hi).length_eq.symm

/-- The values of rows of one length, one row behind the other. -/
theorem getElem?_flatten {values : List (List Value)} {width : Nat}
    (h : ∀ vs ∈ values, vs.length = width) {i j : Nat} (hj : j < width) :
    values.flatten[j + i * width]? = values[i]? >>= fun vs => vs[j]? := by
  induction values generalizing i with
  | nil => simp
  | cons vs rest ih =>
    simp only [List.forall_mem_cons] at h
    cases i with
    | zero =>
      rw [List.flatten_cons, Nat.zero_mul, Nat.add_zero, List.getElem?_append_left (by omega)]
      rfl
    | succ i =>
      have behind : j + (i + 1) * width - vs.length = j + i * width := by
        rw [h.1, Nat.add_mul]
        omega
      rw [List.flatten_cons, List.getElem?_append_right (by rw [h.1, Nat.add_mul]; omega), behind]
      exact ih h.2

/-- The cell of row `i` and column `j` has its value behind those of `i` rows and `j` columns. -/
theorem getElem?_of_mapM_cells {values : List (List Value)}
    (h : rows.mapM (cells entity columns) = .ok values) {i j : Nat} (hi : i < rows.length)
    (hj : j < columns.length) :
    ∃ w, values.flatten[j + i * columns.length]? = some w ∧ Stores rows[i] columns[j] w := by
  obtain ⟨count, rowwise⟩ := List.forall₂_iff_get.1 (forall₂_of_mapM_cells h)
  obtain ⟨width, cellwise⟩ := List.forall₂_iff_get.1 (rowwise i hi (count ▸ hi))
  refine ⟨_, ?_, cellwise j hj (width ▸ hj)⟩
  have row : values[i]? = some values[i] := List.getElem?_eq_getElem _
  rw [getElem?_flatten (length_of_mapM_cells h).2 hj, row]
  exact List.getElem?_eq_getElem _

end Grid

/-! ### The text -/

/-- The places of the values of a row behind `n` parameters. -/
def groupText (width n : Nat) : Sql :=
  '(' :: (", ".toList.intercalate
    ((List.range width).map fun j => Fragment.placeholder (j + n + 1)) ++
    [')'])

/-- The INSERT of `count` rows. -/
def insertText (entity : Entity) (columns : List Column) (count : Nat) : Sql :=
  "INSERT INTO ".toList ++ (entity.table.toSql ++ (" (".toList ++
    (", ".toList.intercalate (columns.map fun c => c.name.toSql) ++ (") VALUES ".toList ++
      ", ".toList.intercalate ((List.range count).map fun i =>
        groupText columns.length (i * columns.length))))))

theorem texts_bind (n : Nat) (values : List Value) :
    Fragment.texts n (values.map .bind) =
      (List.range values.length).map fun j => Fragment.placeholder (j + n + 1) := by
  induction values generalizing n with
  | nil => rfl
  | cons v vs ih =>
    have first : Fragment.numbered n (Fragment.bind v).pieces = Fragment.placeholder (n + 1) :=
      List.append_nil _
    rw [List.map_cons, Fragment.texts, Fragment.placeholderCount_bind, ih, first, List.length_cons,
      List.range_succ_eq_map, List.map_cons, List.map_map, Nat.zero_add]
    refine congrArg (_ :: ·) (List.map_congr_left fun j _ => ?_)
    rw [Function.comp_apply, Nat.succ_eq_add_one, Nat.add_right_comm j 1 n, Nat.add_assoc j n 1]

theorem placeholderCount_group (values : List Value) :
    (group values).placeholderCount = values.length := by
  have binds :
      (values.map Fragment.bind).map Fragment.placeholderCount = values.map fun _ => 1 := by
    rw [List.map_map]
    rfl
  simp [group, Fragment.placeholderCount_commaList, binds]

theorem params_group (values : List Value) : (group values).params = values := by
  simp [group, Fragment.params_commaList, List.flatMap_map]

theorem numbered_group (n : Nat) (values : List Value) :
    Fragment.numbered n (group values).pieces = groupText values.length n := by
  have inner : Fragment.numbered n (Fragment.commaList (values.map .bind)).pieces =
      ", ".toList.intercalate ((List.range values.length).map fun j =>
        Fragment.placeholder (j + n + 1)) := by
    rw [Fragment.numbered_commaList, texts_bind]
  calc Fragment.numbered n (group values).pieces
      = '(' :: Fragment.numbered n
          ((Fragment.commaList (values.map .bind)).pieces ++ [.raw [')']]) := rfl
    _ = groupText values.length n := by
      rw [Fragment.numbered_append, inner]
      rfl

theorem texts_groups {values : List (List Value)} {width : Nat}
    (h : ∀ vs ∈ values, vs.length = width) (n : Nat) :
    Fragment.texts n (values.map group) =
      (List.range values.length).map fun i => groupText width (i * width + n) := by
  induction values generalizing n with
  | nil => rfl
  | cons vs rest ih =>
    simp only [List.forall_mem_cons] at h
    rw [List.map_cons, Fragment.texts, placeholderCount_group, numbered_group, h.1, ih h.2,
      List.length_cons, List.range_succ_eq_map, List.map_cons, List.map_map, Nat.zero_mul,
      Nat.zero_add]
    refine congrArg (_ :: ·) (List.map_congr_left fun i _ => ?_)
    rw [Function.comp_apply, Nat.succ_eq_add_one, Nat.add_mul, Nat.one_mul, Nat.add_assoc,
      Nat.add_comm n width]

theorem texts_columnNames (n : Nat) (columns : List Column) :
    Fragment.texts n (columnNames columns) = columns.map fun c => c.name.toSql := by
  induction columns generalizing n with
  | nil => rfl
  | cons c cs ih =>
    have name : Fragment.numbered n (Fragment.raw c.name.toSql).pieces = c.name.toSql :=
      List.append_nil _
    rw [columnNames, List.map_cons, Fragment.texts, name]
    exact congrArg _ (ih _)

theorem placeholderCount_columnNames (columns : List Column) :
    (Fragment.commaList (columnNames columns)).placeholderCount = 0 := by
  have none : (columnNames columns).map Fragment.placeholderCount = columns.map fun _ => 0 := by
    rw [columnNames, List.map_map]
    rfl
  rw [Fragment.placeholderCount_commaList, none]
  simp

section Body

variable {entity : Entity} {columns : List Column} {values : List (List Value)}

theorem sql_insertBody (h : ∀ vs ∈ values, vs.length = columns.length) :
    (insertBody entity columns values).sql = insertText entity columns values.length := by
  have names : Fragment.numbered 0 (Fragment.commaList (columnNames columns)).pieces =
      ", ".toList.intercalate (columns.map fun c => c.name.toSql) := by
    rw [Fragment.numbered_commaList, texts_columnNames]
  have groups : Fragment.numbered 0 (Fragment.commaList (values.map group)).pieces =
      ", ".toList.intercalate ((List.range values.length).map fun i =>
        groupText columns.length (i * columns.length)) := by
    rw [Fragment.numbered_commaList, texts_groups h]
    simp only [Nat.add_zero]
  have behind : (Fragment.commaList (columnNames columns)).pieces.count .param = 0 :=
    placeholderCount_columnNames columns
  rw [Fragment.sql, insertBody, Fragment.numbered_raw_append, Fragment.pieces_append,
    Fragment.numbered_append, names, behind, Fragment.numbered_raw_append, groups,
    List.append_assoc, List.append_assoc]
  rfl

theorem params_insertBody : (insertBody entity columns values).params = values.flatten := by
  have names : (columnNames columns).flatMap Fragment.params = [] := by
    simp [columnNames, List.flatMap_map]
  have groups : (values.map group).flatMap Fragment.params = values.flatten := by
    simp [List.flatMap_map, params_group, List.flatMap_id']
  simp only [insertBody, Fragment.params_append, Fragment.params_raw, Fragment.params_commaList,
    names, groups, List.nil_append]

theorem placeholderCount_insertBody :
    (insertBody entity columns values).placeholderCount = values.flatten.length := by
  have groups : (values.map group).map Fragment.placeholderCount = values.map List.length := by
    simp [placeholderCount_group]
  rw [insertBody, Fragment.placeholderCount_append, Fragment.placeholderCount_append,
    placeholderCount_columnNames, Fragment.placeholderCount_append,
    Fragment.placeholderCount_commaList, groups, List.length_flatten]
  simp

end Body

section Insert

variable {options : Options} {entity : Entity} {rows : List Row} {values : List (List Value)}

theorem insert_eq (someRow : rows ≠ []) (someColumn : entity.insertable ≠ []) :
    Statement.insert options entity rows =
      if options.maxParameters < rows.length * entity.insertable.length then
        .error (.validation (.tooManyCells rows.length entity.insertable.length
          (.ofList entity.table.toSql) options.maxParameters))
      else do
        let values ← rows.mapM (cells entity entity.insertable)
        return some
          ⟨.insert, entity.table.toSql, [], insertBody entity entity.insertable values⟩ := by
  simp only [Statement.insert, List.isEmpty_eq_false_iff.2 someRow,
    List.isEmpty_eq_false_iff.2 someColumn, Bool.or_self, Bool.false_eq_true, if_false]

/-- There is an INSERT for rows with cells, if these are within the limit and can all be stored. -/
theorem insert_eq_some_iff {s : Statement} :
    Statement.insert options entity rows = .ok (some s) ↔
      rows ≠ [] ∧ entity.insertable ≠ [] ∧
        rows.length * entity.insertable.length ≤ options.maxParameters ∧
        ∃ values, rows.mapM (cells entity entity.insertable) = .ok values ∧
          s = ⟨.insert, entity.table.toSql, [], insertBody entity entity.insertable values⟩ := by
  by_cases someRow : rows = []
  · simp [Statement.insert, someRow]
  by_cases someColumn : entity.insertable = []
  · simp [Statement.insert, someColumn]
  rw [insert_eq someRow someColumn]
  split
  · next tooMany => simp [someRow, someColumn, not_le.2 tooMany]
  · next within =>
    rw [bind_eq_ok_iff]
    simp only [someRow, someColumn, not_lt.1 within, ne_eq, not_false_eq_true, true_and]
    refine exists_congr fun values => and_congr_right fun _ => ?_
    simp [pure, Except.pure, eq_comm]

/-- The statement for rows of values has a parameter and a place for each of them. -/
theorem insertBody_spec (stored : rows.mapM (cells entity entity.insertable) = .ok values) :
    let body := insertBody entity entity.insertable values
    body.params = values.flatten ∧
      body.params.length = rows.length * entity.insertable.length ∧
      body.placeholderCount = body.params.length ∧
      body.sql = insertText entity entity.insertable rows.length := by
  obtain ⟨count, width⟩ := length_of_mapM_cells stored
  have length : values.flatten.length = rows.length * entity.insertable.length := by
    rw [List.length_flatten, List.map_congr_left width, List.map_const', List.sum_replicate,
      count, smul_eq_mul]
  intro body
  have params : body.params = values.flatten := params_insertBody
  refine ⟨params, params ▸ length, params ▸ placeholderCount_insertBody, ?_⟩
  rw [← count]
  exact sql_insertBody width

end Insert

end Statement

namespace Bulk

open Statement

/-- An INSERT of rows into the columns that the store does not make itself. Too many cells are
refused; else the first cell that cannot be stored, row by row, is reported; else each cell is the
parameter with its own number, and the statement is within the limit. -/
theorem insertStatement_grid {b : Bulk} {entity : Entity} {rows : List Row} {columns : List Column}
    (valid : b.options.validate = .ok ()) (mapped : entity.validate = .ok ()) (someRow : rows ≠ [])
    (supplied : columns = entity.columns.filter fun c => c.generation = .never)
    (someColumn : columns ≠ []) :
    (b.options.maxParameters < rows.length * columns.length →
      ∃ why, b.insertStatement (.ok entity) rows = .error (.validation why)) ∧
    (rows.length * columns.length ≤ b.options.maxParameters →
      ((∃ row ∈ rows, ∃ c ∈ columns, ∃ e, Refuses entity row c e) →
        ∃ (i : Nat) (hi : i < rows.length) (j : Nat) (hj : j < columns.length) (e : Error),
          Refuses entity rows[i] columns[j] e ∧
          (∀ (i' : Nat) (hi' : i' < rows.length) (j' : Nat) (hj' : j' < columns.length),
            j' + i' * columns.length < j + i * columns.length →
              ∃ w, Stores rows[i'] columns[j'] w) ∧
          b.insertStatement (.ok entity) rows = .error e) ∧
      ((∀ row ∈ rows, ∀ c ∈ columns, ∃ w, Stores row c w) →
        ∃ s, b.insertStatement (.ok entity) rows = .ok (some s) ∧ s.prelude = [] ∧
          s.params.length = rows.length * columns.length ∧
          (∀ (i : Nat) (hi : i < rows.length) (j : Nat) (hj : j < columns.length),
            ∃ w, s.params[j + i * columns.length]? = some w ∧ Stores rows[i] columns[j] w) ∧
          s.sql = insertText entity columns rows.length ∧
          s.validate b.options.maxParameters = .ok ())) := by
  obtain rfl : columns = entity.insertable := by
    rw [supplied]
    exact List.filter_congr fun c _ => by
      cases h : c.generation <;> simp [Column.isStoreGenerated, h]
  have start : b.insertStatement (.ok entity) rows = insert b.options entity rows := by
    have resolved := resolve_eq_ok_iff.2 ⟨valid, rfl, mapped⟩
    simp only [insertStatement, List.isEmpty_eq_false_iff.2 someRow, resolved, bind, Except.bind,
      Bool.false_eq_true, if_false]
  rw [start, insert_eq someRow someColumn]
  refine ⟨fun large => ⟨_, if_pos large⟩, fun fits => ?_⟩
  rw [if_neg (Nat.not_lt.2 fits)]
  constructor
  · rintro ⟨row, hrow, c, hc, e, refused⟩
    cases result : rows.mapM (cells entity entity.insertable) with
    | ok values =>
      obtain ⟨i, hi, rfl⟩ := List.getElem_of_mem hrow
      obtain ⟨j, hj, rfl⟩ := List.getElem_of_mem hc
      obtain ⟨w, -, stored⟩ := getElem?_of_mapM_cells result hi hj
      exact absurd refused (not_refuses_of_stores stored)
    | error e =>
      obtain ⟨i, hi, j, hj, first, before⟩ := exists_first_refused result
      exact ⟨i, hi, j, hj, e, first, before, rfl⟩
  · intro all
    obtain ⟨values, stored⟩ := exists_mapM_cells all
    obtain ⟨params, length, places, text⟩ := insertBody_spec stored
    let s : Statement :=
      ⟨.insert, entity.table.toSql, [], insertBody entity entity.insertable values⟩
    refine ⟨s, by rw [stored]; rfl, rfl, length, fun i hi j hj => ?_, text, ?_⟩
    · obtain ⟨w, found, kept⟩ := getElem?_of_mapM_cells stored hi hj
      exact ⟨w, (congrArg (·[j + i * entity.insertable.length]?) params).trans found, kept⟩
    · have aligned : s.placeholderCount = s.params.length := places
      have within : ¬ b.options.maxParameters < s.params.length :=
        Nat.not_lt.2 (length.trans_le fits)
      rw [Statement.validate, if_neg (not_not_intro aligned), if_neg within]

/-- A table that numbers its rows and stores only whether a status is `active`. -/
def items : Entity :=
  ⟨"Item", ⟨none, ⟨"items", by decide, by decide⟩⟩,
    [{ member := "id", name := ⟨"item", by decide, by decide⟩, isKey := true,
       generation := .onAdd },
     { member := "token", name := ⟨"token", by decide, by decide⟩ },
     { member := "status", name := ⟨"Status", by decide, by decide⟩,
       convert? := some fun
         | .text "active" => .ok (.int 1)
         | _ => .error (.validation (.stated "unknown status")) }]⟩

def item (token : String) (status : Value) : Row := fun member =>
  if member = "token" then some (.text token) else if member = "status" then some status else none

/-- Two rows of two columns take four parameters, and the last one is the converted status of the
second row; a third row is too much. -/
theorem insertStatement_grid_items :
    let b : Bulk := ⟨fun _ _ => .ok [], { maxParameters := 4 }⟩
    (∃ s, b.insertStatement (.ok items) [item "a" .null, item "b" (.text "active")] = .ok (some s) ∧
      s.sql = "INSERT INTO items (token, \"Status\") VALUES ($1, $2), ($3, $4)".toList ∧
      s.params.length = 4 ∧ s.params[3]? = some (.int 1)) ∧
    ∃ why, b.insertStatement (.ok items) [item "a" .null, item "b" .null, item "c" .null] =
      .error (.validation why) := by
  intro b
  have valid : Options.validate { maxParameters := 4 } = .ok () := rfl
  have mapped : items.validate = .ok () := rfl
  have supplied : items.columns.drop 1 = items.columns.filter fun c => c.generation = .never := rfl
  constructor
  · obtain ⟨-, built⟩ := @insertStatement_grid b items
      [item "a" .null, item "b" (.text "active")] _ valid mapped (by simp) supplied
      (by simp [items])
    obtain ⟨-, statement⟩ := built (by decide)
    have stored : ∀ row ∈ [item "a" .null, item "b" (.text "active")],
        ∀ c ∈ items.columns.drop 1, ∃ w, Stores row c w := by
      simp only [items, List.drop_succ_cons, List.drop_zero, List.forall_mem_cons]
      exact ⟨⟨⟨_, _, rfl, rfl⟩, ⟨_, _, rfl, rfl⟩, List.forall_mem_nil _⟩,
        ⟨⟨_, _, rfl, rfl⟩, ⟨_, _, rfl, rfl⟩, List.forall_mem_nil _⟩, List.forall_mem_nil _⟩
    obtain ⟨s, made, -, length, cells, text, -⟩ := statement stored
    obtain ⟨w, last, v, found, kept⟩ := cells 1 (by decide) 1 (by decide)
    obtain rfl : Value.text "active" = v := Option.some.inj found
    obtain rfl : Value.int 1 = w := Except.ok.inj kept
    exact ⟨s, made, text.trans (by decide +kernel), length, last⟩
  · obtain ⟨large, -⟩ := @insertStatement_grid b items
      [item "a" .null, item "b" .null, item "c" .null] _ valid mapped (by simp) supplied
      (by simp [items])
    exact large (by decide)

end Bulk

end BulkSql
