import BulkSql.Proofs.Acceptance
import BulkSql.Proofs.Insertion
import BulkSql.Proofs.Refinement
import BulkSql.Proofs.Slot
import BulkSql.Proofs.Updater

/-!
The values of a statement are bound where they stand in it. No name, no text and no query that is
written around them has a parameter of its own, and none can be read as a part of one.
-/
namespace BulkSql

open Lexeme

/-! ### Written text has no parameters -/

@[simp] theorem Identifier.isParam_lexeme (i : Identifier) : i.lexeme.isParam = false := by
  unfold lexeme
  cases i.isBare <;> rfl

theorem QualifiedName.hasParam_lexemes (n : QualifiedName) : hasParam n.lexemes = false := by
  unfold lexemes
  split <;> simp

theorem Value.hasParam_signedLexemes {negative : Bool} {ls : List Lexeme}
    (h : hasParam ls = false) : hasParam (signedLexemes negative ls) = false := by
  cases negative <;> simp [signedLexemes, h]

theorem Value.hasParam_lexemes (v : Value) : hasParam v.lexemes = false := by
  cases v with
  | bool b => cases b <;> rfl
  | int i =>
    refine hasParam_signedLexemes ?_
    split <;> rfl
  | float x =>
    simp only [lexemes]
    split
    · refine hasParam_signedLexemes ?_
      obtain ⟨t, -, e | ⟨u, -, e⟩⟩ := x.numeral_eq <;> rw [e, Binary64.sign] <;> split <;> rfl
    · rfl
  | _ => rfl

namespace TextScope

variable {s : TextScope}

theorem hasParam_columnLexemes (s : TextScope) (c : Column) : hasParam (s.columnLexemes c) = false := by
  simp [columnLexemes]

theorem hasParam_capturedLexemes (s : TextScope) (name : String) (v : Value) :
    hasParam (s.capturedLexemes name v) = false := by
  unfold capturedLexemes
  split
  · rfl
  · split <;> rfl

theorem hasParam_unaryLexemes {op : UnaryOp} {ls : List Lexeme} (h : hasParam ls = false) :
    hasParam (unaryLexemes op ls) = false := by
  cases op <;> simp [unaryLexemes, h]

mutual

theorem hasParam_lexemes (s : TextScope) (e : Expr) : hasParam (s.lexemes e) = false := by
  cases e with
  | literal v => exact v.hasParam_lexemes
  | captured name v => exact s.hasParam_capturedLexemes name v
  | field member =>
    rw [lexemes]
    cases s.entity.columnFor? member with
    | none => rfl
    | some c => exact s.hasParam_columnLexemes c
  | unary op x => exact hasParam_unaryLexemes (hasParam_lexemes s x)
  | binary op x y =>
    have sign : hasParam op.lexemes = false := by cases op <;> rfl
    simp [lexemes, hasParam_lexemes s x, hasParam_lexemes s y, sign]
  | call f args =>
    have tail : hasParam f.tail = false := by cases f <;> rfl
    have list := hasParam_commaLexemes (hasParam_lexemesOfList s args)
    simp [lexemes, list, tail]
  | inList x items negated =>
    have words : hasParam (inWords negated) = false := by cases negated <;> rfl
    have list := hasParam_commaLexemes (hasParam_lexemesOfList s items)
    rw [lexemes]
    split
    · rfl
    · simp [hasParam_lexemes s x, list, words]
  | init _ _ => rfl

theorem hasParam_lexemesOfList (s : TextScope) (es : List Expr) :
    ∀ ls ∈ s.lexemesOfList es, hasParam ls = false := by
  cases es with
  | nil => simp [lexemesOfList]
  | cons x xs =>
    rw [lexemesOfList, List.forall_mem_cons]
    exact ⟨hasParam_lexemes s x, hasParam_lexemesOfList s xs⟩

end

end TextScope

namespace Select

theorem hasParam_columnLexemes (s : TextScope) (q : Query) : hasParam (columnLexemes s q) = false := by
  unfold columnLexemes
  split
  · refine hasParam_commaLexemes fun ls hl => ?_
    obtain ⟨c, -, rfl⟩ := List.mem_map.1 hl
    exact s.hasParam_columnLexemes c
  · exact s.hasParam_lexemes _

theorem hasParam_clauseLexemes {α : Type} {words : List Lexeme} {write : α → List Lexeme}
    (hw : hasParam words = false) (h : ∀ x, hasParam (write x) = false) (x? : Option α) :
    hasParam (clauseLexemes words write x?) = false := by
  cases x? <;> simp [clauseLexemes, hw, h]

theorem hasParam_orderLexemes (s : TextScope) (t : OrderTerm) :
    hasParam (orderLexemes s t) = false := by
  unfold orderLexemes
  rw [hasParam_append, s.hasParam_lexemes]
  split <;> rfl

/-- The text of a query has no parameter, whatever the query is. -/
theorem hasParam_lexemes (s : TextScope) (q : Query) : hasParam (lexemes s q) = false := by
  have columns : hasParam (spaced (columnLexemes s q)) = false := by
    unfold spaced
    split
    · rfl
    · simp [hasParam_columnLexemes]
  have source : hasParam (sourceLexemes s) = false := by
    simp [sourceLexemes, QualifiedName.hasParam_lexemes]
  have terms (ts : List OrderTerm) :
      hasParam (commaLexemes (ts.map (orderLexemes s))) = false := by
    refine hasParam_commaLexemes fun ls hl => ?_
    obtain ⟨t, -, rfl⟩ := List.mem_map.1 hl
    exact hasParam_orderLexemes s t
  have count (n : Nat) : hasParam (countLexemes n) = false := rfl
  simp [lexemes, columns, source, hasParam_clauseLexemes, s.hasParam_lexemes, terms, count]

end Select

/-! ### Assignments -/

namespace Assigned

/-- The right-hand side of an assignment. NULL and what is computed stand in the text. -/
def slot (s : TextScope) : Assigned → Slot
  | constant v => if v.isNull then .text [keyword "NULL"] else .value v
  | computed e => .text (s.lexemes e)

theorem lays_fragment (s : TextScope) (a : Assigned) : (a.fragment s).Lays [a.slot s] := by
  cases a with
  | computed e => exact Fragment.lays_raw (s.written_lexemes e)
  | constant v =>
    simp only [fragment, slot]
    split
    · exact Fragment.lays_raw rfl
    · exact Fragment.lays_bind v

theorem sound_slot {s : TextScope} {a : Assigned}
    (h : ∀ e, a = computed e → Phrase (s.lexemes e) True) : Slot.Sound [a.slot s] := by
  cases a with
  | computed e => exact Slot.sound_text (h e rfl) (s.hasParam_lexemes e)
  | constant v =>
    simp only [slot]
    split
    · exact Slot.sound_text (phrase_word (by decide)) rfl
    · exact Slot.sound_value v

end Assigned

namespace Assignment

/-- An assignment as it stands behind SET. -/
def slots (s : TextScope) (a : Assignment) : List Slot :=
  [.text [a.column.name.lexeme, blank, symbol '=', blank], a.value.slot s]

theorem lays_fragment (s : TextScope) (a : Assignment) : (a.fragment s).Lays (a.slots s) := by
  have name : written [a.column.name.lexeme, blank, symbol '=', blank] =
      a.column.name.toSql ++ " = ".toList := by simp
  exact (Fragment.lays_raw name).append (a.value.lays_fragment s)

theorem sound_slots {s : TextScope} {a : Assignment}
    (h : ∀ e, a.value = .computed e → Phrase (s.lexemes e) True) : Slot.Sound (a.slots s) := by
  have equals : Link [blank, symbol '=', blank] := link_of_isLink (by decide)
  have value := Assigned.sound_slot h
  refine ⟨?_, fun n => ?_⟩
  · exact List.forall_mem_cons.2 ⟨by simp [Slot.isClean], value.clean⟩
  · exact ((phrase_name a.column.name).link (value.phrase n) equals).congr (by simp)

end Assignment

namespace Statement

variable {space : SettingSpace} {options : Options} {entity : Entity} {query : Query}

/-! ### Rows -/

/-- The values of a row in parentheses. -/
def groupSlots (values : List Value) : List Slot :=
  .text [openParen] :: (Slot.commas (values.map fun v => [.value v]) ++ [.text [closeParen]])

/-- The INSERT of rows of values. -/
def insertSlots (entity : Entity) (columns : List Column) (rows : List (List Value)) : List Slot :=
  .text ([keyword "INSERT", blank, keyword "INTO", blank] ++
      (entity.table.lexemes ++ [blank, openParen])) ::
    (Slot.commas (columns.map fun c => [.text [c.name.lexeme]]) ++
      .text [closeParen, blank, keyword "VALUES", blank] :: Slot.commas (rows.map groupSlots))

theorem sound_groupSlots {values : List Value} (ne : values ≠ []) : Slot.Sound (groupSlots values) :=
  (Slot.sound_commas ne fun v _ => Slot.sound_value v).paren

theorem sound_insertSlots {columns : List Column} {rows : List (List Value)}
    (someColumn : columns ≠ []) (someRow : rows ≠ []) (some : ∀ values ∈ rows, values ≠ []) :
    Slot.Sound (insertSlots entity columns rows) := by
  have name (c : Column) : Slot.Sound [.text [c.name.lexeme]] :=
    Slot.sound_text (phrase_name c.name) (by simp)
  have names := Slot.sound_commas someColumn fun c _ => name c
  have groups := Slot.sound_commas someRow fun values h => sound_groupSlots (some values h)
  have insert_ : Phrase [keyword "INSERT"] True := phrase_word (by decide)
  have into : Link [blank, keyword "INTO", blank] := link_of_isLink (by decide)
  have values_ : Link [blank, keyword "VALUES", blank] := link_of_isLink (by decide)
  refine ⟨?_, fun n => ?_⟩
  · simp only [insertSlots, List.forall_mem_cons, List.forall_mem_append]
    exact ⟨by simp [Slot.isClean, QualifiedName.hasParam_lexemes], names.clean, rfl, groups.clean⟩
  · have whole := ((insert_.link (phrase_table entity.table) into).link (names.phrase n).paren
      Select.link_blank).link (groups.phrase n) values_
    simpa [insertSlots, Slot.lexemes_append, Slot.values_commas, List.flatMap_map] using whole

theorem lays_group (values : List Value) : (group values).Lays (groupSlots values) := by
  have front : (Fragment.raw ['(']).Lays [.text [openParen]] := Fragment.lays_raw rfl
  have back : (Fragment.raw [')']).Lays [.text [closeParen]] := Fragment.lays_raw rfl
  exact front.append ((Fragment.lays_commaList fun v _ => Fragment.lays_bind v).append back)

theorem lays_insertBody (columns : List Column) (rows : List (List Value)) :
    (insertBody entity columns rows).Lays (insertSlots entity columns rows) := by
  have front : written ([keyword "INSERT", blank, keyword "INTO", blank] ++
      (entity.table.lexemes ++ [blank, openParen])) =
        "INSERT INTO ".toList ++ (entity.table.toSql ++ " (".toList) := by
    simp [QualifiedName.written_lexemes]
  have name (c : Column) : (Fragment.raw c.name.toSql).Lays [.text [c.name.lexeme]] :=
    Fragment.lays_raw (by simp)
  have between : (Fragment.raw ") VALUES ".toList).Lays
      [.text [closeParen, blank, keyword "VALUES", blank]] := Fragment.lays_raw rfl
  exact (Fragment.lays_raw front).append ((Fragment.lays_commaList fun c _ => name c).append
    (between.append (Fragment.lays_commaList fun values _ => lays_group values)))

/-- The statement for rows binds each cell where it stands in its row. -/
theorem exists_binds_insert {rows : List Row} {s : Statement}
    (h : insert options entity rows = .ok (some s)) :
    ∃ values, rows.mapM (cells entity entity.insertable) = .ok values ∧
      s.Binds (insertSlots entity entity.insertable values) := by
  obtain ⟨someRow, someColumn, -, values, stored, rfl⟩ := insert_eq_some_iff.1 h
  obtain ⟨count, width⟩ := length_of_mapM_cells stored
  have nonempty {α β : Type} {xs : List α} {ys : List β} (same : ys.length = xs.length)
      (ne : xs ≠ []) : ys ≠ [] := by
    rw [← List.length_pos_iff] at ne ⊢
    exact same ▸ ne
  exact ⟨values, stored, binds_of_lays (lays_insertBody _ _) (sound_insertSlots someColumn
    (nonempty count someRow) fun vs h => nonempty (width vs h) someColumn)⟩

/-! ### The rows of a query -/

/-- A query in parentheses, and the condition that joins it. -/
def joinLexemes (options : Options) (s : TextScope) (q : Query) : List Lexeme :=
  openParen :: (Select.lexemes s q ++
    closeParen :: conditionLexemes options (s.entity.columns.filter Column.isKey))

/-- The DELETE of the rows of a query, which binds no value. -/
def deleteSlots (options : Options) (s : TextScope) (q : Query) : List Slot :=
  [.text (deleteLexemes options s.entity ++ joinLexemes options s q)]

/-- The words in front of the assignments of an UPDATE. -/
def updateLexemes (options : Options) (entity : Entity) : List Lexeme :=
  [keyword "UPDATE", blank] ++ (targetLexemes options entity ++ [blank, keyword "SET", blank])

/-- The UPDATE of the rows of a query. What is computed is written over the name of the table. -/
def updateSlots (options : Options) (s : TextScope) (q : Query) (as : List Assignment) : List Slot :=
  .text (updateLexemes options s.entity) ::
    (Slot.commas (as.map (Assignment.slots (s.moveTo options.updateAlias.toList))) ++
      [.text (fromLexemes ++ joinLexemes options s q)])

theorem hasParam_targetLexemes : hasParam (targetLexemes options entity) = false := by
  simp [targetLexemes, QualifiedName.hasParam_lexemes]

theorem hasParam_joinLexemes (s : TextScope) : hasParam (joinLexemes options s query) = false := by
  have keys (cs : List Column) : hasParam (keyLexemes options cs) = false := by
    refine hasParam_intercalate rfl fun ls hl => ?_
    obtain ⟨c, -, rfl⟩ := List.mem_map.1 hl
    simp [equationLexemes, qualifiedLexemes]
  simp [joinLexemes, conditionLexemes, Select.hasParam_lexemes, keys]

theorem written_joinLexemes (s : TextScope) : written (joinLexemes options s query) =
    joined options (s.entity.columns.filter Column.isKey) (Select.text s query) := by
  simp [joinLexemes, joined_eq, Select.written_lexemes]

theorem phrase_joinLexemes {s : TextScope} (valid : options.validate = .ok ())
    (keyed : s.entity.columns.filter Column.isKey ≠ [])
    (select : Phrase (Select.lexemes s query) True) :
    Phrase (joinLexemes options s query) True := by
  have as_ : Link [blank, keyword "AS", blank] := link_of_isLink (by decide)
  have where_ : Link [blank, keyword "WHERE", blank] := link_of_isLink (by decide)
  have name := phrase_word (Options.isWord_of_validate valid).2
  have whole := (select.paren.link name as_).link (phrase_keyLexemes valid keyed) where_
  simpa [joinLexemes, conditionLexemes] using whole

theorem sound_deleteSlots {s : TextScope} (valid : options.validate = .ok ())
    (join : Phrase (joinLexemes options s query) True) :
    Slot.Sound (deleteSlots options s query) := by
  have delete_ : Phrase [keyword "DELETE"] True := phrase_word (by decide)
  have from_ : Link [blank, keyword "FROM", blank] := link_of_isLink (by decide)
  have using_ : Link [blank, keyword "USING", blank] := link_of_isLink (by decide)
  have target : Phrase (targetLexemes options s.entity) True := phrase_targetLexemes valid
  have whole := (delete_.link target from_).link join using_
  refine Slot.sound_text ?_ ?_
  · simpa [deleteLexemes] using whole
  · simp [deleteLexemes, hasParam_targetLexemes, hasParam_joinLexemes]

theorem sound_updateSlots {s : TextScope} {as : List Assignment} (valid : options.validate = .ok ())
    (join : Phrase (joinLexemes options s query) True)
    (set : Slot.Sound (Slot.commas (as.map (Assignment.slots (s.moveTo options.updateAlias.toList))))) :
    Slot.Sound (updateSlots options s query as) := by
  have update_ : Phrase [keyword "UPDATE"] True := phrase_word (by decide)
  have set_ : Link [blank, keyword "SET", blank] := link_of_isLink (by decide)
  have from_ : Link fromLexemes := link_of_isLink (by decide)
  have target : Phrase (targetLexemes options s.entity) True := phrase_targetLexemes valid
  refine ⟨?_, fun n => ?_⟩
  · simp only [updateSlots, List.forall_mem_cons, List.forall_mem_append]
    refine ⟨?_, set.clean, ?_⟩
    · simp [Slot.isClean, updateLexemes, hasParam_targetLexemes]
    · simp [Slot.isClean, fromLexemes, hasParam_joinLexemes]
  · have whole := (((update_.link target Select.link_blank).link (set.phrase n) set_).link join from_)
    simpa [updateSlots, updateLexemes, Slot.lexemes_append] using whole

/-! ### What is computed -/

/-- The assignments of a statement that was made are those that could have been written at once, and
nothing in what is computed was refused. -/
theorem assignments_eq (sound : query.negatesZero = false) {as : List Assignment}
    (plain : ∀ a ∈ as, ∀ e, a.value = .computed e → e.negatesZero = false)
    {prelude : List Setting} {set : List Fragment} {settings : List Setting}
    (h : assignments (Select.writer space) options entity query prelude as = .ok (set, settings)) :
    set = as.map (Assignment.fragment (updateScope space options entity)) ∧
      ∀ a ∈ as, ∀ e, a.value = .computed e →
        ∀ v ∈ Visit.ofExpr entity e, v.isRefused = false := by
  induction as generalizing prelude set settings with
  | nil =>
    cases h
    exact ⟨rfl, by simp⟩
  | cons a as ih =>
    rw [List.forall_mem_cons] at plain
    obtain ⟨f, joined, others, first, rest, rfl⟩ := assignments_cons_iff.1 h
    obtain ⟨rfl, accepted⟩ := ih plain.2 rest
    obtain ⟨column, assigned⟩ := a
    cases assigned with
    | constant v =>
      cases first
      exact ⟨rfl, List.forall_mem_cons.2 ⟨nofun, accepted⟩⟩
    | computed e =>
      obtain ⟨sql, q, text, written, read', -, again, rfl⟩ := assignedFragment_computed_iff.1 first
      obtain ⟨p, read, -, moved⟩ := Select.exists_projection sound (plain.1 e rfl) written
      -- a written value is read back as itself, so that its moved text is known
      obtain rfl : p = q := Except.ok.inj (read.symm.trans read')
      obtain rfl := Except.ok.inj ((moved options.updateAlias.toList).symm.trans again)
      refine ⟨rfl, List.forall_mem_cons.2 ⟨?_, accepted⟩⟩
      rintro e' same
      obtain rfl : e = e' := Assigned.computed.inj same
      exact Select.not_isRefused_of_writer written

end Statement

namespace Assignment

variable {entity : Entity}

/-- What is computed is a part of the updater. -/
theorem nodes_subset_of_ofUpdater {updater : Expr} {as : List Assignment}
    (h : ofUpdater entity updater = .ok as) :
    ∀ a ∈ as, ∀ e, a.value = .computed e → e.nodes ⊆ updater.nodes := by
  obtain ⟨bindings, rfl, -, assigns, -⟩ := ofUpdater_eq_ok_iff.1 h
  clear h
  have part : ∀ a ∈ as, ∀ e, a.value = .computed e → e.nodes ⊆ Expr.nodesOfBindings bindings := by
    induction assigns with
    | nil => simp
    | cons first _ ih =>
      rw [List.forall_mem_cons, Expr.nodesOfBindings]
      refine ⟨fun e value => ?_, fun a ha e value =>
        List.subset_append_of_subset_right _ (ih a ha e value)⟩
      cases first with
      | computed =>
        cases value
        exact List.subset_append_left _ _
      | constant => cases value
  exact fun a ha e value => List.subset_cons_of_subset _ (part a ha e value)

/-- An updater sets something. -/
theorem ne_nil_of_ofUpdater {updater : Expr} {as : List Assignment}
    (h : ofUpdater entity updater = .ok as) : as ≠ [] := by
  obtain ⟨bindings, -, some, assigns, -⟩ := ofUpdater_eq_ok_iff.1 h
  rintro rfl
  exact some (List.forall₂_nil_right_iff.1 assigns)

end Assignment

namespace Entity

variable {entity : Entity}

theorem columns_ne_nil (h : entity.validate = .ok ()) : entity.columns ≠ [] := by
  intro none
  simp [validate, none] at h

end Entity

/-- Where there is no negative zero in a query, none is negated. -/
theorem Query.not_negatesZero_of_nodes {q : Query} (h : ∀ x ∈ q.nodes, x.isNegativeZero = false) :
    q.negatesZero = false := by
  rw [nodes, List.forall_mem_flatMap] at h
  have each : ∀ e ∈ q.exprs, e.negatesZero = false := fun e he => e.not_negatesZero_of_nodes (h e he)
  simp only [exprs, List.forall_mem_append, List.forall_mem_map, Option.mem_toList] at each
  obtain ⟨selected, filtered, ordered⟩ := each
  simp only [negatesZero, Bool.or_eq_false_iff, Option.any_eq_false, List.any_eq_false,
    Bool.not_eq_true]
  exact ⟨⟨selected, filtered⟩, ordered⟩

namespace Statement

open Select (writer scope)

variable {space : SettingSpace} {options : Options} {entity : Entity} {query : Query}
  {keys : List Column} {sql : Sql} {s : Statement}

theorem phrase_join_of_writer (valid : options.validate = .ok ()) (keyed : entity.keys = .ok keys)
    (sound : query.negatesZero = false) (compiled : writer space entity query = .ok sql) :
    Phrase (joinLexemes options (scope space entity) query) True := by
  obtain ⟨captures, visited, -⟩ := Select.splitPrelude_writer compiled
  have select : Phrase (Select.lexemes (scope space entity) query) True :=
    (Select.phrase_lexemes (Select.isWord_rowName _) (Select.not_isRefused_of_ofVisits visited)).congr
      (by simp [sound])
  obtain ⟨rfl, ne⟩ := Entity.keys_eq_ok_iff.1 keyed
  exact phrase_joinLexemes valid ne select

section

variable (valid : options.validate = .ok ()) (columns : entity.columns ≠ [])
  (whole : query.isEntityShaped = true) (sound : query.negatesZero = false)
include valid columns whole sound

theorem binds_delete (compiled : writer space entity query = .ok sql)
    (h : delete options entity sql = .ok s) :
    s.Binds (deleteSlots options (scope space entity) query) := by
  obtain ⟨keys, derived, keyed, read, rfl⟩ := delete_eq_ok_iff.1 h
  obtain rfl := Except.ok.inj ((Select.derived_of_writer columns whole sound compiled).symm.trans read)
  have join : Phrase (joinLexemes options (scope space entity) query) True :=
    phrase_join_of_writer valid keyed sound compiled
  refine binds_of_lays (Fragment.lays_raw ?_) (sound_deleteSlots valid join)
  rw [written_append, written_deleteLexemes, written_joinLexemes,
    ← (Entity.keys_eq_ok_iff.1 keyed).1]
  simp [scope]

theorem exists_binds_update {updater : Expr} (zero : ∀ x ∈ updater.nodes, x.isNegativeZero = false)
    (h : update (writer space) options entity query updater = .ok s) :
    ∃ as, Assignment.ofUpdater entity updater = .ok as ∧
      s.Binds (updateSlots options (scope space entity) query as) := by
  obtain ⟨as, keys, sql, derived, set, settings, bound, keyed, compiled, read, made, rfl⟩ :=
    update_eq_ok_iff.1 h
  obtain rfl := Except.ok.inj ((Select.derived_of_writer columns whole sound compiled).symm.trans read)
  have plain : ∀ a ∈ as, ∀ e, a.value = .computed e → e.negatesZero = false :=
    fun a ha e computed => e.not_negatesZero_of_nodes fun x hx =>
      zero x (Assignment.nodes_subset_of_ofUpdater bound a ha e computed hx)
  obtain ⟨rfl, accepted⟩ := assignments_eq sound plain made
  have join : Phrase (joinLexemes options (scope space entity) query) True :=
    phrase_join_of_writer valid keyed sound compiled
  have word : isWord (updateScope space options entity).rowName = true :=
    (Options.isWord_of_validate valid).1
  have each : ∀ a ∈ as, Slot.Sound (a.slots (updateScope space options entity)) :=
    fun a ha => Assignment.sound_slots fun e computed =>
      (TextScope.phrase_lexemes word e (accepted a ha e computed)).congr
        (by simp [plain a ha e computed])
  have slots := sound_updateSlots valid join
    (Slot.sound_commas (Assignment.ne_nil_of_ofUpdater bound) each)
  refine ⟨as, bound, binds_of_lays ?_ slots⟩
  have front : written (updateLexemes options entity) =
      "UPDATE ".toList ++ (target options entity ++ " SET ".toList) := by
    simp [updateLexemes, written_targetLexemes]
  have back : written (fromLexemes ++ joinLexemes options (scope space entity) query) =
      " FROM ".toList ++ joined options keys (Select.text (scope space entity) query) := by
    rw [written_append, written_fromLexemes, written_joinLexemes,
      ← (Entity.keys_eq_ok_iff.1 keyed).1]
    rfl
  exact (Fragment.lays_raw front).append
    ((Fragment.lays_commaList fun a _ => a.lays_fragment _).append (Fragment.lays_raw back))

end

end Statement

namespace Bulk

open Select (writer scope)
open Statement (insertSlots deleteSlots updateSlots cells)

theorem isEntityShaped_of_checkShape {entity : Entity} {query : Query} {u : Unit}
    (h : checkShape entity query = .ok u) : query.isEntityShaped = true := by
  unfold checkShape at h
  split at h
  · next whole => exact whole
  · cases h

/-- Each value of a statement is bound where it stands, and there is no other parameter: the cells of
an INSERT in their rows, and the constants of an UPDATE behind their columns. A DELETE binds nothing.
Without a negative zero in the query or in the updater, this is so for all names and values. -/
theorem statements_bind {space : SettingSpace} {options : Options} {mapping : Except Error Entity}
    {s : Statement} :
    (∀ rows, insertStatement ⟨writer space, options⟩ mapping rows = .ok (some s) →
      ∃ entity values, mapping = .ok entity ∧
        rows.mapM (cells entity entity.insertable) = .ok values ∧
        s.Binds (insertSlots entity entity.insertable values)) ∧
    (∀ query, (∀ x ∈ query.nodes, x.isNegativeZero = false) →
      deleteStatement ⟨writer space, options⟩ mapping query = .ok s →
      ∃ entity, mapping = .ok entity ∧ s.Binds (deleteSlots options (scope space entity) query)) ∧
    (∀ query updater, (∀ x ∈ query.nodes ++ updater.nodes, x.isNegativeZero = false) →
      updateStatement ⟨writer space, options⟩ mapping query updater = .ok s →
      ∃ entity as, mapping = .ok entity ∧ Assignment.ofUpdater entity updater = .ok as ∧
        s.Binds (updateSlots options (scope space entity) query as)) := by
  refine ⟨fun rows h => ?_, fun query zero h => ?_, fun query updater zero h => ?_⟩
  · unfold insertStatement at h
    split at h
    · cases h
    · obtain ⟨entity, resolved, made⟩ := bind_eq_ok_iff.1 h
      obtain ⟨values, stored, binds⟩ := Statement.exists_binds_insert made
      exact ⟨entity, values, (resolve_eq_ok_iff.1 resolved).2.1, stored, binds⟩
  · obtain ⟨entity, resolved, shape⟩ := bind_eq_ok_iff.1 h
    obtain ⟨_, shaped, write⟩ := bind_eq_ok_iff.1 shape
    obtain ⟨sql, compiled, made⟩ := bind_eq_ok_iff.1 write
    obtain ⟨valid, found, mapped⟩ := resolve_eq_ok_iff.1 resolved
    exact ⟨entity, found, Statement.binds_delete valid (Entity.columns_ne_nil mapped)
      (isEntityShaped_of_checkShape shaped) (Query.not_negatesZero_of_nodes zero) compiled made⟩
  · obtain ⟨entity, resolved, shape⟩ := bind_eq_ok_iff.1 h
    obtain ⟨_, shaped, made⟩ := bind_eq_ok_iff.1 shape
    obtain ⟨valid, found, mapped⟩ := resolve_eq_ok_iff.1 resolved
    rw [List.forall_mem_append] at zero
    obtain ⟨as, bound, binds⟩ := Statement.exists_binds_update valid (Entity.columns_ne_nil mapped)
      (isEntityShaped_of_checkShape shaped) (Query.not_negatesZero_of_nodes zero.1) zero.2 made
    exact ⟨entity, as, found, bound, binds⟩

/-- A table of which two columns are called like parameters. -/
def prices : Entity :=
  ⟨"Price", ⟨none, ⟨"prices", by decide, by decide⟩⟩,
    [{ member := "sku", name := ⟨"sku", by decide, by decide⟩, isKey := true },
     { member := "old", name := ⟨"v$1", by decide, by decide⟩ },
     { member := "note", name := ⟨"$2", by decide, by decide⟩ }]⟩

/-- Rows that hold the text of a parameter. -/
def marked : Query := { filter? := some (.binary .eq (.field "old") (.literal (.text "$1"))) }

/-- One column is computed, and the other one gets the text of a parameter. -/
def remark : Expr := .init "Price"
  [.assign "old" (.call .toText [.field "sku"]), .assign "note" (.literal (.text "$3"))]

/-- Neither the names of columns nor the texts are read as parameters. -/
theorem statements_bind_prices :
    (∃ s, deleteStatement ⟨writer app, {}⟩ (.ok prices) marked = .ok s ∧ s.params = [] ∧
      s.validate 1 = .ok ()) ∧
    (∃ s, insertStatement ⟨writer app, {}⟩ (.ok prices) [fun _ => some (.text "$1")] =
        .ok (some s) ∧
      s.sql = "INSERT INTO prices (sku, v$1, \"$2\") VALUES ($1, $2, $3)".toList ∧
      ∃ scan, Scan.ofSql s.sql = .ok scan ∧
        (scan.tokens.filter fun t => t.kind = .param).map Token.text =
          ["$1".toList, "$2".toList, "$3".toList]) ∧
    ∃ s, updateStatement ⟨writer app, {}⟩ (.ok prices) marked remark = .ok s ∧
      s.params = [.text "$3"] ∧
      ∃ scan ts t us, Scan.ofSql s.sql = .ok scan ∧ scan.tokens = ts ++ t :: us ∧
        t.text = "$1".toList ∧ Token.laid ts ++ t.before =
          "UPDATE prices AS ut1 SET v$1 = CAST(ut1.sku AS text), \"$2\" = ".toList := by
  have made {α : Type} {x : Except Error α} (h : x.toOption.isSome = true) : ∃ a, x = .ok a := by
    cases x with
    | error e => cases h
    | ok a => exact ⟨a, rfl⟩
  have delete_ : (deleteStatement ⟨writer app, {}⟩ (.ok prices) marked).toOption.isSome = true := by
    decide +kernel
  have update_ :
      (updateStatement ⟨writer app, {}⟩ (.ok prices) marked remark).toOption.isSome = true := by
    decide +kernel
  obtain ⟨d, deleted⟩ := made delete_
  obtain ⟨u, updated⟩ := made update_
  obtain ⟨i, inserted⟩ : ∃ s, insertStatement ⟨writer app, {}⟩ (.ok prices)
      [fun _ => some (.text "$1")] = .ok (some s) := ⟨_, rfl⟩
  have literals : ∀ x ∈ marked.nodes ++ remark.nodes, x.isNegativeZero = false := by
    simp [marked, remark, Query.nodes, Query.exprs, Expr.nodes, Expr.nodesOfList, Expr.nodesOfBindings,
      Expr.nodesOfBinding, Expr.isNegativeZero, Value.isNegativeZero]
  refine ⟨⟨d, deleted, ?_⟩, ⟨i, inserted, ?_⟩, u, updated, ?_⟩
  · obtain ⟨-, delete, -⟩ := @statements_bind app {} (.ok prices) d
    obtain ⟨_, same, binds⟩ := delete marked (List.forall_mem_append.1 literals).1 deleted
    cases same
    have params : d.params = [] := binds.params
    exact ⟨params, by simp [Statement.validate, binds.places, params]⟩
  · obtain ⟨insert, -, -⟩ := @statements_bind app {} (.ok prices) i
    obtain ⟨_, values, same, stored, binds⟩ := insert _ inserted
    cases same
    cases stored
    obtain ⟨scan, read, numbers, -⟩ := binds.read
    rw [binds.params] at numbers
    exact ⟨binds.text.trans (by decide +kernel), scan, read, numbers.trans rfl⟩
  · obtain ⟨-, -, update⟩ := @statements_bind app {} (.ok prices) u
    obtain ⟨_, as, same, bound, binds⟩ := update marked remark literals updated
    cases same
    cases bound
    obtain ⟨scan, read, -, places⟩ := binds.read
    -- five texts stand before the constant: it is that of the second assignment
    obtain ⟨-, ts, t, us, tokens, -, text, front⟩ :=
      places (_ :: _ :: _ :: _ :: [_]) (.text "$3") _ rfl
    exact ⟨binds.params, scan, ts, t, us, read, tokens, text.trans (by decide +kernel),
      front.trans (by decide +kernel)⟩

end Bulk

end BulkSql
