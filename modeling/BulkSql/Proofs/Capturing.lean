import BulkSql.Proofs.Appearance
import BulkSql.Proofs.Integrity
import BulkSql.Proofs.Sameness

/-!
The captured values in the text of a query, and the settings that they are read from. One name
stands for one setting, which holds the value of its first use; every later use has to be the same
value.
-/
namespace BulkSql

/-- A captured value in the text of a query, with the name of its setting. -/
abbrev Use := String × Value

/-! ### Uses in the order of the text -/

mutual

/-- The captured values that stand in the text of an expression, in its order. NULL stands there
itself, and an IN over an empty list is a constant. -/
def Expr.uses : Expr → List Use
  | .literal _ | .field _ | .init _ _ => []
  | .captured name v => if v.isNull then [] else [(String.ofList (capturedKey name), v)]
  | .unary _ x => uses x
  | .binary _ x y => uses x ++ uses y
  | .call _ args => usesOfList args
  | .inList x items _ => if items.isEmpty then [] else uses x ++ usesOfList items

def Expr.usesOfList : List Expr → List Use
  | [] => []
  | x :: xs => Expr.uses x ++ usesOfList xs

end

/-- The uses of a query: in the selected value, in the condition, in the order of the rows. -/
def Query.uses (q : Query) : List Use :=
  q.projection?.elim [] Expr.uses ++ (q.filter?.elim [] Expr.uses ++
    q.orderBy.flatMap fun t => t.expr.uses)

mutual

theorem Expr.not_isNull_of_uses (e : Expr) : ∀ u ∈ e.uses, u.2.isNull = false := by
  cases e with
  | literal v => simp [uses]
  | field member => simp [uses]
  | init name bindings => simp [uses]
  | captured name v =>
    unfold uses
    split
    · simp
    · next some => simpa using some
  | unary op x => exact not_isNull_of_uses x
  | binary op x y =>
    exact List.forall_mem_append.2 ⟨not_isNull_of_uses x, not_isNull_of_uses y⟩
  | call f args => exact not_isNull_of_usesOfList args
  | inList x items negated =>
    unfold uses
    split
    · simp
    · exact List.forall_mem_append.2 ⟨not_isNull_of_uses x, not_isNull_of_usesOfList items⟩

theorem Expr.not_isNull_of_usesOfList (es : List Expr) :
    ∀ u ∈ usesOfList es, u.2.isNull = false := by
  cases es with
  | nil => simp [usesOfList]
  | cons x xs =>
    exact List.forall_mem_append.2 ⟨not_isNull_of_uses x, not_isNull_of_usesOfList xs⟩

end

theorem Query.not_isNull_of_uses (q : Query) : ∀ u ∈ q.uses, u.2.isNull = false := by
  have part (e? : Option Expr) : ∀ u ∈ e?.elim [] Expr.uses, u.2.isNull = false := by
    cases e? with
    | none => simp
    | some e => exact e.not_isNull_of_uses
  simp only [uses, List.forall_mem_append, List.forall_mem_flatMap]
  exact ⟨part _, part _, fun t _ => t.expr.not_isNull_of_uses⟩

theorem SettingSpace.setting_inj (space : SettingSpace) {m n : Sql} :
    space.setting m = space.setting n ↔ m = n := by
  simp [setting]

/-- How a captured value is read from its setting. -/
def SettingSpace.reference (space : SettingSpace) (u : Use) : Sql :=
  "current_setting('".toList ++ (space.setting u.1.toList ++ ("')".toList ++
    u.2.cast?.elim [] fun type => ':' :: ':' :: type.toList))

/-- Texts that stand in a text, one behind the other. -/
def InOrder : List Sql → Sql → Prop
  | [], _ => True
  | t :: ts, s => ∃ before behind, s = before ++ (t ++ behind) ∧ InOrder ts behind

namespace InOrder

variable {ts us : List Sql} {s t : Sql}

theorem prepend (h : InOrder ts s) (r : Sql) : InOrder ts (r ++ s) := by
  cases ts with
  | nil => trivial
  | cons t ts =>
    obtain ⟨before, behind, rfl, rest⟩ := h
    exact ⟨r ++ before, behind, (List.append_assoc ..).symm, rest⟩

theorem append (h : InOrder ts s) (h' : InOrder us t) : InOrder (ts ++ us) (s ++ t) := by
  induction ts generalizing s with
  | nil => exact h'.prepend s
  | cons u ts ih =>
    obtain ⟨before, behind, rfl, rest⟩ := h
    exact ⟨before, behind ++ t, by simp, ih rest⟩

theorem nil (s : Sql) : InOrder [] s := trivial

theorem extend (h : InOrder ts s) (r : Sql) : InOrder ts (s ++ r) :=
  ts.append_nil ▸ h.append (nil r)

theorem self (s : Sql) : InOrder [s] s := ⟨[], [], by simp, trivial⟩

end InOrder

namespace TextScope

variable (s : TextScope)

theorem captured_eq_reference (name : String) {v : Value} (h : v.isNull = false) :
    s.captured name v = s.space.reference (String.ofList (capturedKey name), v) := by
  unfold captured SettingSpace.reference
  have key : (String.ofList (capturedKey name)).toList = capturedKey name := String.toList_ofList
  rw [if_neg (by simp [h])]
  dsimp only
  rw [key]
  cases v.cast? <;> rfl

mutual

theorem inOrder_text (e : Expr) : InOrder (e.uses.map s.space.reference) (s.text e) := by
  cases e with
  | literal v => exact .nil _
  | field member => exact .nil _
  | init name bindings => exact .nil _
  | captured name v =>
    unfold Expr.uses text
    split
    · exact .nil _
    · next some =>
      rw [captured_eq_reference s name (Bool.eq_false_iff.2 some)]
      exact .self _
  | unary op x =>
    have inner := inOrder_text x
    unfold Expr.uses text unary
    split
    · exact (inner.extend _).prepend _
    · exact (inner.extend _).prepend _
    · exact (inner.extend _).prepend ['(']
    · exact (inner.extend _).prepend ['(']
  | binary op x y =>
    unfold Expr.uses text
    rw [List.map_append]
    have right := ((inOrder_text y).extend [')']).prepend (' ' :: (op.sign.toList ++ [' ']))
    simpa using ((inOrder_text x).append right).prepend ['(']
  | call f args =>
    unfold Expr.uses text
    exact ((inOrder_texts args).extend _).prepend _
  | inList x items negated =>
    unfold Expr.uses text
    split
    · exact .nil _
    · rw [List.map_append]
      have right := ((inOrder_texts items).extend "))".toList).prepend
        (if negated then " NOT IN (" else " IN (").toList
      exact ((inOrder_text x).append right).prepend ['(']

theorem inOrder_texts (es : List Expr) :
    InOrder ((Expr.usesOfList es).map s.space.reference) (Expr.commaList (s.texts es)) := by
  cases es with
  | nil => exact .nil _
  | cons x xs =>
    unfold Expr.usesOfList texts
    rw [List.map_append]
    have tail := inOrder_texts xs
    cases xs with
    | nil => simpa [Expr.usesOfList, texts, Expr.commaList] using inOrder_text x
    | cons y ys => exact (inOrder_text x).append (tail.prepend [',', ' '])

end

end TextScope

namespace Select

theorem inOrder_orderTerms (s : TextScope) (terms : List OrderTerm) :
    InOrder ((terms.flatMap fun t => t.expr.uses).map s.space.reference) (orderClause s terms) := by
  have list : InOrder ((terms.flatMap fun t => t.expr.uses).map s.space.reference)
      (Expr.commaList (terms.map (orderTerm s))) := by
    induction terms with
    | nil => exact .nil _
    | cons t ts ih =>
      have first := (s.inOrder_text t.expr).extend (if t.descending then " DESC" else "").toList
      rw [List.flatMap_cons, List.map_append]
      cases ts with
      | nil => simpa [orderTerm, Expr.commaList] using first
      | cons u us => exact first.append (ih.prepend [',', ' '])
  unfold orderClause
  split
  · next none =>
    rw [List.isEmpty_iff.1 none]
    exact .nil _
  · exact list.prepend _

/-- The uses of a query stand in its text, each behind the one before. -/
theorem inOrder_text (s : TextScope) (q : Query) :
    InOrder (q.uses.map s.space.reference) (text s q) := by
  have selected :
      InOrder ((q.projection?.elim [] Expr.uses).map s.space.reference) (columns s q) := by
    unfold columns
    cases q.projection? with
    | none => exact .nil _
    | some e => exact s.inOrder_text e
  have filter : InOrder ((q.filter?.elim [] Expr.uses).map s.space.reference)
      (clause " WHERE " s.text q.filter?) := by
    cases q.filter? with
    | none => exact .nil _
    | some e => exact (s.inOrder_text e).prepend _
  unfold Query.uses text
  rw [List.map_append, List.map_append]
  refine (selected.append ?_).prepend _
  refine InOrder.prepend (.prepend (.prepend (.prepend ?_ _) _) _) _
  exact filter.append ((inOrder_orderTerms s q.orderBy).extend _)

end Select

/-! ### Uses and visits -/

namespace Visit

/-- The use of a visit that is not refused. -/
def use? : Visit → Option Use
  | refused _ => none
  | captured name value => some (name, value)

/-- Visits meet the uses in their order. A use is left out only where something is refused, and
what is refused is refused on its own, whatever the values of other uses are. -/
structure Meet (vs : List Visit) (us : List Use) : Prop where
  sublist : (vs.filterMap use?).Sublist us
  all : (∀ v ∈ vs, v.isRefused = false) → vs.filterMap use? = us
  alone : ∀ v ∈ vs, ∀ name, v ≠ .refused (.unsupported (.capturedTwice name))

namespace Meet

variable {vs ws : List Visit} {us ts : List Use}

theorem nil : Meet [] [] := ⟨.slnil, fun _ => rfl, by simp⟩

theorem append (h : Meet vs us) (h' : Meet ws ts) : Meet (vs ++ ws) (us ++ ts) := by
  refine ⟨?_, ?_, List.forall_mem_append.2 ⟨h.alone, h'.alone⟩⟩
  · rw [List.filterMap_append]
    exact h.sublist.append h'.sublist
  · intro accepted
    simp only [List.forall_mem_append] at accepted
    rw [List.filterMap_append, h.all accepted.1, h'.all accepted.2]

/-- What is refused has no uses of its own. -/
theorem refused {why : Error} (alone : ∀ name, why ≠ .unsupported (.capturedTwice name))
    (us : List Use) : Meet [.refused why] us :=
  ⟨List.nil_sublist _, fun accepted => absurd (accepted _ List.mem_cons_self) (by simp [isRefused]),
    by simpa using alone⟩

end Meet

mutual

theorem meet_ofExpr (entity : Entity) (e : Expr) : Meet (ofExpr entity e) e.uses := by
  cases e with
  | literal v => exact .nil
  | captured name v =>
    unfold ofExpr ofCaptured Expr.uses
    split
    · exact .nil
    · dsimp only
      split
      · exact ⟨.refl _, fun _ => rfl, by simp⟩
      · exact .refused (by simp) _
  | field member =>
    unfold ofExpr ofField Expr.uses
    split
    · exact .nil
    · exact .refused (by simp) _
  | unary op x => exact meet_ofExpr entity x
  | binary op x y => exact (meet_ofExpr entity x).append (meet_ofExpr entity y)
  | call f args =>
    unfold ofExpr
    split
    · exact meet_ofExprs entity args
    · exact .refused (by simp) _
  | inList x items negated =>
    unfold ofExpr Expr.uses
    split
    · exact .nil
    · exact (meet_ofExpr entity x).append (meet_ofExprs entity items)
  | init name bindings => exact .refused (by simp) _

theorem meet_ofExprs (entity : Entity) (es : List Expr) :
    Meet (ofExprs entity es) (Expr.usesOfList es) := by
  cases es with
  | nil => exact .nil
  | cons x xs => exact (meet_ofExpr entity x).append (meet_ofExprs entity xs)

end

end Visit

theorem Select.meet_visits (entity : Entity) (q : Query) :
    Visit.Meet (visits entity q) q.uses := by
  have selected : Visit.Meet (projectionVisits entity q.projection?)
      (q.projection?.elim [] Expr.uses) := by
    generalize q.projection? = selected
    unfold projectionVisits
    split
    · exact .nil
    · exact .refused (by simp) _
    · exact Visit.meet_ofExpr entity _
  have filter : Visit.Meet (q.filter?.elim [] (Visit.ofExpr entity))
      (q.filter?.elim [] Expr.uses) := by
    cases q.filter? with
    | none => exact .nil
    | some e => exact Visit.meet_ofExpr entity e
  have order : Visit.Meet (q.orderBy.flatMap fun t => Visit.ofExpr entity t.expr)
      (q.orderBy.flatMap fun t => t.expr.uses) := by
    induction q.orderBy with
    | nil => exact .nil
    | cons t ts ih => exact (Visit.meet_ofExpr entity t.expr).append ih
  exact selected.append (filter.append order)

/-! ### The settings of the uses -/

/-- Two uses that can stand in one query: of one name only where their values have one text, up to
the signs of zeros, and one type, hold no not-a-number, and are both in a leap second or both in
none. -/
def Use.Compatible (u t : Use) : Prop :=
  u.1 = t.1 → u.2.hasNaN = false ∧ u.2.dropZeroSigns.text? = t.2.dropZeroSigns.text? ∧
    u.2.cast? = t.2.cast? ∧ u.2.isLeap = t.2.isLeap

theorem Use.compatible_iff {u t : Use} : u.Compatible t ↔ (u.1 = t.1 → u.2.same t.2 = true) := by
  simp only [Compatible, Value.same_iff]

namespace Captures

/-- Captured values are those of some uses: each name once, in the order of first use, with the
value of a use that all uses of the name agree with. -/
structure Holds (cs : Captures) (us : List Use) : Prop where
  names : cs.map Prod.fst = (us.map Prod.fst).eraseDups
  used : cs ⊆ us
  agree : ∀ u ∈ us, ∃ c ∈ cs, c.1 = u.1 ∧ (c = u ∨ c.2.same u.2 = true)
  pairwise : us.Pairwise Use.Compatible

variable {cs ds : Captures} {us : List Use} {vs : List Visit} {name : String} {value : Value}

theorem holds_nil : Holds [] [] := ⟨by simp, List.Subset.refl _, by simp, .nil⟩

theorem Holds.nodup (h : Holds cs us) : (cs.map Prod.fst).Nodup := h.names ▸ nodup_eraseDups _

theorem Holds.mem_names (h : Holds cs us) : name ∈ us.map Prod.fst ↔ ∃ c ∈ cs, c.1 = name := by
  rw [← List.mem_eraseDups, ← h.names, List.mem_map]

/-- The first use of a name. -/
theorem Holds.first (h : Holds cs us) (new : name ∉ us.map Prod.fst) (value : Value) :
    Holds (cs ++ [(name, value)]) (us ++ [(name, value)]) := by
  constructor
  · rw [List.map_append, List.map_append, List.map_singleton, eraseDups_concat, if_neg new,
      h.names]
  · exact List.append_subset.2
      ⟨List.subset_append_of_subset_left _ h.used, List.subset_append_right _ _⟩
  · intro u hu
    rcases List.mem_append.1 hu with old | last
    · obtain ⟨c, hc, agree⟩ := h.agree u old
      exact ⟨c, List.mem_append_left _ hc, agree⟩
    · obtain rfl := List.mem_singleton.1 last
      exact ⟨_, List.mem_append_right _ (List.mem_singleton_self _), rfl, .inl rfl⟩
  · refine List.pairwise_append.2
      ⟨h.pairwise, List.pairwise_singleton _ _, fun u hu t ht name => ?_⟩
    obtain rfl := List.mem_singleton.1 ht
    exact absurd (List.mem_map.2 ⟨u, hu, name⟩) new

/-- A later use of a name, with the value of the captured one. -/
theorem Holds.again (h : Holds cs us) {earlier : Value} (mem : (name, earlier) ∈ cs)
    (same : earlier.same value = true) : Holds cs (us ++ [(name, value)]) := by
  constructor
  · rw [List.map_append, List.map_singleton, eraseDups_concat,
      if_pos (h.mem_names.2 ⟨_, mem, rfl⟩), h.names]
  · exact List.subset_append_of_subset_left _ h.used
  · intro u hu
    rcases List.mem_append.1 hu with old | last
    · exact h.agree u old
    · obtain rfl := List.mem_singleton.1 last
      exact ⟨_, mem, rfl, .inr same⟩
  · refine List.pairwise_append.2 ⟨h.pairwise, List.pairwise_singleton _ _, fun u hu t ht => ?_⟩
    obtain rfl := List.mem_singleton.1 ht
    refine Use.compatible_iff.2 fun used => ?_
    obtain ⟨d, hd, own, agree⟩ := h.agree u hu
    obtain rfl : d = (name, earlier) := List.inj_on_of_nodup_map h.nodup hd mem (own.trans used)
    rcases agree with rfl | agree
    · exact same
    · exact Value.same_of_same agree same

/-- One more use. -/
theorem Holds.add (h : Holds cs us) (added : cs.add name value = .ok ds) :
    Holds ds (us ++ [(name, value)]) := by
  obtain ⟨fresh, rfl⟩ | ⟨⟨⟨c, earlier⟩, mem, rfl, same⟩, rfl⟩ := Captures.add_cases added
  · refine h.first (fun old => ?_) value
    obtain ⟨c, hc, same⟩ := h.mem_names.1 old
    exact fresh c hc same
  · exact h.again mem same

/-- A use that does not agree with the captured value of its name cannot stand behind the others. -/
theorem Holds.not_pairwise (h : Holds cs us) {e : Error} (refused : cs.add name value = .error e)
    (ts : List Use) : e = .unsupported (.capturedTwice name) ∧
      ¬ (us ++ (name, value) :: ts).Pairwise Use.Compatible := by
  unfold Captures.add at refused
  split at refused
  · cases refused
  · next c earlier found =>
    split at refused
    · cases refused
    · next differ =>
      obtain rfl : c = name := by simpa using List.find?_some found
      refine ⟨(Except.error.inj refused).symm, fun compatible => differ ?_⟩
      have mem := h.used (List.mem_of_find?_eq_some found)
      have pair := (List.pairwise_append.1 compatible).2.2 _ mem _ List.mem_cons_self
      exact Use.compatible_iff.1 pair rfl

/-- The captured values after some visits are those of their uses. -/
theorem Holds.ofVisits (h : Holds cs us) (visited : cs.ofVisits vs = .ok ds) :
    Holds ds (us ++ vs.filterMap Visit.use?) := by
  induction vs generalizing cs us with
  | nil =>
    obtain rfl := Except.ok.inj visited
    simpa using h
  | cons v vs ih =>
    cases v with
    | refused why => cases visited
    | captured name value =>
      obtain ⟨es, added, visited⟩ := bind_eq_ok_iff.1 visited
      simpa [Visit.use?] using ih (h.add added) visited

/-- Visits fail where one of them is refused, or where two uses do not agree. -/
theorem Holds.ofVisits_error (h : Holds cs us) {e : Error} (failed : cs.ofVisits vs = .error e) :
    .refused e ∈ vs ∨ ∃ name, e = .unsupported (.capturedTwice name) ∧
      ¬ (us ++ vs.filterMap Visit.use?).Pairwise Use.Compatible := by
  induction vs generalizing cs us with
  | nil => cases failed
  | cons v vs ih =>
    cases v with
    | refused why =>
      obtain rfl := Except.error.inj failed
      exact .inl List.mem_cons_self
    | captured name value =>
      rcases bind_eq_error_iff.1 failed with failed | ⟨es, added, failed⟩
      · exact .inr ⟨name, h.not_pairwise failed _⟩
      · rcases ih (h.add added) failed with refused | ⟨other, rfl, differ⟩
        · exact .inl (List.mem_cons_of_mem _ refused)
        · exact .inr ⟨other, rfl, by simpa [Visit.use?] using differ⟩

end Captures

/-! ### Written queries -/

namespace Select

variable {space : SettingSpace} {entity : Entity} {q : Query} {sql : Sql}

/-- The settings of a written query, and how its uses read them. -/
structure ReadsBack (space : SettingSpace) (entity : Entity) (q : Query) (sql : Sql)
    (captures : Captures) : Prop where
  settings : splitPrelude sql = (captures.map (setting space), text (scope space entity) q)
  references : InOrder (q.uses.map space.reference) (text (scope space entity) q)
  /-- One setting for each name, in the order of first use. -/
  names : captures.map Prod.fst = (q.uses.map Prod.fst).eraseDups
  /-- No setting without a use that has its value. -/
  used : captures ⊆ q.uses
  written : ∀ c ∈ captures, ∃ t, c.2.text? = some t ∧ (setting space c).value = quoteLiteral t
  /-- A use reads its own value from exactly one setting, but for the signs of zeros. -/
  own : ∀ u ∈ q.uses, ∃ c ∈ captures, (setting space c).name = space.setting u.1.toList ∧
    (∀ d ∈ captures, (setting space d).name = space.setting u.1.toList → d = c) ∧
    c.2.dropZeroSigns.text? = u.2.dropZeroSigns.text? ∧ c.2.cast? = u.2.cast?

theorem holds_of_ofVisits {captures : Captures}
    (h : Captures.ofVisits [] (visits entity q) = .ok captures) : captures.Holds q.uses := by
  have held := Captures.holds_nil.ofVisits h
  rwa [List.nil_append, (meet_visits entity q).all (not_isRefused_of_ofVisits h)] at held

theorem exists_readsBack (h : writer space entity q = .ok sql) :
    q.uses.Pairwise Use.Compatible ∧ ∃ captures, ReadsBack space entity q sql captures := by
  obtain ⟨captures, visited, split⟩ := splitPrelude_writer h
  have held := holds_of_ofVisits visited
  refine ⟨held.pairwise, captures, split, inOrder_text (scope space entity) q, held.names,
    held.used, ?_, ?_⟩
  · intro c hc
    obtain ⟨t, text⟩ := Value.exists_text (q.not_isNull_of_uses c (held.used hc))
    exact ⟨t, text, by rw [setting, text, Option.getD_some]⟩
  · intro u hu
    obtain ⟨c, hc, own, agree⟩ := held.agree u hu
    refine ⟨c, hc, by rw [setting, own], fun d hd name => ?_, ?_⟩
    · have name : d.1 = u.1 := String.toList_inj.1 (space.setting_inj.1 name)
      exact List.inj_on_of_nodup_map held.nodup hd hc (name.trans own.symm)
    · rcases agree with rfl | same
      · exact ⟨rfl, rfl⟩
      · obtain ⟨-, text, cast, -⟩ := (Value.same_iff _ _).1 same
        exact ⟨text, cast⟩

/-- Without negative zeros a use reads the text of its own value. -/
theorem ReadsBack.exists_text {captures : Captures} (h : ReadsBack space entity q sql captures)
    (plain : ∀ u ∈ q.uses, u.2.dropZeroSigns = u.2) {u : Use} (hu : u ∈ q.uses) :
    ∃ t, u.2.text? = some t ∧ ∃ c ∈ captures, (setting space c).name = space.setting u.1.toList ∧
      (setting space c).value = quoteLiteral t ∧ c.2.cast? = u.2.cast? := by
  obtain ⟨c, hc, name, -, text, cast⟩ := h.own u hu
  obtain ⟨t, own, written⟩ := h.written c hc
  rw [plain c (h.used hc), plain u hu, own] at text
  exact ⟨t, text.symm, c, hc, name, written, cast⟩

/-- A query cannot be written where a part of it is refused, or where two uses are not
compatible. -/
theorem writer_error {e : Error} (h : writer space entity q = .error e) :
    .refused e ∈ visits entity q ∨ ∃ name, e = .unsupported (.capturedTwice name) ∧
      ¬ q.uses.Pairwise Use.Compatible := by
  have failed : Captures.ofVisits [] (visits entity q) = .error e := by
    rcases bind_eq_error_iff.1 h with failed | ⟨captures, -, h⟩
    · exact failed
    · cases h
  refine (Captures.holds_nil.ofVisits_error failed).imp_right ?_
  rintro ⟨name, twice, differ⟩
  refine ⟨name, twice, fun compatible => differ ?_⟩
  rw [List.nil_append]
  exact compatible.sublist (meet_visits entity q).sublist

/-- Captured values read back as themselves, up to the signs of zeros. A query is refused because of
two values of one name exactly where two of its uses are not compatible, if nothing else in it is
refused. Of values without a not-a-number, a negative zero and a leap second those are compatible
that have one text and one type, and without a negative zero each reads its own text. -/
theorem captured_writer (space : SettingSpace) (entity : Entity) (q : Query) :
    (∀ name, writer space entity q = .error (.unsupported (.capturedTwice name)) →
      ¬ q.uses.Pairwise Use.Compatible) ∧
    ((∀ v ∈ visits entity q, v.isRefused = false) →
      (q.uses.Pairwise Use.Compatible ∧ ∃ sql, writer space entity q = .ok sql) ∨
      (¬ q.uses.Pairwise Use.Compatible ∧
        ∃ name, writer space entity q = .error (.unsupported (.capturedTwice name)))) ∧
    (∀ sql, writer space entity q = .ok sql →
      q.uses.Pairwise Use.Compatible ∧ ∃ captures, ReadsBack space entity q sql captures) ∧
    ((∀ u ∈ q.uses, u.2.hasNaN = false ∧ u.2.dropZeroSigns = u.2 ∧ u.2.isLeap = false) →
      (q.uses.Pairwise Use.Compatible ↔ q.uses.Pairwise fun u t => u.1 = t.1 →
        u.2.text? = t.2.text? ∧ u.2.cast? = t.2.cast?)) ∧
    ((∀ u ∈ q.uses, u.2.dropZeroSigns = u.2) →
      ∀ sql captures, ReadsBack space entity q sql captures → ∀ u ∈ q.uses,
        ∃ t, u.2.text? = some t ∧ ∃ c ∈ captures,
          (setting space c).name = space.setting u.1.toList ∧
          (setting space c).value = quoteLiteral t ∧ c.2.cast? = u.2.cast?) := by
  refine ⟨fun name failed => ?_, fun accepted => ?_, fun sql h => exists_readsBack h,
    fun plain => ?_, fun unsigned sql captures h u hu => h.exists_text unsigned hu⟩
  · rcases writer_error failed with refused | ⟨other, -, differ⟩
    · exact absurd rfl ((meet_visits entity q).alone _ refused name)
    · exact differ
  · cases made : writer space entity q with
    | ok sql => exact .inl ⟨(exists_readsBack made).1, sql, rfl⟩
    | error e =>
      rcases writer_error made with refused | ⟨name, rfl, differ⟩
      · cases accepted _ refused
      · exact .inr ⟨differ, name, rfl⟩
  · have same {u t : Use} (hu : u ∈ q.uses) (ht : t ∈ q.uses) : u.Compatible t ↔
        (u.1 = t.1 → u.2.text? = t.2.text? ∧ u.2.cast? = t.2.cast?) := by
      obtain ⟨number, unsigned, plainly⟩ := plain u hu
      obtain ⟨-, unsigned', plainly'⟩ := plain t ht
      simp [Use.Compatible, number, unsigned, unsigned', plainly, plainly']
    exact List.Pairwise.iff_of_mem fun hu ht => same hu ht

/-- The settings of a session. -/
def session : SettingSpace := ⟨"session", by decide +kernel⟩

def samples : Entity :=
  ⟨"Sample", ⟨none, ⟨"samples", by decide, by decide⟩⟩,
    [{ member := "level", name := ⟨"level", by decide, by decide⟩, isKey := true },
     { member := "note", name := ⟨"note", by decide, by decide⟩ }]⟩

/-- The samples above a level with a note, ordered by their distance from the level. -/
def above : Query where
  filter? := some (.binary .and
    (.binary .gt (.field "level") (.captured "Level" (.float (.ofInt 7))))
    (.binary .eq (.field "note") (.captured "note" (.text "it's"))))
  orderBy := [⟨.binary .sub (.field "level") (.captured "LEVEL" (.float (.ofInt 7))), false⟩]

/-- Names in any case share one setting, in the order of their first use. -/
theorem captured_writer_above :
    (∀ v ∈ visits samples above, v.isRefused = false) ∧
    (∀ u ∈ above.uses, u.2.hasNaN = false ∧ u.2.dropZeroSigns = u.2 ∧ u.2.isLeap = false) ∧
    above.uses.Pairwise (fun u t => u.1 = t.1 → u.2.text? = t.2.text? ∧ u.2.cast? = t.2.cast?) ∧
    ∃ sql captures, writer session samples above = .ok sql ∧
      ReadsBack session samples above sql captures ∧ captures.map Prod.fst = ["level", "note"] ∧
      ∀ u ∈ above.uses, ∃ t, u.2.text? = some t ∧
        ∃ c ∈ captures, (setting session c).value = quoteLiteral t := by
  obtain ⟨-, decided, reads, exact, own⟩ := captured_writer session samples above
  have accepted : ∀ v ∈ visits samples above, v.isRefused = false := by decide +kernel
  have uses : above.uses = [("level", .float (.ofInt 7)), ("note", .text "it's"),
      ("level", .float (.ofInt 7))] := rfl
  have plain : ∀ u ∈ above.uses,
      u.2.hasNaN = false ∧ u.2.dropZeroSigns = u.2 ∧ u.2.isLeap = false := by
    have seven : (Binary64.ofInt 7).isNaN = false ∧ (Binary64.ofInt 7).dropZeroSign = .ofInt 7 := by
      decide +kernel
    have level := congrArg Value.float seven.2
    rw [uses, List.forall_mem_cons, List.forall_mem_cons, List.forall_mem_singleton]
    exact ⟨⟨seven.1, level, rfl⟩, ⟨rfl, rfl, rfl⟩, seven.1, level, rfl⟩
  have agree : above.uses.Pairwise fun u t => u.1 = t.1 →
      u.2.text? = t.2.text? ∧ u.2.cast? = t.2.cast? := by
    simp [uses]
  obtain ⟨-, sql, made⟩ := (decided accepted).resolve_right fun other =>
    other.1 ((exact plain).2 agree)
  obtain ⟨-, captures, readsBack⟩ := reads sql made
  refine ⟨accepted, plain, agree, sql, captures, made, readsBack, ?_, fun u hu => ?_⟩
  · rw [readsBack.names, uses]
    rfl
  · obtain ⟨t, text, c, hc, -, written, -⟩ :=
      own (fun u hu => (plain u hu).2.1) sql captures readsBack u hu
    exact ⟨t, text, c, hc, written⟩

/-- Values of a level: one of them is below it, the other equal to it. -/
def either (x y : Value) : Query where
  filter? := some (.binary .or
    (.binary .ge (.field "level") (.captured "n" x))
    (.binary .eq (.field "level") (.captured "n" y)))

/-- Half a second into the leap second behind the start of 1970. -/
def leapSecond : Instant := ⟨0, 1500000000, by decide, by decide⟩

/-- Half a second into the second after the start of 1970. -/
def nextSecond : Instant := ⟨1, 500000000, by decide, by decide⟩

/-- The two zeros share a setting, so that the negative one reads the positive one's text. A
not-a-number is refused beside itself, though it has one text, and so is a leap second beside the
next second, as which it is written. -/
theorem not_readsBack_zeros :
    (∃ sql, writer session samples (either (.float ⟨0⟩) (.float ⟨0x8000000000000000⟩)) = .ok sql ∧
      (splitPrelude sql).1.map Setting.value = ["'0.0'".toList]) ∧
    (either (.float ⟨0⟩) (.float ⟨0x8000000000000000⟩)).uses.map (fun u => (u.1, u.2.text?)) =
      [("n", some "0.0".toList), ("n", some "-0.0".toList)] ∧
    writer session samples (either (.float .nan) (.float .nan)) =
      .error (.unsupported (.capturedTwice "n")) ∧
    leapSecond.text = nextSecond.text ∧
    writer session samples (either (.timestamp leapSecond) (.timestamp nextSecond)) =
      .error (.unsupported (.capturedTwice "n")) := by
  refine ⟨?_, by decide +kernel, rfl, by decide +kernel, rfl⟩
  obtain ⟨sql, made⟩ : ∃ sql,
      writer session samples (either (.float ⟨0⟩) (.float ⟨0x8000000000000000⟩)) = .ok sql :=
    ⟨_, rfl⟩
  obtain ⟨captures, visited, split⟩ := splitPrelude_writer made
  have one : Captures.ofVisits []
      (visits samples (either (.float ⟨0⟩) (.float ⟨0x8000000000000000⟩))) =
        .ok [("n", .float ⟨0⟩)] := rfl
  obtain rfl := Except.ok.inj (visited.symm.trans one)
  refine ⟨sql, made, ?_⟩
  rw [split]
  rfl

end Select

end BulkSql
