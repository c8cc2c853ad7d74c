import BulkSql.Proofs.Capturing

/-!
The settings in front of a written query, named, quoted and ordered. Each of them is the first use of
its name; the SELECT statement is what is left behind the last of them.
-/
namespace BulkSql

/-! ### First uses -/

/-- The first use of each name. -/
def Use.firsts (us : List Use) : List Use := us.eraseDupsBy fun u t => u.1 == t.1

/-- The captured values that a query sets in front of its text, in the order of the text. -/
def Query.hoisted (q : Query) : List Use := Use.firsts q.uses

theorem Use.firsts_cons (u : Use) (us : List Use) :
    firsts (u :: us) = u :: firsts (us.filter fun t => t.1 ≠ u.1) := by
  simp [firsts, List.eraseDupsBy_cons]

/-- A namespace is kept as it is. -/
theorem SettingSpace.name_of_ofString {name : String} {space : SettingSpace}
    (accepted : ofString name = .ok space) : space.name = name := by
  unfold ofString at accepted
  split at accepted
  · rw [← Except.ok.inj accepted]
  · cases accepted

namespace Captures

variable {cs ds : Captures} {us : List Use} {vs : List Visit} {name : String} {value : Value}

/-- The uses whose names are not captured yet. -/
def fresh (cs : Captures) (us : List Use) : List Use :=
  us.filter fun u => ∀ c ∈ cs, c.1 ≠ u.1

theorem firsts_fresh_of_new (new : ∀ c ∈ cs, c.1 ≠ name) :
    Use.firsts (cs.fresh ((name, value) :: us)) =
      (name, value) :: Use.firsts ((cs ++ [(name, value)]).fresh us) := by
  have first : cs.fresh ((name, value) :: us) = (name, value) :: cs.fresh us :=
    List.filter_cons_of_pos (by simpa using new)
  rw [first, Use.firsts_cons, fresh, List.filter_filter]
  refine congrArg (_ :: Use.firsts ·) (List.filter_congr fun u _ => ?_)
  rw [Bool.eq_iff_iff, Bool.and_eq_true]
  simp only [decide_eq_true_eq, List.forall_mem_append, List.forall_mem_singleton]
  exact and_comm.trans (and_congr_right' ne_comm)

theorem fresh_cons_of_old (old : ∃ c ∈ cs, c.1 = name) :
    cs.fresh ((name, value) :: us) = cs.fresh us :=
  List.filter_cons_of_neg (by simpa using old)

/-- What is captured by some visits are the first uses of new names among them. -/
theorem eq_of_ofVisits (visited : cs.ofVisits vs = .ok ds) :
    ds = cs ++ Use.firsts (cs.fresh (vs.filterMap Visit.use?)) := by
  induction vs generalizing cs with
  | nil => simpa [fresh, Use.firsts] using (Except.ok.inj visited).symm
  | cons v vs ih =>
    cases v with
    | refused why => cases visited
    | captured name value =>
      obtain ⟨es, added, rest⟩ := bind_eq_ok_iff.1 visited
      have used : (Visit.captured name value :: vs).filterMap Visit.use? =
          (name, value) :: vs.filterMap Visit.use? := rfl
      rw [ih rest, used]
      obtain ⟨new, rfl⟩ | ⟨⟨c, hc, own, -⟩, rfl⟩ := add_cases added
      · rw [firsts_fresh_of_new new, List.append_assoc, List.singleton_append]
      · rw [fresh_cons_of_old ⟨c, hc, own⟩]

end Captures

namespace Select

variable {space : SettingSpace} {entity : Entity} {q : Query} {sql : Sql}

/-- A query is written with the first use of each name in front. -/
theorem hoisted_of_ofVisits {captures : Captures}
    (h : Captures.ofVisits [] (visits entity q) = .ok captures) : captures = q.hoisted := by
  have first := Captures.eq_of_ofVisits h
  rw [(meet_visits entity q).all (not_isRefused_of_ofVisits h)] at first
  simpa [Captures.fresh, Query.hoisted] using first

/-- What a setting says of a captured value. -/
structure Hoists («namespace» : String) (u : Use) (s : Setting) : Prop where
  name : s.name = «namespace».toList ++ '.' :: u.1.toList
  value : ∃ t, u.2.text? = some t ∧ s.value = quoteLiteral t ∧
    Quoted.undoubled '\'' (s.value.drop 1).dropLast = t
  statement : s.statement = "SET ".toList ++ (s.name ++ (" = ".toList ++ (s.value ++ [';'])))

/-- The settings in front of a query are the first uses of its names, in their order, and what is
left behind them is the SELECT statement, whatever the captured texts are. A query that captures
nothing has no settings. -/
theorem splitPrelude_hoisted {«namespace» : String}
    (accepted : SettingSpace.ofString «namespace» = .ok space)
    (written : writer space entity q = .ok sql) :
    (∃ settings, splitPrelude sql = (settings, text (scope space entity) q) ∧
      List.Forall₂ (Hoists «namespace») q.hoisted settings ∧
      sql = settings.flatMap (fun s => s.statement ++ ['\n']) ++ text (scope space entity) q) ∧
    (q.uses = [] → splitPrelude sql = ([], sql)) := by
  have named : space.name = «namespace» := SettingSpace.name_of_ofString accepted
  obtain ⟨captures, visited, split⟩ := splitPrelude_writer written
  have whole : sql = preludeText space captures ++ text (scope space entity) q := by
    obtain ⟨_, again, rfl⟩ := map_eq_ok_iff.1 written
    rw [Except.ok.inj (visited.symm.trans again)]
  obtain rfl := hoisted_of_ofVisits visited
  refine ⟨⟨_, split, ?_, ?_⟩, fun none => ?_⟩
  · refine List.forall₂_map_right_iff.2 (List.forall₂_same.2 fun u hu => ?_)
    have used := (holds_of_ofVisits visited).used hu
    obtain ⟨t, own⟩ := Value.exists_text (q.not_isNull_of_uses u used)
    have value : (setting space u).value = quoteLiteral t := by rw [setting, own, Option.getD_some]
    refine ⟨by rw [← named]; rfl, ⟨t, own, value, ?_⟩, rfl⟩
    rw [value]
    simp [quoteLiteral, Quoted.quote]
  · rw [whole, List.flatMap_map]
    rfl
  · have : q.hoisted = [] := by rw [Query.hoisted, none]; rfl
    rw [split, this, whole, this]
    rfl

/-- The samples whose note looks like the end of a setting and the start of others. -/
def forged : Query where
  filter? := some (.binary .and
    (.binary .ne (.field "note") (.captured "Note" (.text "'; SET x = 1; SELECT '\\\n--")))
    (.binary .or
      (.binary .gt (.field "level") (.captured "Level" (.int 7)))
      (.binary .eq (.field "note") (.captured "NOTE" (.text "'; SET x = 1; SELECT '\\\n--")))))

/-- The forged text stays in its literal, and its second use has no setting. -/
theorem splitPrelude_forged :
    ∃ space sql settings, SettingSpace.ofString "app_1" = .ok space ∧
      writer space samples forged = .ok sql ∧
      splitPrelude sql = (settings, text (scope space samples) forged) ∧
      settings.map Setting.name = ["app_1.note".toList, "app_1.level".toList] ∧
      settings.map Setting.value =
        ["'''; SET x = 1; SELECT ''\\\n--'".toList, "'7'".toList] := by
  have valid : isSettingName "app_1" = true := by decide +kernel
  have accepted : SettingSpace.ofString "app_1" = .ok ⟨"app_1", valid⟩ := dif_pos valid
  obtain ⟨sql, written⟩ : ∃ sql, writer ⟨"app_1", valid⟩ samples forged = .ok sql := ⟨_, rfl⟩
  obtain ⟨⟨settings, split, hoists, -⟩, -⟩ := splitPrelude_hoisted accepted written
  refine ⟨_, sql, settings, accepted, written, split, ?_⟩
  have hoisted : forged.hoisted = [("note", .text "'; SET x = 1; SELECT '\\\n--"),
      ("level", .int 7)] := rfl
  rw [hoisted] at hoists
  cases hoists with
  | cons note others =>
    cases others with
    | cons level none =>
      cases none
      obtain ⟨t, noteText, noteValue, -⟩ := note.value
      obtain ⟨u, levelText, levelValue, -⟩ := level.value
      obtain rfl := Option.some.inj noteText
      obtain rfl := Option.some.inj levelText
      simp only [List.map_cons, List.map_nil, note.name, level.name, noteValue, levelValue]
      exact ⟨rfl, rfl⟩

end Select

end BulkSql
