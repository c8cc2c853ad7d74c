import BulkSql.Proofs.Union

/-!
Settings joined batch after batch. A batch that disagrees is joined up to the setting that does, and
the next one is tried. What was joined keeps its place, and no variable ever comes twice.
-/
namespace BulkSql.Setting

variable {joined merged batch xs ys : List Setting}

/-- What is joined after some batches, whether each of them could be joined or not. -/
def mergeAll (joined : List Setting) (batches : List (List Setting)) : List Setting :=
  batches.foldl (fun joined batch => (merge joined batch).1) joined

/-- Each of some batches can be joined behind those before it. -/
def AllJoin (joined : List Setting) : List (List Setting) → Prop
  | [] => True
  | batch :: rest => (merge joined batch).2 = none ∧ AllJoin (merge joined batch).1 rest

/-- No variable of a batch has another value elsewhere in it or in what was joined before. -/
def Fits (joined batch : List Setting) : Prop :=
  ∀ s ∈ batch, ∀ t ∈ joined ++ batch, t.name = s.name → t.value = s.value

instance (joined batch : List Setting) : Decidable (Fits joined batch) :=
  inferInstanceAs (Decidable (∀ s ∈ batch, ∀ t ∈ joined ++ batch, t.name = s.name →
    t.value = s.value))

/-- Variables with their values. -/
def pairs (xs : List Setting) : List (Sql × Sql) := xs.map fun s => (s.name, s.value)

theorem mem_pairs {p : Sql × Sql} :
    p ∈ pairs xs ↔ ∃ s ∈ xs, s.name = p.1 ∧ s.value = p.2 := by
  simp [pairs, Prod.ext_iff]

theorem pairs_append (xs ys : List Setting) : pairs (xs ++ ys) = pairs xs ++ pairs ys :=
  List.map_append

@[simp] theorem mergeAll_nil (joined : List Setting) : mergeAll joined [] = joined := rfl

@[simp] theorem mergeAll_cons (joined batch : List Setting) (rest : List (List Setting)) :
    mergeAll joined (batch :: rest) = mergeAll (merge joined batch).1 rest := rfl

theorem mergeAll_append (joined : List Setting) (batches more : List (List Setting)) :
    mergeAll joined (batches ++ more) = mergeAll (mergeAll joined batches) more :=
  List.foldl_append

/-! ### One batch -/

/-- Behind settings that could be joined the others are joined as if there were no more. -/
theorem merge_append (h : merge joined xs = (merged, none)) (ys : List Setting) :
    merge joined (xs ++ ys) = merge merged ys := by
  fun_induction merge joined xs with
  | case1 joined => rw [← (Prod.mk.inj h).1, List.nil_append]
  | case2 joined s rest found ih => rw [List.cons_append, merge, found, ih h]
  | case3 joined s rest t found same ih =>
    rw [List.cons_append, merge, found]
    exact (if_pos same).trans (ih h)
  | case4 joined s rest t found differ => cases h

/-- Of a batch some front part is joined; the rest of it is refused at once, if there is any. -/
theorem exists_parts (joined batch : List Setting) :
    ∃ front back, batch = front ++ back ∧ merge joined front = ((merge joined batch).1, none) ∧
      merge (merge joined batch).1 back = merge joined batch := by
  fun_induction merge joined batch with
  | case1 joined => exact ⟨[], [], rfl, rfl, rfl⟩
  | case2 joined s rest found ih =>
    obtain ⟨front, back, rfl, taken, refused⟩ := ih
    refine ⟨s :: front, back, rfl, ?_, refused⟩
    rw [merge, found]
    exact taken
  | case3 joined s rest t found same ih =>
    obtain ⟨front, back, rfl, taken, refused⟩ := ih
    refine ⟨s :: front, back, rfl, ?_, refused⟩
    rw [merge, found]
    exact (if_pos same).trans taken
  | case4 joined s rest t found differ =>
    refine ⟨[], s :: rest, rfl, rfl, ?_⟩
    rw [merge, found]
    exact if_neg differ

theorem nodup_merge (once : (joined.map name).Nodup) (batch : List Setting) :
    ((merge joined batch).1.map name).Nodup := by
  obtain ⟨front, back, -, taken, -⟩ := exists_parts joined batch
  exact names_of_merge once taken ▸ nodup_eraseDups _

/-- Settings that are there already are found there. -/
theorem merge_of_known (once : (joined.map name).Nodup)
    (known : ∀ s ∈ xs, ∃ t ∈ joined, t.name = s.name ∧ t.value = s.value) :
    merge joined xs = (joined, none) := by
  induction xs with
  | nil => rfl
  | cons s rest ih =>
    obtain ⟨⟨t, mem, name, value⟩, others⟩ := List.forall_mem_cons.1 known
    cases found : joined.find? fun u => u.name == s.name with
    | none => exact absurd name (by simpa using List.find?_eq_none.1 found t mem)
    | some u =>
      have name' : u.name = s.name := by simpa using List.find?_some found
      obtain rfl : u = t := List.inj_on_of_nodup_map once (List.mem_of_find?_eq_some found) mem
        (name'.trans name.symm)
      rw [merge, found]
      exact (if_pos value).trans (ih others)

/-- A batch that is joined a second time changes nothing, and is refused again if it was. -/
theorem merge_again (once : (joined.map name).Nodup) (batch : List Setting) :
    merge (merge joined batch).1 batch = merge joined batch := by
  obtain ⟨front, back, e, taken, refused⟩ := exists_parts joined batch
  have again : merge (merge joined batch).1 front = ((merge joined batch).1, none) :=
    merge_of_known (nodup_merge once batch) (covers_of_merge taken)
  calc merge (merge joined batch).1 batch
    _ = merge (merge joined batch).1 (front ++ back) := congrArg _ e
    _ = merge (merge joined batch).1 back := merge_append again back
    _ = merge joined batch := refused

/-! ### When a batch can be joined -/

theorem merge_eq_of_none (h : (merge joined batch).2 = none) :
    merge joined batch = ((merge joined batch).1, none) := Prod.ext rfl h

/-- Settings that repeat no variable agree among themselves, so that only a batch can disagree. -/
theorem agree_append_iff (once : (joined.map name).Nodup) :
    Agree (joined ++ batch) ↔ Fits joined batch := by
  constructor
  · intro agree s hs t ht name
    exact agree t ht s (List.mem_append_right _ hs) name
  · intro fits x hx y hy same
    rcases List.mem_append.1 hx with old | new
    · rcases List.mem_append.1 hy with old' | new'
      · rw [List.inj_on_of_nodup_map once old old' same]
      · exact fits y new' x hx same
    · exact (fits x new y hy same.symm).symm

/-- A batch can be joined if no variable gets two values, and only then. -/
theorem merge_none_iff (once : (joined.map name).Nodup) :
    (merge joined batch).2 = none ↔ Agree (joined ++ batch) := by
  constructor
  · intro h
    exact ((isUnion_join_iff (join_eq_ok_iff.2 (merge_eq_of_none h))).2 once).agree
  · intro agree
    obtain ⟨settings, made, -⟩ := exists_merge joined batch agree
    rw [made]

/-- Where a batch is joined, all of its pairs are there, and nothing else is new. -/
theorem mem_pairs_merge (h : (merge joined batch).2 = none) (p : Sql × Sql) :
    p ∈ pairs (merge joined batch).1 ↔ p ∈ pairs (joined ++ batch) := by
  have made := merge_eq_of_none h
  simp only [mem_pairs]
  constructor
  · rintro ⟨s, hs, pair⟩
    exact ⟨s, subset_of_merge made hs, pair⟩
  · rintro ⟨s, hs, name, value⟩
    rcases List.mem_append.1 hs with old | new
    · exact ⟨s, (prefix_of_merge made).subset old, name, value⟩
    · obtain ⟨t, ht, name', value'⟩ := covers_of_merge made s new
      exact ⟨t, ht, name'.trans name, value'.trans value⟩

theorem agree_iff_pairs :
    Agree xs ↔ ∀ p ∈ pairs xs, ∀ q ∈ pairs xs, p.1 = q.1 → p.2 = q.2 := by
  simp [Agree, pairs]

theorem agree_congr (same : ∀ p, p ∈ pairs xs ↔ p ∈ pairs ys) : Agree xs ↔ Agree ys := by
  simp only [agree_iff_pairs, same]

/-! ### Batch after batch -/

theorem nodup_mergeAll (once : (joined.map name).Nodup) (batches : List (List Setting)) :
    ((mergeAll joined batches).map name).Nodup := by
  induction batches generalizing joined with
  | nil => exact once
  | cons batch rest ih => exact ih (nodup_merge once batch)

theorem prefix_mergeAll (joined : List Setting) (batches : List (List Setting)) :
    joined <+: mergeAll joined batches := by
  induction batches generalizing joined with
  | nil => exact List.prefix_refl joined
  | cons batch rest ih => exact (prefix_merge joined batch).trans (ih _)

theorem mem_pairs_mergeAll {batches : List (List Setting)} (h : AllJoin joined batches)
    (p : Sql × Sql) :
    p ∈ pairs (mergeAll joined batches) ↔ p ∈ pairs (joined ++ batches.flatten) := by
  induction batches generalizing joined with
  | nil => simp
  | cons batch rest ih =>
    rw [mergeAll_cons, ih h.2, List.flatten_cons, ← List.append_assoc]
    simp only [pairs_append, List.mem_append, mem_pairs_merge h.1]

/-- Batches can be joined one after the other if no variable gets two values among all of them. -/
theorem allJoin_iff (once : (joined.map name).Nodup) {batches : List (List Setting)} :
    AllJoin joined batches ↔ Agree (joined ++ batches.flatten) := by
  induction batches generalizing joined with
  | nil =>
    refine iff_of_true trivial ?_
    rw [List.flatten_nil, agree_append_iff once]
    exact nofun
  | cons batch rest ih =>
    rw [AllJoin, ih (nodup_merge once batch), List.flatten_cons, ← List.append_assoc]
    have same (h : (merge joined batch).2 = none) :
        Agree ((merge joined batch).1 ++ rest.flatten) ↔
          Agree (joined ++ batch ++ rest.flatten) := by
      refine agree_congr fun p => ?_
      simp only [pairs_append, List.mem_append, mem_pairs_merge h]
    constructor
    · rintro ⟨first, others⟩
      exact (same first).1 others
    · intro agree
      have first := (merge_none_iff once).2 (agree.subset (List.subset_append_left _ _))
      exact ⟨first, (same first).2 agree⟩

/-- The order of batches decides about places alone: in another order they can be joined too, and
set the same variables to the same values. -/
theorem allJoin_perm (once : (joined.map name).Nodup) {batches batches' : List (List Setting)}
    (perm : batches.Perm batches') :
    (AllJoin joined batches ↔ AllJoin joined batches') ∧
      (AllJoin joined batches → ∀ p, p ∈ pairs (mergeAll joined batches) ↔
        p ∈ pairs (mergeAll joined batches')) := by
  have same (p : Sql × Sql) :
      p ∈ pairs (joined ++ batches.flatten) ↔ p ∈ pairs (joined ++ batches'.flatten) := by
    simp only [pairs_append, List.mem_append]
    exact or_congr_right (perm.flatten.map _).mem_iff
  have both : AllJoin joined batches ↔ AllJoin joined batches' := by
    rw [allJoin_iff once, allJoin_iff once, agree_congr same]
  refine ⟨both, fun h p => ?_⟩
  rw [mem_pairs_mergeAll h, mem_pairs_mergeAll (both.1 h), same]

/-- Whatever batches were tried, no variable comes twice, and what was joined stays in its place
when more are tried. The next batch can be joined if none of its variables has another value in it
or before it, and only then; all of its pairs are there afterwards, and nothing else is new. A
second try of a batch changes nothing, and two batches can be joined in one order if they can be in
the other, with the same pairs. -/
theorem merge_over_runs (batches : List (List Setting)) :
    let joined := mergeAll [] batches
    (joined.map name).Nodup ∧
    (∀ more, joined <+: mergeAll [] (batches ++ more)) ∧
    (∀ batch, (merge joined batch).2 = none ↔ Fits joined batch) ∧
    (∀ batch, (merge joined batch).2 = none →
      pairs batch ⊆ pairs (merge joined batch).1 ∧ (merge joined batch).1 ⊆ joined ++ batch) ∧
    (∀ batch, merge (merge joined batch).1 batch = merge joined batch) ∧
    ∀ a b, (AllJoin joined [a, b] ↔ AllJoin joined [b, a]) ∧
      (AllJoin joined [a, b] → ∀ p, p ∈ pairs (mergeAll joined [a, b]) ↔
        p ∈ pairs (mergeAll joined [b, a])) := by
  intro joined
  have once : (joined.map name).Nodup := nodup_mergeAll (by simp) batches
  refine ⟨once, fun more => ?_, fun batch => ?_, fun batch h => ⟨fun p hp => ?_, ?_⟩,
    merge_again once, fun a b => allJoin_perm once (.swap b a [])⟩
  · rw [mergeAll_append]
    exact prefix_mergeAll joined more
  · rw [merge_none_iff once, agree_append_iff once]
  · rw [mem_pairs_merge h]
    exact List.map_subset _ (List.subset_append_right joined batch) hp
  · exact subset_of_merge (merge_eq_of_none h)

/-- A batch that is refused leaves its front part, behind which others are joined in either
order. -/
theorem merge_over_runs_halfway :
    let set (name value : String) : Setting := ⟨name.toList, value.toList, []⟩
    let joined := mergeAll [] [[set "a" "1", set "b" "2", set "a" "3", set "c" "4"]]
    joined = [set "a" "1", set "b" "2"] ∧
    ((merge joined [set "c" "5", set "b" "2"]).2 = none ∧
      pairs [set "c" "5", set "b" "2"] ⊆ pairs (merge joined [set "c" "5", set "b" "2"]).1) ∧
    (merge joined [set "c" "5", set "c" "6"]).2 ≠ none ∧
    AllJoin joined [[set "d" "1"], [set "c" "5"]] := by
  intro set joined
  obtain ⟨-, -, fits, added, -, order⟩ :=
    merge_over_runs [[set "a" "1", set "b" "2", set "a" "3", set "c" "4"]]
  have next : (merge joined [set "c" "5", set "b" "2"]).2 = none :=
    (fits _).2 (by decide +kernel)
  refine ⟨by decide +kernel, ⟨next, (added _ next).1⟩, fun h => ?_, (order _ _).1.1 ?_⟩
  · exact absurd ((fits _).1 h) (by decide +kernel)
  · exact ⟨by decide +kernel, by decide +kernel, trivial⟩

end BulkSql.Setting
