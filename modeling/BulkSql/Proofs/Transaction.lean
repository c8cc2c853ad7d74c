import Mathlib
import BulkSql.Session

/-!
The calls that running a statement makes on its connection, for every sequence of replies.
-/
namespace BulkSql

/-- A call on a connection, with the scopes that are open around it. -/
inductive Request
  | batch (depth : Nat) (sql : Sql)
  | execute (depth : Nat) (sql : Sql) (params : List Value)
  | query (depth : Nat) (sql : Sql) (params : List Value)
  | enter (depth : Nat)
  | commit (depth : Nat)
  | rollback (depth : Nat)
  | abandon (depth : Nat)

/-- A connection that keeps its calls and gives the reply with its number to each. -/
def Connection.scripted (replies : Nat → Except Error Nat) : Connection (List Request) where
  batch depth sql := answer (.batch depth sql) fun _ => ()
  execute depth sql params := answer (.execute depth sql params) id
  query depth sql params := answer (.query depth sql params) id
  enter depth := answer (.enter depth) fun _ => ()
  commit depth := answer (.commit depth) fun _ => ()
  rollback depth := answer (.rollback depth) fun _ => ()
  abandon depth calls := calls ++ [.abandon depth]
where
  answer {α : Type} (request : Request) (f : Nat → α) : Call (List Request) α := fun calls =>
    ((replies calls.length).map f, calls ++ [request])

namespace Session

variable {σ α β : Type}

theorem bind_ok {x : Call σ α} {f : α → Call σ β} {s t : σ} {a : α} (h : x s = (.ok a, t)) :
    (x >>= f) s = f a t := by
  simp only [bind, ExceptT.bind, ExceptT.mk, StateT.bind, h, ExceptT.bindCont]

theorem bind_error {x : Call σ α} {f : α → Call σ β} {s t : σ} {e : Error}
    (h : x s = (.error e, t)) : (x >>= f) s = (.error e, t) := by
  simp only [bind, ExceptT.bind, ExceptT.mk, StateT.bind, h, ExceptT.bindCont]
  rfl

theorem guarded_ok {c : Connection σ} {depth : Nat} {work : Call (Session σ) α}
    {s t : Session σ} {a : α} (h : work s = (.ok a, t)) : guarded c depth work s = (.ok a, t) := by
  simp only [guarded, h]

theorem guarded_error {c : Connection σ} {depth : Nat} {work : Call (Session σ) α}
    {s t : Session σ} {e : Error} (h : work s = (.error e, t)) :
    guarded c depth work s = (.error e, drop c depth t) := by
  simp only [guarded, h]

theorem isOk_iff {x : Except Error Nat} : x.isOk ↔ ∃ n, x = .ok n := by
  cases x <;> simp [Except.isOk, Except.toBool]

section Run

variable {replies : Nat → Except Error Nat} {calls : List Request} {trace : List Event}

theorem call_answer_ok (request : Request) (f : Nat → α) {n : Nat}
    (h : replies calls.length = .ok n) :
    call (Connection.scripted.answer replies request f) ⟨calls, trace⟩ =
      (.ok (f n), ⟨calls ++ [request], trace⟩) := by
  simp [call, Connection.scripted.answer, h, Except.map]

theorem call_answer_error (request : Request) (f : Nat → α) {e : Error}
    (h : replies calls.length = .error e) :
    call (Connection.scripted.answer replies request f) ⟨calls, trace⟩ =
      (.error e, ⟨calls ++ [request], trace⟩) := by
  simp [call, Connection.scripted.answer, h, Except.map]

end Run

/-! ### The prelude and the statement -/

/-- The calls that make up a statement. -/
def body (depth : Nat) (s : Statement) : List Request :=
  s.prelude.map (.batch depth) ++ [.execute depth s.sql s.params]

@[simp] theorem length_body (depth : Nat) (s : Statement) :
    (body depth s).length = s.prelude.length + 1 := by simp [body]

/-- What comes of the calls of a statement, where `answer` has the reply to each by its number: the
first that is refused ends them. -/
inductive Ran (answer : Nat → Except Error Nat) (depth : Nat) (s : Statement) :
    Except Error Nat → List Request → Prop
  | stopped {i : Nat} {e : Error} (hi : i < (body depth s).length)
    (before : ∀ j < i, (answer j).isOk) (here : answer i = .error e) :
    Ran answer depth s (.error e) ((body depth s).take (i + 1))
  | done {n : Nat} (before : ∀ j < (body depth s).length, (answer j).isOk)
    (count : answer s.prelude.length = .ok n) : Ran answer depth s (.ok n) (body depth s)

variable {answer : Nat → Except Error Nat} {depth : Nat} {s : Statement}

/-- A line of the prelude before a run. -/
theorem Ran.cons {line : Sql} {lines : List Sql} {n : Nat} {result : Except Error Nat}
    {calls : List Request} (first : answer 0 = .ok n)
    (h : Ran (fun i => answer (i + 1)) depth { s with prelude := lines } result calls) :
    Ran answer depth { s with prelude := line :: lines } result (.batch depth line :: calls) := by
  have before {k : Nat} (later : ∀ j < k, (answer (j + 1)).isOk) :
      ∀ j < k + 1, (answer j).isOk := by
    rintro (- | j) hj
    · simp [first, isOk_iff]
    · exact later j (by omega)
  cases h with
  | @stopped i e hi later here =>
    exact .stopped (i := i + 1) (by simpa using hi) (before later) here
  | done later count =>
    exact .done (before later) count

theorem run_nil (c : Connection σ) (h : s.prelude = []) :
    run c depth s = call (c.execute depth s.sql s.params) := by
  simp [run, h]

theorem run_cons (c : Connection σ) (line : Sql) (lines : List Sql) :
    run c depth { s with prelude := line :: lines } =
      call (c.batch depth line) >>= fun _ => run c depth { s with prelude := lines } := by
  simp [run]
  rfl

/-- A statement makes its calls in order, up to the first that is refused. -/
theorem run_scripted (replies : Nat → Except Error Nat) (depth : Nat) (s : Statement)
    (lines : List Sql) (calls : List Request) (trace : List Event) :
    ∃ result made,
      run (.scripted replies) depth { s with prelude := lines } ⟨calls, trace⟩ =
        (result, ⟨calls ++ made, trace⟩) ∧
      Ran (fun i => replies (calls.length + i)) depth { s with prelude := lines } result made := by
  induction lines generalizing calls with
  | nil =>
    rw [run_nil _ rfl]
    cases h : replies calls.length with
    | error e =>
      exact ⟨.error e, _, call_answer_error _ _ h, .stopped (i := 0) (by simp) (by simp) h⟩
    | ok n =>
      refine ⟨.ok n, _, call_answer_ok _ _ h, .done ?_ h⟩
      intro j hj
      obtain rfl : j = 0 := by simpa using hj
      simp [h, isOk_iff]
  | cons line lines ih =>
    rw [run_cons]
    cases h : replies calls.length with
    | error e =>
      refine ⟨.error e, [.batch depth line], bind_error (call_answer_error _ _ h), ?_⟩
      exact .stopped (i := 0) (by simp) (by simp) h
    | ok n =>
      obtain ⟨result, made, later, ran⟩ := ih (calls ++ [.batch depth line])
      refine ⟨result, .batch depth line :: made, (bind_ok (call_answer_ok _ _ h)).trans ?_, ?_⟩
      · simpa using later
      · exact .cons h (by simpa [Nat.add_assoc, Nat.add_comm 1] using ran)

/-- The same answers stop the calls of a statement at the same one, however many scopes are open. -/
theorem Ran.same {depth' : Nat} {result result' : Except Error Nat} {calls calls' : List Request}
    (h : Ran answer depth s result calls) (h' : Ran answer depth' s result' calls') :
    result = result' ∧ ∃ k, calls = (body depth s).take k ∧ calls' = (body depth' s).take k := by
  cases h with
  | @stopped i e hi before here =>
    cases h' with
    | @stopped j e' hj before' here' =>
      obtain rfl : i = j := by
        rcases Nat.lt_trichotomy i j with lt | rfl | gt
        · simpa [here, isOk_iff] using before' i lt
        · rfl
        · simpa [here', isOk_iff] using before j gt
      exact ⟨by simp_all, i + 1, rfl, rfl⟩
    | done before' count =>
      simpa [here, isOk_iff] using before' i (by simpa using hi)
  | done before count =>
    cases h' with
    | @stopped i e hi before' here =>
      simpa [here, isOk_iff] using before i (by simpa using hi)
    | done before' count' =>
      exact ⟨by simp_all, s.prelude.length + 1, by simp [List.take_of_length_le], by
        simp [List.take_of_length_le]⟩

/-- A statement succeeds if all its calls do, with the answer to the last one. -/
theorem Ran.ok_iff {result : Except Error Nat} {calls : List Request}
    (h : Ran answer depth s result calls) (n : Nat) :
    result = .ok n ↔
      (∀ i < s.prelude.length + 1, (answer i).isOk) ∧ answer s.prelude.length = .ok n := by
  cases h with
  | @stopped i e hi before here =>
    refine ⟨nofun, fun ⟨all, _⟩ => ?_⟩
    have accepted := all i (by simpa using hi)
    simp [here, isOk_iff] at accepted
  | done before count => simp_all

theorem Ran.length_of_ok {n : Nat} {calls : List Request}
    (h : Ran answer depth s (.ok n) calls) : calls.length = s.prelude.length + 1 := by
  cases h with
  | done before count => exact length_body depth s

/-! ### A scope around it -/

/-- What comes of a statement in a scope of its own: the result, the calls and what is logged. The
scope is nested if others are open around it. -/
inductive Bracketed (answer : Nat → Except Error Nat) (depth : Nat) (s : Statement) :
    Except Error Nat → List Request → List Event → Prop
  /-- The scope was not opened. -/
  | refused {e : Error} (first : answer 0 = .error e) :
    Bracketed answer depth s (.error e) [.enter depth] []
  /-- A call inside was refused, and the scope was given up. -/
  | abandoned {n : Nat} {e : Error} {made : List Request} (first : answer 0 = .ok n)
    (inside : Ran (fun i => answer (i + 1)) (depth + 1) s (.error e) made) :
    Bracketed answer depth s (.error e) (.enter depth :: (made ++ [.abandon (depth + 1)]))
      [.opened (0 < depth), .dropped (0 < depth)]
  /-- Everything inside went well, and the scope could not be committed. -/
  | uncommitted {n affected : Nat} {e : Error} {made : List Request} (first : answer 0 = .ok n)
    (inside : Ran (fun i => answer (i + 1)) (depth + 1) s (.ok affected) made)
    (last : answer (made.length + 1) = .error e) :
    Bracketed answer depth s (.error e) (.enter depth :: (made ++ [.commit (depth + 1)]))
      [.opened (0 < depth)]
  | committed {n affected m : Nat} {made : List Request} (first : answer 0 = .ok n)
    (inside : Ran (fun i => answer (i + 1)) (depth + 1) s (.ok affected) made)
    (last : answer (made.length + 1) = .ok m) :
    Bracketed answer depth s (.ok affected) (.enter depth :: (made ++ [.commit (depth + 1)]))
      [.opened (0 < depth)]

theorem Bracketed.ok_iff {result : Except Error Nat} {calls : List Request} {events : List Event}
    (h : Bracketed answer depth s result calls events) (n : Nat) :
    result = .ok n ↔
      (∀ i < s.prelude.length + 3, (answer i).isOk) ∧ answer (s.prelude.length + 1) = .ok n := by
  cases h with
  | @refused e first =>
    refine ⟨nofun, fun ⟨all, _⟩ => ?_⟩
    have accepted := all 0 (by omega)
    simp [first, isOk_iff] at accepted
  | @abandoned m e made first inside =>
    refine ⟨nofun, fun ⟨all, count⟩ => ?_⟩
    exact (inside.ok_iff n).2 ⟨fun i hi => all (i + 1) (by omega), count⟩
  | @uncommitted m affected e made first inside last =>
    refine ⟨nofun, fun ⟨all, _⟩ => ?_⟩
    have accepted := all (made.length + 1) (by simp [inside.length_of_ok])
    simp [last, isOk_iff] at accepted
  | @committed m affected k made first inside last =>
    refine (inside.ok_iff n).trans ⟨fun ⟨all, count⟩ => ⟨?_, count⟩, fun ⟨all, count⟩ =>
      ⟨fun i hi => all (i + 1) (by omega), count⟩⟩
    rintro (- | i) hi
    · simp [first, isOk_iff]
    · rcases Nat.lt_or_ge i (s.prelude.length + 1) with lt | ge
      · exact all i lt
      · obtain rfl : i = made.length := by rw [inside.length_of_ok]; omega
        simp [last, isOk_iff]

/-- A statement in a scope opens it, runs, and commits what went well. -/
theorem runScoped_scripted (replies : Nat → Except Error Nat) (depth : Nat) (s : Statement)
    (calls : List Request) (trace : List Event) :
    ∃ result made events, runScoped (.scripted replies) depth s ⟨calls, trace⟩ =
        (result, ⟨calls ++ made, trace ++ events⟩) ∧
      Bracketed (fun i => replies (calls.length + i)) depth s result made events := by
  cases first : replies calls.length with
  | error e =>
    refine ⟨.error e, [.enter depth], [], ?_, .refused first⟩
    simpa only [List.append_nil] using
      (show runScoped _ depth s _ = _ from bind_error (call_answer_error _ _ first))
  | ok n =>
    let opened : Session (List Request) :=
      ⟨calls ++ [.enter depth], trace ++ [.opened (isNested depth)]⟩
    obtain ⟨result, made, inside, ran⟩ :=
      run_scripted replies (depth + 1) s s.prelude opened.store opened.trace
    have start : runScoped (.scripted replies) depth s ⟨calls, trace⟩ =
        (do
          let affected ← guarded (.scripted replies) (depth + 1)
            (run (.scripted replies) (depth + 1) s)
          call ((Connection.scripted replies).commit (depth + 1))
          return affected) opened :=
      (bind_ok (call_answer_ok _ _ first)).trans (bind_ok rfl)
    have ran' : Ran (fun i => replies (calls.length + (i + 1))) (depth + 1) s result made := by
      simpa [opened, Nat.add_assoc, Nat.add_comm 1] using ran
    cases result with
    | error e =>
      refine ⟨_, _, _, ?_, .abandoned first ran'⟩
      rw [start, bind_error (guarded_error inside)]
      simp [drop, Connection.scripted, opened, isNested_eq]
    | ok affected =>
      have number : (opened.store ++ made).length = calls.length + (made.length + 1) := by
        simp [opened]
      rw [start, bind_ok (guarded_ok inside)]
      cases last : replies (opened.store ++ made).length with
      | error e =>
        refine ⟨_, _, _, ?_, .uncommitted first ran' (number ▸ last)⟩
        refine (bind_error (call_answer_error _ _ last)).trans ?_
        simp [opened, isNested_eq]
      | ok m =>
        refine ⟨_, _, _, ?_, .committed first ran' (number ▸ last)⟩
        refine (bind_ok (call_answer_ok _ _ last)).trans ?_
        simp [opened, isNested_eq, pure, ExceptT.pure, ExceptT.mk, StateT.pure]

/-! ### The whole -/

/-- What is logged before a statement runs. -/
def announced (options : Options) (bracketed : Bool) (s : Statement) : Event :=
  .executing s.kind s.table s.params.length s.prelude.length bracketed
    (Utf8.shortened options.maxLogLength s.sql)

/-- What is logged after it. -/
def concluded (s : Statement) : Except Error Nat → List Event
  | .ok affected => [.finished s.kind s.table affected]
  | .error _ => []

theorem execute_eq (c : Connection σ) {options : Options} (direct : Bool)
    (valid : s.validate options.maxParameters = .ok ()) (before : Session σ) {after : Session σ}
    {result : Except Error Nat}
    (h : (if direct then run c depth s else runScoped c depth s)
      ⟨before.store, before.trace ++ [announced options (!direct) s]⟩ = (result, after)) :
    execute c depth options direct s before =
      (result, ⟨after.store, after.trace ++ concluded s result⟩) := by
  have start : execute c depth options direct s before =
      ((if direct then run c depth s else runScoped c depth s) >>= fun affected =>
        log (.finished s.kind s.table affected) >>= fun _ => pure affected)
        ⟨before.store, before.trace ++ [announced options (!direct) s]⟩ := by
    have begun : (ExceptT.mk (pure (s.validate options.maxParameters)) : Call (Session σ) Unit)
        before = (.ok (), before) := by
      rw [valid]
      rfl
    cases direct <;> exact (bind_ok begun).trans (bind_ok rfl)
  rw [start]
  cases result with
  | error e =>
    rw [bind_error h]
    simp [concluded]
  | ok affected =>
    rw [bind_ok h]
    rfl

/-- The calls of a statement that is within the limits, in a scope of its own and without one. Where
the calls inside are answered alike, both stop at the same one. -/
theorem execute_scripted {options : Options}
    (valid : s.validate options.maxParameters = .ok ()) (replies replies' : Nat → Except Error Nat)
    (depth : Nat) (calls : List Request) (trace : List Event) :
    ∃ result made events result' made',
      execute (.scripted replies) depth options false s ⟨calls, trace⟩ =
        (result, ⟨calls ++ made,
          trace ++ announced options true s :: (events ++ concluded s result)⟩) ∧
      Bracketed (fun i => replies (calls.length + i)) depth s result made events ∧
      (∀ n, result = .ok n ↔
        (∀ i < s.prelude.length + 3, (replies (calls.length + i)).isOk) ∧
          replies (calls.length + (s.prelude.length + 1)) = .ok n) ∧
      execute (.scripted replies') depth options true s ⟨calls, trace⟩ =
        (result', ⟨calls ++ made', trace ++ announced options false s :: concluded s result'⟩) ∧
      Ran (fun i => replies' (calls.length + i)) depth s result' made' ∧
      (∀ n, result' = .ok n ↔
        (∀ i < s.prelude.length + 1, (replies' (calls.length + i)).isOk) ∧
          replies' (calls.length + s.prelude.length) = .ok n) ∧
      ((∃ n, replies calls.length = .ok n) →
        (∀ i, replies' (calls.length + i) = replies (calls.length + (i + 1))) →
        ∃ k closing, made' = (body depth s).take k ∧
          made = .enter depth :: ((body (depth + 1) s).take k ++ [closing]) ∧
          (closing = .commit (depth + 1) ∨ closing = .abandon (depth + 1))) := by
  obtain ⟨result, made, events, inScope, bracketed⟩ := runScoped_scripted replies depth s calls
    (trace ++ [announced options true s])
  obtain ⟨result', made', direct, ran⟩ := run_scripted replies' depth s s.prelude calls
    (trace ++ [announced options false s])
  refine ⟨result, made, events, result', made', ?_, bracketed, bracketed.ok_iff, ?_, ran,
    ran.ok_iff, ?_⟩
  · rw [execute_eq _ false valid ⟨calls, trace⟩ inScope]
    simp
  · rw [execute_eq _ true valid ⟨calls, trace⟩ direct]
    simp
  · rintro ⟨n, answered⟩ alike
    have ran' : Ran (fun i => replies (calls.length + (i + 1))) depth s result' made' := by
      simpa only [alike] using ran
    cases bracketed with
    | refused first => simp [answered] at first
    | abandoned first inside =>
      obtain ⟨-, k, rfl, rfl⟩ := ran'.same inside
      exact ⟨k, _, rfl, rfl, .inr rfl⟩
    | uncommitted first inside last =>
      obtain ⟨-, k, rfl, rfl⟩ := ran'.same inside
      exact ⟨k, _, rfl, rfl, .inl rfl⟩
    | committed first inside last =>
      obtain ⟨-, k, rfl, rfl⟩ := ran'.same inside
      exact ⟨k, _, rfl, rfl, .inl rfl⟩

/-- The second line of a prelude is refused. -/
theorem execute_scripted_second_line :
    let s : Statement := ⟨.delete, "t".toList, ["SET a.b = '1';".toList, "SET a.c = '2';".toList],
      ⟨[.raw "DELETE FROM t WHERE k = ".toList, .param], [.text "x"]⟩⟩
    s.validate 65535 = .ok () ∧
    ∃ result made events,
      execute (.scripted fun i => if i = 2 then .error (.query none) else .ok i) 0 {} false s
        ⟨[], []⟩ = (result, ⟨made, announced {} true s :: (events ++ concluded s result)⟩) ∧
      Bracketed (fun i => if i = 2 then .error (.query none) else .ok i) 0 s result made events := by
  intro s
  refine ⟨rfl, ?_⟩
  obtain ⟨result, made, events, -, -, runs, bracketed, -⟩ :=
    @execute_scripted s {} rfl
      (fun i => if i = 2 then .error (.query none) else .ok i) .ok 0 [] []
  simp only [List.nil_append, List.length_nil, Nat.zero_add] at runs bracketed
  exact ⟨result, made, events, runs, bracketed⟩

end Session
end BulkSql
