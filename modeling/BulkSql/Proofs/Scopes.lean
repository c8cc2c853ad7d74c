import BulkSql.Proofs.Sending

/-!
The scopes of a session. Whatever is done in it and whatever is replied, its commands are brackets:
every scope that was opened is closed by one later command, what is done in it stands between the
two, and a warning is logged for each scope that was given up.
-/
namespace BulkSql

/-- Whether the event is the warning that a scope was given up. -/
def Event.isDropped : Event → Bool
  | dropped _ => true
  | executing .. | opened _ | finished .. => false

namespace Request

/-- Whether the call runs something with `depth` scopes open around it. -/
def runsAt (depth : Nat) : Request → Bool
  | batch d _ | execute d _ _ | query d _ _ => d == depth
  | enter _ | commit _ | rollback _ | abandon _ => false

/-- Whether the call ends the innermost of `depth` scopes. -/
def closes (depth : Nat) : Request → Bool
  | commit d | rollback d | abandon d => d == depth
  | batch .. | execute .. | query .. | enter _ => false

/-- What is logged where a scope is given up: it is nested if it is not the only one that is open. -/
def warning? : Request → Option Event
  | abandon depth => some (.dropped (1 < depth))
  | _ => none

end Request

/-- A call, and whether it was accepted. -/
structure Command where
  request : Request
  accepted : Bool

namespace Command

/-- Whether the command has opened a scope inside of `depth` others. -/
def opens (depth : Nat) : Command → Bool
  | ⟨.enter d, true⟩ => d == depth
  | _ => false

def closes (depth : Nat) (c : Command) : Bool := c.request.closes depth

end Command

/-! ### Brackets -/

/-- Commands that are brackets, with `depth` scopes open around them. -/
inductive Nested : Nat → List Command → Prop
  | nil {depth : Nat} : Nested depth []
  | run {depth : Nat} {c : Command} {cs : List Command} (here : c.request.runsAt depth = true)
    (rest : Nested depth cs) : Nested depth (c :: cs)
  /-- A scope that could not be opened needs no closing. -/
  | refused {depth : Nat} {cs : List Command} (rest : Nested depth cs) :
    Nested depth (⟨.enter depth, false⟩ :: cs)
  | scope {depth : Nat} {inside cs : List Command} {c : Command}
    (within : Nested (depth + 1) inside) (closed : c.closes (depth + 1) = true)
    (rest : Nested depth cs) :
    Nested depth (⟨.enter depth, true⟩ :: (inside ++ c :: cs))

namespace Nested

variable {depth d : Nat} {cs ds front behind : List Command}

theorem append (h : Nested depth cs) (h' : Nested depth ds) : Nested depth (cs ++ ds) := by
  induction h with
  | nil => exact h'
  | run here _ ih => exact .run here (ih h')
  | refused _ ih => exact .refused (ih h')
  | scope within closed _ _ ih =>
    simpa only [List.cons_append, List.append_assoc] using Nested.scope within closed (ih h')

/-- No command inside of a scope closes it, or one around it. -/
theorem not_closes (h : Nested depth cs) (le : d ≤ depth) : ∀ c ∈ cs, c.closes d = false := by
  induction h with
  | nil => nofun
  | @run _ c _ here _ ih =>
    refine List.forall_mem_cons.2 ⟨?_, ih le⟩
    obtain ⟨request, accepted⟩ := c
    cases request <;> first | rfl | cases here
  | refused _ ih => exact List.forall_mem_cons.2 ⟨rfl, ih le⟩
  | @scope depth _ _ c _ closed _ inner ih =>
    refine List.forall_mem_cons.2 ⟨rfl, List.forall_mem_append.2 ⟨inner (by omega), ?_⟩⟩
    refine List.forall_mem_cons.2 ⟨?_, ih le⟩
    obtain ⟨request, accepted⟩ := c
    have other : depth + 1 ≠ d := by omega
    cases request <;> simp_all [Command.closes, Request.closes]

theorem opens_of_runsAt {c : Command} (h : c.request.runsAt depth = true) :
    c.opens d = false ∧ c.closes d = false := by
  obtain ⟨request, accepted⟩ := c
  cases request <;> first | exact ⟨rfl, rfl⟩ | cases h

theorem opens_of_closes {c : Command} (h : c.closes depth = true) :
    c.opens d = false ∧ c.closes d = (depth == d) := by
  obtain ⟨request, accepted⟩ := c
  cases request <;> simp_all [Command.closes, Request.closes, Command.opens]

/-- What opened a scope is closed by a later command, before which there is nothing but the brackets
inside of the scope. -/
theorem exists_closing (h : Nested depth cs) (e : cs = front ++ ⟨.enter d, true⟩ :: behind) :
    ∃ inside c rest, behind = inside ++ c :: rest ∧ c.closes (d + 1) = true ∧
      Nested (d + 1) inside ∧ ∀ b ∈ inside, b.closes (d + 1) = false := by
  induction h generalizing front behind with
  | nil => simp at e
  | run here _ ih =>
    cases front with
    | nil =>
      obtain ⟨rfl, -⟩ := List.cons.inj e
      cases here
    | cons _ front => exact ih (List.cons.inj e).2
  | refused _ ih =>
    cases front with
    | nil => cases e
    | cons _ front => exact ih (List.cons.inj e).2
  | @scope depth inside cs c within closed _ inner ih =>
    cases front with
    | nil =>
      obtain ⟨same, rfl⟩ := List.cons.inj e
      cases same
      exact ⟨inside, c, cs, rfl, closed, within, within.not_closes le_rfl⟩
    | cons _ front =>
      rcases List.append_eq_append_iff.1 (List.cons.inj e).2 with
        ⟨between, rfl, later⟩ | ⟨between, rfl, later⟩
      · cases between with
        | nil =>
          obtain ⟨rfl, -⟩ := List.cons.inj later
          cases closed
        | cons _ between => exact ih (List.cons.inj later).2
      · cases between with
        | nil =>
          obtain ⟨rfl, -⟩ := List.cons.inj later
          cases closed
        | cons _ between =>
          obtain ⟨rfl, rfl⟩ := List.cons.inj later
          obtain ⟨inside, c', rest, rfl, found⟩ := inner rfl
          exact ⟨inside, c', rest ++ c :: cs, by simp, found⟩

/-- As many scopes are closed as are opened, at each level. -/
theorem countP_opens (h : Nested depth cs) (d : Nat) :
    cs.countP (Command.opens d) = cs.countP (Command.closes (d + 1)) := by
  induction h with
  | nil => rfl
  | run here _ ih =>
    obtain ⟨opens, -⟩ := opens_of_runsAt (d := d) here
    obtain ⟨-, closes⟩ := opens_of_runsAt (d := d + 1) here
    simpa [opens, closes] using ih
  | refused _ ih => simpa [Command.opens, Command.closes, Request.closes] using ih
  | @scope depth _ _ c _ closed _ inner ih =>
    obtain ⟨opens, -⟩ := opens_of_closes (d := d) closed
    obtain ⟨-, closes⟩ := opens_of_closes (d := d + 1) closed
    have first : Command.opens d ⟨.enter depth, true⟩ = (depth + 1 == d + 1) := by
      simp [Command.opens]
    have enters : Command.closes (d + 1) ⟨.enter depth, true⟩ = false := rfl
    simp only [List.countP_cons, List.countP_append, opens, closes, first, enters, inner, ih]
    simp
    omega

end Nested

namespace Session

/-! ### What is done in a session -/

/-- The calls with their acceptance, where `answer` has the reply to each by its number. -/
def answered (answer : Nat → Except Error Nat) : List Request → List Command
  | [] => []
  | r :: rs => ⟨r, (answer 0).isOk⟩ :: answered (fun i => answer (i + 1)) rs

theorem answered_append (answer : Nat → Except Error Nat) (rs qs : List Request) :
    answered answer (rs ++ qs) =
      answered answer rs ++ answered (fun i => answer (rs.length + i)) qs := by
  induction rs generalizing answer with
  | nil => simp [answered]
  | cons r rs ih => simp [answered, ih, Nat.add_right_comm]

theorem map_request_answered (answer : Nat → Except Error Nat) (rs : List Request) :
    (answered answer rs).map Command.request = rs := by
  induction rs generalizing answer with
  | nil => rfl
  | cons r rs ih => simp [answered, ih]

/-- The outcome of a call that answers how many rows it changed. -/
def outcomeOf (make : Nat → Outcome) : Except Error Nat → Outcome
  | .ok n => make n
  | .error e => .failed e

/-- The call that ends a scope. -/
def closing (depth : Nat) : Ending → Request
  | .commit => .commit depth
  | .rollback => .rollback depth
  | .drop => .abandon depth

/-- What comes of ending a scope; nobody waits for the reply where it is given up. -/
def ended (reply : Except Error Nat) : Ending → Except Error Unit
  | .commit | .rollback => reply.map fun _ => ()
  | .drop => .ok ()

/-- The result of an operation for which nothing runs: it has no statement, or none within the
limits. -/
def idle (options : Options) : Except Error (Option Statement) → Option (Except Error Nat)
  | .error e => some (.error e)
  | .ok none => some (.ok 0)
  | .ok (some s) =>
    match s.validate options.maxParameters with
    | .error e => some (.error e)
    | .ok () => none

/-- What is logged where a scope ends. -/
def warnings (nested : Bool) : Ending → List Event
  | .drop => [.dropped nested]
  | .commit | .rollback => []

mutual

/-- What comes of a step with `depth` scopes open around it: the outcome, the calls and what is
logged. -/
inductive Took : (Nat → Except Error Nat) → Nat → Step → Outcome → List Request → List Event → Prop
  | idle {answer : Nat → Except Error Nat} {depth : Nat} {built : Except Error (Option Statement)}
    {options : Options} {direct : Bool} {result : Except Error Nat}
    (unsent : idle options built = some result) :
    Took answer depth (.bulk built options direct) (outcomeOf .affected result) [] []
  | direct {answer : Nat → Except Error Nat} {depth : Nat} {s : Statement} {options : Options}
    {result : Except Error Nat} {made : List Request}
    (valid : s.validate options.maxParameters = .ok ()) (ran : Ran answer depth s result made) :
    Took answer depth (.bulk (.ok (some s)) options true) (outcomeOf .affected result) made
      (announced options false s :: concluded s result)
  | bracketed {answer : Nat → Except Error Nat} {depth : Nat} {s : Statement} {options : Options}
    {result : Except Error Nat} {made : List Request} {events : List Event}
    (valid : s.validate options.maxParameters = .ok ())
    (ran : Bracketed answer depth s result made events) :
    Took answer depth (.bulk (.ok (some s)) options false) (outcomeOf .affected result) made
      (announced options true s :: (events ++ concluded s result))
  | batch {answer : Nat → Except Error Nat} {depth : Nat} {sql : Sql} :
    Took answer depth (.batch sql) (outcomeOf (fun _ => .done) (answer 0)) [.batch depth sql] []
  | execute {answer : Nat → Except Error Nat} {depth : Nat} {sql : Sql} {params : List Value} :
    Took answer depth (.execute sql params) (outcomeOf .affected (answer 0))
      [.execute depth sql params] []
  | query {answer : Nat → Except Error Nat} {depth : Nat} {sql : Sql} {params : List Value} :
    Took answer depth (.query sql params) (outcomeOf .rows (answer 0))
      [.query depth sql params] []
  /-- The scope was not opened, and its steps are not taken. -/
  | refused {answer : Nat → Except Error Nat} {depth : Nat} {inner : List Step} {ending : Ending}
    {e : Error} (first : answer 0 = .error e) :
    Took answer depth (.scope inner ending) (.failed e) [.enter depth] []
  | scope {answer : Nat → Except Error Nat} {depth : Nat} {inner : List Step} {ending : Ending}
    {n : Nat} {results : List Outcome} {made : List Request} {events : List Event}
    (first : answer 0 = .ok n)
    (inside : TookAll (fun i => answer (i + 1)) (depth + 1) inner results made events) :
    Took answer depth (.scope inner ending)
      (.scope (0 < depth) results (ended (answer (made.length + 1)) ending))
      (.enter depth :: (made ++ [closing (depth + 1) ending]))
      (events ++ warnings (0 < depth) ending)

/-- What comes of some steps, of which one that fails does not stop those after it. -/
inductive TookAll : (Nat → Except Error Nat) → Nat → List Step → List Outcome → List Request →
    List Event → Prop
  | nil {answer : Nat → Except Error Nat} {depth : Nat} : TookAll answer depth [] [] [] []
  | cons {answer : Nat → Except Error Nat} {depth : Nat} {x : Step} {xs : List Step}
    {result : Outcome} {results : List Outcome} {made made' : List Request}
    {events events' : List Event} (first : Took answer depth x result made events)
    (rest : TookAll (fun i => answer (made.length + i)) depth xs results made' events') :
    TookAll answer depth (x :: xs) (result :: results) (made ++ made') (events ++ events')

end

section Run

variable {replies : Nat → Except Error Nat} {depth : Nat}

theorem outcome_eq {σ : Type} {c : Call (Session σ) Nat} {s after : Session σ}
    {result : Except Error Nat} (h : c s = (result, after)) :
    outcome .affected c s = (outcomeOf .affected result, after) := by
  cases result <;> simp [outcome, h, outcomeOf]

/-- A single call is answered by the next reply. -/
theorem outcome_answer {α : Type} (make : α → Outcome) (f : Nat → α) (request : Request)
    (calls : List Request) (trace : List Event) :
    outcome make (call (Connection.scripted.answer replies request f)) ⟨calls, trace⟩ =
      (outcomeOf (make ∘ f) (replies calls.length), ⟨calls ++ [request], trace⟩) := by
  cases h : replies calls.length with
  | ok n => simp [outcome, call_answer_ok request f h, outcomeOf]
  | error e => simp [outcome, call_answer_error request f h, outcomeOf]

/-- An operation either runs nothing or its statement, with a scope around it or without. -/
theorem executeBuilt_scripted (replies : Nat → Except Error Nat) (depth : Nat)
    (built : Except Error (Option Statement)) (options : Options) (direct : Bool)
    (calls : List Request) (trace : List Event) :
    ∃ result made events,
      executeBuilt (.scripted replies) depth options direct built ⟨calls, trace⟩ =
        (result, ⟨calls ++ made, trace ++ events⟩) ∧
      Took (fun i => replies (calls.length + i)) depth (.bulk built options direct)
        (outcomeOf .affected result) made events := by
  match built with
  | .error e => exact ⟨.error e, [], [], by simp [executeBuilt]; rfl, .idle rfl⟩
  | .ok none => exact ⟨.ok 0, [], [], by simp [executeBuilt]; rfl, .idle rfl⟩
  | .ok (some s) =>
    cases valid : s.validate options.maxParameters with
    | error e =>
      have unsent : idle options (.ok (some s)) = some (.error e) := by simp [idle, valid]
      refine ⟨.error e, [], [], ?_, .idle unsent⟩
      rw [List.append_nil, List.append_nil]
      exact execute_refused (.scripted replies) valid ⟨calls, trace⟩
    | ok =>
      cases direct with
      | true =>
        obtain ⟨result, made, runs, ran⟩ := run_scripted replies depth s s.prelude calls
          (trace ++ [announced options false s])
        have whole := execute_eq (.scripted replies) true valid ⟨calls, trace⟩ runs
        exact ⟨result, made, _, by simpa [executeBuilt] using whole, .direct valid ran⟩
      | false =>
        obtain ⟨result, made, events, runs, ran⟩ := runScoped_scripted replies depth s calls
          (trace ++ [announced options true s])
        have whole := execute_eq (.scripted replies) false valid ⟨calls, trace⟩ runs
        exact ⟨result, made, _, by simpa [executeBuilt] using whole, .bracketed valid ran⟩

theorem finish_scripted (replies : Nat → Except Error Nat) (depth : Nat) (ending : Ending)
    (calls : List Request) (trace : List Event) :
    finish (.scripted replies) (depth + 1) ending ⟨calls, trace⟩ =
      (ended (replies calls.length) ending,
        ⟨calls ++ [closing (depth + 1) ending], trace ++ warnings (0 < depth) ending⟩) := by
  cases ending with
  | drop => simp [finish, drop, Connection.scripted, ended, closing, warnings, isNested_eq]
  | commit =>
    simp [finish, call, Connection.scripted, Connection.scripted.answer, ended, closing, warnings]
  | rollback =>
    simp [finish, call, Connection.scripted, Connection.scripted.answer, ended, closing, warnings]

mutual

theorem step_scripted (replies : Nat → Except Error Nat) (depth : Nat) (x : Step)
    (calls : List Request) (trace : List Event) :
    ∃ result made events,
      step (.scripted replies) depth x ⟨calls, trace⟩ =
        (result, ⟨calls ++ made, trace ++ events⟩) ∧
      Took (fun i => replies (calls.length + i)) depth x result made events := by
  cases x with
  | bulk built options direct =>
    obtain ⟨result, made, events, ran, took⟩ :=
      executeBuilt_scripted replies depth built options direct calls trace
    exact ⟨_, made, events, outcome_eq ran, took⟩
  | batch sql =>
    refine ⟨_, [.batch depth sql], [], ?_, .batch⟩
    rw [step, List.append_nil]
    exact outcome_answer (fun _ => .done) (fun _ => ()) _ calls trace
  | execute sql params =>
    refine ⟨_, [.execute depth sql params], [], ?_, .execute⟩
    rw [step, List.append_nil]
    exact outcome_answer .affected id _ calls trace
  | query sql params =>
    refine ⟨_, [.query depth sql params], [], ?_, .query⟩
    rw [step, List.append_nil]
    exact outcome_answer .rows id _ calls trace
  | scope inner ending =>
    have entered : call ((Connection.scripted replies).enter depth) ⟨calls, trace⟩ =
        ((replies calls.length).map fun _ => (), ⟨calls ++ [.enter depth], trace⟩) := rfl
    cases first : replies calls.length with
    | error e =>
      rw [first] at entered
      refine ⟨.failed e, [.enter depth], [], ?_, .refused first⟩
      simp only [step, entered, Except.map, List.append_nil]
    | ok n =>
      rw [first] at entered
      obtain ⟨results, made, events, ran, took⟩ :=
        steps_scripted replies (depth + 1) inner (calls ++ [.enter depth]) trace
      have inside : TookAll (fun i => replies (calls.length + (i + 1))) (depth + 1) inner results
          made events := by simpa [Nat.add_assoc, Nat.add_comm 1] using took
      have last := finish_scripted replies depth ending (calls ++ [.enter depth] ++ made)
        (trace ++ events)
      have number : (calls ++ [Request.enter depth] ++ made).length =
          calls.length + (made.length + 1) := by
        simp
      rw [number] at last
      refine ⟨_, _, _, ?_, .scope first inside⟩
      simp only [step, entered, Except.map, ran, last]
      simp [isNested_eq]

theorem steps_scripted (replies : Nat → Except Error Nat) (depth : Nat) (xs : List Step)
    (calls : List Request) (trace : List Event) :
    ∃ results made events,
      steps (.scripted replies) depth xs ⟨calls, trace⟩ =
        (results, ⟨calls ++ made, trace ++ events⟩) ∧
      TookAll (fun i => replies (calls.length + i)) depth xs results made events := by
  cases xs with
  | nil => exact ⟨[], [], [], by simp [steps], .nil⟩
  | cons x xs =>
    obtain ⟨result, made, events, ran, took⟩ := step_scripted replies depth x calls trace
    obtain ⟨results, made', events', ran', took'⟩ :=
      steps_scripted replies depth xs (calls ++ made) (trace ++ events)
    refine ⟨_, _, _, ?_, .cons took (by simpa [Nat.add_assoc] using took')⟩
    simp [steps, ran, ran']

end

end Run

/-! ### What is done are brackets -/

/-- Calls that are brackets, and a warning in the log for each scope that was given up. -/
structure Closes (answer : Nat → Except Error Nat) (depth : Nat) (made : List Request)
    (events : List Event) : Prop where
  nested : Nested depth (answered answer made)
  warned : events.filter Event.isDropped = made.filterMap Request.warning?

section Closes

variable {answer : Nat → Except Error Nat} {depth : Nat} {s : Statement}
  {result : Except Error Nat} {made made' : List Request} {events events' : List Event}

theorem Closes.append (h : Closes answer depth made events)
    (h' : Closes (fun i => answer (made.length + i)) depth made' events') :
    Closes answer depth (made ++ made') (events ++ events') where
  nested := by
    rw [answered_append]
    exact h.nested.append h'.nested
  warned := by rw [List.filter_append, List.filterMap_append, h.warned, h'.warned]

/-- Only the warnings of what is logged count. -/
theorem Closes.logged (h : Closes answer depth made events)
    (same : events'.filter Event.isDropped = events.filter Event.isDropped) :
    Closes answer depth made events' := ⟨h.nested, same.trans h.warned⟩

/-- What runs with the same scopes open opens none and gives up none. -/
theorem closes_of_runsAt (h : ∀ r ∈ made, r.runsAt depth = true) : Closes answer depth made [] := by
  induction made generalizing answer with
  | nil => exact ⟨.nil, rfl⟩
  | cons r rs ih =>
    simp only [List.forall_mem_cons] at h
    obtain ⟨nested, warned⟩ := @ih (fun i => answer (i + 1)) h.2
    refine ⟨.run h.1 nested, ?_⟩
    have silent : r.warning? = none := by
      cases r <;> first | rfl | cases h.1
    rw [List.filterMap_cons_none silent, ← warned]

/-- A scope around what is done with one more scope open. -/
theorem Closes.scope {n : Nat} {last : Request} (first : answer 0 = .ok n)
    (inside : Closes (fun i => answer (i + 1)) (depth + 1) made events)
    (closing : last.closes (depth + 1) = true) :
    Closes answer depth (.enter depth :: (made ++ [last])) (events ++ last.warning?.toList) where
  nested := by
    have opened : (answer 0).isOk = true := by rw [first]; rfl
    rw [answered, opened, answered_append]
    exact .scope inside.nested closing .nil
  warned := by
    have logged : last.warning?.toList.filter Event.isDropped = last.warning?.toList := by
      cases last <;> rfl
    rw [List.filter_append, inside.warned, logged, List.filterMap_cons_none rfl,
      List.filterMap_append]
    cases last <;> rfl

theorem Ran.runsAt (h : Ran answer depth s result made) : ∀ r ∈ made, r.runsAt depth = true := by
  have all : ∀ r ∈ body depth s, r.runsAt depth = true := by
    intro r hr
    simp only [body, List.mem_append, List.mem_map, List.mem_singleton] at hr
    obtain ⟨sql, -, rfl⟩ | rfl := hr <;> simp [Request.runsAt]
  cases h with
  | stopped _ _ _ => exact fun r hr => all r (List.mem_of_mem_take hr)
  | done _ _ => exact all

theorem closes_refused {e : Error} (first : answer 0 = .error e) :
    Closes answer depth [.enter depth] [] := by
  refine ⟨?_, rfl⟩
  simp only [answered, first]
  exact .refused .nil

theorem Bracketed.closes (h : Bracketed answer depth s result made events) :
    Closes answer depth made events := by
  cases h with
  | refused first => exact closes_refused first
  | abandoned first inside =>
    have given : (Request.abandon (depth + 1)).closes (depth + 1) = true := by simp [Request.closes]
    refine (Closes.scope first (closes_of_runsAt inside.runsAt) given).logged ?_
    simp [Request.warning?, Event.isDropped]
  | uncommitted first inside last =>
    have ended : (Request.commit (depth + 1)).closes (depth + 1) = true := by simp [Request.closes]
    exact (Closes.scope first (closes_of_runsAt inside.runsAt) ended).logged rfl
  | committed first inside last =>
    have ended : (Request.commit (depth + 1)).closes (depth + 1) = true := by simp [Request.closes]
    exact (Closes.scope first (closes_of_runsAt inside.runsAt) ended).logged rfl

theorem filter_concluded (s : Statement) (result : Except Error Nat) :
    (concluded s result).filter Event.isDropped = [] := by
  cases result <;> rfl

theorem TookAll.closes {xs : List Step} {results : List Outcome}
    (h : TookAll answer depth xs results made events) : Closes answer depth made events := by
  induction h using TookAll.rec
    (motive_1 := fun answer depth _ _ made events _ => Closes answer depth made events) with
  | idle _ => exact ⟨.nil, rfl⟩
  | direct _ ran =>
    refine (closes_of_runsAt ran.runsAt).logged ?_
    simpa [announced, Event.isDropped] using filter_concluded _ _
  | bracketed _ ran =>
    refine ran.closes.logged ?_
    simp [announced, Event.isDropped, filter_concluded]
  | batch => exact closes_of_runsAt (by simp [Request.runsAt])
  | execute => exact closes_of_runsAt (by simp [Request.runsAt])
  | query => exact closes_of_runsAt (by simp [Request.runsAt])
  | refused first => exact closes_refused first
  | @scope _ depth _ ending _ _ _ _ first _ inside =>
    have ended : (closing (depth + 1) ending).closes (depth + 1) = true := by
      cases ending <;> simp [closing, Request.closes]
    have warned :
        warnings (0 < depth) ending = (closing (depth + 1) ending).warning?.toList := by
      cases ending <;> simp [warnings, closing, Request.warning?]
    rw [warned]
    exact .scope first inside ended
  | nil => exact ⟨.nil, rfl⟩
  | cons _ _ first rest => exact first.append rest

end Closes

/-! ### Which scopes are nested -/

/-- Every scope says of itself whether it is inside of another one. -/
inductive Flagged : Bool → Outcome → Prop
  | failed {nested : Bool} {e : Error} : Flagged nested (.failed e)
  | done {nested : Bool} : Flagged nested .done
  | affected {nested : Bool} {count : Nat} : Flagged nested (.affected count)
  | rows {nested : Bool} {count : Nat} : Flagged nested (.rows count)
  | scope {nested : Bool} {results : List Outcome} {ending : Except Error Unit}
    (inside : ∀ r ∈ results, Flagged true r) : Flagged nested (.scope nested results ending)

theorem flagged_outcomeOf {nested : Bool} {make : Nat → Outcome} (h : ∀ n, Flagged nested (make n))
    (result : Except Error Nat) : Flagged nested (outcomeOf make result) := by
  cases result with
  | ok n => exact h n
  | error e => exact .failed

theorem TookAll.flagged {answer : Nat → Except Error Nat} {depth : Nat} {xs : List Step}
    {results : List Outcome} {made : List Request} {events : List Event}
    (h : TookAll answer depth xs results made events) :
    ∀ r ∈ results, Flagged (0 < depth) r := by
  induction h using TookAll.rec
    (motive_1 := fun _ depth _ result _ _ _ => Flagged (0 < depth) result) with
  | idle _ => exact flagged_outcomeOf (fun _ => .affected) _
  | direct _ _ => exact flagged_outcomeOf (fun _ => .affected) _
  | bracketed _ _ => exact flagged_outcomeOf (fun _ => .affected) _
  | batch => exact flagged_outcomeOf (fun _ => .done) _
  | execute => exact flagged_outcomeOf (fun _ => .affected) _
  | query => exact flagged_outcomeOf (fun _ => .rows) _
  | refused _ => exact .failed
  | scope _ _ inside => exact .scope (by simpa using inside)
  | nil => nofun
  | cons _ _ first rest => exact List.forall_mem_cons.2 ⟨first, rest⟩

/-! ### The whole -/

/-- The calls of a whole session are brackets: every call that opened a scope is followed by one
that closes it, with the brackets inside of the scope between, and at each level as many scopes are
closed as are opened. The warnings in the log are those of the scopes that were given up, in this
order. -/
structure Closed (depth : Nat) (commands : List Command) (events : List Event) : Prop where
  nested : Nested depth commands
  once : ∀ front d behind, commands = front ++ ⟨.enter d, true⟩ :: behind →
    ∃ inside c rest, behind = inside ++ c :: rest ∧ c.closes (d + 1) = true ∧
      Nested (d + 1) inside ∧ ∀ b ∈ inside, b.closes (d + 1) = false
  count : ∀ d, commands.countP (Command.opens d) = commands.countP (Command.closes (d + 1))
  warned : events.filter Event.isDropped =
    commands.filterMap fun c => c.request.warning?

theorem Closes.closed {answer : Nat → Except Error Nat} {depth : Nat} {made : List Request}
    {events : List Event} (h : Closes answer depth made events) :
    Closed depth (answered answer made) events where
  nested := h.nested
  once _ _ _ e := h.nested.exists_closing e
  count := h.nested.countP_opens
  warned := by
    have requests :
        (fun c : Command => c.request.warning?) = Request.warning? ∘ Command.request := rfl
    rw [h.warned, requests, ← List.filterMap_map, map_request_answered]

/-- What a session does on a client, where `depth` is zero, or inside of scopes, and in a
transaction of its own, whatever the replies are. Scopes that are begun on a client are not nested,
and all others are. -/
theorem scopes_close (replies : Nat → Except Error Nat) (xs : List Step) (calls : List Request)
    (trace : List Event) :
    (∀ depth, ∃ results made events,
      steps (.scripted replies) depth xs ⟨calls, trace⟩ =
        (results, ⟨calls ++ made, trace ++ events⟩) ∧
      TookAll (fun i => replies (calls.length + i)) depth xs results made events ∧
      Closed depth (answered (fun i => replies (calls.length + i)) made) events ∧
      (depth = 0 → ∀ r ∈ results, Flagged false r) ∧
      (0 < depth → ∀ r ∈ results, Flagged true r)) ∧
    ∃ result made events,
      transaction (.scripted replies) xs ⟨calls, trace⟩ =
        (result, ⟨calls ++ made, trace ++ events⟩) ∧
      Closed 0 (answered (fun i => replies (calls.length + i)) made) events ∧
      ((∃ e, replies calls.length = .error e ∧ result = .error e ∧ made = [.enter 0]) ∨
        ∃ n results inside, replies calls.length = .ok n ∧ result = .ok results ∧
          made = .enter 0 :: (inside ++ [.commit 1]) ∧
          TookAll (fun i => replies (calls.length + (i + 1))) 1 xs results inside events ∧
          ∀ r ∈ results, Flagged true r) := by
  refine ⟨fun depth => ?_, ?_⟩
  · obtain ⟨results, made, events, ran, took⟩ := steps_scripted replies depth xs calls trace
    refine ⟨results, made, events, ran, took, took.closes.closed, ?_, fun inner => ?_⟩
    · rintro rfl
      exact took.flagged
    · simpa [inner] using took.flagged
  · have entered : call ((Connection.scripted replies).enter 0) ⟨calls, trace⟩ =
        ((replies calls.length).map fun _ => (), ⟨calls ++ [.enter 0], trace⟩) := rfl
    cases first : replies calls.length with
    | error e =>
      rw [first] at entered
      refine ⟨.error e, [.enter 0], [], ?_, (closes_refused first).closed, .inl ⟨e, rfl, rfl, rfl⟩⟩
      simp only [transaction, entered, Except.map, List.append_nil]
    | ok n =>
      rw [first] at entered
      obtain ⟨results, made, events, ran, took⟩ :=
        steps_scripted replies 1 xs (calls ++ [.enter 0]) trace
      have inside :
          TookAll (fun i => replies (calls.length + (i + 1))) 1 xs results made events := by
        simpa [Nat.add_assoc, Nat.add_comm 1] using took
      have last := finish_scripted replies 0 .commit (calls ++ [.enter 0] ++ made) (trace ++ events)
      have whole : Closes (fun i => replies (calls.length + i)) 0
          (.enter 0 :: (made ++ [.commit 1])) (events ++ []) := .scope first inside.closes rfl
      rw [List.append_nil] at whole
      refine ⟨.ok results, _, events, ?_, whole.closed,
        .inr ⟨n, results, made, rfl, rfl, rfl, inside, took.flagged⟩⟩
      simp only [transaction, entered, Except.map, ran, last]
      simp [closing, warnings]

end Session
end BulkSql
