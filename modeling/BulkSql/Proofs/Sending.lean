import BulkSql.Bulk.Operation
import BulkSql.Proofs.Transaction
import BulkSql.Proofs.Traversal
import BulkSql.Store.Server

/-!
What an operation sends. Nothing is sent before its statement is there and within the limits, and
what fails after that is what the store reports.
-/
namespace BulkSql

/-! ### Connections -/

/-- Every report of a server is an error of execution. -/
theorem Error.isExecution_ofReport (report : ServerReport) :
    (ofReport report).isExecution = true := by
  unfold ofReport
  split <;> rfl

/-- A call that fails only with errors of execution. -/
def Call.FailsInExecution {σ α : Type} (c : Call σ α) : Prop :=
  ∀ s e, (c s).1 = .error e → e.isExecution = true

theorem Call.FailsInExecution.bind {σ α β : Type} {x : Call σ α} {f : α → Call σ β}
    (hx : x.FailsInExecution) (hf : ∀ a, (f a).FailsInExecution) : (x >>= f).FailsInExecution := by
  intro s e h
  cases ran : x s with
  | mk result t =>
    cases result with
    | error e' =>
      rw [Session.bind_error ran] at h
      obtain rfl := Except.error.inj h
      exact hx s e' (by rw [ran])
    | ok a =>
      rw [Session.bind_ok ran] at h
      exact hf a t e h

theorem Call.failsInExecution_throw {σ α : Type} {e : Error} (h : e.isExecution = true) :
    (throw e : Call σ α).FailsInExecution := by
  rintro s _ ⟨⟩
  exact h

theorem Call.failsInExecution_pure {σ α : Type} (a : α) :
    (pure a : Call σ α).FailsInExecution := nofun

namespace Connection

variable {σ α : Type}

/-- Whatever a connection reports itself is an error of execution. -/
structure ReportsExecution (c : Connection σ) : Prop where
  batch (depth : Nat) (sql : Sql) : (c.batch depth sql).FailsInExecution
  execute (depth : Nat) (sql : Sql) (params : List Value) :
    (c.execute depth sql params).FailsInExecution
  query (depth : Nat) (sql : Sql) (params : List Value) :
    (c.query depth sql params).FailsInExecution
  enter (depth : Nat) : (c.enter depth).FailsInExecution
  commit (depth : Nat) : (c.commit depth).FailsInExecution
  rollback (depth : Nat) : (c.rollback depth).FailsInExecution

/-- A call that is kept. -/
def keep (request : Request) (call : Call σ α) : Call (σ × List Request) α := fun s =>
  let (result, store) := call s.1
  (result, store, s.2 ++ [request])

/-- The same connection, with the calls that reach it. -/
def recorded (c : Connection σ) : Connection (σ × List Request) where
  batch depth sql := keep (.batch depth sql) (c.batch depth sql)
  execute depth sql params := keep (.execute depth sql params) (c.execute depth sql params)
  query depth sql params := keep (.query depth sql params) (c.query depth sql params)
  enter depth := keep (.enter depth) (c.enter depth)
  commit depth := keep (.commit depth) (c.commit depth)
  rollback depth := keep (.rollback depth) (c.rollback depth)
  abandon depth s := (c.abandon depth s.1, s.2 ++ [.abandon depth])

end Connection

namespace Server

variable {replies : Replies}

theorem failsInExecution_send (entry : Entry) : (send replies entry).FailsInExecution := by
  intro s e h
  unfold send at h
  split at h
  · cases h
    rfl
  · split at h
    · cases h
      rfl
    · dsimp only at h
      split at h
      · cases h
      · cases h
        exact Error.isExecution_ofReport _
      · cases h
        rfl

theorem failsInExecution_simple (sql : Sql) : (simple replies sql).FailsInExecution :=
  (failsInExecution_send _).bind fun _ => Call.failsInExecution_pure ()

theorem failsInExecution_execute (types : Nat → ParameterType) (sql : Sql) (params : List Value) :
    (execute replies types sql params).FailsInExecution := by
  have refused {α : Type} : (throw (.query none) : Call Server α).FailsInExecution :=
    Call.failsInExecution_throw rfl
  refine (failsInExecution_send _).bind fun _ => ?_
  cases encoded types params with
  | error _ =>
    dsimp only
    split
    · exact refused.bind fun _ => refused
    · exact refused
  | ok sent =>
    have runs : (send replies (.execute sql sent) >>= fun affected =>
        pure (affected.getD params.length) : Call Server Nat).FailsInExecution :=
      (failsInExecution_send _).bind fun _ => Call.failsInExecution_pure _
    dsimp only
    split
    · exact refused.bind fun _ => runs
    · exact runs

theorem failsInExecution_enter (depth : Nat) : (enter replies depth).FailsInExecution := by
  intro s e h
  unfold enter at h
  split at h
  · cases started : simple replies "START TRANSACTION".toList s with
    | mk result t =>
      rw [started] at h
      cases result with
      | ok _ => cases h
      | error e' =>
        obtain rfl := Except.error.inj h
        exact failsInExecution_simple _ s e' (by rw [started])
  · exact failsInExecution_simple _ s e h

/-- A database server reports only errors of execution, whatever its answers are. -/
theorem reportsExecution_connection (types : Nat → ParameterType) :
    (connection replies types).ReportsExecution where
  batch _ sql := failsInExecution_simple sql
  execute _ sql params := failsInExecution_execute types sql params
  query _ sql params :=
    (failsInExecution_execute types sql params).bind fun _ => Call.failsInExecution_pure 0
  enter := failsInExecution_enter
  commit _ := failsInExecution_simple _
  rollback _ := failsInExecution_simple _

end Server

/-- A store whose scopes are held by handles, and the depths of the scopes whose handles have given
their transaction away. -/
structure Handles (σ : Type) where
  store : σ
  finished : List Nat := []

namespace Handles

variable {σ α : Type}

def finishedError : Error := .other "transaction scope already finished"

/-- A call on the transaction of the handle at `depth`. -/
def use (depth : Nat) (call : Call σ α) : Call (Handles σ) α := fun s =>
  if depth ∈ s.finished then (.error finishedError, s)
  else
    let (result, store) := call s.store
    (result, { s with store })

/-- The last call on the transaction of a handle, which gives it away. -/
def finish (depth : Nat) (call : Call σ Unit) : Call (Handles σ) Unit := fun s =>
  if depth ∈ s.finished then (.ok (), s)
  else
    let (result, store) := call s.store
    (result, ⟨store, depth :: s.finished⟩)

/-- Opens a scope through the handle around it; it gets a new handle. -/
def enter (depth : Nat) (call : Call σ Unit) : Call (Handles σ) Unit := fun s =>
  match use depth call s with
  | (.ok _, s) => (.ok (), { s with finished := s.finished.filter (· ≠ depth + 1) })
  | (.error e, s) => (.error e, s)

/-- A connection behind handles: one that has given its transaction away answers with an error and
closes nothing. -/
def connection (c : Connection σ) : Connection (Handles σ) where
  batch depth sql := use depth (c.batch depth sql)
  execute depth sql params := use depth (c.execute depth sql params)
  query depth sql params := use depth (c.query depth sql params)
  enter depth := enter depth (c.enter depth)
  commit depth := finish depth (c.commit depth)
  rollback depth := finish depth (c.rollback depth)
  abandon depth s :=
    if depth ∈ s.finished then s else ⟨c.abandon depth s.store, depth :: s.finished⟩

end Handles

namespace Session

variable {σ α β : Type}

/-- A session on a connection whose calls are kept, behind handles. -/
abbrev Kept (σ : Type) := Session (Handles (σ × List Request))

/-- The connection of such a session. -/
abbrev kept (c : Connection σ) : Connection (Handles (σ × List Request)) :=
  Handles.connection c.recorded

/-- The calls that have reached the connection. -/
def sent (s : Kept σ) : List Request := s.store.store.2

/-- The handle at `depth` still has its transaction. -/
def Open (depth : Nat) (s : Kept σ) : Prop := depth ∉ s.store.finished

/-- Work that sends only what `P` allows, and fails only with an error of execution. It starts where
`Q` holds, and where it succeeds it leads to `R`. -/
def Sends (P : Request → Prop) (Q R : Kept σ → Prop) (work : Call (Kept σ) α) : Prop :=
  ∀ s, Q s → ∃ result after made, work s = (result, after) ∧ sent after = sent s ++ made ∧
    (∀ r ∈ made, P r) ∧ (∀ e, result = .error e → e.isExecution = true) ∧ (result.isOk → R after)

section Rules

variable {P : Request → Prop} {Q R T : Kept σ → Prop} {c : Connection σ} {depth : Nat}

theorem Sends.pure (a : α) : Sends P Q Q (pure a : Call (Kept σ) α) :=
  fun s hs => ⟨.ok a, s, [], rfl, by simp, nofun, nofun, fun _ => hs⟩

theorem Sends.bind {x : Call (Kept σ) α} {f : α → Call (Kept σ) β} (hx : Sends P Q R x)
    (hf : ∀ a, Sends P R T (f a)) : Sends P Q T (x >>= f) := by
  intro s hs
  obtain ⟨result, middle, made, ran, grown, allowed, execution, ok⟩ := hx s hs
  cases result with
  | error e =>
    exact ⟨_, middle, made, bind_error ran, grown, allowed, by simpa using execution,
      fun ok => by cases ok⟩
  | ok a =>
    obtain ⟨result', after, made', ran', grown', allowed', execution', ok'⟩ := hf a middle (ok rfl)
    refine ⟨result', after, made ++ made', (bind_ok ran).trans ran', ?_, ?_, execution', ok'⟩
    · rw [grown', grown, List.append_assoc]
    · exact List.forall_mem_append.2 ⟨allowed, allowed'⟩

theorem Sends.log (e : Event) (h : ∀ s t, Q ⟨s, t⟩ → Q ⟨s, t ++ [e]⟩) : Sends P Q Q (log e) :=
  fun s hs => ⟨.ok (), { s with trace := s.trace ++ [e] }, [], rfl, by simp [sent], nofun, nofun,
    fun _ => h _ _ hs⟩

/-- A call through an open handle is sent, and it fails as the connection does. -/
theorem Sends.use {request : Request} {made : Call σ α} (allowed : P request)
    (honest : made.FailsInExecution) :
    Sends P (Open depth) (Open depth)
      (call (Handles.use depth (Connection.keep request made))) := by
  intro s hs
  refine ⟨(made s.store.store.1).1, ⟨⟨((made s.store.store.1).2, sent s ++ [request]),
    s.store.finished⟩, s.trace⟩, [request], ?_, rfl, by simpa using allowed, honest _, fun _ => hs⟩
  simp only [call, Handles.use, if_neg hs]
  rfl

/-- The last call through an open handle. -/
theorem Sends.finish {request : Request} {made : Call σ Unit} (allowed : P request)
    (honest : made.FailsInExecution) :
    Sends P (Open depth) (fun _ => True)
      (call (Handles.finish depth (Connection.keep request made))) := by
  intro s hs
  refine ⟨(made s.store.store.1).1, ⟨⟨((made s.store.store.1).2, sent s ++ [request]),
    depth :: s.store.finished⟩, s.trace⟩, [request], ?_, rfl, by simpa using allowed, honest _,
    fun _ => trivial⟩
  simp only [call, Handles.finish, if_neg hs]
  rfl

/-- A scope is entered through the handle around it and has a handle of its own. -/
theorem Sends.enter (honest : c.ReportsExecution) (allowed : P (.enter depth)) :
    Sends P (Open depth) (Open (depth + 1))
      (call ((kept c).enter depth)) := by
  intro s hs
  have reached : Handles.use depth (Connection.keep (.enter depth) (c.enter depth)) s.store =
      ((c.enter depth s.store.store.1).1,
        ⟨((c.enter depth s.store.store.1).2, sent s ++ [.enter depth]), s.store.finished⟩) := by
    rw [Handles.use, if_neg hs]
    rfl
  cases h : (c.enter depth s.store.store.1).1 with
  | error e =>
    rw [h] at reached
    refine ⟨.error e, ⟨⟨((c.enter depth s.store.store.1).2, sent s ++ [.enter depth]),
      s.store.finished⟩, s.trace⟩, [.enter depth], ?_, rfl, by simpa using allowed, ?_,
      fun ok => by cases ok⟩
    · simp only [call, Handles.connection, Connection.recorded, Handles.enter, reached]
    · rintro _ ⟨⟩
      exact honest.enter _ _ _ h
  | ok a =>
    rw [h] at reached
    refine ⟨.ok (), ⟨⟨((c.enter depth s.store.store.1).2, sent s ++ [.enter depth]),
      s.store.finished.filter (· ≠ depth + 1)⟩, s.trace⟩, [.enter depth], ?_, rfl,
      by simpa using allowed, by simp, fun _ => by simp [Open]⟩
    simp only [call, Handles.connection, Connection.recorded, Handles.enter, reached]

/-- A scope is given up where the work inside fails. -/
theorem Sends.guarded {work : Call (Kept σ) α} (allowed : P (.abandon depth))
    (h : Sends P Q R work) :
    Sends P Q R (guarded (kept c) depth work) := by
  intro s hs
  obtain ⟨result, after, made, ran, grown, sound, execution, ok⟩ := h s hs
  cases result with
  | ok a =>
    exact ⟨.ok a, after, made, guarded_ok ran, grown, sound, execution, ok⟩
  | error e =>
    by_cases finished : depth ∈ after.store.finished
    · refine ⟨.error e, drop (kept c) depth after, made, guarded_error ran, ?_, sound, execution,
        fun ok => by cases ok⟩
      simpa [drop, Handles.connection, finished, sent] using grown
    · refine ⟨.error e, drop (kept c) depth after, made ++ [.abandon depth], guarded_error ran, ?_,
        List.forall_mem_append.2 ⟨sound, by simpa using allowed⟩, execution, fun ok => by cases ok⟩
      rw [← List.append_assoc, ← grown]
      simp [drop, Handles.connection, finished, sent, Connection.recorded]

end Rules

/-! ### Statements -/

/-- What can be sent for a statement: its prelude, itself, and the scope around them. -/
def BelongsTo (s : Statement) : Request → Prop
  | .batch _ sql => sql ∈ s.prelude
  | .execute _ sql params => sql = s.sql ∧ params = s.params
  | .query .. => False
  | .enter _ | .commit _ | .rollback _ | .abandon _ => True

section Statements

variable {c : Connection σ} {depth : Nat} {s : Statement}

theorem sends_prelude (honest : c.ReportsExecution) {lines : List Sql}
    (h : ∀ l ∈ lines, l ∈ s.prelude) :
    Sends (BelongsTo s) (Open depth) (Open depth)
      (run (kept c) depth { s with prelude := lines }) := by
  induction lines with
  | nil =>
    rw [run_nil _ rfl]
    exact Sends.use ⟨rfl, rfl⟩ (honest.execute _ _ _)
  | cons line lines ih =>
    simp only [List.forall_mem_cons] at h
    have first : Sends (BelongsTo s) (Open depth) (Open depth) (call ((kept c).batch depth line)) :=
      Sends.use h.1 (honest.batch _ _)
    rw [run_cons]
    exact first.bind fun _ => ih h.2

theorem sends_run (honest : c.ReportsExecution) :
    Sends (BelongsTo s) (Open depth) (Open depth) (run (kept c) depth s) :=
  sends_prelude honest fun _ hl => hl

theorem sends_runScoped (honest : c.ReportsExecution) :
    Sends (BelongsTo s) (Open depth) (fun _ => True) (runScoped (kept c) depth s) := by
  have commits : Sends (BelongsTo s) (Open (depth + 1)) (fun _ => True)
      (call ((kept c).commit (depth + 1))) := Sends.finish trivial (honest.commit _)
  refine (Sends.enter honest trivial).bind fun _ => ?_
  refine (Sends.log _ fun _ _ h => h).bind fun _ => ?_
  refine (Sends.guarded trivial (sends_run honest)).bind fun affected => ?_
  exact commits.bind fun _ => Sends.pure affected

theorem Sends.mono {P : Request → Prop} {Q R T : Kept σ → Prop} {work : Call (Kept σ) α}
    (h : Sends P Q R work) (imp : ∀ s, R s → T s) : Sends P Q T work := by
  intro s hs
  obtain ⟨result, after, made, ran, grown, allowed, execution, ok⟩ := h s hs
  exact ⟨result, after, made, ran, grown, allowed, execution, fun h => imp _ (ok h)⟩

/-- A statement outside of the limits is refused before anything is done. Any other one sends what
belongs to it, and fails only with an error of execution. -/
theorem sends_execute (honest : c.ReportsExecution) {options : Options} (direct : Bool)
    (valid : s.validate options.maxParameters = .ok ()) :
    Sends (BelongsTo s) (Open depth) (fun _ => True) (execute (kept c) depth options direct s) := by
  have runs : Sends (BelongsTo s) (Open depth) (fun _ => True)
      (if direct then run (kept c) depth s else runScoped (kept c) depth s) := by
    cases direct with
    | true => exact (sends_run honest).mono fun _ _ => trivial
    | false => exact sends_runScoped honest
  intro before hs
  obtain ⟨result, after, made, ran, grown, allowed, execution, -⟩ :=
    runs ⟨before.store, before.trace ++ [announced options (!direct) s]⟩ hs
  exact ⟨result, _, made, execute_eq _ direct valid before ran, grown, allowed, execution,
    fun _ => trivial⟩

theorem execute_refused {options : Options} {direct : Bool} {e : Error} (c : Connection σ)
    (refused : s.validate options.maxParameters = .error e) (before : Session σ) :
    execute c depth options direct s before = (.error e, before) := by
  have checked : (ExceptT.mk (pure (s.validate options.maxParameters)) : Call (Session σ) Unit)
      before = (.error e, before) := by
    rw [refused]
    rfl
  exact bind_error checked

end Statements

end Session

/-! ### Operations -/

namespace Statement

theorem validate_eq_ok_iff {s : Statement} {limit : Nat} :
    s.validate limit = .ok () ↔ s.placeholderCount = s.params.length ∧ s.params.length ≤ limit := by
  unfold validate
  split
  · simp_all
  · split <;> simp_all

theorem exists_of_validate_error {s : Statement} {limit : Nat} {e : Error}
    (h : s.validate limit = .error e) : ∃ why, e = .validation why := by
  unfold validate at h
  split at h
  · exact ⟨_, (Except.error.inj h).symm⟩
  · split at h
    · exact ⟨_, (Except.error.inj h).symm⟩
    · cases h

end Statement

theorem Options.maxParameters_of_validate {o : Options} (h : o.validate = .ok ()) :
    1 ≤ o.maxParameters ∧ o.maxParameters ≤ 65535 :=
  (validate_eq_ok_iff.1 h).2.2.2

namespace Bulk

variable {b : Bulk} {mapping : Except Error Entity}

/-- There is no statement without valid options. -/
theorem validate_of_statement {operation : Operation} {s : Statement}
    (h : b.statement mapping operation = .ok (some s)) : b.options.validate = .ok () := by
  have resolved : ∃ entity, b.resolve mapping = .ok entity := by
    cases operation with
    | insert rows =>
      simp only [statement, insertStatement] at h
      split at h
      · cases h
      · obtain ⟨entity, resolved, -⟩ := bind_eq_ok_iff.1 h
        exact ⟨entity, resolved⟩
    | delete query =>
      obtain ⟨s', made, -⟩ := map_eq_ok_iff.1 h
      obtain ⟨entity, resolved, -⟩ := bind_eq_ok_iff.1 made
      exact ⟨entity, resolved⟩
    | update query updater =>
      obtain ⟨s', made, -⟩ := map_eq_ok_iff.1 h
      obtain ⟨entity, resolved, -⟩ := bind_eq_ok_iff.1 made
      exact ⟨entity, resolved⟩
  obtain ⟨entity, resolved⟩ := resolved
  exact (resolve_eq_ok_iff.1 resolved).1

open Session (Kept kept sent)

/-- An operation on a connection that itself reports only errors of execution. Where it fails with
any other error, it has done nothing at all. What it sends with parameters is the statement that was
made for it, with as many places as parameters and within the limit. A handle that has given its
transaction away is never used. -/
theorem perform_sends {σ : Type} {c : Connection σ} (honest : c.ReportsExecution) (b : Bulk)
    (mapping : Except Error Entity) (operation : Operation) (direct : Bool) {depth : Nat}
    {before : Kept σ} (held : depth ∉ before.store.finished) :
    ∃ result after made,
      b.perform (kept c) depth direct mapping operation before = (result, after) ∧
      sent after = sent before ++ made ∧
      (∀ e, result = .error e → e.isExecution = false → after = before) ∧
      (∀ d sql params, .execute d sql params ∈ made →
        ∃ s, b.statement mapping operation = .ok (some s) ∧ sql = s.sql ∧ params = s.params ∧
          params.length = s.placeholderCount ∧ params.length ≤ b.options.maxParameters ∧
          1 ≤ b.options.maxParameters ∧ b.options.maxParameters ≤ 65535) ∧
      (∀ d sql params, .query d sql params ∉ made) ∧
      (result = .error Handles.finishedError →
        b.statement mapping operation = .error Handles.finishedError) := by
  unfold perform
  cases made : b.statement mapping operation with
  | error e =>
    refine ⟨.error e, before, [], rfl, by simp, fun _ _ _ => rfl, nofun, nofun, fun h => ?_⟩
    rw [Except.error.inj h]
  | ok found =>
    cases found with
    | none => exact ⟨.ok 0, before, [], rfl, by simp, nofun, nofun, nofun, nofun⟩
    | some s =>
      cases valid : s.validate b.options.maxParameters with
      | error e =>
        obtain ⟨why, rfl⟩ := Statement.exists_of_validate_error valid
        exact ⟨_, before, [], Session.execute_refused (kept c) valid before, by simp,
          fun _ _ _ => rfl, nofun, nofun, nofun⟩
      | ok =>
        obtain ⟨result, after, requests, ran, grown, belong, execution, -⟩ :=
          Session.sends_execute honest direct valid before held
        refine ⟨result, after, requests, ran, grown, ?_, ?_, fun d sql params => belong _, ?_⟩
        · rintro e rfl other
          rw [execution e rfl] at other
          cases other
        · intro d sql params hr
          obtain ⟨rfl, rfl⟩ := belong _ hr
          obtain ⟨places, within⟩ := Statement.validate_eq_ok_iff.1 valid
          exact ⟨s, rfl, rfl, rfl, places.symm, within,
            Options.maxParameters_of_validate (validate_of_statement made)⟩
        · rintro rfl
          exact absurd (execution _ rfl) (by decide)

def tasks : Entity :=
  ⟨"Task", ⟨none, ⟨"tasks", by decide, by decide⟩⟩,
    [{ member := "task", name := ⟨"task", by decide, by decide⟩, isKey := true },
     { member := "state", name := ⟨"state", by decide, by decide⟩ },
     { member := "reason", name := ⟨"reason", by decide, by decide⟩ }]⟩

/-- An update has a parameter for each of its two constants, which is found out when it is to run:
no scope is opened for it. -/
theorem perform_sends_tasks :
    let c := Server.connection (fun _ => .done) fun _ => .text
    let b : Bulk := ⟨fun _ _ => .ok "SELECT t.task FROM tasks AS t".toList, { maxParameters := 1 }⟩
    let close : Operation := .update .all (.init "Task"
      [.assign "state" (.literal (.text "closed")), .assign "reason" (.literal (.text "late"))])
    c.ReportsExecution ∧
    ∃ after, b.perform (kept c) 0 false (.ok tasks) close ⟨⟨({}, []), []⟩, []⟩ =
      (.error (.validation (.tooManyParameters "update" "tasks" 2 1)), after) ∧
        sent after = [] := by
  intro c b close
  have honest : c.ReportsExecution := Server.reportsExecution_connection _
  have failed : (b.perform (kept c) 0 false (.ok tasks) close ⟨⟨({}, []), []⟩, []⟩).1 =
      .error (.validation (.tooManyParameters "update" "tasks" 2 1)) := by cbv
  obtain ⟨result, after, made, ran, -, nothing, -⟩ :=
    @perform_sends _ c honest b (.ok tasks) close false 0 ⟨⟨({}, []), []⟩, []⟩ (by simp)
  rw [ran] at failed
  obtain rfl : result = _ := failed
  exact ⟨honest, after, ran, by rw [nothing _ rfl rfl]; rfl⟩

end Bulk

end BulkSql
