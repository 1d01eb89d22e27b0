/-
Module: HelpdeskApi.Proofs.AllOrNothing
Layer: Proofs
Purpose: Whatever a use case calls throws whenever it likes: a use case that writes leaves everything its
  body has written behind, in one commit, or nothing at all. An error of the body is the error it answers
  with, and an exception goes through as it was thrown. Where nothing throws, the machinery does what
  running the body in one piece does.
Trusted boundary: none
Main exports: Execution.Ends, AllOrNothing, execute_allOrNothing, execute_serve
-/
import HelpdeskApi.Application.Transactional
import HelpdeskApi.Application.SerialRuns

namespace Helpdesk

open Txn Async

variable {X : Type} {faults : Faults repositories X} {e : Execution} {db : Db} {steps : Nat}

/-- The body of an execution, run in a transaction that begins at this step, ends with this result after
    these writes. The database stays as it is meanwhile. -/
def Execution.Ends (e : Execution) (faults : Faults repositories X) (db : Db) (steps : Nat)
    (result : Except (Thrown X) (Except TicketingError Output)) (writes : List Write) : Prop :=
  ∃ steps', Ran (e.body faults) e.ctx db steps result writes steps'

/-- The error a use case answers with before it opens a transaction. -/
def Execution.refusal (e : Execution) : Option TicketingError :=
  match e.useCase with
  | .updateSlaPolicy input =>
      match makeSlaTarget input.responseMinutes input.resolutionMinutes with
      | .error reason => some reason
      | .ok _ => none
  | _ => none

/-- What an execution that began at this step can come to: its result and what it leaves behind. -/
inductive AllOrNothing (faults : Faults repositories X) (e : Execution) (db : Db) (steps : Nat) :
    Except (Thrown X) (Except TicketingError Output) × World repositories → Prop where
  /-- The writes of the body are committed together. -/
  | committed {out : Output} {writes : List Write} {steps' : Nat}
      (ends : e.Ends faults db (steps + 2) (.ok (.ok out)) writes) :
      AllOrNothing faults e db steps (.ok (.ok out), .idle (db.after writes) steps')
  /-- The error of the body is the result, and nothing is left of what it has written. -/
  | rejected {reason : TicketingError} {writes : List Write} {steps' : Nat}
      (ends : e.Ends faults db (steps + 2) (.ok (.error reason)) writes) :
      AllOrNothing faults e db steps (.ok (.error reason), .idle db steps')
  /-- The exception that something threw in the body goes on, and nothing is left of what was written. -/
  | raised {x : X} {writes : List Write} {steps' : Nat}
      (ends : e.Ends faults db (steps + 2) (.error (.other x)) writes) (raised : Raised faults (.other x)) :
      AllOrNothing faults e db steps (.error (.other x), .idle db steps')
  /-- The body has not begun: an error of the input. -/
  | refused {reason : TicketingError} {steps' : Nat} (refusal : e.refusal = some reason) :
      AllOrNothing faults e db steps (.ok (.error reason), .idle db steps')
  /-- The body has not begun: an exception. -/
  | unopened {x : X} {writes : List Write} {step steps' : Nat} (early : step ≤ steps + 1)
      (fault : faults.thrown step = some (x, writes)) :
      AllOrNothing faults e db steps (.error (.other x), .idle db steps')

/-- The body ends, and throws only what something it called has thrown. -/
theorem Execution.exists_ends (e : Execution) (faults : Faults repositories X) (db : Db) (steps : Nat) :
    ∃ result writes steps', Ran (e.body faults) e.ctx db steps result writes steps' ∧
      ∀ t, result = .error t → Raised faults t := by
  obtain ⟨result, writes, steps', ran⟩ := (confined_perform e.program).ran e.ctx db steps
  refine ⟨result, writes, steps', ran, ?_⟩
  intro t isThrown
  exact raises_perform e.program _ t _ (isThrown ▸ ran)

/-- A use case in `runTransactional` is all or nothing. -/
theorem allOrNothing_runTransactional {tenantId : TenantId} (own : e.useCase.tenantId = tenantId) :
    AllOrNothing faults e db steps
      (runTransactional faults e.requestId tenantId (e.body faults) none (.idle db (steps + 1))) := by
  subst own
  cases fault : faults.thrown (steps + 1) with
  | some thrown =>
      rw [runTransactional_unopened fault]
      exact .unopened (Nat.le_refl _) fault
  | none =>
      obtain ⟨result, writes, steps', ran, raises⟩ := e.exists_ends faults db (steps + 2)
      cases result with
      | error t =>
          cases t with
          | rollbackSignal reason => cases raises _ rfl
          | other x =>
              rw [runTransactional_thrown fault ran]
              exact .raised ⟨steps', ran⟩ (raises _ rfl)
      | ok outcome =>
          cases outcome with
          | error reason =>
              rw [runTransactional_err fault ran]
              exact .rejected ⟨steps', ran⟩
          | ok out =>
              rw [runTransactional_ok fault ran]
              exact .committed ⟨steps', ran⟩

/-- What every value of a program satisfies, the value of its body satisfies. -/
theorem perform_result {α : Type} {V : α → Prop} {requestId : Option String} {p : Proc sig α}
    (within : p.Within (fun _ => True) V) {tx : Option Nat} {w w' : World repositories} {a : α}
    (ran : perform faults requestId p tx w = (.ok a, w')) : V a := by
  induction p generalizing w with
  | done b =>
      obtain ⟨_, _, _, returned⟩ := of_run_bind_ok ran
      cases returned
      exact within
  | call c next ih =>
      obtain ⟨_, _, _, rest⟩ := of_run_bind_ok ran
      obtain ⟨reply, _, _, rest⟩ := of_run_bind_ok rest
      exact ih reply (within.2 reply) rest

/-- Resetting a policy cannot fail. -/
theorem noError_of_reset {input : ResetSlaPolicyInput} (isReset : e.useCase = .resetSlaPolicy input) :
    e.program.Within (fun _ => True) fun out => commitsResult out = true := by
  unfold Execution.program
  rw [isReset]
  refine (Proc.within_map _ _).mpr (.ask trivial fun _ => .ask trivial fun habia => .ask trivial fun _ => ?_)
  cases habia with
  | false => rfl
  | true => exact .ask trivial fun _ => rfl

/-- A use case that cannot fail is all or nothing without `runTransactional`. -/
theorem allOrNothing_run {tenantId : TenantId} (own : e.useCase.tenantId = tenantId)
    (noError : e.program.Within (fun _ => True) fun out => commitsResult out = true) :
    AllOrNothing faults e db steps
      (PrismaTransactionManager.run faults e.requestId tenantId (e.body faults) none (.idle db (steps + 1))) := by
  subst own
  cases fault : faults.thrown (steps + 1) with
  | some thrown =>
      rw [run_unopened fault]
      exact .unopened (Nat.le_refl _) fault
  | none =>
      obtain ⟨result, writes, steps', ran, raises⟩ := e.exists_ends faults db (steps + 2)
      cases result with
      | error t =>
          cases t with
          | rollbackSignal reason => cases raises _ rfl
          | other x =>
              rw [run_error fault ran]
              exact .raised ⟨steps', ran⟩ (raises _ rfl)
      | ok outcome =>
          cases outcome with
          | error reason => cases perform_result noError ran
          | ok out =>
              rw [run_ok fault ran]
              exact .committed ⟨steps', ran⟩

/-- Every use case that writes is all or nothing, whatever it is called with, whatever the database holds and
    whatever throws along the way. -/
theorem execute_allOrNothing (isCommand : e.useCase.isCommand = true) :
    AllOrNothing faults e db steps (e.execute faults none (.idle db steps)) := by
  cases fault : faults.thrown steps with
  | some thrown =>
      obtain ⟨x, writes⟩ := thrown
      have thrown : (faults.map Thrown.other).thrown steps = some (.other x, writes) := by simp [Faults.map, fault]
      have ran : e.execute faults none (.idle db steps) = _ := run_bind_error (run_point_thrown thrown)
      rw [ran]
      exact .unopened (Nat.le_succ steps) fault
  | none =>
      have quiet : (faults.map Thrown.other).thrown steps = none := by simp [Faults.map, fault]
      have ran : e.execute faults none (.idle db steps) = _ := run_bind_ok (run_point quiet)
      rw [ran]
      cases isUseCase : e.useCase with
      | updateSlaPolicy input =>
          have own : e.useCase.tenantId = input.tenantId := by rw [isUseCase]; rfl
          simp only
          cases checked : makeSlaTarget input.responseMinutes input.resolutionMinutes with
          | error reason =>
              have refusal : e.refusal = some reason := by simp [Execution.refusal, isUseCase, checked]
              exact .refused refusal
          | ok target => exact allOrNothing_runTransactional own
      | resetSlaPolicy input =>
          have own : e.useCase.tenantId = input.tenantId := by rw [isUseCase]; rfl
          exact allOrNothing_run own (noError_of_reset isUseCase)
      | getSlaPolicy | listTickets | ticketDetail | ticketHistory => simp [isUseCase, UseCase.isCommand] at isCommand
      | _ => exact allOrNothing_runTransactional (by rw [isUseCase])

section Quiet

variable {requestId : Option String} {ctx : Ctx} {writes more : List Write} {c : Call}

/-- A call that the database answers, in a transaction and with nothing thrown. -/
theorem statement_of_exec (quiet : ∀ n, faults.thrown n = none) (tenantId : TenantId) {reply : c.Reply}
    (answered : exec ctx c (db.after writes) = some (reply, more)) :
    ∃ steps', statement faults requestId tenantId c (some 0) ⟨db, [⟨ctx, writes⟩], steps⟩ =
      (.ok reply, ⟨db, [⟨ctx, writes ++ more⟩], steps'⟩) := by
  refine ⟨steps + 1, ?_⟩
  have answered' : exec ctx c (repositories.applyAll writes db) = some (reply, more) := answered
  rw [statement_joins]
  simp [query, Faults.map, quiet, answered', World.record, World.tick]

theorem statement_of_refused (quiet : ∀ n, faults.thrown n = none) (tenantId : TenantId)
    (refused : exec ctx c (db.after writes) = none) :
    ∃ steps', statement faults requestId tenantId c (some 0) ⟨db, [⟨ctx, writes⟩], steps⟩ =
      (.error (.other (faults.refused c)), ⟨db, [⟨ctx, writes⟩], steps'⟩) := by
  refine ⟨steps + 1, ?_⟩
  have refused' : exec ctx c (repositories.applyAll writes db) = none := refused
  rw [statement_joins]
  simp [query, Faults.map, quiet, refused', World.tick]

theorem port_of_exec (quiet : ∀ n, faults.thrown n = none) {reply : c.Reply}
    (answered : exec ctx c (db.after writes) = some (reply, more)) :
    ∃ steps', port faults requestId c (some 0) ⟨db, [⟨ctx, writes⟩], steps⟩ =
      (.ok reply, ⟨db, [⟨ctx, writes ++ more⟩], steps'⟩) := by
  cases c with
  | outboxAppend records =>
      cases records with
      | nil =>
          simp [exec] at answered
          exact ⟨steps, by simp [port, PrismaOutboxWriter.append, ← answered]⟩
      | cons record records =>
          have owned : ∀ r ∈ record :: records, some r.tenantId = ctx.tenant := by
            simp only [exec] at answered
            split at answered
            · rename_i accepted
              exact accepted.1
            · cases answered
          have unmixed : ((record :: records).any fun r => r.tenantId ≠ record.tenantId) = false := by
            rw [List.any_eq_false]
            intro r inside
            have same := Option.some.inj ((owned r inside).trans (owned record List.mem_cons_self).symm)
            simp [same]
          simp only [port, PrismaOutboxWriter.append, unmixed, Bool.false_eq_true, if_false]
          exact statement_of_exec quiet _ answered
  | _ => exact statement_of_exec quiet _ answered

theorem port_of_refused (quiet : ∀ n, faults.thrown n = none) (refused : exec ctx c (db.after writes) = none) :
    ∃ steps', port faults requestId c (some 0) ⟨db, [⟨ctx, writes⟩], steps⟩ =
      (.error (.other (faults.refused c)), ⟨db, [⟨ctx, writes⟩], steps'⟩) := by
  cases c with
  | outboxAppend records =>
      cases records with
      | nil => simp [exec] at refused
      | cons record records =>
          simp only [port, PrismaOutboxWriter.append]
          split
          · exact ⟨steps, rfl⟩
          · exact statement_of_refused quiet _ refused
  | _ => exact statement_of_refused quiet _ refused

/-- A step that is not a call goes through. -/
theorem map_quiet (quiet : ∀ n, faults.thrown n = none) (n : Nat) : (faults.map Thrown.other).thrown n = none := by
  simp [Faults.map, quiet]

/-- What running a program in one piece comes to, its body comes to in a transaction. -/
theorem perform_of_run {α : Type} (quiet : ∀ n, faults.thrown n = none) {p : Proc sig α} {a : α} {db' : Db}
    (ran : p.run repositories ctx (db.after writes) = some (a, db')) :
    ∃ more steps', perform faults requestId p (some 0) ⟨db, [⟨ctx, writes⟩], steps⟩ =
      (.ok a, ⟨db, [⟨ctx, writes ++ more⟩], steps'⟩) ∧ db' = db.after (writes ++ more) := by
  induction p generalizing writes steps with
  | done b =>
      cases ran
      refine ⟨[], steps + 1, ?_, by rw [List.append_nil]⟩
      rw [List.append_nil]
      exact run_bind_ok (run_point (map_quiet quiet _))
  | call c next ih =>
      cases answered : exec ctx c (db.after writes) with
      | none =>
          rw [run_exec_failed answered] at ran
          cases ran
      | some result =>
          obtain ⟨reply, made⟩ := result
          rw [run_exec answered, ← Db.after_append] at ran
          have called : ∃ steps₁, port faults requestId c (some 0) ⟨db, [⟨ctx, writes⟩], steps + 1⟩ =
              (.ok reply, ⟨db, [⟨ctx, writes ++ made⟩], steps₁⟩) := port_of_exec quiet answered
          obtain ⟨steps₁, called⟩ := called
          obtain ⟨more, steps₂, rest, left⟩ := @ih reply steps₁ _ ran
          refine ⟨made ++ more, steps₂, ?_, by rw [left, List.append_assoc]⟩
          rw [← List.append_assoc]
          exact (run_bind_ok (run_point (map_quiet quiet _))).trans ((run_bind_ok called).trans rest)

/-- Where a statement of the program is refused, the body throws what it is refused with. -/
theorem perform_of_failed {α : Type} (quiet : ∀ n, faults.thrown n = none) {p : Proc sig α}
    (failed : p.run repositories ctx (db.after writes) = none) :
    ∃ c more steps', perform faults requestId p (some 0) ⟨db, [⟨ctx, writes⟩], steps⟩ =
      (.error (.other (faults.refused c)), ⟨db, [⟨ctx, writes ++ more⟩], steps'⟩) := by
  induction p generalizing writes steps with
  | done b => cases failed
  | call c next ih =>
      cases answered : exec ctx c (db.after writes) with
      | none =>
          have called : ∃ steps₁, port faults requestId c (some 0) ⟨db, [⟨ctx, writes⟩], steps + 1⟩ =
              (.error (.other (faults.refused c)), ⟨db, [⟨ctx, writes⟩], steps₁⟩) := port_of_refused quiet answered
          obtain ⟨steps₁, called⟩ := called
          refine ⟨c, [], steps₁, ?_⟩
          rw [List.append_nil]
          exact (run_bind_ok (run_point (map_quiet quiet _))).trans (run_bind_error called)
      | some result =>
          obtain ⟨reply, made⟩ := result
          rw [run_exec answered, ← Db.after_append] at failed
          have called : ∃ steps₁, port faults requestId c (some 0) ⟨db, [⟨ctx, writes⟩], steps + 1⟩ =
              (.ok reply, ⟨db, [⟨ctx, writes ++ made⟩], steps₁⟩) := port_of_exec quiet answered
          obtain ⟨steps₁, called⟩ := called
          obtain ⟨c', more, steps₂, rest⟩ := @ih reply steps₁ _ failed
          refine ⟨c', made ++ more, steps₂, ?_⟩
          rw [← List.append_assoc]
          exact (run_bind_ok (run_point (map_quiet quiet _))).trans ((run_bind_ok called).trans rest)

/-- What running the body of an execution in one piece comes to, the execution has served. -/
theorem ends_of_serve (quiet : ∀ n, faults.thrown n = none) (e : Execution) (db : Db) (steps : Nat) :
    (∃ out writes steps', Ran (e.body faults) e.ctx db steps (.ok (.ok out)) writes steps' ∧
        serve e db = (some (.ok out), db.after writes)) ∨
      (∃ reason writes steps', Ran (e.body faults) e.ctx db steps (.ok (.error reason)) writes steps' ∧
        serve e db = (some (.error reason), db)) ∨
      ∃ c writes steps', Ran (e.body faults) e.ctx db steps (.error (.other (faults.refused c))) writes steps' ∧
        serve e db = (none, db) := by
  cases ran : e.program.run repositories e.ctx (db.after []) with
  | none =>
      obtain ⟨c, more, steps', performed⟩ := perform_of_failed quiet ran
      exact .inr (.inr ⟨c, more, steps', performed, Handler.transact_of_exception ran⟩)
  | some result =>
      obtain ⟨out, db'⟩ := result
      obtain ⟨more, steps', performed, rfl⟩ := perform_of_run quiet ran
      cases out with
      | error reason => exact .inr (.inl ⟨reason, more, steps', performed, Handler.transact_of_rollback ran rfl⟩)
      | ok value => exact .inl ⟨value, more, steps', performed, Handler.transact_of_commit ran rfl⟩

/-- Where nothing throws, a use case in `runTransactional` does what it does in one piece. -/
theorem runTransactional_serve (quiet : ∀ n, faults.thrown n = none) {tenantId : TenantId}
    (own : e.useCase.tenantId = tenantId) :
    ∃ steps' c, runTransactional faults e.requestId tenantId (e.body faults) none (.idle db steps) =
      ((serve e db).1.elim (.error (.other (faults.refused c))) .ok, .idle (serve e db).2 steps') := by
  subst own
  rcases ends_of_serve quiet e db (steps + 1) with
    ⟨out, writes, steps', ran, served⟩ | ⟨reason, writes, steps', ran, served⟩ | ⟨c, writes, steps', ran, served⟩
  · rw [served]
    exact ⟨steps', .numbersNext e.useCase.tenantId, runTransactional_ok (quiet _) ran⟩
  · rw [served]
    exact ⟨steps', .numbersNext e.useCase.tenantId, runTransactional_err (quiet _) ran⟩
  · rw [served]
    exact ⟨steps', c, runTransactional_thrown (quiet _) ran⟩

/-- An input that is refused before the transaction is refused in one piece too. -/
theorem serve_of_refused {input : UpdateSlaPolicyInput} {reason : TicketingError}
    (isUpdate : e.useCase = .updateSlaPolicy input)
    (refused : makeSlaTarget input.responseMinutes input.resolutionMinutes = .error reason) :
    serve e db = (some (.error reason), db) := by
  have program : e.program = .done (.error reason) := by
    simp [Execution.program, isUpdate, UpdateSlaPolicy.execute, refused, Except.map]
  unfold serve
  rw [program]
  rfl

/-- Where nothing throws, a use case that writes does what serving it in one piece does. -/
theorem execute_serve (quiet : ∀ n, faults.thrown n = none) (isCommand : e.useCase.isCommand = true) :
    ∃ steps' c, e.execute faults none (.idle db steps) =
      ((serve e db).1.elim (.error (.other (faults.refused c))) .ok, .idle (serve e db).2 steps') := by
  have ran : e.execute faults none (.idle db steps) = _ := run_bind_ok (run_point (map_quiet quiet _))
  rw [ran]
  cases isUseCase : e.useCase with
  | updateSlaPolicy input =>
      have own : e.useCase.tenantId = input.tenantId := by rw [isUseCase]; rfl
      simp only
      cases checked : makeSlaTarget input.responseMinutes input.resolutionMinutes with
      | error reason =>
          rw [serve_of_refused isUseCase checked]
          exact ⟨steps + 1, .numbersNext input.tenantId, rfl⟩
      | ok target => exact runTransactional_serve quiet own
  | resetSlaPolicy input =>
      have sameCtx : e.ctx = ⟨some input.tenantId, e.requestId⟩ := by rw [Execution.ctx, isUseCase]; rfl
      rcases ends_of_serve quiet e db (steps + 2) with
        ⟨out, writes, steps', ran, served⟩ | ⟨reason, writes, steps', ran, _⟩ | ⟨c, writes, steps', ran, served⟩
      · rw [served]
        exact ⟨steps', .numbersNext input.tenantId, run_ok (quiet _) (sameCtx ▸ ran)⟩
      · cases perform_result (noError_of_reset isUseCase) ran
      · rw [served]
        exact ⟨steps', c, run_error (quiet _) (sameCtx ▸ ran)⟩
  | getSlaPolicy | listTickets | ticketDetail | ticketHistory => simp [isUseCase, UseCase.isCommand] at isCommand
  | _ => exact runTransactional_serve quiet (by rw [isUseCase])

end Quiet

section Example

/-- The connection is lost when the audit entry of a new ticket is about to be written. -/
def lostConnection : Faults repositories String where
  thrown n := if n = 7 then some ("connection lost", []) else none
  refused _ := "refused"

def lostCreation : Execution :=
  exampleExecution 0 (.createTicket ⟨⟨1⟩, ⟨2⟩, "Hola", "No entra", .HIGH⟩)

theorem execute_allOrNothing_lostConnection :
    AllOrNothing lostConnection lostCreation .empty 0 (lostCreation.execute lostConnection none (.idle .empty 0)) ∧
      (lostCreation.execute lostConnection none (.idle .empty 0)).1 = .error (.other "connection lost") :=
  ⟨execute_allOrNothing rfl, rfl⟩

end Example

end Helpdesk
