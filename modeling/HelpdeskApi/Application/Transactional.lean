/-
Module: HelpdeskApi.Application.Transactional
Layer: Application
Purpose: What runs a use case: the interactive transactions of `PrismaService`, the ambient transaction of
  `PrismaTransactionManager`, repositories that join it, and `runTransactional`, which throws a signal of
  its own to roll back where the result is an error. Whatever a use case calls may throw.
Trusted boundary: human-reviewed spec
Main exports: Thrown, Js, PrismaService.withTenant, PrismaTransactionManager.run,
  PrismaRepository.runInTenant, runTransactional, port, perform, Execution.execute
-/
import HelpdeskApi.Application.Jobs
import HelpdeskApi.Library.UnitOfWork
import HelpdeskApi.Store.Lemmas

namespace Helpdesk

open Txn

/-- What is thrown: the `RollbackSignal` of `runTransactional`, or an exception of something it calls. -/
inductive Thrown (X : Type) where
  | rollbackSignal (reason : TicketingError)
  | other (x : X)
deriving DecidableEq

/-- An `async` function. -/
abbrev Js (X α : Type) : Type :=
  Async repositories (Thrown X) α

section Infrastructure

variable {X α : Type} (faults : Faults repositories X) (requestId : Option String)

/-- `PrismaService.withTenant`: a transaction of its own with the tenant set for it alone. -/
def PrismaService.withTenant (tenantId : TenantId) (fn : Nat → Js X α) : Js X α :=
  Async.transaction { tenant := none, requestId := requestId } fun tx => do
    Async.configure (faults.map .other) tx fun ctx => { ctx with tenant := some tenantId }
    fn tx

/-- `PrismaTransactionManager.run`: the transaction in course is used again if there is one. -/
def PrismaTransactionManager.run (tenantId : TenantId) (fn : Js X α) : Js X α := do
  match ← Async.active with
  | some _ => fn
  | none => PrismaService.withTenant faults requestId tenantId fun tx => Async.within tx fn

/-- `PrismaRepository.runInTenant`: a repository joins the transaction in course, or opens one of its own. -/
def PrismaRepository.runInTenant (tenantId : TenantId) (fn : Nat → Js X α) : Js X α := do
  match ← Async.active with
  | some tx => fn tx
  | none => PrismaService.withTenant faults requestId tenantId fn

/-- What `runTransactional` runs in the transaction: an error is thrown as a signal. -/
def signalling (fn : Js X (Except TicketingError α)) : Js X (Except TicketingError α) := do
  match ← fn with
  | .error reason => throw (.rollbackSignal reason)
  | .ok value => return .ok value

/-- `runTransactional`: an error turns into an exception for as long as it takes to roll back. -/
def runTransactional (tenantId : TenantId) (fn : Js X (Except TicketingError α)) :
    Js X (Except TicketingError α) :=
  tryCatch (PrismaTransactionManager.run faults requestId tenantId (signalling fn)) fun thrown =>
    match thrown with
    | .rollbackSignal reason => return .error reason
    | .other x => throw (.other x)

/-- A repository method: one call in the transaction in course. -/
def statement (tenantId : TenantId) (c : Call) : Js X c.Reply :=
  PrismaRepository.runInTenant faults requestId tenantId fun tx => Async.query (faults.map .other) tx c

/-- `PrismaOutboxWriter.append`: a batch that mixes tenants is refused before it reaches the database. -/
def PrismaOutboxWriter.append (records : List OutboxRecord) : Js X Unit :=
  match records with
  | [] => return ()
  | record :: _ =>
      if records.any fun r => r.tenantId ≠ record.tenantId then
        throw (.other (faults.refused (.outboxAppend records)))
      else statement faults requestId record.tenantId (.outboxAppend records)

/-- The methods of the repositories, each with the tenant it opens a transaction for where there is none. -/
def port (c : Call) : Js X c.Reply :=
  match c with
  | .membersIsMember tenantId userId => statement faults requestId tenantId (.membersIsMember tenantId userId)
  | .membersAgentsOf tenantId => statement faults requestId tenantId (.membersAgentsOf tenantId)
  | .numbersNext tenantId => statement faults requestId tenantId (.numbersNext tenantId)
  | .ticketsFindById tenantId id => statement faults requestId tenantId (.ticketsFindById tenantId id)
  | .ticketsSave ticket => statement faults requestId ticket.tenantId (.ticketsSave ticket)
  | .commentsSave comment => statement faults requestId comment.tenantId (.commentsSave comment)
  | .auditLogsRecord entry => statement faults requestId entry.tenantId (.auditLogsRecord entry)
  | .outboxAppend records => PrismaOutboxWriter.append faults requestId records
  | .processedClaim consumer eventId tenantId =>
      statement faults requestId tenantId (.processedClaim consumer eventId tenantId)
  | .policiesOverridesOf tenantId => statement faults requestId tenantId (.policiesOverridesOf tenantId)
  | .policiesUpsert tenantId priority target now =>
      statement faults requestId tenantId (.policiesUpsert tenantId priority target now)
  | .policiesRemove tenantId priority => statement faults requestId tenantId (.policiesRemove tenantId priority)
  | .timersSave timer => statement faults requestId timer.tenantId (.timersSave timer)
  | .timersFindById tenantId id => statement faults requestId tenantId (.timersFindById tenantId id)
  | .timersFindRunning tenantId ticketId kind =>
      statement faults requestId tenantId (.timersFindRunning tenantId ticketId kind)
  | .ticketsFindMany tenantId status assigneeId requesterId cursor take =>
      statement faults requestId tenantId (.ticketsFindMany tenantId status assigneeId requesterId cursor take)
  | .ticketsFindWithRelations tenantId id =>
      statement faults requestId tenantId (.ticketsFindWithRelations tenantId id)
  | .auditLogsFindMany tenantId entityType entityId =>
      statement faults requestId tenantId (.auditLogsFindMany tenantId entityType entityId)

/-- The body of a use case. The clock, the generator of ids and the code between two calls may throw too. -/
def perform : Proc sig α → Js X α
  | .done a => do
      Async.point (faults.map .other)
      return a
  | .call c next => do
      Async.point (faults.map .other)
      let reply ← port faults requestId c
      perform (next reply)

end Infrastructure

/-- The use cases that write, each in one transaction. -/
def UseCase.isCommand : UseCase → Bool
  | .createTicket _ | .assignTicket _ | .autoAssignTicket _ | .changeTicketStatus _ | .addComment _
  | .startSlaTimers _ | .stopSlaTimer _ | .markSlaBreached _ | .updateSlaPolicy _ | .resetSlaPolicy _ => true
  | .getSlaPolicy _ | .listTickets _ | .ticketDetail _ _ | .ticketHistory _ _ => false

namespace Execution

variable {X : Type} (faults : Faults repositories X) (e : Execution)

/-- The body of the transaction, as it is run. -/
def body : Js X (Except TicketingError Output) :=
  perform faults e.requestId e.program

/-- `execute`. Some use cases look at the clock before their transaction begins, one checks its input, one
    cannot fail and does without `runTransactional`, and the reads open no transaction. -/
def execute : Js X (Except TicketingError Output) := do
  Async.point (faults.map .other)
  match e.useCase with
  | .updateSlaPolicy input =>
      match makeSlaTarget input.responseMinutes input.resolutionMinutes with
      | .error reason => return .error reason
      | .ok _ => runTransactional faults e.requestId input.tenantId (e.body faults)
  | .resetSlaPolicy input => PrismaTransactionManager.run faults e.requestId input.tenantId (e.body faults)
  | .getSlaPolicy _ | .listTickets _ | .ticketDetail _ _ | .ticketHistory _ _ => e.body faults
  | useCase => runTransactional faults e.requestId useCase.tenantId (e.body faults)

end Execution

section Bodies

variable {X α : Type} {faults : Faults repositories X} {requestId : Option String}

open Async

/-- In a transaction, a repository joins it. -/
theorem statement_joins (tenantId : TenantId) (c : Call) (w : World repositories) :
    statement faults requestId tenantId c (some 0) w = query (faults.map .other) 0 c (some 0) w := rfl

theorem confined_statement (tenantId : TenantId) (c : Call) :
    Confined (statement faults requestId tenantId c) := by
  intro w t alone
  rw [statement_joins]
  exact confined_query _ c w t alone

theorem confined_port (c : Call) : Confined (port faults requestId c) := by
  cases c with
  | outboxAppend records =>
      simp only [port, PrismaOutboxWriter.append]
      split
      · exact confined_pure ()
      · split
        · exact confined_throw _
        · exact confined_statement _ _
  | _ => exact confined_statement _ _

/-- The body of a use case writes through the one transaction and does nothing else. -/
theorem confined_perform (p : Proc sig α) : Confined (perform faults requestId p) := by
  induction p with
  | done a => exact (confined_point _).bind fun _ => confined_pure a
  | call c next ih => exact (confined_point _).bind fun _ => (confined_port c).bind fun reply => ih reply

/-- An exception of something that was called. -/
def Raised (faults : Faults repositories X) : Thrown X → Prop
  | .rollbackSignal _ => False
  | .other x => (∃ n writes, faults.thrown n = some (x, writes)) ∨ ∃ c, x = faults.refused c

theorem raises_thrown (n : Nat) (fault : Thrown X × List Write)
    (thrown : (faults.map Thrown.other).thrown n = some fault) : Raised faults fault.1 := by
  obtain ⟨⟨x, writes⟩, isFault, rfl⟩ := Option.map_eq_some_iff.mp thrown
  exact .inl ⟨n, writes, isFault⟩

theorem raises_statement (tenantId : TenantId) (c : Call) :
    Throws (Raised faults) (statement faults requestId tenantId c) := by
  intro w e w' thrown
  rw [statement_joins] at thrown
  exact throws_query raises_thrown c (.inr ⟨c, rfl⟩) w e w' thrown

theorem raises_port (c : Call) : Throws (Raised faults) (port faults requestId c) := by
  cases c with
  | outboxAppend records =>
      simp only [port, PrismaOutboxWriter.append]
      split
      · exact throws_pure ()
      · split
        · exact throws_throw (.inr ⟨_, rfl⟩)
        · exact raises_statement _ _
  | _ => exact raises_statement _ _

/-- The body of a use case throws nothing but what it was thrown. -/
theorem raises_perform (p : Proc sig α) : Throws (Raised faults) (perform faults requestId p) := by
  induction p with
  | done a => exact (throws_point raises_thrown).bind fun _ => throws_pure a
  | call c next ih =>
      exact (throws_point raises_thrown).bind fun _ => (raises_port c).bind fun reply => ih reply

end Bodies

section Ambient

variable {X α : Type} {faults : Faults repositories X} {requestId : Option String} {tenantId : TenantId}
  {db : Db} {steps steps' : Nat} {writes : List Write}

open Async

/-- With no transaction in course, one is opened for the tenant. -/
theorem run_idle (fn : Js X α) : PrismaTransactionManager.run faults requestId tenantId fn none (.idle db steps) =
    (transaction { tenant := none, requestId := requestId } fun tx =>
      configure (faults.map .other) tx (fun ctx => { ctx with tenant := some tenantId }) >>=
        fun _ => within tx fn : Js X α) none (.idle db steps) := rfl

theorem run_unopened {fn : Js X α} {x : X} (fault : faults.thrown steps = some (x, writes)) :
    PrismaTransactionManager.run faults requestId tenantId fn none (.idle db steps) =
      (.error (.other x), .idle db (steps + 1)) := by
  have thrown : (faults.map Thrown.other).thrown steps = some (.other x, writes) := by simp [Faults.map, fault]
  exact (run_idle fn).trans (transaction_unopened thrown)

theorem run_ok {fn : Js X α} {a : α} (quiet : faults.thrown steps = none)
    (ran : Ran fn ⟨some tenantId, requestId⟩ db (steps + 1) (.ok a) writes steps') :
    PrismaTransactionManager.run faults requestId tenantId fn none (.idle db steps) =
      (.ok a, .idle (db.after writes) steps') := by
  have noFault : (faults.map Thrown.other).thrown steps = none := by simp [Faults.map, quiet]
  exact (run_idle fn).trans (transaction_ok noFault ran)

theorem run_error {fn : Js X α} {thrown : Thrown X} (quiet : faults.thrown steps = none)
    (ran : Ran fn ⟨some tenantId, requestId⟩ db (steps + 1) (.error thrown) writes steps') :
    PrismaTransactionManager.run faults requestId tenantId fn none (.idle db steps) =
      (.error thrown, .idle db steps') := by
  have noFault : (faults.map Thrown.other).thrown steps = none := by simp [Faults.map, quiet]
  exact (run_idle fn).trans (transaction_error noFault ran)

variable {fn : Js X (Except TicketingError α)}

theorem runTransactional_unopened {x : X} (fault : faults.thrown steps = some (x, writes)) :
    runTransactional faults requestId tenantId fn none (.idle db steps) =
      (.error (.other x), .idle db (steps + 1)) := by
  exact (run_tryCatch_error (run_unopened fault)).trans rfl

/-- A result that is not an error is committed. -/
theorem runTransactional_ok {value : α} (quiet : faults.thrown steps = none)
    (ran : Ran fn ⟨some tenantId, requestId⟩ db (steps + 1) (.ok (.ok value)) writes steps') :
    runTransactional faults requestId tenantId fn none (.idle db steps) =
      (.ok (.ok value), .idle (db.after writes) steps') := by
  have returns : Ran (signalling fn) ⟨some tenantId, requestId⟩ db (steps + 1) (.ok (.ok value)) writes steps' :=
    run_bind_ok ran
  exact run_tryCatch_ok (run_ok quiet returns)

/-- An error makes the transaction roll back, and is the result again. -/
theorem runTransactional_err {reason : TicketingError} (quiet : faults.thrown steps = none)
    (ran : Ran fn ⟨some tenantId, requestId⟩ db (steps + 1) (.ok (.error reason)) writes steps') :
    runTransactional faults requestId tenantId fn none (.idle db steps) =
      (.ok (.error reason), .idle db steps') := by
  have signals : Ran (signalling fn) ⟨some tenantId, requestId⟩ db (steps + 1) (.error (.rollbackSignal reason))
      writes steps' := run_bind_ok ran
  exact (run_tryCatch_error (run_error quiet signals)).trans rfl

/-- Any other exception makes it roll back too, and goes on. -/
theorem runTransactional_thrown {x : X} (quiet : faults.thrown steps = none)
    (ran : Ran fn ⟨some tenantId, requestId⟩ db (steps + 1) (.error (.other x)) writes steps') :
    runTransactional faults requestId tenantId fn none (.idle db steps) =
      (.error (.other x), .idle db steps') := by
  have throws : Ran (signalling fn) ⟨some tenantId, requestId⟩ db (steps + 1) (.error (.other x)) writes steps' :=
    run_bind_error ran
  exact (run_tryCatch_error (run_error quiet throws)).trans rfl

end Ambient

end Helpdesk
