/-
Module: HelpdeskApi.Application.Jobs
Layer: Application
Purpose: All use cases behind one type, so that they can be interleaved with each other or run one after
  the other. An execution is a use case with its input, what the clock and the id generator answer it,
  and the request it belongs to. `ticketing` is the system of interleaved transactions; `serve` runs one
  execution in one piece.
Trusted boundary: human-reviewed spec
Main exports: UseCase, Execution, Output, Execution.program, ticketing, locked_of_run,
  serve
-/
import HelpdeskApi.Application.Tickets
import HelpdeskApi.Application.Slas
import HelpdeskApi.Application.ReadModel

namespace Helpdesk

open Txn

inductive UseCase where
  | createTicket (input : CreateTicketInput)
  | assignTicket (input : AssignTicketInput)
  | autoAssignTicket (input : AutoAssignTicketInput)
  | changeTicketStatus (input : ChangeTicketStatusInput)
  | addComment (input : AddCommentInput)
  | startSlaTimers (input : StartSlaTimersInput)
  | stopSlaTimer (input : StopSlaTimerInput)
  | markSlaBreached (input : MarkSlaBreachedInput)
  | getSlaPolicy (tenantId : TenantId)
  | updateSlaPolicy (input : UpdateSlaPolicyInput)
  | resetSlaPolicy (input : ResetSlaPolicyInput)
  | listTickets (input : ListTicketsInput)
  | ticketDetail (tenantId : TenantId) (ticketId : TicketId)
  | ticketHistory (tenantId : TenantId) (ticketId : TicketId)

/-- The tenant whose transaction a use case opens. -/
def UseCase.tenantId : UseCase → TenantId
  | .createTicket input => input.tenantId
  | .assignTicket input => input.tenantId
  | .autoAssignTicket input => input.tenantId
  | .changeTicketStatus input => input.tenantId
  | .addComment input => input.tenantId
  | .startSlaTimers input => input.tenantId
  | .stopSlaTimer input => input.tenantId
  | .markSlaBreached input => input.tenantId
  | .getSlaPolicy tenantId => tenantId
  | .updateSlaPolicy input => input.tenantId
  | .resetSlaPolicy input => input.tenantId
  | .listTickets input => input.tenantId
  | .ticketDetail tenantId _ => tenantId
  | .ticketHistory tenantId _ => tenantId

/-- The use cases that people trigger, as opposed to the queue and the sweeper. -/
def UseCase.isRequest : UseCase → Bool
  | .autoAssignTicket _ | .startSlaTimers _ | .stopSlaTimer _ | .markSlaBreached _ => false
  | _ => true

structure Execution where
  useCase : UseCase
  ambient : Ambient
  requestId : Option String

/-- What the use cases answer with. -/
inductive Output where
  | ticket (ticket : Ticket)
  | comment (comment : Comment)
  | autoAssign (outcome : AutoAssignOutcome)
  | startSla (outcome : StartSlaOutcome)
  | stopSla (outcome : StopSlaOutcome)
  | markSla (outcome : MarkSlaBreachedOutcome)
  | policy (policy : List EffectiveSlaTarget)
  | page (page : TicketPage)
  | detail (detail : Option TicketDetail)
  | history (entries : List AuditEntryView)
deriving DecidableEq

namespace Execution

/-- The settings the transaction of an execution runs under. -/
def ctx (e : Execution) : Ctx where
  tenant := some e.useCase.tenantId
  requestId := e.requestId

/-- The body of the transaction. -/
def program (e : Execution) : Proc sig (Except TicketingError Output) :=
  match e.useCase with
  | .createTicket input => (·.map .ticket) <$> CreateTicket.execute input e.ambient
  | .assignTicket input => (·.map .ticket) <$> AssignTicket.execute input e.ambient
  | .autoAssignTicket input => (·.map .autoAssign) <$> AutoAssignTicket.execute input e.ambient
  | .changeTicketStatus input => (·.map .ticket) <$> ChangeTicketStatus.execute input e.ambient
  | .addComment input => (·.map .comment) <$> AddComment.execute input e.ambient
  | .startSlaTimers input => (·.map .startSla) <$> StartSlaTimers.execute input e.ambient
  | .stopSlaTimer input => (·.map .stopSla) <$> StopSlaTimer.execute input
  | .markSlaBreached input => (·.map .markSla) <$> MarkSlaBreached.execute input e.ambient
  | .getSlaPolicy tenantId => (fun p => .ok (.policy p)) <$> GetSlaPolicy.execute tenantId
  | .updateSlaPolicy input => (·.map .policy) <$> UpdateSlaPolicy.execute input e.ambient
  | .resetSlaPolicy input => (fun p => .ok (.policy p)) <$> ResetSlaPolicy.execute input e.ambient
  | .listTickets input => (fun p => .ok (.page p)) <$> TicketReadModel.list input
  | .ticketDetail tenantId ticketId =>
      (fun d => .ok (.detail d)) <$> TicketReadModel.detail tenantId ticketId e.ambient.now
  | .ticketHistory tenantId ticketId =>
      (fun h => .ok (.history h)) <$> TicketReadModel.history tenantId ticketId

end Execution

/-- `runTransactional` commits exactly the results that are not errors. -/
def commitsResult {α : Type} : Except TicketingError α → Bool
  | .ok _ => true
  | .error _ => false

/-- One execution in one piece: its result, or `none` where an exception ends it, and the database
    afterwards. -/
def serve (e : Execution) (db : Db) : Option (Except TicketingError Output) × Db :=
  repositories.transact e.ctx commitsResult e.program db

/-- The use cases as interleaved transactions. -/
abbrev ticketing : App where
  sig := sig
  store := repositories.transactional
  Job := Execution
  Out := Except TicketingError Output
  ctx := Execution.ctx
  program := Execution.program
  commits := commitsResult

/-- A session holds the locks of its writes. -/
theorem locked_of_run {db₀ : Db} {jobs : List Execution} {history : List (Config ticketing × Move ticketing)}
    {c : Config ticketing} (run : Transition.Run Config.step (.start db₀ jobs) history c) {i : Nat}
    {s : Session ticketing} (found : c.sessions[i]? = some s) :
    repositories.transactional.locked s.trace =
      (repositories.transactional.pending s.trace).flatMap Write.keys :=
  Handler.locked_eq_of_run (A := ticketing)
    (fun _ _ produced => (repositories.plausible_transactional produced).2.2) run found

end Helpdesk
