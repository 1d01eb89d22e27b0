/-
Module: HelpdeskApi.Application.Ports
Layer: Application
Purpose: The ports the use cases are written against, each a call of the repositories, the two recorders
  built on them, and what an execution gets from the clock and the id generator.
Trusted boundary: human-reviewed spec
Main exports: Ambient, AuditRecorder.record, EventRecorder.record
-/
import HelpdeskApi.Store.Repositories

namespace Helpdesk

open Txn

/-- What `Clock.now` answers in one execution, and what the successive calls of `IdGenerator.uuid` do. -/
structure Ambient where
  now : Instant
  uuid : Nat → Uuid

namespace MemberDirectory

@[simp] def isMember (tenantId : TenantId) (userId : UserId) : Proc sig Bool :=
  .ask (S := sig) (.membersIsMember tenantId userId)

@[simp] def agentsOf (tenantId : TenantId) : Proc sig (List UserId) :=
  .ask (S := sig) (.membersAgentsOf tenantId)

end MemberDirectory

namespace TicketNumberGenerator

@[simp] def next (tenantId : TenantId) : Proc sig Int :=
  .ask (S := sig) (.numbersNext tenantId)

end TicketNumberGenerator

namespace TicketRepository

@[simp] def findById (tenantId : TenantId) (id : TicketId) : Proc sig (Option Ticket) :=
  .ask (S := sig) (.ticketsFindById tenantId id)

@[simp] def save (ticket : Ticket) : Proc sig Unit :=
  .ask (S := sig) (.ticketsSave ticket)

end TicketRepository

namespace CommentRepository

@[simp] def save (comment : Comment) : Proc sig Unit :=
  .ask (S := sig) (.commentsSave comment)

end CommentRepository

namespace ProcessedMessages

@[simp] def claim (consumer : String) (eventId : Uuid) (tenantId : TenantId) : Proc sig Bool :=
  .ask (S := sig) (.processedClaim consumer eventId tenantId)

end ProcessedMessages

namespace SlaPolicyRepository

@[simp] def overridesOf (tenantId : TenantId) : Proc sig Overrides :=
  .ask (S := sig) (.policiesOverridesOf tenantId)

@[simp] def upsert (tenantId : TenantId) (priority : TicketPriority) (target : SlaTarget) (now : Instant) :
    Proc sig Unit :=
  .ask (S := sig) (.policiesUpsert tenantId priority target now)

@[simp] def remove (tenantId : TenantId) (priority : TicketPriority) : Proc sig Bool :=
  .ask (S := sig) (.policiesRemove tenantId priority)

end SlaPolicyRepository

namespace SlaTimerRepository

@[simp] def save (timer : SlaTimer) : Proc sig Unit :=
  .ask (S := sig) (.timersSave timer)

@[simp] def findById (tenantId : TenantId) (id : SlaTimerId) : Proc sig (Option SlaTimer) :=
  .ask (S := sig) (.timersFindById tenantId id)

@[simp] def findRunning (tenantId : TenantId) (ticketId : TicketId) (kind : SlaKind) :
    Proc sig (Option SlaTimer) :=
  .ask (S := sig) (.timersFindRunning tenantId ticketId kind)

end SlaTimerRepository

namespace AuditRecorder

/-- `AuditRecorder.record`: one entry under a generated id. -/
@[simp] def record (id : Uuid) (tenantId : TenantId) (actorId : UserId) (action : AuditAction)
    (entityType : String) (entityId : Uuid) (metadata : AuditMetadata) (now : Instant) : Proc sig Unit :=
  .ask (S := sig) <| .auditLogsRecord
    { id := ⟨id⟩
      tenantId := tenantId
      actorId := actorId
      action := action
      entityType := entityType
      entityId := entityId
      metadata := metadata
      occurredAt := now }

end AuditRecorder

/-- The outbox records of some events, under generated ids. -/
def outboxRecords (uuid : Nat → Uuid) (events : List IntegrationEvent) : List OutboxRecord :=
  events.mapIdx fun i event => { event with id := uuid i }

namespace EventRecorder

/-- `EventRecorder.record`: the pulled events of the aggregate go to the outbox, under generated ids. -/
def record (uuid : Nat → Uuid) (aggregate : Ticket) : Proc sig Unit :=
  let events := aggregate.pullDomainEvents.1
  if events.isEmpty then pure ()
  else .ask (S := sig) (.outboxAppend (outboxRecords uuid events))

/-- Every command records one event, so that is what the recorder appends. -/
theorem record_one (uuid : Nat → Uuid) {aggregate : Ticket} {event : IntegrationEvent}
    (recorded : aggregate.domainEvents = [event]) :
    record uuid aggregate = .call (.outboxAppend (outboxRecords uuid [event])) .done := by
  simp [record, Ticket.pullDomainEvents, recorded]

end EventRecorder

end Helpdesk
