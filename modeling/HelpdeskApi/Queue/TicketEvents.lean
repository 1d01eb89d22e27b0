/-
Module: HelpdeskApi.Queue.TicketEvents
Layer: Queue
Purpose: The events of one ticket that `SlaProcessor` listens to, as the domain emits them, and what the
  worker does with the job of each. Deliveries come in any order and as often as the queue likes.
Trusted boundary: human-reviewed spec
Main exports: TicketEvent, TicketEvent.job, TicketEvent.meets, TicketLog, receive, Received, receive_received
-/
import HelpdeskApi.Queue.SlaSystem

namespace Helpdesk

open Relational

/-- What happened to a ticket, with what its event says about it. -/
inductive TicketFact where
  | created (number : Int) (subject : String) (priority : TicketPriority) (status : TicketStatus)
      (requesterId : UserId)
  | commented (commentId : CommentId) (authorId : UserId) (authorRole : String)
  | moved (source target : TicketStatus) (assigneeId : Nullable UserId)
deriving DecidableEq

/-- One event of a ticket. -/
structure TicketEvent where
  id : Uuid
  occurredAt : Instant
  fact : TicketFact
  requestId : Option String
deriving DecidableEq

namespace TicketEvent

/-- The event as it leaves the domain. -/
def integrationEvent (e : TicketEvent) (ticketId : TicketId) (tenantId : TenantId) : IntegrationEvent :=
  match e.fact with
  | .created number subject priority status requesterId =>
      ticketCreated ticketId tenantId e.occurredAt number subject priority status requesterId
  | .commented commentId authorId authorRole =>
      commentAdded ticketId tenantId e.occurredAt commentId authorId authorRole
  | .moved source target assigneeId =>
      ticketStatusChanged ticketId tenantId e.occurredAt source target assigneeId

/-- The job of the event. -/
def job (e : TicketEvent) (ticketId : TicketId) (tenantId : TenantId) : EventJobData :=
  (outboxRow e.id e.requestId (e.integrationEvent ticketId tenantId)).job

def isCreated (e : TicketEvent) : Bool :=
  match e.fact with
  | .created _ _ _ _ _ => true
  | _ => false

/-- Whether the event is what timers of a kind wait for: a comment of a responder, or a change to
    `RESOLVED`. -/
def meets (e : TicketEvent) (kind : SlaKind) : Bool :=
  match kind, e.fact with
  | .RESPONSE, .commented _ _ authorRole => isResponder authorRole
  | .RESOLUTION, .moved _ target _ => target = .RESOLVED
  | _, _ => false

section Jobs

variable (e : TicketEvent) (ticketId : TicketId) (tenantId : TenantId)

@[simp] theorem job_eventId : (e.job ticketId tenantId).eventId = e.id := rfl

@[simp] theorem job_tenantId : (e.job ticketId tenantId).tenantId = tenantId := by
  unfold job integrationEvent
  split <;> rfl

@[simp] theorem job_aggregateId : (e.job ticketId tenantId).aggregateId = ticketId.uuid := by
  unfold job integrationEvent
  split <;> rfl

@[simp] theorem job_occurredAt : (e.job ticketId tenantId).occurredAt = e.occurredAt := by
  unfold job integrationEvent
  split <;> rfl

/-- The job of an event says what the event is. -/
@[simp] theorem job_fulfils (kind : SlaKind) : (e.job ticketId tenantId).fulfils kind = e.meets kind := by
  obtain ⟨id, occurredAt, fact, requestId⟩ := e
  cases fact with
  | created => cases kind <;> rfl
  | commented commentId authorId authorRole =>
      cases kind <;>
        simp [EventJobData.fulfils, job, OutboxRow.job, outboxRow, OutboxRecord.row, integrationEvent,
          commentAdded, ticketEvent, Payload.byResponder, Payload.field?, List.lookup_cons, meets]
  | moved source target assigneeId =>
      cases kind <;> cases target <;>
        simp [EventJobData.fulfils, job, OutboxRow.job, outboxRow, OutboxRecord.row, integrationEvent,
          ticketStatusChanged, ticketEvent, Payload.field?, List.lookup_cons, meets, TicketStatus.text]

/-- What a worker starts for the event of a new ticket. -/
def startInput (priority : TicketPriority) : StartSlaTimersInput where
  eventId := e.id
  tenantId := tenantId
  ticketId := ticketId
  priority := priority
  occurredAt := e.occurredAt

/-- What a worker stops for an event. -/
def stopInput (kind : SlaKind) : StopSlaTimerInput where
  eventId := e.id
  tenantId := tenantId
  ticketId := ticketId
  kind := kind
  occurredAt := e.occurredAt

theorem stopInput_job (kind : SlaKind) :
    SlaProcessor.stopInput (e.job ticketId tenantId) kind = e.stopInput ticketId tenantId kind := by
  simp [SlaProcessor.stopInput, stopInput]

theorem despachar_created (isNew : e.isCreated = true) :
    ∃ priority, SlaProcessor.despachar (e.job ticketId tenantId) =
      .run (.startSlaTimers (e.startInput ticketId tenantId priority)) := by
  obtain ⟨id, occurredAt, fact, requestId⟩ := e
  cases fact with
  | created number subject priority status requesterId =>
      refine ⟨priority, ?_⟩
      cases priority <;> rfl
  | commented => cases isNew
  | moved => cases isNew

theorem isCreated_of_start {input : StartSlaTimersInput}
    (runs : SlaProcessor.despachar (e.job ticketId tenantId) = .run (.startSlaTimers input)) :
    e.isCreated = true := by
  have named := SlaProcessor.eventName_of_start runs
  obtain ⟨id, occurredAt, fact, requestId⟩ := e
  cases fact with
  | created => rfl
  | commented => exact absurd named (by simp [job, OutboxRow.job, outboxRow, OutboxRecord.row,
      integrationEvent, commentAdded, ticketEvent])
  | moved => exact absurd named (by simp [job, OutboxRow.job, outboxRow, OutboxRecord.row,
      integrationEvent, ticketStatusChanged, ticketEvent])

theorem not_created_of_meets {kind : SlaKind} (meets : e.meets kind = true) : e.isCreated = false := by
  obtain ⟨id, occurredAt, fact, requestId⟩ := e
  cases fact with
  | created => cases kind <;> cases meets
  | commented => rfl
  | moved => rfl

end Jobs

end TicketEvent

/-- The events of a ticket: different events have different ids, and exactly one is its creation. -/
structure TicketLog where
  ticketId : TicketId
  tenantId : TenantId
  events : List TicketEvent
  sameEvent : ∀ e ∈ events, ∀ e' ∈ events, e.id = e'.id → e = e'
  created : TicketEvent
  created_mem : created ∈ events
  isCreated_iff : ∀ e ∈ events, e.isCreated = true ↔ e = created

/-- A delivery: an event of the ticket, with the ids the worker may need. -/
structure Delivery (log : TicketLog) where
  event : TicketEvent
  known : event ∈ log.events
  ambient : Ambient

/-- What processing a delivery leaves. Ids the generator hands out are new. -/
def receive (log : TicketLog) (db : Db) (d : Delivery log) : Option Db :=
  if d.ambient.freshIn db then
    some (SlaSystem.processed (d.event.job log.ticketId log.tenantId) d.ambient db)
  else none

/-- Everything a delivery can do. -/
inductive Received (log : TicketLog) (db : Db) (d : Delivery log) : Db → Prop where
  | started (priority : TicketPriority) (isNew : d.event.isCreated = true) :
      Received log db d (db.after (StartSlaTimers.committed
        (d.event.startInput log.ticketId log.tenantId priority) d.ambient db))
  | stopped (kind : SlaKind) (meets : d.event.meets kind = true) :
      Received log db d (db.after (StopSlaTimer.committed
        (d.event.stopInput log.ticketId log.tenantId kind) db))
  | passed (old : d.event.isCreated = false) (other : ∀ kind, d.event.meets kind = false) :
      Received log db d db

theorem receive_received {log : TicketLog} {db db' : Db} {d : Delivery log}
    (taken : receive log db d = some db') : d.ambient.freshIn db = true ∧ Received log db d db' := by
  unfold receive at taken
  split at taken
  · rename_i fresh
    refine ⟨fresh, ?_⟩
    cases taken
    unfold SlaSystem.processed
    split
    · rename_i useCase dispatched
      rw [serve_committed _ fresh]
      by_cases isNew : d.event.isCreated = true
      · obtain ⟨priority, starts⟩ := d.event.despachar_created log.ticketId log.tenantId isNew
        cases dispatched.symm.trans starts
        exact .started priority isNew
      · rcases SlaProcessor.despachar_run dispatched with ⟨priority, rfl⟩ | ⟨kind, rfl⟩
        · exact absurd (d.event.isCreated_of_start _ _ dispatched) isNew
        · have meets := (SlaProcessor.despachar_stop_iff _ _).mp dispatched
          rw [TicketEvent.job_fulfils] at meets
          simp only [Execution.committed, TicketEvent.stopInput_job]
          exact .stopped kind meets
    · rename_i idle
      refine .passed ?_ fun kind => ?_
      · by_contra isNew
        obtain ⟨priority, starts⟩ := d.event.despachar_created log.ticketId log.tenantId (by simpa using isNew)
        exact idle _ starts
      · by_contra meets
        refine idle _ ((SlaProcessor.despachar_stop_iff _ kind).mpr ?_)
        simpa using meets
  · cases taken

end Helpdesk
