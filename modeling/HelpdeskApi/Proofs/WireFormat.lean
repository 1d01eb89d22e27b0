/-
Module: HelpdeskApi.Proofs.WireFormat
Layer: Proofs
Purpose: Those who record events, those who route them and those who consume them agree on what is
  written. Whatever a ticket records reaches a worker with the fields it was recorded with, and the worker
  of every queue the event is routed to knows its name, its version and the fields it reads.
Trusted boundary: none
Main exports: Carries, carries_of_enqueued, Accepted, accepted_of_carries, recorded_accepted
-/
import HelpdeskApi.Application.Ports
import HelpdeskApi.Queue.Wire
import HelpdeskApi.Realtime.Broadcast

namespace Helpdesk

open BroadcastTicketEvent (Delivery)

/-- The job says what the event said. -/
structure Carries (data : EventJobData) (eventId : Uuid) (e : IntegrationEvent) : Prop where
  eventId : data.eventId = eventId
  tenantId : data.tenantId = e.tenantId
  aggregateType : data.aggregateType = e.aggregateType
  aggregateId : data.aggregateId = e.aggregateId
  eventName : data.eventName = e.eventName
  version : data.version = e.version
  occurredAt : data.occurredAt = e.occurredAt
  field (name : String) : data.payload.field? name = e.payload.field? name

section Trip

/-- No fact is written with one name twice. -/
theorem distinctNames_integration (fact : TicketingEvent) (ticketId : TicketId) (tenantId : TenantId)
    (occurredAt : Instant) : (fact.integration ticketId tenantId occurredAt).payload.DistinctNames := by
  cases fact with
  | created number subject priority status requesterId =>
      simp [Payload.DistinctNames, TicketingEvent.integration, ticketCreated, ticketEvent]
  | assigned assigneeId status =>
      cases assigneeId <;>
        simp [Payload.DistinctNames, TicketingEvent.integration, ticketAssigned, ticketEvent, Payload.optional,
          userIdValue]
  | unassigned status => simp [Payload.DistinctNames, TicketingEvent.integration, ticketUnassigned, ticketEvent]
  | statusChanged source target assigneeId =>
      cases assigneeId <;>
        simp [Payload.DistinctNames, TicketingEvent.integration, ticketStatusChanged, ticketEvent, Payload.optional,
          userIdValue]
  | commentAdded commentId authorId authorRole =>
      simp [Payload.DistinctNames, TicketingEvent.integration, commentAdded, ticketEvent]
  | slaBreached timerId kind dueAt assigneeId priority =>
      cases assigneeId <;>
        simp [Payload.DistinctNames, TicketingEvent.integration, slaBreached, ticketEvent, Payload.optional,
          userIdValue]

/-- Every job of a stored message carries the event the message was written for. -/
theorem carries_of_enqueued {e : IntegrationEvent} {id : Uuid} {requestId : Option String} {m : OutboxRow}
    {queue : String} {job : WireJob} (valid : Ticket.ValidDate e.occurredAt) (distinct : e.payload.DistinctNames)
    (stored : ((OutboxRecord.mk e id).row requestId).readBack = some m)
    (enqueued : (queue, job) ∈ OutboxPublisher.enqueue m) :
    queue ∈ queuesFor e.eventName ∧ ∃ data, job.read = some data ∧ Carries data id e := by
  obtain ⟨payload, kept, rfl⟩ := readBack_spec stored
  obtain ⟨nombre, routed, same⟩ := List.mem_map.mp enqueued
  cases same
  refine ⟨routed, _, read_data valid, rfl, rfl, rfl, rfl, rfl, rfl, rfl, ?_⟩
  exact field?_of_jsonb distinct kept

end Trip

section Accepted

/-- What is published for a fact, as the people who watch should see it. -/
def views (ticketId : TicketId) (tenantId : TenantId) (occurredAt : Instant) : TicketingEvent → List (Delivery Value)
  | .created number subject priority status _ =>
      [⟨.tenant (uuidText tenantId.uuid), ⟨"ticket.created", base ++
        [("number", some (.num number)), ("subject", some (.str subject)), ("priority", some (.str priority.text)),
          ("status", some (.str status.text))]⟩⟩]
  | .statusChanged _ target _ =>
      [⟨.tenant (uuidText tenantId.uuid), ⟨"ticket.status_changed", base ++ [("status", some (.str target.text))]⟩⟩,
        ⟨.ticket (uuidText tenantId.uuid) (uuidText ticketId.uuid).text,
          ⟨"ticket.status_changed", base ++ [("status", some (.str target.text))]⟩⟩]
  | .commentAdded commentId _ _ =>
      [⟨.ticket (uuidText tenantId.uuid) (uuidText ticketId.uuid).text,
        ⟨"comment.added", base ++ [("commentId", some (.uuid commentId.uuid))]⟩⟩]
  | .assigned assigneeId status =>
      [⟨.staff (uuidText tenantId.uuid), ⟨"ticket.assigned", base ++
        [("assigneeId", some (person assigneeId)), ("status", some (.str status.text))]⟩⟩]
  | .unassigned status =>
      [⟨.staff (uuidText tenantId.uuid), ⟨"ticket.unassigned", base ++
        [("assigneeId", some .null), ("status", some (.str status.text))]⟩⟩]
  | .slaBreached _ kind dueAt assigneeId priority =>
      [⟨.staff (uuidText tenantId.uuid), ⟨"sla.breached", base ++
        [("kind", some (.str kind)), ("dueAt", some (.iso dueAt)), ("priority", some (.str priority.text)),
          ("assigneeId", some (person assigneeId))]⟩⟩]
where
  base : List (String × Option Value) :=
    [("ticketId", some (.uuid ticketId.uuid)), ("occurredAt", some (.iso occurredAt))]
  person : Nullable UserId → Value
    | .value u => .uuid u.uuid
    | _ => .null

/-- The worker of a queue acts on what the ticket recorded: the fact, about this ticket of this tenant and at
    this instant, under the id of the message. -/
inductive Accepted (data : EventJobData) (eventId : Uuid) (ticketId : TicketId) (tenantId : TenantId)
    (occurredAt : Instant) : TicketingEvent → String → Prop where
  | routed {number : Int} {subject : String} {priority : TicketPriority} {status : TicketStatus}
      {requesterId : UserId}
      (runs : TicketRoutingProcessor.process data = .run (.autoAssignTicket
        { eventId := eventId, tenantId := tenantId, ticketId := ticketId, ticketNumber := number })) :
      Accepted data eventId ticketId tenantId occurredAt (.created number subject priority status requesterId)
        TICKET_ROUTING_QUEUE
  | started {number : Int} {subject : String} {priority : TicketPriority} {status : TicketStatus}
      {requesterId : UserId}
      (runs : SlaProcessor.despachar data = .run (.startSlaTimers
        { eventId := eventId, tenantId := tenantId, ticketId := ticketId, priority := priority
          occurredAt := occurredAt })) :
      Accepted data eventId ticketId tenantId occurredAt (.created number subject priority status requesterId)
        SLA_QUEUE
  | answered {commentId : CommentId} {authorId : UserId} {authorRole : String}
      (responder : isResponder authorRole = true)
      (runs : SlaProcessor.despachar data = .run (.stopSlaTimer
        { eventId := eventId, tenantId := tenantId, ticketId := ticketId, kind := .RESPONSE
          occurredAt := occurredAt })) :
      Accepted data eventId ticketId tenantId occurredAt (.commentAdded commentId authorId authorRole) SLA_QUEUE
  | notAnswered {commentId : CommentId} {authorId : UserId} {authorRole : String}
      (other : isResponder authorRole = false) (ignores : SlaProcessor.despachar data = .ignoredComment) :
      Accepted data eventId ticketId tenantId occurredAt (.commentAdded commentId authorId authorRole) SLA_QUEUE
  | resolved {source : TicketStatus} {assigneeId : Nullable UserId}
      (runs : SlaProcessor.despachar data = .run (.stopSlaTimer
        { eventId := eventId, tenantId := tenantId, ticketId := ticketId, kind := .RESOLUTION
          occurredAt := occurredAt })) :
      Accepted data eventId ticketId tenantId occurredAt (.statusChanged source .RESOLVED assigneeId) SLA_QUEUE
  | notResolved {source target : TicketStatus} {assigneeId : Nullable UserId} (other : target ≠ .RESOLVED)
      (ignores : SlaProcessor.despachar data = .ignoredTransition (some (.str target.text))) :
      Accepted data eventId ticketId tenantId occurredAt (.statusChanged source target assigneeId) SLA_QUEUE
  | shown {fact : TicketingEvent}
      (executes : RealtimeProcessor.process data = .executed (views ticketId tenantId occurredAt fact)
        (.broadcast (views ticketId tenantId occurredAt fact).length)) :
      Accepted data eventId ticketId tenantId occurredAt fact REALTIME_QUEUE

variable {data : EventJobData} {eventId : Uuid} {ticketId : TicketId} {tenantId : TenantId} {occurredAt : Instant}

/-- Every fact has a view. -/
theorem process_of_carries (fact : TicketingEvent)
    (carries : Carries data eventId (fact.integration ticketId tenantId occurredAt)) :
    RealtimeProcessor.process data = .executed (views ticketId tenantId occurredAt fact)
      (.broadcast (views ticketId tenantId occurredAt fact).length) := by
  obtain ⟨_, isTenant, isType, isTicket, isName, _, isInstant, fields⟩ := carries
  simp only [RealtimeProcessor.process, BroadcastTicketEvent.execute, BroadcastTicketEvent.deliveriesFor,
    BroadcastTicketEvent.tenant, BroadcastTicketEvent.staff, BroadcastTicketEvent.ticket, BroadcastTicketEvent.base,
    BroadcastInput.field?, isType, isName, isTicket, isTenant, isInstant]
  simp only [Payload.field?] at fields
  simp only [fields]
  cases fact with
  | created number subject priority status requesterId => rfl
  | assigned assigneeId status => cases assigneeId <;> rfl
  | unassigned status => rfl
  | statusChanged source target assigneeId => rfl
  | commentAdded commentId authorId authorRole => rfl
  | slaBreached timerId kind dueAt assigneeId priority => cases assigneeId <;> rfl

theorem accepted_created {number : Int} {subject : String} {priority : TicketPriority} {status : TicketStatus}
    {requesterId : UserId} {queue : String}
    (carries : Carries data eventId (ticketCreated ticketId tenantId occurredAt number subject priority status requesterId))
    (routed : queue = TICKET_ROUTING_QUEUE ∨ queue = SLA_QUEUE) :
    Accepted data eventId ticketId tenantId occurredAt (.created number subject priority status requesterId) queue := by
  obtain ⟨isId, isTenant, _, isTicket, isName, isVersion, isInstant, fields⟩ := carries
  have hasNumber : data.payload.field? "number" = some (.num number) := fields "number"
  have hasPriority : data.payload.field? "priority" = some (.str priority.text) := fields "priority"
  rcases routed with rfl | rfl
  · refine .routed ?_
    simp only [TicketRoutingProcessor.process, isId, isTenant, isTicket, isName, isVersion, hasNumber]
    rfl
  · refine .started ?_
    simp only [SlaProcessor.despachar, SlaProcessor.onTicketCreated, isId, isTenant, isTicket, isName, isVersion,
      isInstant, hasPriority, TicketPriority.ofText?_text]
    rfl

theorem accepted_commentAdded {commentId : CommentId} {authorId : UserId} {authorRole : String}
    (carries : Carries data eventId (commentAdded ticketId tenantId occurredAt commentId authorId authorRole)) :
    Accepted data eventId ticketId tenantId occurredAt (.commentAdded commentId authorId authorRole) SLA_QUEUE := by
  obtain ⟨isId, isTenant, _, isTicket, isName, isVersion, isInstant, fields⟩ := carries
  have hasRole : data.payload.field? "authorRole" = some (.str authorRole) := fields "authorRole"
  have isSecond : data.version = 2 := isVersion
  have current : ¬data.version < 2 := by omega
  have dispatched : SlaProcessor.despachar data = SlaProcessor.onCommentAdded data := by
    simp only [SlaProcessor.despachar, isName]
    rfl
  rw [SlaProcessor.onCommentAdded, if_neg current, hasRole, isId, isTenant, isTicket, isInstant] at dispatched
  by_cases responder : isResponder authorRole = true
  · exact .answered responder (dispatched.trans (if_pos responder))
  · exact .notAnswered (Bool.eq_false_iff.mpr responder) (dispatched.trans (if_neg responder))

theorem accepted_statusChanged {source target : TicketStatus} {assigneeId : Nullable UserId}
    (carries : Carries data eventId (ticketStatusChanged ticketId tenantId occurredAt source target assigneeId)) :
    Accepted data eventId ticketId tenantId occurredAt (.statusChanged source target assigneeId) SLA_QUEUE := by
  obtain ⟨isId, isTenant, _, isTicket, isName, _, isInstant, fields⟩ := carries
  have hasTarget : data.payload.field? "to" = some (.str target.text) := fields "to"
  have dispatched : SlaProcessor.despachar data = SlaProcessor.onStatusChanged data := by
    simp only [SlaProcessor.despachar, isName]
    rfl
  rw [SlaProcessor.onStatusChanged, hasTarget, isId, isTenant, isTicket, isInstant] at dispatched
  by_cases resolves : target = .RESOLVED
  · subst resolves
    exact .resolved (dispatched.trans (if_pos rfl))
  · refine .notResolved resolves (dispatched.trans (if_neg ?_))
    cases target <;> first | exact absurd rfl resolves | decide

/-- The worker of every queue a fact is routed to accepts it. -/
theorem accepted_of_carries (fact : TicketingEvent)
    (carries : Carries data eventId (fact.integration ticketId tenantId occurredAt)) {queue : String}
    (routed : queue ∈ queuesFor (fact.integration ticketId tenantId occurredAt).eventName) :
    Accepted data eventId ticketId tenantId occurredAt fact queue := by
  have shown : Accepted data eventId ticketId tenantId occurredAt fact REALTIME_QUEUE :=
    .shown (process_of_carries fact carries)
  cases fact with
  | created number subject priority status requesterId =>
      change queue ∈ [TICKET_ROUTING_QUEUE, SLA_QUEUE, REALTIME_QUEUE] at routed
      simp only [List.mem_cons, List.not_mem_nil, or_false] at routed
      rcases routed with first | second | rfl
      · exact accepted_created carries (.inl first)
      · exact accepted_created carries (.inr second)
      · exact shown
  | commentAdded commentId authorId authorRole =>
      change queue ∈ [SLA_QUEUE, REALTIME_QUEUE] at routed
      simp only [List.mem_cons, List.not_mem_nil, or_false] at routed
      rcases routed with rfl | rfl
      · exact accepted_commentAdded carries
      · exact shown
  | statusChanged source target assigneeId =>
      change queue ∈ [SLA_QUEUE, REALTIME_QUEUE] at routed
      simp only [List.mem_cons, List.not_mem_nil, or_false] at routed
      rcases routed with rfl | rfl
      · exact accepted_statusChanged carries
      · exact shown
  | assigned assigneeId status => exact List.mem_singleton.mp routed ▸ shown
  | unassigned status => exact List.mem_singleton.mp routed ▸ shown
  | slaBreached timerId kind dueAt assigneeId priority => exact List.mem_singleton.mp routed ▸ shown

end Accepted

/-- Every event that `EventRecorder` takes from a ticket, once it is stored, is accepted by the worker of every
    queue it is enqueued in, as what the ticket recorded. -/
theorem recorded_accepted {t : Ticket} {uuid : Nat → Uuid} {record : OutboxRecord} {requestId : Option String}
    {m : OutboxRow} {queue : String} {job : WireJob} (reachable : t.Reachable)
    (recorded : record ∈ outboxRecords uuid t.pullDomainEvents.1)
    (stored : (record.row requestId).readBack = some m)
    (enqueued : (queue, job) ∈ OutboxPublisher.enqueue m) :
    ∃ (fact : TicketingEvent) (occurredAt : Instant) (data : EventJobData),
      record.toIntegrationEvent = fact.integration t.id t.tenantId occurredAt ∧ job.read = some data ∧
        Accepted data record.id t.id t.tenantId occurredAt fact queue := by
  obtain ⟨e, id⟩ := record
  have fromTicket : e ∈ t.domainEvents := by
    obtain ⟨i, inside, same⟩ := List.mem_mapIdx.mp recorded
    cases same
    exact List.getElem_mem inside
  obtain ⟨fact, occurredAt, valid, rfl⟩ := reachable.recorded e fromTicket
  have validEvent : Ticket.ValidDate (fact.integration t.id t.tenantId occurredAt).occurredAt := by
    cases fact <;> exact valid
  have distinct := distinctNames_integration fact t.id t.tenantId occurredAt
  obtain ⟨routed, data, reads, carries⟩ := carries_of_enqueued validEvent distinct stored enqueued
  exact ⟨fact, occurredAt, data, rfl, reads, accepted_of_carries fact carries routed⟩

section Example

private def requested : Ticket where
  id := ⟨7⟩
  tenantId := ⟨1⟩
  number := 12
  subject := "Printer"
  description := "No paper"
  status := .OPEN
  priority := .HIGH
  requesterId := ⟨3⟩
  assigneeId := .null
  createdAt := 1757505600123
  updatedAt := 1757505600123
  resolvedAt := none
  closedAt := none
  domainEvents := [ticketCreated ⟨7⟩ ⟨1⟩ 1757505600123 12 "Printer" .HIGH .OPEN ⟨3⟩]

private def requestedRecord : OutboxRecord :=
  ⟨ticketCreated ⟨7⟩ ⟨1⟩ 1757505600123 12 "Printer" .HIGH .OPEN ⟨3⟩, 40⟩

theorem recorded_accepted_requested :
    ∃ (m : OutboxRow) (job : WireJob), (requestedRecord.row (some "r1")).readBack = some m ∧
      (SLA_QUEUE, job) ∈ OutboxPublisher.enqueue m ∧
      ∃ (fact : TicketingEvent) (occurredAt : Instant) (data : EventJobData),
        job.read = some data ∧ Accepted data 40 ⟨7⟩ ⟨1⟩ occurredAt fact SLA_QUEUE := by
  have done : Ticket.opened ⟨7⟩ ⟨1⟩ 12 "Printer" "No paper" .HIGH ⟨3⟩ 1757505600123 = .ok requested := by decide
  have reachable : requested.Reachable := .opened (by decide) done
  have recorded : requestedRecord ∈ outboxRecords (fun _ => 40) requested.pullDomainEvents.1 := by decide
  obtain ⟨m, stored⟩ : ∃ m, (requestedRecord.row (some "r1")).readBack = some m := ⟨_, rfl⟩
  obtain ⟨payload, _, rfl⟩ := readBack_spec stored
  have routed : SLA_QUEUE ∈ queuesFor "ticket.created" := by decide
  refine ⟨_, _, stored, List.mem_map.mpr ⟨SLA_QUEUE, routed, rfl⟩, ?_⟩
  obtain ⟨fact, occurredAt, data, _, reads, accepted⟩ :=
    recorded_accepted reachable recorded stored (List.mem_map.mpr ⟨SLA_QUEUE, routed, rfl⟩)
  exact ⟨fact, occurredAt, data, reads, accepted⟩

end Example

end Helpdesk
