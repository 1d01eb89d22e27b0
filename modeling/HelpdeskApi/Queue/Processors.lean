/-
Module: HelpdeskApi.Queue.Processors
Layer: Queue
Purpose: The queues, the job an outbox message becomes, and what the workers of the `sla` and
  `ticket-routing` queues make of a job: the use case they run for it, or the reason why they ignore it or
  send it to the dead letter queue.
Trusted boundary: human-reviewed spec
Main exports: EventJobData, OutboxRow.job, queuesFor, SlaProcessor.despachar, TicketRoutingProcessor.process
-/
import HelpdeskApi.Application.Jobs

namespace Helpdesk

def TICKET_ROUTING_QUEUE : String := "ticket-routing"

def SLA_QUEUE : String := "sla"

def REALTIME_QUEUE : String := "realtime"

/-- `queuesFor`: the queues an event goes to, none for an event that is not in `EVENT_ROUTING`. -/
def queuesFor (eventName : String) : List String :=
  if eventName = "ticket.created" then [TICKET_ROUTING_QUEUE, SLA_QUEUE, REALTIME_QUEUE]
  else if eventName = "comment.added" then [SLA_QUEUE, REALTIME_QUEUE]
  else if eventName = "ticket.status_changed" then [SLA_QUEUE, REALTIME_QUEUE]
  else if eventName = "ticket.assigned" then [REALTIME_QUEUE]
  else if eventName = "ticket.unassigned" then [REALTIME_QUEUE]
  else if eventName = "sla.breached" then [REALTIME_QUEUE]
  else []

/-- What a worker finds in a job. -/
structure EventJobData where
  eventId : Uuid
  tenantId : TenantId
  aggregateType : String
  aggregateId : Uuid
  eventName : String
  version : Int
  payload : Payload
  occurredAt : Instant
  requestId : Option String
deriving DecidableEq, Repr

/-- The job of an outbox message. -/
def OutboxRow.job (m : OutboxRow) : EventJobData where
  eventId := m.id
  tenantId := m.tenantId
  aggregateType := m.aggregateType
  aggregateId := m.aggregateId
  eventName := m.eventName
  version := m.version
  payload := m.payload
  occurredAt := m.occurredAt
  requestId := m.requestId

/-- What a worker does with a job: it runs a use case, it ignores a comment of the requester or a
    transition to some other value, or it sends the job to the dead letter queue. -/
inductive Dispatch where
  | run (useCase : UseCase)
  | ignoredComment
  | ignoredTransition (target : Option Value)
  | discarded (motivo : String)

namespace SlaProcessor

def onTicketCreated (data : EventJobData) : Dispatch :=
  if data.version ≠ 1 then .discarded ("ticket.created v" ++ toString data.version ++ " no soportado")
  else
    match data.payload.field? "priority" with
    | some (.str text) =>
        match TicketPriority.ofText? text with
        | some priority =>
            .run <| .startSlaTimers
              { eventId := data.eventId
                tenantId := data.tenantId
                ticketId := ⟨data.aggregateId⟩
                priority := priority
                occurredAt := data.occurredAt }
        | none => .discarded "el payload no trae una prioridad válida"
    | _ => .discarded "el payload no trae una prioridad válida"

def onCommentAdded (data : EventJobData) : Dispatch :=
  if data.version < 2 then
    .discarded ("comment.added v" ++ toString data.version ++ " no trae authorRole")
  else
    match data.payload.field? "authorRole" with
    | some (.str authorRole) =>
        if isResponder authorRole then
          .run <| .stopSlaTimer
            { eventId := data.eventId
              tenantId := data.tenantId
              ticketId := ⟨data.aggregateId⟩
              kind := .RESPONSE
              occurredAt := data.occurredAt }
        else .ignoredComment
    -- the text of a UUID or of an instant is a string, and no role
    | some (.uuid _) | some (.iso _) => .ignoredComment
    | _ => .discarded "el payload no trae authorRole"

def onStatusChanged (data : EventJobData) : Dispatch :=
  if data.payload.field? "to" = some (.str TicketStatus.RESOLVED.text) then
    .run <| .stopSlaTimer
      { eventId := data.eventId
        tenantId := data.tenantId
        ticketId := ⟨data.aggregateId⟩
        kind := .RESOLUTION
        occurredAt := data.occurredAt }
  else .ignoredTransition (data.payload.field? "to")

def despachar (data : EventJobData) : Dispatch :=
  if data.eventName = "ticket.created" then onTicketCreated data
  else if data.eventName = "comment.added" then onCommentAdded data
  else if data.eventName = "ticket.status_changed" then onStatusChanged data
  else .discarded ("evento no manejado: " ++ data.eventName)

/-- The stop a job of one kind asks for. -/
def stopInput (data : EventJobData) (kind : SlaKind) : StopSlaTimerInput where
  eventId := data.eventId
  tenantId := data.tenantId
  ticketId := ⟨data.aggregateId⟩
  kind := kind
  occurredAt := data.occurredAt

/-- The worker starts timers or stops one of the kind the event is about, and nothing else. -/
theorem despachar_run {data : EventJobData} {useCase : UseCase} (runs : despachar data = .run useCase) :
    (∃ priority, useCase = .startSlaTimers
        { eventId := data.eventId
          tenantId := data.tenantId
          ticketId := ⟨data.aggregateId⟩
          priority := priority
          occurredAt := data.occurredAt }) ∨
      ∃ kind, useCase = .stopSlaTimer (stopInput data kind) := by
  unfold despachar at runs
  split at runs
  · unfold onTicketCreated at runs
    split at runs
    · cases runs
    · split at runs
      · split at runs
        · cases runs
          exact .inl ⟨_, rfl⟩
        · cases runs
      · cases runs
  · split at runs
    · unfold onCommentAdded at runs
      split at runs
      · cases runs
      · split at runs
        · split at runs
          · cases runs
            exact .inr ⟨.RESPONSE, rfl⟩
          · cases runs
        all_goals cases runs
    · split at runs
      · unfold onStatusChanged at runs
        split at runs
        · cases runs
          exact .inr ⟨.RESOLUTION, rfl⟩
        · cases runs
      · cases runs

end SlaProcessor

/-- Whether a payload says that its author answers on behalf of the organisation. -/
def Payload.byResponder (payload : Payload) : Bool :=
  match payload.field? "authorRole" with
  | some (.str authorRole) => isResponder authorRole
  | _ => false

namespace EventJobData

/-- Whether a fact is the one timers of a kind wait for: somebody answered on behalf of the organisation,
    as a comment says from the second version of its event on, or the ticket was resolved. -/
def fulfils (data : EventJobData) : SlaKind → Bool
  | .RESPONSE => data.eventName = "comment.added" ∧ 2 ≤ data.version ∧ data.payload.byResponder = true
  | .RESOLUTION =>
      data.eventName = "ticket.status_changed" ∧
        data.payload.field? "to" = some (.str TicketStatus.RESOLVED.text)

/-- Whether a fact is the one this timer waits for. -/
def stops (data : EventJobData) (timer : SlaTimer) : Prop :=
  data.fulfils timer.kind = true ∧ data.tenantId = timer.tenantId ∧ data.aggregateId = timer.ticketId.uuid

end EventJobData

namespace SlaProcessor

theorem onTicketCreated_ne_stop (data : EventJobData) (input : StopSlaTimerInput) :
    onTicketCreated data ≠ .run (.stopSlaTimer input) := by
  intro runs
  unfold onTicketCreated at runs
  split at runs
  · cases runs
  · split at runs
    · split at runs <;> cases runs
    · cases runs

/-- What timers are started with. -/
theorem input_of_start {data : EventJobData} {input : StartSlaTimersInput}
    (runs : despachar data = .run (.startSlaTimers input)) :
    input.eventId = data.eventId ∧ input.tenantId = data.tenantId ∧ input.ticketId = ⟨data.aggregateId⟩ ∧
      input.occurredAt = data.occurredAt := by
  rcases despachar_run runs with ⟨priority, same⟩ | ⟨kind, same⟩
  · cases same
    exact ⟨rfl, rfl, rfl, rfl⟩
  · cases same

/-- Timers are started for the message of a new ticket only. -/
theorem eventName_of_start {data : EventJobData} {input : StartSlaTimersInput}
    (runs : despachar data = .run (.startSlaTimers input)) : data.eventName = "ticket.created" := by
  unfold despachar at runs
  split at runs
  · assumption
  · split at runs
    · unfold onCommentAdded at runs
      split at runs
      · cases runs
      · split at runs
        · split at runs <;> cases runs
        all_goals cases runs
    · split at runs
      · unfold onStatusChanged at runs
        split at runs <;> cases runs
      · cases runs

theorem onCommentAdded_stop_iff (data : EventJobData) (kind : SlaKind) :
    onCommentAdded data = .run (.stopSlaTimer (stopInput data kind)) ↔
      kind = .RESPONSE ∧ 2 ≤ data.version ∧ data.payload.byResponder = true := by
  unfold onCommentAdded Payload.byResponder
  by_cases outdated : data.version < 2
  · have tooOld : ¬ 2 ≤ data.version := by omega
    simp [outdated, tooOld]
  · have current : 2 ≤ data.version := by omega
    rw [if_neg outdated]
    split
    · rename_i authorRole named
      by_cases responder : isResponder authorRole = true
      · cases kind <;> simp [named, responder, current, stopInput]
      · simp [named, responder]
    · rename_i named
      simp [named]
    · rename_i named
      simp [named]
    · rename_i unnamed _ _
      split
      · rename_i authorRole named
        exact absurd named (unnamed authorRole)
      · simp

theorem onStatusChanged_stop_iff (data : EventJobData) (kind : SlaKind) :
    onStatusChanged data = .run (.stopSlaTimer (stopInput data kind)) ↔
      kind = .RESOLUTION ∧ data.payload.field? "to" = some (.str TicketStatus.RESOLVED.text) := by
  unfold onStatusChanged
  by_cases resolved : data.payload.field? "to" = some (.str TicketStatus.RESOLVED.text)
  · cases kind <;> simp [resolved, stopInput]
  · simp [resolved]

/-- The worker asks for a stop of a kind exactly when the job is the fact that kind waits for. -/
theorem despachar_stop_iff (data : EventJobData) (kind : SlaKind) :
    despachar data = .run (.stopSlaTimer (stopInput data kind)) ↔ data.fulfils kind = true := by
  unfold despachar
  by_cases created : data.eventName = "ticket.created"
  · rw [if_pos created]
    apply iff_of_false (onTicketCreated_ne_stop data _)
    cases kind <;> simp [EventJobData.fulfils, created]
  · rw [if_neg created]
    by_cases commented : data.eventName = "comment.added"
    · rw [if_pos commented, onCommentAdded_stop_iff]
      cases kind <;> simp [EventJobData.fulfils, commented]
    · rw [if_neg commented]
      by_cases moved : data.eventName = "ticket.status_changed"
      · rw [if_pos moved, onStatusChanged_stop_iff]
        cases kind <;> simp [EventJobData.fulfils, moved]
      · rw [if_neg moved]
        cases kind <;> simp [EventJobData.fulfils, commented, moved]

end SlaProcessor

namespace TicketRoutingProcessor

def SUPPORTED_VERSION : Int := 1

def process (data : EventJobData) : Dispatch :=
  if data.eventName ≠ "ticket.created" then .discarded ("evento no manejado: " ++ data.eventName)
  else if data.version ≠ SUPPORTED_VERSION then
    .discarded ("versión no soportada: " ++ toString data.version)
  else
    match data.payload.field? "number" with
    | some (.num numero) =>
        .run <| .autoAssignTicket
          { eventId := data.eventId
            tenantId := data.tenantId
            ticketId := ⟨data.aggregateId⟩
            ticketNumber := numero }
    | _ => .discarded "el payload no trae `number`"

/-- The worker assigns the ticket of a `ticket.created` by the number in it, and does nothing else. -/
theorem process_run {data : EventJobData} {useCase : UseCase} (runs : process data = .run useCase) :
    data.eventName = "ticket.created" ∧ ∃ numero, data.payload.field? "number" = some (.num numero) ∧
      useCase = .autoAssignTicket
        { eventId := data.eventId
          tenantId := data.tenantId
          ticketId := ⟨data.aggregateId⟩
          ticketNumber := numero } := by
  unfold process at runs
  split at runs
  · cases runs
  · rename_i created
    split at runs
    · cases runs
    · split at runs
      · rename_i numero numbered
        cases runs
        exact ⟨not_not.mp created, numero, numbered, rfl⟩
      · cases runs

end TicketRoutingProcessor

end Helpdesk
