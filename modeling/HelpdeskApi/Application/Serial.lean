/-
Module: HelpdeskApi.Application.Serial
Layer: Application
Purpose: What each use case commits when it runs in one piece: a list of writes computed from its input and
  the database, empty where it is rejected or has nothing to do. `serve_committed` says that serving an
  execution is applying these writes, so that whatever has to hold along a serial run is checked against
  them and never against the programs.
Trusted boundary: none
Main exports: Ambient.freshIn, Execution.committed, Execution.Commits, Execution.commits
-/
import HelpdeskApi.Application.Jobs
import HelpdeskApi.Store.Lemmas

namespace Helpdesk

open Txn Relational

/-- The ids an execution gets from the generator are new: no row has one of them, and no two of them are
    the same. No use case asks for more than three. -/
def Ambient.freshIn (ambient : Ambient) (db : Db) : Bool :=
  ([ambient.uuid 0, ambient.uuid 1, ambient.uuid 2].Nodup : Bool) &&
    [ambient.uuid 0, ambient.uuid 1, ambient.uuid 2].all fun u => !db.usesId u

/-- The row of an event in the outbox. -/
def outboxRow (id : Uuid) (requestId : Option String) (event : IntegrationEvent) : OutboxRow :=
  ({ event with id := id } : OutboxRecord).row requestId

/-- The entry of a change to a ticket in the audit log. -/
def ticketEntry (id : Uuid) (tenantId : TenantId) (actorId : UserId) (action : AuditAction)
    (ticketId : TicketId) (metadata : AuditMetadata) (now : Instant) : AuditLog where
  id := ⟨id⟩
  tenantId := tenantId
  actorId := actorId
  action := action
  entityType := "ticket"
  entityId := ticketId.uuid
  metadata := metadata
  occurredAt := now

/-- The entry of a change to the policy in the audit log. -/
def policyEntry (id : Uuid) (tenantId : TenantId) (actorId : UserId) (metadata : AuditMetadata)
    (now : Instant) : AuditLog where
  id := ⟨id⟩
  tenantId := tenantId
  actorId := actorId
  action := .slaPolicyChanged
  entityType := "SlaPolicy"
  entityId := tenantId.uuid
  metadata := metadata
  occurredAt := now

namespace CreateTicket

variable (input : CreateTicketInput) (ambient : Ambient) (requestId : Option String) (db : Db)

/-- The number the next ticket of the tenant gets. -/
def number : Int :=
  (db.counters.find? input.tenantId).elim 1 (·.nextNumber)

/-- The ticket the use case opens, if its subject and description are acceptable. -/
def opening : Except TicketingError Ticket :=
  Ticket.opened ⟨ambient.uuid 0⟩ input.tenantId (number input db) input.subject input.description
    input.priority input.actorId ambient.now

def committed : List Write :=
  match opening input ambient db with
  | .error _ => []
  | .ok ticket =>
      if db.tickets.any fun r => r.tenantId = input.tenantId ∧ r.number = number input db then []
      else
        [.bumpCounter input.tenantId, .upsertTicket ticket,
          .insertAuditLog (ticketEntry (ambient.uuid 1) input.tenantId input.actorId .ticketCreated
            ⟨ambient.uuid 0⟩ (.ticketCreated (number input db) input.priority) ambient.now),
          .insertOutbox [outboxRow (ambient.uuid 2) requestId
            (ticketCreated ⟨ambient.uuid 0⟩ input.tenantId ambient.now (number input db)
              (trim input.subject) input.priority .OPEN input.actorId)]]

end CreateTicket

namespace AssignTicket

variable (input : AssignTicketInput) (ambient : Ambient) (requestId : Option String) (db : Db)

/-- The ticket of the request, where it may be assigned as requested. -/
def assignable : Option TicketRow :=
  (db.ticketOf input.tenantId input.ticketId).filter fun row =>
    row.status ≠ .CLOSED ∧ ∀ u ∈ input.assigneeId,
      db.memberships.any fun m => m.tenantId = input.tenantId ∧ m.userId = u

/-- The event an assignment of this row records. -/
def event (row : TicketRow) : IntegrationEvent :=
  match input.assigneeId with
  | none => ticketUnassigned row.id row.tenantId ambient.now row.status
  | some u => ticketAssigned row.id row.tenantId ambient.now (.value u) row.status

/-- The ticket after the assignment. -/
def changed (row : TicketRow) : Ticket :=
  ({ toTicket row with assigneeId := .ofColumn input.assigneeId }.touch ambient.now).addDomainEvent
    (event input ambient row)

def committed : List Write :=
  match assignable input db with
  | none => []
  | some row =>
      [.upsertTicket (changed input ambient row),
        .insertAuditLog (ticketEntry (ambient.uuid 0) input.tenantId input.actorId
          (action input.assigneeId) row.id (.ticketAssignment input.assigneeId) ambient.now),
        .insertOutbox [outboxRow (ambient.uuid 1) requestId (event input ambient row)]]

end AssignTicket

namespace AutoAssignTicket

variable (input : AutoAssignTicketInput) (ambient : Ambient) (requestId : Option String) (db : Db)

/-- The agents of the tenant, in the order of their ids. -/
def agents : List UserId :=
  (orderByUserId ((db.visible (some input.tenantId)).memberships.rows.filter fun r =>
    r.tenantId = input.tenantId ∧ (r.role = .AGENT ∨ r.role = .ADMIN))).map (·.userId)

/-- The agent the round robin picks. -/
def elegido : Nullable UserId :=
  elementAt (agents input db) ((input.ticketNumber - 1).tmod (agents input db).length)

/-- The ticket of the event, where the round robin assigns it. -/
def assignable : Option TicketRow :=
  (db.ticketOf input.tenantId input.ticketId).filter fun row =>
    row.assigneeId = none ∧ agents input db ≠ [] ∧ row.status ≠ .CLOSED

/-- The event an assignment of this row records. -/
def event (row : TicketRow) : IntegrationEvent :=
  ticketAssigned row.id row.tenantId ambient.now (elegido input db) row.status

/-- The ticket after the assignment. -/
def changed (row : TicketRow) : Ticket :=
  ({ toTicket row with assigneeId := elegido input db }.touch ambient.now).addDomainEvent
    (event input ambient db row)

def committed : List Write :=
  match db.processed.find? (AUTO_ASSIGN_CONSUMER, input.eventId) with
  | some _ => []
  | none =>
      .insertProcessed
          { consumer := AUTO_ASSIGN_CONSUMER, eventId := input.eventId, tenantId := input.tenantId } ::
        match assignable input db with
        | none => []
        | some row =>
            [.upsertTicket (changed input ambient db row),
              .insertAuditLog (ticketEntry (ambient.uuid 0) input.tenantId SYSTEM_ACTOR_ID
                .ticketAssigned row.id (.automaticAssignment (elegido input db)) ambient.now),
              .insertOutbox [outboxRow (ambient.uuid 1) requestId (event input ambient db row)]]

end AutoAssignTicket

namespace ChangeTicketStatus

variable (input : ChangeTicketStatusInput) (ambient : Ambient) (requestId : Option String) (db : Db)

/-- The ticket of the request, where the requested status may follow the stored one. -/
def transitioning : Option TicketRow :=
  (db.ticketOf input.tenantId input.ticketId).filter fun row => canTransition row.status input.status

/-- The event the change of this row records. -/
def event (row : TicketRow) : IntegrationEvent :=
  ticketStatusChanged row.id row.tenantId ambient.now row.status input.status (.ofColumn row.assigneeId)

/-- The ticket after the change. -/
def changed (row : TicketRow) : Ticket :=
  (({ toTicket row with status := input.status }.applyLifecycleTimestamps input.status
    ambient.now).touch ambient.now).addDomainEvent (event input ambient row)

def committed : List Write :=
  match transitioning input db with
  | none => []
  | some row =>
      [.upsertTicket (changed input ambient row),
        .insertAuditLog (ticketEntry (ambient.uuid 0) input.tenantId input.actorId .ticketStatusChanged
          row.id (.statusChange row.status input.status) ambient.now),
        .insertOutbox [outboxRow (ambient.uuid 1) requestId (event input ambient row)]]

end ChangeTicketStatus

namespace AddComment

variable (input : AddCommentInput) (ambient : Ambient) (requestId : Option String) (db : Db)

/-- The ticket of the request, where it takes this comment. -/
def commentable : Option TicketRow :=
  (db.ticketOf input.tenantId input.ticketId).filter fun row =>
    row.status ≠ .CLOSED ∧ jsLength (trim input.body) ≠ 0 ∧ jsLength (trim input.body) ≤ BODY_MAX

/-- The comment of the request. -/
def comment : Comment where
  id := ⟨ambient.uuid 0⟩
  tenantId := input.tenantId
  ticketId := input.ticketId
  authorId := input.actorId
  body := trim input.body
  createdAt := ambient.now

/-- The event a comment on this row records. -/
def event (row : TicketRow) : IntegrationEvent :=
  commentAdded row.id row.tenantId ambient.now ⟨ambient.uuid 0⟩ input.actorId input.actorRole

/-- The ticket after the comment. -/
def changed (row : TicketRow) : Ticket :=
  ((toTicket row).touch ambient.now).addDomainEvent (event input ambient row)

def committed : List Write :=
  match commentable input db with
  | none => []
  | some row =>
      [.insertComment (comment input ambient), .upsertTicket (changed input ambient row),
        .insertAuditLog (ticketEntry (ambient.uuid 1) input.tenantId input.actorId .commentAdded row.id
          (.commentAdded ⟨ambient.uuid 0⟩) ambient.now),
        .insertOutbox [outboxRow (ambient.uuid 2) requestId (event input ambient row)]]

end AddComment

namespace StartSlaTimers

variable (input : StartSlaTimersInput) (ambient : Ambient) (db : Db)

/-- The target in force for the priority of the event. -/
def objetivo : SlaTarget :=
  resolvePolicy (db.overridesOf input.tenantId) input.priority

def committed : List Write :=
  match db.processed.find? (START_SLA_CONSUMER, input.eventId) with
  | some _ => []
  | none =>
      -- a ticket that has a timer of some kind already makes the insert fail, and the mark with it
      if db.timers.any fun r => r.ticketId = input.ticketId then []
      else
        [.insertProcessed
            { consumer := START_SLA_CONSUMER, eventId := input.eventId, tenantId := input.tenantId },
          .upsertTimer (timer input (objetivo input db) (ambient.uuid 0) .RESPONSE),
          .upsertTimer (timer input (objetivo input db) (ambient.uuid 1) .RESOLUTION)]

end StartSlaTimers

namespace StopSlaTimer

variable (input : StopSlaTimerInput) (db : Db)

/-- The running timer of the event, if there is one. -/
def running : Option SlaTimer :=
  db.timers.findFirst fun r =>
    r.tenantId = input.tenantId ∧ r.ticketId = input.ticketId ∧ r.kind = input.kind ∧ r.isRunning

def committed : List Write :=
  match db.processed.find? (stopSlaConsumer input.kind, input.eventId) with
  | some _ => []
  | none =>
      .insertProcessed
          { consumer := stopSlaConsumer input.kind, eventId := input.eventId, tenantId := input.tenantId } ::
        match running input db with
        | none => []
        | some timer => [.upsertTimer (timer.stop input.occurredAt)]

end StopSlaTimer

namespace MarkSlaBreached

variable (input : MarkSlaBreachedInput) (ambient : Ambient) (requestId : Option String) (db : Db)

/-- The timer of the request with its ticket, where the timer is to be breached. -/
def breaching : Option (SlaTimer × TicketRow) :=
  match (db.timerOf input.tenantId input.timerId).filter fun t => t.isOverdue ambient.now with
  | none => none
  | some timer => (db.ticketOf input.tenantId timer.ticketId).map fun row => (timer, row)

/-- The event the breach of this timer records. -/
def event (timer : SlaTimer) (row : TicketRow) : IntegrationEvent :=
  slaBreached row.id row.tenantId ambient.now timer.id timer.kind.text timer.dueAt (.ofColumn row.assigneeId)
    row.priority

def committed : List Write :=
  match breaching input ambient db with
  | none => []
  | some (timer, row) =>
      [.upsertTimer { timer with breachedAt := some ambient.now },
        .insertAuditLog (ticketEntry (ambient.uuid 0) input.tenantId SYSTEM_ACTOR_ID .slaBreached row.id
          (.slaBreach timer.id timer.kind timer.dueAt) ambient.now),
        .insertOutbox [outboxRow (ambient.uuid 1) requestId (event ambient timer row)]]

end MarkSlaBreached

namespace UpdateSlaPolicy

variable (input : UpdateSlaPolicyInput) (ambient : Ambient) (db : Db)

def committed : List Write :=
  match makeSlaTarget input.responseMinutes input.resolutionMinutes with
  | .error _ => []
  | .ok target =>
      [.upsertPolicy
          { tenantId := input.tenantId
            priority := input.priority
            responseMinutes := target.responseMinutes
            resolutionMinutes := target.resolutionMinutes
            updatedAt := ambient.now },
        .insertAuditLog (policyEntry (ambient.uuid 0) input.tenantId input.actorId
          (.policyUpdate input.priority
            (targetFor input.priority (effectivePolicy (db.overridesOf input.tenantId))) target)
          ambient.now)]

end UpdateSlaPolicy

namespace ResetSlaPolicy

variable (input : ResetSlaPolicyInput) (ambient : Ambient) (db : Db)

/-- What is configured once the override is gone. -/
def remaining : Overrides :=
  fun p => if p = input.priority then none else db.overridesOf input.tenantId p

def committed : List Write :=
  match db.policies.find? (input.tenantId, input.priority) with
  | none => []
  | some _ =>
      [.deletePolicy input.tenantId input.priority,
        .insertAuditLog (policyEntry (ambient.uuid 0) input.tenantId input.actorId
          (.policyReset input.priority
            (targetFor input.priority (effectivePolicy (db.overridesOf input.tenantId)))
            (targetFor input.priority (effectivePolicy (remaining input db))))
          ambient.now)]

end ResetSlaPolicy

/-- The writes an execution commits when it runs in one piece. -/
def Execution.committed (e : Execution) (db : Db) : List Write :=
  match e.useCase with
  | .createTicket input => CreateTicket.committed input e.ambient e.requestId db
  | .assignTicket input => AssignTicket.committed input e.ambient e.requestId db
  | .autoAssignTicket input => AutoAssignTicket.committed input e.ambient e.requestId db
  | .changeTicketStatus input => ChangeTicketStatus.committed input e.ambient e.requestId db
  | .addComment input => AddComment.committed input e.ambient e.requestId db
  | .startSlaTimers input => StartSlaTimers.committed input e.ambient db
  | .stopSlaTimer input => StopSlaTimer.committed input db
  | .markSlaBreached input => MarkSlaBreached.committed input e.ambient e.requestId db
  | .updateSlaPolicy input => UpdateSlaPolicy.committed input e.ambient db
  | .resetSlaPolicy input => ResetSlaPolicy.committed input e.ambient db
  | .getSlaPolicy _ | .listTickets _ | .ticketDetail _ _ | .ticketHistory _ _ => []

/-- What an execution can commit, with what it found in the database. -/
inductive Execution.Commits (e : Execution) (db : Db) : List Write → Prop where
  | nothing : e.Commits db []
  | created {input : CreateTicketInput} {ticket : Ticket} (asked : e.useCase = .createTicket input)
      (opens : CreateTicket.opening input e.ambient db = .ok ticket)
      (unnumbered : ¬ (db.tickets.any fun r =>
        r.tenantId = input.tenantId ∧ r.number = CreateTicket.number input db) = true) :
      e.Commits db
        [.bumpCounter input.tenantId, .upsertTicket ticket,
          .insertAuditLog (ticketEntry (e.ambient.uuid 1) input.tenantId input.actorId .ticketCreated
            ⟨e.ambient.uuid 0⟩ (.ticketCreated (CreateTicket.number input db) input.priority) e.ambient.now),
          .insertOutbox [outboxRow (e.ambient.uuid 2) e.requestId
            (ticketCreated ⟨e.ambient.uuid 0⟩ input.tenantId e.ambient.now (CreateTicket.number input db)
              (trim input.subject) input.priority .OPEN input.actorId)]]
  | assigned {input : AssignTicketInput} {row : TicketRow} (asked : e.useCase = .assignTicket input)
      (accepted : AssignTicket.assignable input db = some row) :
      e.Commits db
        [.upsertTicket (AssignTicket.changed input e.ambient row),
          .insertAuditLog (ticketEntry (e.ambient.uuid 0) input.tenantId input.actorId
            (AssignTicket.action input.assigneeId) row.id (.ticketAssignment input.assigneeId) e.ambient.now),
          .insertOutbox [outboxRow (e.ambient.uuid 1) e.requestId (AssignTicket.event input e.ambient row)]]
  | autoMarked {input : AutoAssignTicketInput} (asked : e.useCase = .autoAssignTicket input) :
      e.Commits db [.insertProcessed
        { consumer := AUTO_ASSIGN_CONSUMER, eventId := input.eventId, tenantId := input.tenantId }]
  | autoAssigned {input : AutoAssignTicketInput} {row : TicketRow} (asked : e.useCase = .autoAssignTicket input)
      (accepted : AutoAssignTicket.assignable input db = some row) :
      e.Commits db
        [.insertProcessed { consumer := AUTO_ASSIGN_CONSUMER, eventId := input.eventId, tenantId := input.tenantId },
          .upsertTicket (AutoAssignTicket.changed input e.ambient db row),
          .insertAuditLog (ticketEntry (e.ambient.uuid 0) input.tenantId SYSTEM_ACTOR_ID .ticketAssigned row.id
            (.automaticAssignment (AutoAssignTicket.elegido input db)) e.ambient.now),
          .insertOutbox [outboxRow (e.ambient.uuid 1) e.requestId (AutoAssignTicket.event input e.ambient db row)]]
  | moved {input : ChangeTicketStatusInput} {row : TicketRow} (asked : e.useCase = .changeTicketStatus input)
      (accepted : ChangeTicketStatus.transitioning input db = some row) :
      e.Commits db
        [.upsertTicket (ChangeTicketStatus.changed input e.ambient row),
          .insertAuditLog (ticketEntry (e.ambient.uuid 0) input.tenantId input.actorId .ticketStatusChanged row.id
            (.statusChange row.status input.status) e.ambient.now),
          .insertOutbox [outboxRow (e.ambient.uuid 1) e.requestId (ChangeTicketStatus.event input e.ambient row)]]
  | commented {input : AddCommentInput} {row : TicketRow} (asked : e.useCase = .addComment input)
      (accepted : AddComment.commentable input db = some row) :
      e.Commits db
        [.insertComment (AddComment.comment input e.ambient),
          .upsertTicket (AddComment.changed input e.ambient row),
          .insertAuditLog (ticketEntry (e.ambient.uuid 1) input.tenantId input.actorId .commentAdded row.id
            (.commentAdded ⟨e.ambient.uuid 0⟩) e.ambient.now),
          .insertOutbox [outboxRow (e.ambient.uuid 2) e.requestId (AddComment.event input e.ambient row)]]
  | started {input : StartSlaTimersInput} (asked : e.useCase = .startSlaTimers input) :
      e.Commits db
        [.insertProcessed { consumer := START_SLA_CONSUMER, eventId := input.eventId, tenantId := input.tenantId },
          .upsertTimer (StartSlaTimers.timer input (StartSlaTimers.objetivo input db) (e.ambient.uuid 0) .RESPONSE),
          .upsertTimer (StartSlaTimers.timer input (StartSlaTimers.objetivo input db) (e.ambient.uuid 1) .RESOLUTION)]
  | stopMarked {input : StopSlaTimerInput} (asked : e.useCase = .stopSlaTimer input) :
      e.Commits db [.insertProcessed
        { consumer := stopSlaConsumer input.kind, eventId := input.eventId, tenantId := input.tenantId }]
  | stopped {input : StopSlaTimerInput} {timer : SlaTimer} (asked : e.useCase = .stopSlaTimer input)
      (found : StopSlaTimer.running input db = some timer) :
      e.Commits db
        [.insertProcessed
            { consumer := stopSlaConsumer input.kind, eventId := input.eventId, tenantId := input.tenantId },
          .upsertTimer (timer.stop input.occurredAt)]
  | breached {input : MarkSlaBreachedInput} {timer : SlaTimer} {row : TicketRow}
      (asked : e.useCase = .markSlaBreached input)
      (found : MarkSlaBreached.breaching input e.ambient db = some (timer, row)) :
      e.Commits db
        [.upsertTimer { timer with breachedAt := some e.ambient.now },
          .insertAuditLog (ticketEntry (e.ambient.uuid 0) input.tenantId SYSTEM_ACTOR_ID .slaBreached row.id
            (.slaBreach timer.id timer.kind timer.dueAt) e.ambient.now),
          .insertOutbox [outboxRow (e.ambient.uuid 1) e.requestId (MarkSlaBreached.event e.ambient timer row)]]
  | policyUpdated {input : UpdateSlaPolicyInput} {target : SlaTarget} (asked : e.useCase = .updateSlaPolicy input)
      (made : makeSlaTarget input.responseMinutes input.resolutionMinutes = .ok target) :
      e.Commits db
        [.upsertPolicy
            { tenantId := input.tenantId
              priority := input.priority
              responseMinutes := target.responseMinutes
              resolutionMinutes := target.resolutionMinutes
              updatedAt := e.ambient.now },
          .insertAuditLog (policyEntry (e.ambient.uuid 0) input.tenantId input.actorId
            (.policyUpdate input.priority
              (targetFor input.priority (effectivePolicy (db.overridesOf input.tenantId))) target)
            e.ambient.now)]
  | policyReset {input : ResetSlaPolicyInput} (asked : e.useCase = .resetSlaPolicy input) :
      e.Commits db
        [.deletePolicy input.tenantId input.priority,
          .insertAuditLog (policyEntry (e.ambient.uuid 0) input.tenantId input.actorId
            (.policyReset input.priority
              (targetFor input.priority (effectivePolicy (db.overridesOf input.tenantId)))
              (targetFor input.priority (effectivePolicy (ResetSlaPolicy.remaining input db))))
            e.ambient.now)]

theorem Execution.commits (e : Execution) (db : Db) : e.Commits db (e.committed db) := by
  unfold committed
  split
  · rename_i asked
    unfold CreateTicket.committed
    split
    · exact .nothing
    · split
      · exact .nothing
      · exact .created asked ‹_› ‹_›
  · rename_i asked
    unfold AssignTicket.committed
    split
    · exact .nothing
    · exact .assigned asked ‹_›
  · rename_i asked
    unfold AutoAssignTicket.committed
    split
    · exact .nothing
    · split
      · exact .autoMarked asked
      · exact .autoAssigned asked ‹_›
  · rename_i asked
    unfold ChangeTicketStatus.committed
    split
    · exact .nothing
    · exact .moved asked ‹_›
  · rename_i asked
    unfold AddComment.committed
    split
    · exact .nothing
    · exact .commented asked ‹_›
  · rename_i asked
    unfold StartSlaTimers.committed
    split
    · exact .nothing
    · split
      · exact .nothing
      · exact .started asked
  · rename_i asked
    unfold StopSlaTimer.committed
    split
    · exact .nothing
    · split
      · exact .stopMarked asked
      · exact .stopped asked ‹_›
  · rename_i asked
    unfold MarkSlaBreached.committed
    split
    · exact .nothing
    · exact .breached asked ‹_›
  · rename_i asked
    unfold UpdateSlaPolicy.committed
    split
    · exact .nothing
    · exact .policyUpdated asked ‹_›
  · rename_i asked
    unfold ResetSlaPolicy.committed
    split
    · exact .nothing
    · exact .policyReset asked
  all_goals exact .nothing

end Helpdesk
