/-
Module: HelpdeskApi.Proofs.TicketStory
Layer: Proofs
Purpose: The ticket row, the audit trail and the outbox tell the same story. A story is what a reader of
  the messages alone knows of a ticket; `storyOf` folds the messages of a ticket into it. `Consistent`
  says that the messages and the audit entries of every ticket correspond one to one and that the story
  they tell is the stored one; every execution preserves it.
Trusted boundary: none
Main exports: Story, storyOf, Consistent, Consistent.step, ticketStory_agrees
-/
import HelpdeskApi.Application.SerialRuns

namespace Helpdesk

open Relational Transition

/-- What the messages of a ticket tell about it. -/
structure Story where
  status : TicketStatus
  assigneeId : Option UserId
  resolvedAt : Option Instant
  closedAt : Option Instant
  updatedAt : Instant
deriving DecidableEq, Repr

namespace Story

/-- The stored story of a ticket. -/
def ofRow (row : TicketRow) : Story where
  status := row.status
  assigneeId := row.assigneeId
  resolvedAt := row.resolvedAt
  closedAt := row.closedAt
  updatedAt := row.updatedAt

/-- The status a payload names. -/
def statusIn (payload : Payload) (name : String) : Option TicketStatus :=
  match payload.field? name with
  | some (.str text) => TicketStatus.ofText? text
  | _ => none

/-- The assignee a payload names. -/
def assigneeIn (payload : Payload) : Option UserId :=
  match payload.field? "assigneeId" with
  | some (.uuid u) => some ⟨u⟩
  | _ => none

/-- The story of a ticket once its status has become `next`. -/
def moved (s : Story) (next : TicketStatus) (now : Instant) : Story :=
  match next with
  | .RESOLVED => { s with status := next, resolvedAt := some now, updatedAt := now }
  | .CLOSED => { s with status := next, closedAt := some now, updatedAt := now }
  | .OPEN | .IN_PROGRESS => { s with status := next, resolvedAt := none, closedAt := none, updatedAt := now }

end Story

/-- How one more message goes on with a story. -/
def tell (story : Option Story) (m : OutboxRow) : Option Story :=
  if m.eventName = "ticket.created" then
    (Story.statusIn m.payload "status").map fun status =>
      { status := status
        assigneeId := none
        resolvedAt := none
        closedAt := none
        updatedAt := m.occurredAt }
  else if m.eventName = "ticket.assigned" then
    story.map fun s => { s with assigneeId := Story.assigneeIn m.payload, updatedAt := m.occurredAt }
  else if m.eventName = "ticket.unassigned" then
    story.map fun s => { s with assigneeId := none, updatedAt := m.occurredAt }
  else if m.eventName = "ticket.status_changed" then
    story.bind fun s => (Story.statusIn m.payload "to").map fun next => s.moved next m.occurredAt
  else if m.eventName = "comment.added" then
    story.map fun s => { s with updatedAt := m.occurredAt }
  else story

/-- The story some messages tell, in their order. -/
def storyOf (messages : List OutboxRow) : Option Story :=
  messages.foldl tell none

namespace Db

/-- The audit entries of a ticket, in commit order. -/
def auditOf (db : Db) (id : TicketId) : List AuditLog :=
  db.auditLogs.rows.filter fun a => a.entityType = "ticket" ∧ a.entityId = id.uuid

/-- The outbox messages of a ticket, in commit order. -/
def messagesOf (db : Db) (id : TicketId) : List OutboxRow :=
  db.outbox.rows.filter fun m => m.aggregateType = aggregateType ∧ m.aggregateId = id.uuid

end Db

/-- The audit entries of a ticket and its messages correspond one to one, with the same name at the same
    instant, and the messages tell what the row stores. -/
def Consistent (db : Db) : Prop :=
  ∀ id : TicketId,
    (db.auditOf id).map (fun a => (a.action.text, a.occurredAt)) =
        (db.messagesOf id).map (fun m => (m.eventName, m.occurredAt)) ∧
      storyOf (db.messagesOf id) = (db.tickets.find? id).map Story.ofRow

/-- Consistency is about three tables. -/
theorem Consistent.of_same {db : Db} (consistent : Consistent db) (db' : Db) (tickets : db'.tickets = db.tickets)
    (auditLogs : db'.auditLogs = db.auditLogs) (outbox : db'.outbox = db.outbox) : Consistent db' := by
  intro id
  simpa only [Db.auditOf, Db.messagesOf, tickets, auditLogs, outbox] using consistent id

section Recording

variable {db db' : Db} {entry : AuditLog} {message : OutboxRow}

/-- One more entry and one more message about one ticket keep the correspondence, if they agree on name
    and instant; the story goes on if the row changes as the message says. -/
theorem Consistent.record (consistent : Consistent db) (id : TicketId)
    (audited : db'.auditLogs.rows = db.auditLogs.rows ++ [entry])
    (appended : db'.outbox.rows = db.outbox.rows ++ [message])
    (aboutEntry : entry.entityType = "ticket" ∧ entry.entityId = id.uuid)
    (aboutMessage : message.aggregateType = aggregateType ∧ message.aggregateId = id.uuid)
    (sameName : entry.action.text = message.eventName) (sameInstant : entry.occurredAt = message.occurredAt)
    (others : ∀ id', id' ≠ id → db'.tickets.find? id' = db.tickets.find? id')
    (told : tell ((db.tickets.find? id).map Story.ofRow) message = (db'.tickets.find? id).map Story.ofRow) :
    Consistent db' := by
  intro id'
  obtain ⟨corresponds, story⟩ := consistent id'
  by_cases about : id' = id
  · subst about
    have audits : db'.auditOf id' = db.auditOf id' ++ [entry] := by
      simp [Db.auditOf, audited, List.filter_append, aboutEntry]
    have messages : db'.messagesOf id' = db.messagesOf id' ++ [message] := by
      simp [Db.messagesOf, appended, List.filter_append, aboutMessage]
    constructor
    · simp [audits, messages, corresponds, sameName, sameInstant]
    · rw [messages, storyOf, List.foldl_append]
      change tell (storyOf _) message = _
      rw [story, told]
  · have elsewhere : id.uuid ≠ id'.uuid := by
      intro same
      cases id
      cases id'
      exact about (congrArg TicketId.mk same.symm)
    have audits : db'.auditOf id' = db.auditOf id' := by
      simp [Db.auditOf, audited, List.filter_append, aboutEntry, elsewhere]
    have messages : db'.messagesOf id' = db.messagesOf id' := by
      simp [Db.messagesOf, appended, List.filter_append, aboutMessage, elsewhere]
    rw [audits, messages, others id' about]
    exact ⟨corresponds, story⟩

/-- What save, audit and record leave in the three tables. -/
theorem Consistent.saved (consistent : Consistent db) {ticket : Ticket} {row : TicketRow}
    (stored : db.tickets.find? ticket.id = some row) (freshEntry : db.auditLogs.find? entry.id = none)
    (freshMessage : db.outbox.find? message.id = none)
    (aboutEntry : entry.entityType = "ticket" ∧ entry.entityId = ticket.id.uuid)
    (aboutMessage : message.aggregateType = aggregateType ∧ message.aggregateId = ticket.id.uuid)
    (sameName : entry.action.text = message.eventName) (sameInstant : entry.occurredAt = message.occurredAt)
    (told : tell (some (Story.ofRow row)) message = some (Story.ofRow (updateTicketRow ticket row))) :
    Consistent (db.after [.upsertTicket ticket, .insertAuditLog entry, .insertOutbox [message]]) := by
  refine consistent.record ticket.id (Table.rows_insert_of_free freshEntry)
    (Table.rows_insert_of_free freshMessage) aboutEntry aboutMessage sameName sameInstant ?_ ?_
  · intro id' other
    simp [Write.apply, Table.find?_upsert, createTicketRow, other]
  · simp [Write.apply, Table.find?_upsert, createTicketRow, stored, told]

end Recording

section Told

variable (row : TicketRow) (now : Instant)

/-- A comment only moves `updatedAt`. -/
theorem tell_commented (input : AddCommentInput) (ambient : Ambient) (id : Uuid) (requestId : Option String) :
    tell (some (Story.ofRow row)) (outboxRow id requestId (AddComment.event input ambient row)) =
      some (Story.ofRow (updateTicketRow (AddComment.changed input ambient row) row)) := by
  simp [tell, outboxRow, OutboxRecord.row, AddComment.event, commentAdded, ticketEvent, Story.ofRow,
    updateTicketRow, AddComment.changed, Ticket.touch, Ticket.addDomainEvent, toTicket]

theorem tell_assigned (input : AssignTicketInput) (ambient : Ambient) (id : Uuid)
    (requestId : Option String) :
    tell (some (Story.ofRow row)) (outboxRow id requestId (AssignTicket.event input ambient row)) =
      some (Story.ofRow (updateTicketRow (AssignTicket.changed input ambient row) row)) := by
  obtain ⟨tenantId, actorId, ticketId, assigneeId⟩ := input
  cases assigneeId <;>
    simp [tell, outboxRow, OutboxRecord.row, AssignTicket.event, ticketAssigned, ticketUnassigned,
      ticketEvent, Story.ofRow, Story.assigneeIn, Payload.field?, Payload.optional, userIdValue,
      updateTicketRow, AssignTicket.changed, Ticket.touch, Ticket.addDomainEvent, toTicket, Nullable.ofColumn,
      Nullable.toColumn]

/-- An automatic assignment may find no agent at the computed position; then the message names nobody, and
    the column stays empty. -/
theorem tell_autoAssigned (input : AutoAssignTicketInput) (ambient : Ambient) (db : Db) (id : Uuid)
    (requestId : Option String) (unassigned : row.assigneeId = none) :
    tell (some (Story.ofRow row)) (outboxRow id requestId (AutoAssignTicket.event input ambient db row)) =
      some (Story.ofRow (updateTicketRow (AutoAssignTicket.changed input ambient db row) row)) := by
  cases elegido : AutoAssignTicket.elegido input db <;>
    simp [tell, outboxRow, OutboxRecord.row, AutoAssignTicket.event, ticketAssigned, ticketEvent, elegido,
      Story.ofRow, Story.assigneeIn, Payload.field?, Payload.optional, userIdValue, updateTicketRow,
      AutoAssignTicket.changed, Ticket.touch, Ticket.addDomainEvent, toTicket, Nullable.toColumn, unassigned,
      List.lookup_cons]

theorem statusIn_statusChanged (id : TicketId) (t : TenantId) (source target : TicketStatus)
    (assigneeId : Nullable UserId) :
    Story.statusIn (ticketStatusChanged id t now source target assigneeId).payload "to" = some target := by
  simp [Story.statusIn, ticketStatusChanged, ticketEvent, Payload.field?, List.lookup_cons]

theorem tell_statusChanged (input : ChangeTicketStatusInput) (ambient : Ambient) (id : Uuid)
    (requestId : Option String) :
    tell (some (Story.ofRow row)) (outboxRow id requestId (ChangeTicketStatus.event input ambient row)) =
      some (Story.ofRow (updateTicketRow (ChangeTicketStatus.changed input ambient row) row)) := by
  have told (s : Story) (m : OutboxRow) (named : m.eventName = "ticket.status_changed") :
      tell (some s) m = (Story.statusIn m.payload "to").map fun next => s.moved next m.occurredAt := by
    simp [tell, named]
  have named : Story.statusIn (outboxRow id requestId (ChangeTicketStatus.event input ambient row)).payload
      "to" = some input.status := 
    statusIn_statusChanged ambient.now row.id row.tenantId row.status input.status (.ofColumn row.assigneeId)
  rw [told _ _ rfl, named]
  obtain ⟨tenantId, actorId, ticketId, status⟩ := input
  cases status <;>
    simp [outboxRow, OutboxRecord.row, ChangeTicketStatus.event, ticketStatusChanged, ticketEvent,
      Story.ofRow, Story.moved, updateTicketRow, ChangeTicketStatus.changed,
      Ticket.applyLifecycleTimestamps, Ticket.touch, Ticket.addDomainEvent, toTicket]

/-- A breach changes nothing. -/
theorem tell_breached (ambient : Ambient) (timer : SlaTimer) (id : Uuid) (requestId : Option String)
    (story : Option Story) :
    tell story (outboxRow id requestId (MarkSlaBreached.event ambient timer row)) = story := by
  simp [tell, outboxRow, OutboxRecord.row, MarkSlaBreached.event, slaBreached, ticketEvent]

/-- The first message of a ticket. -/
theorem tell_created {input : CreateTicketInput} {ambient : Ambient} {db : Db} {ticket : Ticket} (id : Uuid)
    (requestId : Option String) (opens : CreateTicket.opening input ambient db = .ok ticket) :
    tell none (outboxRow id requestId (ticketCreated ⟨ambient.uuid 0⟩ input.tenantId ambient.now
      (CreateTicket.number input db) (trim input.subject) input.priority .OPEN input.actorId)) =
      some (Story.ofRow (createTicketRow ticket)) := by
  rw [Ticket.opened_eq opens]
  simp [tell, outboxRow, OutboxRecord.row, ticketCreated, ticketEvent, Story.statusIn, Payload.field?,
    List.lookup_cons, Story.ofRow, createTicketRow, Nullable.toColumn]

end Told

section Steps

variable {db : Db} {ambient : Ambient} (requestId : Option String)

theorem Consistent.created (consistent : Consistent db) (input : CreateTicketInput)
    (fresh : ambient.freshIn db = true) :
    Consistent (db.after (CreateTicket.committed input ambient requestId db)) := by
  obtain ⟨unused₀, unused₁, unused₂⟩ := Ambient.unused_of_freshIn fresh
  cases opens : CreateTicket.opening input ambient db with
  | error e =>
      simp only [CreateTicket.committed, opens]
      exact consistent
  | ok ticket =>
      simp only [CreateTicket.committed, opens]
      obtain ⟨sameId, _⟩ := CreateTicket.opened_of_opening opens
      have free : db.tickets.find? ticket.id = none := sameId ▸ unused₀.ticket
      split
      · exact consistent
      · refine consistent.record ticket.id (Table.rows_insert_of_free unused₁.auditLog)
          (Table.rows_insert_of_free unused₂.outbox) ⟨rfl, ?_⟩ ⟨rfl, ?_⟩ rfl rfl ?_ ?_
        · rw [sameId]
          rfl
        · rw [sameId]
          rfl
        · intro id' other
          simp [Write.apply, Table.find?_upsert, createTicketRow, other]
        · rw [free, Option.map_none, tell_created _ _ opens]
          simp [Write.apply, Table.find?_upsert, createTicketRow, free]

theorem Consistent.assigned (consistent : Consistent db) (input : AssignTicketInput)
    (fresh : ambient.freshIn db = true) :
    Consistent (db.after (AssignTicket.committed input ambient requestId db)) := by
  obtain ⟨unused₀, unused₁, _⟩ := Ambient.unused_of_freshIn fresh
  unfold AssignTicket.committed
  cases accepted : AssignTicket.assignable input db with
  | none => exact consistent
  | some row =>
      have stored := Db.stored_of_ticketOf (Option.filter_eq_some_iff.mp accepted).1
      refine consistent.saved stored unused₀.auditLog
        unused₁.outbox ⟨rfl, rfl⟩ ?_ ?_ ?_ (tell_assigned row input ambient _ requestId)
      · cases requested : input.assigneeId <;> simp [AssignTicket.event, requested] <;> exact ⟨rfl, rfl⟩
      · cases requested : input.assigneeId <;>
          simp [AssignTicket.event, AssignTicket.action, requested] <;> rfl
      · cases requested : input.assigneeId <;> simp [AssignTicket.event, requested] <;> rfl

theorem Consistent.autoAssigned (consistent : Consistent db) (input : AutoAssignTicketInput)
    (fresh : ambient.freshIn db = true) :
    Consistent (db.after (AutoAssignTicket.committed input ambient requestId db)) := by
  obtain ⟨unused₀, unused₁, _⟩ := Ambient.unused_of_freshIn fresh
  unfold AutoAssignTicket.committed
  split
  · exact consistent
  · have marked : Consistent (db.after [.insertProcessed
        { consumer := AUTO_ASSIGN_CONSUMER, eventId := input.eventId, tenantId := input.tenantId }]) :=
      consistent.of_same _ rfl rfl rfl
    cases accepted : AutoAssignTicket.assignable input db with
    | none => exact marked
    | some row =>
        obtain ⟨located, assignable⟩ := Option.filter_eq_some_iff.mp accepted
        have stored := Db.stored_of_ticketOf located
        have unassigned : row.assigneeId = none := (of_decide_eq_true assignable).1
        exact marked.saved stored unused₀.auditLog unused₁.outbox
          ⟨rfl, rfl⟩ ⟨rfl, rfl⟩ rfl rfl (tell_autoAssigned row input ambient db _ requestId unassigned)

theorem Consistent.statusChanged (consistent : Consistent db) (input : ChangeTicketStatusInput)
    (fresh : ambient.freshIn db = true) :
    Consistent (db.after (ChangeTicketStatus.committed input ambient requestId db)) := by
  obtain ⟨unused₀, unused₁, _⟩ := Ambient.unused_of_freshIn fresh
  unfold ChangeTicketStatus.committed
  cases accepted : ChangeTicketStatus.transitioning input db with
  | none => exact consistent
  | some row =>
      have stored := Db.stored_of_ticketOf (Option.filter_eq_some_iff.mp accepted).1
      have sameId : (ChangeTicketStatus.changed input ambient row).id = row.id :=
        ChangeTicketStatus.changed_id input row
      refine consistent.saved ?_ unused₀.auditLog unused₁.outbox ⟨rfl, ?_⟩ ⟨rfl, ?_⟩ rfl rfl
        (tell_statusChanged row input ambient _ requestId)
      · rw [sameId]
        exact stored
      · rw [sameId]
        rfl
      · rw [sameId]
        rfl

theorem Consistent.commented (consistent : Consistent db) (input : AddCommentInput)
    (fresh : ambient.freshIn db = true) :
    Consistent (db.after (AddComment.committed input ambient requestId db)) := by
  obtain ⟨_, unused₁, unused₂⟩ := Ambient.unused_of_freshIn fresh
  unfold AddComment.committed
  cases accepted : AddComment.commentable input db with
  | none => exact consistent
  | some row =>
      have stored := Db.stored_of_ticketOf (Option.filter_eq_some_iff.mp accepted).1
      have commented : Consistent (db.after [.insertComment (AddComment.comment input ambient)]) :=
        consistent.of_same _ rfl rfl rfl
      exact commented.saved stored unused₁.auditLog unused₂.outbox
        ⟨rfl, rfl⟩ ⟨rfl, rfl⟩ rfl rfl (tell_commented row input ambient _ requestId)

theorem Consistent.breached (consistent : Consistent db) (input : MarkSlaBreachedInput)
    (fresh : ambient.freshIn db = true) :
    Consistent (db.after (MarkSlaBreached.committed input ambient requestId db)) := by
  obtain ⟨unused₀, unused₁, _⟩ := Ambient.unused_of_freshIn fresh
  unfold MarkSlaBreached.committed
  split
  · exact consistent
  · rename_i timer row _
    exact consistent.record row.id (Table.rows_insert_of_free unused₀.auditLog)
      (Table.rows_insert_of_free unused₁.outbox) ⟨rfl, rfl⟩ ⟨rfl, rfl⟩ rfl rfl (fun _ _ => rfl)
      (tell_breached row ambient timer _ requestId _)

/-- An audit entry about something other than a ticket is no part of any story. -/
theorem Consistent.of_otherEntry (consistent : Consistent db) {entry : AuditLog}
    (fresh : db.auditLogs.find? entry.id = none) (other : entry.entityType ≠ "ticket") :
    Consistent (db.after [.insertAuditLog entry]) := by
  intro id
  have audits : (db.after [.insertAuditLog entry]).auditOf id = db.auditOf id := by
    simp [Db.auditOf, Write.apply, Table.rows_insert_of_free fresh, List.filter_append, other]
  rw [audits]
  exact consistent id

theorem Consistent.policyUpdated (consistent : Consistent db) (input : UpdateSlaPolicyInput)
    (fresh : ambient.freshIn db = true) :
    Consistent (db.after (UpdateSlaPolicy.committed input ambient db)) := by
  obtain ⟨unused₀, _⟩ := Ambient.unused_of_freshIn fresh
  unfold UpdateSlaPolicy.committed
  split
  · exact consistent
  · exact (consistent.of_same (db.after [.upsertPolicy _]) rfl rfl rfl).of_otherEntry
      unused₀.auditLog (by simp [policyEntry])

theorem Consistent.policyReset (consistent : Consistent db) (input : ResetSlaPolicyInput)
    (fresh : ambient.freshIn db = true) :
    Consistent (db.after (ResetSlaPolicy.committed input ambient db)) := by
  obtain ⟨unused₀, _⟩ := Ambient.unused_of_freshIn fresh
  unfold ResetSlaPolicy.committed
  split
  · exact consistent
  · exact (consistent.of_same (db.after [.deletePolicy _ _]) rfl rfl rfl).of_otherEntry
      unused₀.auditLog (by simp [policyEntry])

/-- Timers and marks are no part of any story. -/
theorem Consistent.started (consistent : Consistent db) (input : StartSlaTimersInput) :
    Consistent (db.after (StartSlaTimers.committed input ambient db)) := by
  unfold StartSlaTimers.committed
  split
  · exact consistent
  · split
    · exact consistent
    · exact consistent.of_same _ rfl rfl rfl

theorem Consistent.stopped (consistent : Consistent db) (input : StopSlaTimerInput) :
    Consistent (db.after (StopSlaTimer.committed input db)) := by
  unfold StopSlaTimer.committed
  split
  · exact consistent
  · split <;> exact consistent.of_same _ rfl rfl rfl

theorem Consistent.step {db' : Db} {e : Execution} (consistent : Consistent db)
    (served : serially db e = some db') : Consistent db' := by
  obtain ⟨fresh, rfl⟩ := serially_eq_some_iff.mp served
  unfold Execution.committed
  split
  · exact consistent.created _ _ fresh
  · exact consistent.assigned _ _ fresh
  · exact consistent.autoAssigned _ _ fresh
  · exact consistent.statusChanged _ _ fresh
  · exact consistent.commented _ _ fresh
  · exact consistent.started _
  · exact consistent.stopped _
  · exact consistent.breached _ _ fresh
  · exact consistent.policyUpdated _ fresh
  · exact consistent.policyReset _ fresh
  all_goals exact consistent

end Steps

theorem consistent_beforeTickets (base : Db) : Consistent base.beforeTickets := by
  intro id
  exact ⟨rfl, rfl⟩

/-- In every state of every serial run, for every ticket, audit entries and messages correspond one to
    one and the messages tell the stored state. -/
theorem ticketStory_agrees (base : Db) {history : List (Db × Execution)} {db : Db}
    (run : Run serially base.beforeTickets history db) : Always Consistent history db :=
  run.always_invariant (consistent_beforeTickets base) fun _ _ _ consistent served => consistent.step served

section Example

/-- A ticket is opened, answered, resolved twice, closed, and commented on in vain. -/
def exampleLife : List Execution :=
  [exampleExecution 0 (.createTicket ⟨⟨1⟩, ⟨2⟩, " Hola ", "No entra", .HIGH⟩),
    exampleExecution 1 (.addComment ⟨⟨1⟩, ⟨3⟩, "AGENT", ⟨100⟩, "Lo miramos"⟩),
    exampleExecution 2 (.changeTicketStatus ⟨⟨1⟩, ⟨3⟩, ⟨100⟩, .RESOLVED⟩),
    exampleExecution 3 (.changeTicketStatus ⟨⟨1⟩, ⟨3⟩, ⟨100⟩, .RESOLVED⟩),
    exampleExecution 4 (.changeTicketStatus ⟨⟨1⟩, ⟨3⟩, ⟨100⟩, .CLOSED⟩),
    exampleExecution 5 (.addComment ⟨⟨1⟩, ⟨2⟩, "VIEWER", ⟨100⟩, "Gracias"⟩)]

theorem ticketStory_agrees_exampleLife :
    ∃ db, play serially Db.empty.beforeTickets exampleLife = some db ∧ db.outbox.rows.length = 4 ∧
      Consistent db := by
  have possible : ((play serially Db.empty.beforeTickets exampleLife).map
      fun db => db.outbox.rows.length) = some 4 := by decide
  obtain ⟨db, played, messages⟩ := Option.map_eq_some_iff.mp possible
  exact ⟨db, played, messages, (ticketStory_agrees Db.empty (play_run played)).2⟩

end Example

end Helpdesk
