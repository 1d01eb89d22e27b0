/-
Module: HelpdeskApi.Queue.RequestFacts
Layer: Queue
Purpose: What a request leaves behind, as far as the workers rely on it. Every message it adds describes a
  ticket that is stored, and the message about a new ticket is one that starts timers. The row of a closed
  ticket is never written again, and a ticket that becomes closed says when.
Trusted boundary: none
Main exports: OutboxRow.Describes, RowServed, Execution.described_of_request, Execution.rowServed_of_request
-/
import HelpdeskApi.Application.Listing
import HelpdeskApi.Application.SerialRuns
import HelpdeskApi.Queue.Processors

namespace Helpdesk

open Relational

/-- What a message of a request says of its ticket. -/
structure OutboxRow.Describes (m : OutboxRow) (t : TicketRow) : Prop where
  aggregateId : m.aggregateId = t.id.uuid
  tenantId : m.tenantId = t.tenantId
  noBreach : m.eventName ≠ "sla.breached"
  occurredAt : m.eventName = "ticket.created" → m.occurredAt = t.createdAt
  starts : m.eventName = "ticket.created" → ∃ input, SlaProcessor.despachar m.job = .run (.startSlaTimers input)

/-- What a request can do to the row of a ticket. -/
inductive RowServed (now : Instant) : Option TicketRow → Option TicketRow → Prop where
  | same (row : Option TicketRow) : RowServed now row row
  | opened {ticket : Ticket} (isOpen : ticket.status = .OPEN) : RowServed now none (some (createTicketRow ticket))
  | changed {row : TicketRow} {ticket : Ticket} (notClosed : row.status ≠ .CLOSED)
      (closedAt : ticket.status = .CLOSED → ticket.closedAt = some now) :
      RowServed now (some row) (some (updateTicketRow ticket row))

/-- The row of a closed ticket stays what it is. -/
theorem RowServed.eq_of_closed {now : Instant} {old new : Option TicketRow} (served : RowServed now old new)
    {row : TicketRow} (found : old = some row) (closed : row.status = .CLOSED) : new = some row := by
  cases served with
  | same => exact found
  | opened => cases found
  | changed notClosed => exact absurd closed (Option.some.inj found ▸ notClosed)

section Rows

variable {db : Db}

/-- The rows after a stored ticket was saved. -/
theorem find?_upsertTicket {ticket : Ticket} {row : TicketRow} (stored : db.tickets.find? row.id = some row)
    (sameId : ticket.id = row.id) (id : TicketId) :
    ((Write.upsertTicket ticket).apply db).tickets.find? id =
      if id = row.id then some (updateTicketRow ticket row) else db.tickets.find? id := by
  change (db.tickets.upsert _ _ _).find? id = _
  rw [Table.find?_upsert, key_ticketRow]
  change (if id = ticket.id then _ else _) = _
  rw [sameId]
  by_cases isTicket : id = row.id
  · rw [if_pos isTicket, if_pos isTicket, isTicket, stored]
    rfl
  · rw [if_neg isTicket, if_neg isTicket]

/-- The rows after a new ticket was saved. -/
theorem find?_upsertTicket_new {ticket : Ticket} (free : db.tickets.find? ticket.id = none) (id : TicketId) :
    ((Write.upsertTicket ticket).apply db).tickets.find? id =
      if id = ticket.id then some (createTicketRow ticket) else db.tickets.find? id := by
  change (db.tickets.upsert _ _ _).find? id = _
  rw [Table.find?_upsert, key_ticketRow]
  change (if id = ticket.id then _ else _) = _
  by_cases isTicket : id = ticket.id
  · rw [if_pos isTicket, if_pos isTicket, isTicket, free]
    rfl
  · rw [if_neg isTicket, if_neg isTicket]

end Rows

theorem keepsPlaces_after (writes : List Write) (db : Db) : KeepsPlaces db (db.after writes) := by
  induction writes generalizing db with
  | nil => exact .refl db
  | cons w writes ih => exact (keepsPlaces_apply w db).trans (ih _)

namespace CreateTicket

variable {input : CreateTicketInput} {ambient : Ambient} {db : Db} {ticket : Ticket}

/-- A ticket is open and was created now. -/
theorem row_of_opening (opens : opening input ambient db = .ok ticket) :
    ticket.id = ⟨ambient.uuid 0⟩ ∧ ticket.tenantId = input.tenantId ∧ ticket.status = .OPEN ∧
      ticket.createdAt = ambient.now := by
  rw [Ticket.opened_eq opens]
  exact ⟨rfl, rfl, rfl, rfl⟩

theorem free_of_opening (opens : opening input ambient db = .ok ticket) (fresh : ambient.freshIn db = true) :
    db.tickets.find? ticket.id = none := by
  rw [(row_of_opening opens).1]
  exact (Ambient.unused_of_freshIn fresh).1.ticket

end CreateTicket

namespace Execution

variable {e : Execution} {db : Db}

/-- One message more, about a ticket that was stored before. -/
theorem described_of_insert {writes : List Write} {message : OutboxRow} {row : TicketRow}
    (stored : db.tickets.find? row.id = some row)
    (appended : (db.after writes).outbox = db.outbox.insert message)
    (aggregateId : message.aggregateId = row.id.uuid) (tenantId : message.tenantId = row.tenantId)
    (noBreach : message.eventName ≠ "sla.breached") (notCreated : message.eventName ≠ "ticket.created") :
    ∀ m ∈ (db.after writes).outbox.rows, m ∈ db.outbox.rows ∨
      ∃ t, (db.after writes).tickets.find? t.id = some t ∧ m.Describes t := by
  intro m inside
  rcases Table.mem_of_mem_insert (appended ▸ inside) with old | rfl
  · exact .inl old
  · obtain ⟨t, found, _, sameTenant⟩ := keepsPlaces_after writes db row.id row stored
    have sameId : t.id = row.id := Table.key_of_find? found
    exact .inr ⟨t, sameId ▸ found, sameId ▸ aggregateId, tenantId.trans sameTenant.symm, noBreach,
      fun isCreated => absurd isCreated notCreated, fun isCreated => absurd isCreated notCreated⟩

/-- The message about a new ticket describes it. -/
theorem described_of_opening {input : CreateTicketInput} {ticket : Ticket} {number : Int} {subject : String}
    {writes : List Write} (opens : CreateTicket.opening input e.ambient db = .ok ticket)
    (fresh : e.ambient.freshIn db = true)
    (saved : (db.after writes).tickets = ((Write.upsertTicket ticket).apply db).tickets)
    (appended : (db.after writes).outbox = db.outbox.insert (outboxRow (e.ambient.uuid 2) e.requestId
      (ticketCreated ⟨e.ambient.uuid 0⟩ input.tenantId e.ambient.now number subject input.priority .OPEN
        input.actorId))) :
    ∀ m ∈ (db.after writes).outbox.rows, m ∈ db.outbox.rows ∨
      ∃ t, (db.after writes).tickets.find? t.id = some t ∧ m.Describes t := by
  intro m inside
  rcases Table.mem_of_mem_insert (appended ▸ inside) with old | rfl
  · exact .inl old
  · obtain ⟨isFresh, ofTenant, _, isNow⟩ := CreateTicket.row_of_opening opens
    have inserted := find?_upsertTicket_new (CreateTicket.free_of_opening opens fresh) ticket.id
    rw [if_pos rfl, ← saved] at inserted
    refine .inr ⟨createTicketRow ticket, inserted, ?_, ?_, ?_, ?_, ?_⟩
    · exact congrArg TicketId.uuid isFresh.symm
    · exact ofTenant.symm
    · simp [outboxRow, OutboxRecord.row, ticketCreated, ticketEvent]
    · exact fun _ => isNow.symm
    · intro _
      cases priority : input.priority <;> exact ⟨_, rfl⟩

/-- Every message of a request describes a ticket. -/
theorem described_of_request (isRequest : e.useCase.isRequest = true) (fresh : e.ambient.freshIn db = true) :
    ∀ m ∈ (db.after (e.committed db)).outbox.rows, m ∈ db.outbox.rows ∨
      ∃ t, (db.after (e.committed db)).tickets.find? t.id = some t ∧ m.Describes t := by
  have commits := e.commits db
  generalize e.committed db = writes at commits ⊢
  cases commits with
  | autoAssigned asked | breached asked => simp [asked, UseCase.isRequest] at isRequest
  | created asked opens => exact described_of_opening opens fresh rfl rfl
  | @assigned input row _ accepted =>
      have stored := Db.stored_of_ticketOf (Option.filter_eq_some_iff.mp accepted).1
      cases requested : input.assigneeId <;>
        exact described_of_insert stored rfl (by simp [AssignTicket.event, requested]; rfl)
          (by simp [AssignTicket.event, requested]; rfl)
          (by simp [AssignTicket.event, requested, outboxRow, OutboxRecord.row, ticketAssigned, ticketUnassigned,
            ticketEvent])
          (by simp [AssignTicket.event, requested, outboxRow, OutboxRecord.row, ticketAssigned, ticketUnassigned,
            ticketEvent])
  | moved asked accepted =>
      have stored := Db.stored_of_ticketOf (Option.filter_eq_some_iff.mp accepted).1
      apply described_of_insert stored rfl rfl rfl <;>
        simp [ChangeTicketStatus.event, outboxRow, OutboxRecord.row, ticketStatusChanged, ticketEvent]
  | commented asked accepted =>
      have stored := Db.stored_of_ticketOf (Option.filter_eq_some_iff.mp accepted).1
      apply described_of_insert stored rfl rfl rfl <;>
        simp [AddComment.event, outboxRow, OutboxRecord.row, commentAdded, ticketEvent]
  | _ => exact fun m inside => .inl inside

/-- The row of a stored ticket after it was saved. -/
theorem rowServed_of_save {now : Instant} {ticket : Ticket} {row : TicketRow} {db' : Db}
    (stored : db.tickets.find? row.id = some row) (sameId : ticket.id = row.id)
    (saved : db'.tickets = ((Write.upsertTicket ticket).apply db).tickets) (notClosed : row.status ≠ .CLOSED)
    (closedAt : ticket.status = .CLOSED → ticket.closedAt = some now) (id : TicketId) :
    RowServed now (db.tickets.find? id) (db'.tickets.find? id) := by
  rw [saved, find?_upsertTicket stored sameId]
  by_cases isTicket : id = row.id
  · rw [if_pos isTicket, isTicket, stored]
    exact .changed notClosed closedAt
  · rw [if_neg isTicket]
    exact .same _

/-- What a request does to the row of a ticket. -/
theorem rowServed_of_request (isRequest : e.useCase.isRequest = true) (fresh : e.ambient.freshIn db = true)
    (id : TicketId) :
    RowServed e.ambient.now (db.tickets.find? id) ((db.after (e.committed db)).tickets.find? id) := by
  have commits := e.commits db
  generalize e.committed db = writes at commits ⊢
  cases commits with
  | autoAssigned asked => simp [asked, UseCase.isRequest] at isRequest
  | @created input ticket _ opens =>
      change RowServed _ _ (((Write.upsertTicket ticket).apply db).tickets.find? id)
      have free := CreateTicket.free_of_opening opens fresh
      rw [find?_upsertTicket_new free]
      by_cases isTicket : id = ticket.id
      · rw [if_pos isTicket, isTicket, free]
        exact .opened (CreateTicket.row_of_opening opens).2.2.1
      · rw [if_neg isTicket]
        exact .same _
  | @assigned _ row _ accepted =>
      obtain ⟨found, accepts⟩ := Option.filter_eq_some_iff.mp accepted
      have notClosed : row.status ≠ .CLOSED := (of_decide_eq_true accepts).1
      exact rowServed_of_save (Db.stored_of_ticketOf found) rfl rfl notClosed (fun closed => absurd closed notClosed) id
  | @commented _ row _ accepted =>
      obtain ⟨found, accepts⟩ := Option.filter_eq_some_iff.mp accepted
      have notClosed : row.status ≠ .CLOSED := (of_decide_eq_true accepts).1
      exact rowServed_of_save (Db.stored_of_ticketOf found) rfl rfl notClosed (fun closed => absurd closed notClosed) id
  | @moved input row _ accepted =>
      obtain ⟨found, legal⟩ := Option.filter_eq_some_iff.mp accepted
      refine rowServed_of_save (Db.stored_of_ticketOf found) (ChangeTicketStatus.changed_id input row) rfl ?_ ?_ id
      · intro closed
        rw [closed] at legal
        cases legal
      · intro closed
        have requested : input.status = .CLOSED := by
          simpa [ChangeTicketStatus.changed] using closed
        simp [ChangeTicketStatus.changed, requested, Ticket.applyLifecycleTimestamps, Ticket.touch,
          Ticket.addDomainEvent]
  | _ => exact .same _

/-- Requests claim nothing. -/
theorem processed_of_request (isRequest : e.useCase.isRequest = true) (db : Db) :
    (db.after (e.committed db)).processed = db.processed := by
  have commits := e.commits db
  generalize e.committed db = writes at commits ⊢
  cases commits with
  | autoMarked asked | autoAssigned asked | started asked | stopMarked asked | stopped asked =>
      simp [asked, UseCase.isRequest] at isRequest
  | _ => rfl

end Execution

end Helpdesk
