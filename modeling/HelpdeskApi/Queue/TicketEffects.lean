/-
Module: HelpdeskApi.Queue.TicketEffects
Layer: Queue
Purpose: What an execution does to the tickets, the counters and the messages about new tickets. Creating a
  ticket adds one to each; whatever else is done saves tickets that are there, and announces none.
Trusted boundary: none
Main exports: Execution.Effect, Execution.effect_committed
-/
import HelpdeskApi.Application.NumberTraces
import HelpdeskApi.Queue.RequestFacts

namespace Helpdesk

open Relational

namespace Execution

/-- What an execution does to tickets and numbers: it creates a ticket, or it creates none. -/
inductive Effect (e : Execution) (db : Db) : Db → Prop where
  | creates {input : CreateTicketInput} {ticket : Ticket} {db' : Db}
      (opens : CreateTicket.opening input e.ambient db = .ok ticket)
      (unnumbered : ∀ row ∈ db.tickets.rows, row.tenantId = input.tenantId → row.number ≠ CreateTicket.number input db)
      (tickets : db'.tickets.rows = db.tickets.rows ++ [createTicketRow ticket])
      (counters : db'.counters = bumpCounter db.counters input.tenantId)
      (outbox : db'.outbox = db.outbox.insert (outboxRow (e.ambient.uuid 2) e.requestId
        (ticketCreated ⟨e.ambient.uuid 0⟩ input.tenantId e.ambient.now (CreateTicket.number input db)
          (trim input.subject) input.priority .OPEN input.actorId))) : Effect e db db'
  | other {db' : Db} (tickets : ∀ id, db.tickets.find? id = none → db'.tickets.find? id = none)
      (counters : db'.counters = db.counters)
      (messages : ∀ m ∈ db'.outbox.rows, m ∈ db.outbox.rows ∨ m.eventName ≠ "ticket.created") : Effect e db db'

variable {e : Execution} {db : Db}

/-- Nothing is done to tickets. -/
theorem Effect.idle {db' : Db} (tickets : db'.tickets = db.tickets) (counters : db'.counters = db.counters)
    (outbox : db'.outbox = db.outbox) : e.Effect db db' := by
  apply Effect.other
  · rw [tickets]
    exact fun _ absent => absent
  · exact counters
  · rw [outbox]
    exact fun _ inside => .inl inside

/-- A ticket that is there is saved, and something else is announced of it. -/
theorem Effect.saved {db' : Db} {ticket : Ticket} {row : TicketRow} {message : OutboxRow}
    (stored : db.tickets.find? row.id = some row) (sameId : ticket.id = row.id)
    (tickets : db'.tickets = ((Write.upsertTicket ticket).apply db).tickets) (counters : db'.counters = db.counters)
    (outbox : db'.outbox = db.outbox.insert message) (notCreated : message.eventName ≠ "ticket.created") :
    e.Effect db db' := by
  apply Effect.other
  · intro id absent
    rw [tickets, find?_upsertTicket stored sameId]
    by_cases isTicket : id = row.id
    · rw [isTicket, stored] at absent
      cases absent
    · rw [if_neg isTicket]
      exact absent
  · exact counters
  · intro m inside
    rcases Table.mem_of_mem_insert (outbox ▸ inside) with old | rfl
    · exact .inl old
    · exact .inr notCreated

theorem effect_opening {input : CreateTicketInput} {ticket : Ticket} {writes : List Write}
    (fresh : e.ambient.freshIn db = true) (opens : CreateTicket.opening input e.ambient db = .ok ticket)
    (unnumbered : ¬ (db.tickets.any fun r =>
      r.tenantId = input.tenantId ∧ r.number = CreateTicket.number input db) = true)
    (tickets : (db.after writes).tickets = ((Write.upsertTicket ticket).apply db).tickets)
    (counters : (db.after writes).counters = bumpCounter db.counters input.tenantId)
    (outbox : (db.after writes).outbox = db.outbox.insert (outboxRow (e.ambient.uuid 2) e.requestId
      (ticketCreated ⟨e.ambient.uuid 0⟩ input.tenantId e.ambient.now (CreateTicket.number input db)
        (trim input.subject) input.priority .OPEN input.actorId))) : e.Effect db (db.after writes) := by
  apply Effect.creates opens
  · intro row stored ofTenant numbered
    apply unnumbered
    rw [Table.any, List.any_eq_true]
    exact ⟨row, stored, by simp [ofTenant, numbered]⟩
  · have free : db.tickets.find? (Keyed.key (createTicketRow ticket)) = none :=
      CreateTicket.free_of_opening opens fresh
    rw [tickets]
    change (db.tickets.upsert (createTicketRow ticket) (updateTicketRow ticket) _).rows = _
    exact Table.rows_upsert_of_free free
  · exact counters
  · exact outbox

/-- What an execution does to tickets. -/
theorem effect_committed (fresh : e.ambient.freshIn db = true) : e.Effect db (db.after (e.committed db)) := by
  have commits := e.commits db
  generalize e.committed db = writes at commits ⊢
  cases commits with
  | created asked opens unnumbered => exact effect_opening fresh opens unnumbered rfl rfl rfl
  | @assigned input row _ accepted =>
      have stored := Db.stored_of_ticketOf (Option.filter_eq_some_iff.mp accepted).1
      refine .saved stored rfl rfl rfl rfl ?_
      cases requested : input.assigneeId <;>
        simp [AssignTicket.event, requested, outboxRow, OutboxRecord.row, ticketAssigned, ticketUnassigned,
          ticketEvent]
  | autoAssigned asked accepted =>
      have stored := Db.stored_of_ticketOf (Option.filter_eq_some_iff.mp accepted).1
      refine .saved stored rfl rfl rfl rfl ?_
      simp [AutoAssignTicket.event, outboxRow, OutboxRecord.row, ticketAssigned, ticketEvent]
  | @moved input row _ accepted =>
      have stored := Db.stored_of_ticketOf (Option.filter_eq_some_iff.mp accepted).1
      refine .saved stored (ChangeTicketStatus.changed_id input row) rfl rfl rfl ?_
      simp [ChangeTicketStatus.event, outboxRow, OutboxRecord.row, ticketStatusChanged, ticketEvent]
  | commented asked accepted =>
      have stored := Db.stored_of_ticketOf (Option.filter_eq_some_iff.mp accepted).1
      refine .saved stored rfl rfl rfl rfl ?_
      simp [AddComment.event, outboxRow, OutboxRecord.row, commentAdded, ticketEvent]
  | breached =>
      apply Effect.other
      · exact fun _ absent => absent
      · rfl
      · intro m inside
        rcases Table.mem_of_mem_insert (r := m) inside with old | rfl
        · exact .inl old
        · apply Or.inr
          simp [MarkSlaBreached.event, outboxRow, OutboxRecord.row, slaBreached, ticketEvent]
  | nothing | autoMarked | started | stopMarked | stopped | policyUpdated | policyReset => exact .idle rfl rfl rfl

end Execution

end Helpdesk
