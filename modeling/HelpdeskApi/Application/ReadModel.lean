/-
Module: HelpdeskApi.Application.ReadModel
Layer: Application
Purpose: The queries of `TicketReadModel`: a page of tickets, one ticket with its comments and timers, and
  the audit history of a ticket.
Trusted boundary: human-reviewed spec
Main exports: TicketReadModel.list, TicketReadModel.detail, TicketReadModel.history
-/
import HelpdeskApi.Application.Ports

namespace Helpdesk

open Txn

structure TicketSummary where
  id : TicketId
  number : Int
  subject : String
  status : TicketStatus
  priority : TicketPriority
  requesterId : UserId
  assigneeId : Option UserId
  createdAt : Instant
  updatedAt : Instant
deriving DecidableEq, Repr

/-- The columns `list` selects. -/
def TicketRow.summary (r : TicketRow) : TicketSummary where
  id := r.id
  number := r.number
  subject := r.subject
  status := r.status
  priority := r.priority
  requesterId := r.requesterId
  assigneeId := r.assigneeId
  createdAt := r.createdAt
  updatedAt := r.updatedAt

structure TicketPage where
  items : List TicketSummary
  nextCursor : Option TicketId
deriving DecidableEq, Repr

structure CommentView where
  id : CommentId
  authorId : UserId
  body : String
  createdAt : Instant
deriving DecidableEq, Repr

structure TicketDetail extends TicketRow where
  comments : List CommentView
  sla : List SlaTimerView
deriving DecidableEq, Repr

structure AuditEntryView where
  id : AuditLogId
  actorId : UserId
  action : AuditAction
  metadata : AuditMetadata
  occurredAt : Instant
deriving DecidableEq, Repr

def TICKETS_PAGE_SIZE_MAX : Int := 100

structure ListTicketsInput where
  tenantId : TenantId
  status : Option TicketStatus
  assigneeId : Option UserId
  requesterId : Option UserId
  limit : Int
  cursor : Option TicketId
deriving DecidableEq, Repr

namespace TicketReadModel

/-- The page size a requested limit stands for. -/
def pageSize (limit : Int) : Nat :=
  (min (max limit 1) TICKETS_PAGE_SIZE_MAX).toNat

def list (input : ListTicketsInput) : Proc sig TicketPage := do
  let take := pageSize input.limit
  let rows ← Proc.ask (S := sig) <|
    .ticketsFindMany input.tenantId input.status input.assigneeId input.requesterId input.cursor take
  return {
    items := rows.map TicketRow.summary
    nextCursor := if rows.length = take then rows.getLast?.map TicketRow.id else none }

def detail (tenantId : TenantId) (ticketId : TicketId) (now : Instant) :
    Proc sig (Option TicketDetail) := do
  let found ← Proc.ask (S := sig) <| .ticketsFindWithRelations tenantId ticketId
  return found.map fun (row, comments, slaTimers) =>
    { row with
      comments := comments.map fun c =>
        { id := c.id, authorId := c.authorId, body := c.body, createdAt := c.createdAt }
      sla := slaTimers.map fun t => describeSlaTimer t.kind t.dueAt t.stoppedAt t.breachedAt now }

def history (tenantId : TenantId) (ticketId : TicketId) : Proc sig (List AuditEntryView) := do
  let rows ← Proc.ask (S := sig) <| .auditLogsFindMany tenantId "ticket" ticketId.uuid
  return rows.map fun r =>
    { id := r.id
      actorId := r.actorId
      action := r.action
      metadata := r.metadata
      occurredAt := r.occurredAt }

end TicketReadModel

end Helpdesk
