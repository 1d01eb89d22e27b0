/-
Module: HelpdeskApi.Store.Schema
Layer: Store
Purpose: The tables of the database with their primary keys, and the part of them row level security shows
  to a tenant.
Trusted boundary: human-reviewed spec
Main exports: Role, MembershipRow, TicketRow, CounterRow, OutboxRow, ProcessedRow, SlaPolicyRow,
  Db, Db.visible, toTicket
-/
import HelpdeskApi.Domain.Ticket
import HelpdeskApi.Domain.AuditLog
import HelpdeskApi.Library.Table

namespace Helpdesk

open Relational

inductive Role where
  | ADMIN
  | AGENT
  | VIEWER
deriving DecidableEq, Repr

/-- `ROLE_RANK`. -/
def ROLE_RANK : Role → Nat
  | .VIEWER => 0
  | .AGENT => 1
  | .ADMIN => 2

/-- Whether a role has at least the rank of another. -/
def hasAtLeastRole (actual required : Role) : Bool :=
  ROLE_RANK required ≤ ROLE_RANK actual

theorem hasAtLeastRole_agent_iff (role : Role) : hasAtLeastRole role .AGENT = true ↔ role = .AGENT ∨ role = .ADMIN := by
  cases role <;> simp [hasAtLeastRole, ROLE_RANK]

structure MembershipRow where
  tenantId : TenantId
  userId : UserId
  role : Role
deriving DecidableEq, Repr

structure TicketRow where
  id : TicketId
  tenantId : TenantId
  number : Int
  subject : String
  description : String
  status : TicketStatus
  priority : TicketPriority
  requesterId : UserId
  assigneeId : Option UserId
  createdAt : Instant
  updatedAt : Instant
  resolvedAt : Option Instant
  closedAt : Option Instant
deriving DecidableEq, Repr

structure CounterRow where
  tenantId : TenantId
  nextNumber : Int
deriving DecidableEq, Repr

structure OutboxRow where
  id : Uuid
  tenantId : TenantId
  aggregateType : String
  aggregateId : Uuid
  eventName : String
  version : Int
  payload : Payload
  occurredAt : Instant
  publishedAt : Option Instant
  attempts : Nat
  lastError : Option String
  requestId : Option String
deriving DecidableEq, Repr

structure ProcessedRow where
  consumer : String
  eventId : Uuid
  tenantId : TenantId
deriving DecidableEq, Repr

structure SlaPolicyRow where
  tenantId : TenantId
  priority : TicketPriority
  responseMinutes : Int
  resolutionMinutes : Int
  updatedAt : Instant
deriving DecidableEq, Repr

instance : Keyed MembershipRow (TenantId × UserId) := ⟨fun r => (r.tenantId, r.userId)⟩

instance : Keyed TicketRow TicketId := ⟨TicketRow.id⟩

instance : Keyed Comment CommentId := ⟨Comment.id⟩

instance : Keyed CounterRow TenantId := ⟨CounterRow.tenantId⟩

instance : Keyed AuditLog AuditLogId := ⟨AuditLog.id⟩

instance : Keyed OutboxRow Uuid := ⟨OutboxRow.id⟩

instance : Keyed ProcessedRow (String × Uuid) := ⟨fun r => (r.consumer, r.eventId)⟩

instance : Keyed SlaPolicyRow (TenantId × TicketPriority) := ⟨fun r => (r.tenantId, r.priority)⟩

instance : Keyed SlaTimer SlaTimerId := ⟨SlaTimer.id⟩

section Keys

@[simp] theorem key_ticketRow (r : TicketRow) : Keyed.key r = r.id := rfl

@[simp] theorem key_comment (r : Comment) : Keyed.key r = r.id := rfl

@[simp] theorem key_counterRow (r : CounterRow) : Keyed.key r = r.tenantId := rfl

@[simp] theorem key_auditLog (r : AuditLog) : Keyed.key r = r.id := rfl

@[simp] theorem key_outboxRow (r : OutboxRow) : Keyed.key r = r.id := rfl

@[simp] theorem key_processedRow (r : ProcessedRow) : Keyed.key r = (r.consumer, r.eventId) := rfl

@[simp] theorem key_policyRow (r : SlaPolicyRow) : Keyed.key r = (r.tenantId, r.priority) := rfl

@[simp] theorem key_timer (r : SlaTimer) : Keyed.key r = r.id := rfl

end Keys

/-- The database, as far as the ticketing context uses it. -/
structure Db where
  memberships : Table MembershipRow
  tickets : Table TicketRow
  comments : Table Comment
  counters : Table CounterRow
  auditLogs : Table AuditLog
  outbox : Table OutboxRow
  processed : Table ProcessedRow
  policies : Table SlaPolicyRow
  timers : Table SlaTimer

namespace Db

/-- A database without rows. -/
def empty : Db where
  memberships := .empty
  tickets := .empty
  comments := .empty
  counters := .empty
  auditLogs := .empty
  outbox := .empty
  processed := .empty
  policies := .empty
  timers := .empty

/-- A database before the first ticket. Members, policies and timers may be there already. -/
def beforeTickets (base : Db) : Db :=
  { base with tickets := .empty, auditLogs := .empty, outbox := .empty }

/-- What the `tenant_isolation` policies show when `app.current_tenant` is `tenant`: the rows of that
    tenant, and none at all while it is not set. -/
def visible (tenant : Option TenantId) (db : Db) : Db where
  memberships := db.memberships.filter fun r => some r.tenantId == tenant
  tickets := db.tickets.filter fun r => some r.tenantId == tenant
  comments := db.comments.filter fun r => some r.tenantId == tenant
  counters := db.counters.filter fun r => some r.tenantId == tenant
  auditLogs := db.auditLogs.filter fun r => some r.tenantId == tenant
  outbox := db.outbox.filter fun r => some r.tenantId == tenant
  processed := db.processed.filter fun r => some r.tenantId == tenant
  policies := db.policies.filter fun r => some r.tenantId == tenant
  timers := db.timers.filter fun r => some r.tenantId == tenant

end Db

/-- The aggregate a stored row rehydrates to. -/
def toTicket (row : TicketRow) : Ticket where
  id := row.id
  tenantId := row.tenantId
  number := row.number
  subject := row.subject
  description := row.description
  status := row.status
  priority := row.priority
  requesterId := row.requesterId
  assigneeId := .ofColumn row.assigneeId
  createdAt := row.createdAt
  updatedAt := row.updatedAt
  resolvedAt := row.resolvedAt
  closedAt := row.closedAt
  domainEvents := []

@[simp] theorem toTicket_id (row : TicketRow) : (toTicket row).id = row.id := rfl

@[simp] theorem toTicket_tenantId (row : TicketRow) : (toTicket row).tenantId = row.tenantId := rfl

@[simp] theorem toTicket_status (row : TicketRow) : (toTicket row).status = row.status := rfl

@[simp] theorem toTicket_assigneeId (row : TicketRow) :
    (toTicket row).assigneeId = .ofColumn row.assigneeId := rfl

@[simp] theorem toTicket_domainEvents (row : TicketRow) : (toTicket row).domainEvents = [] := rfl

end Helpdesk
