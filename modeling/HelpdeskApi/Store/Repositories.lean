/-
Module: HelpdeskApi.Store.Repositories
Layer: Store
Purpose: The repositories of the ticketing context as calls on the database: what each call answers and
  writes when the session's tenant is `Ctx.tenant`, when it fails, which rows a write locks and which
  rows a call has to wait for. Reads and updates see the rows row level security shows; inserts are
  checked against the tenant and against every row of the table, shown or not. Foreign keys are not checked
  (`ticket_id` of timers and comments, the users that tickets and comments name, `tenant_id` of every table):
  where the database refuses a row for want of what it names, the call here goes through.
Trusted boundary: human-reviewed spec
Main exports: Write, Write.apply, Call, Call.Reply, Ctx, exec, RowKey, Write.keys, Call.wants, repositories
-/
import HelpdeskApi.Store.Schema
import HelpdeskApi.Library.Handler
import Mathlib.Data.List.Sort

namespace Helpdesk

open Relational Txn

section Rows

/-- The `create` clause of `PrismaTicketRepository.save`. -/
def createTicketRow (ticket : Ticket) : TicketRow where
  id := ticket.id
  tenantId := ticket.tenantId
  number := ticket.number
  subject := ticket.subject
  description := ticket.description
  status := ticket.status
  priority := ticket.priority
  requesterId := ticket.requesterId
  assigneeId := ticket.assigneeId.toColumn none
  createdAt := ticket.createdAt
  updatedAt := ticket.updatedAt
  resolvedAt := ticket.resolvedAt
  closedAt := ticket.closedAt

/-- The `update` clause of `PrismaTicketRepository.save`. -/
def updateTicketRow (ticket : Ticket) (row : TicketRow) : TicketRow :=
  { row with
    subject := ticket.subject
    description := ticket.description
    status := ticket.status
    priority := ticket.priority
    assigneeId := ticket.assigneeId.toColumn row.assigneeId
    updatedAt := ticket.updatedAt
    resolvedAt := ticket.resolvedAt
    closedAt := ticket.closedAt }

/-- The `update` clause of `PrismaSlaTimerRepository.save`. -/
def updateTimerRow (timer row : SlaTimer) : SlaTimer :=
  { row with stoppedAt := timer.stoppedAt, breachedAt := timer.breachedAt }

/-- The `update` clause of `PrismaSlaPolicyRepository.upsert`. -/
def updatePolicyRow (new row : SlaPolicyRow) : SlaPolicyRow :=
  { row with
    responseMinutes := new.responseMinutes
    resolutionMinutes := new.resolutionMinutes
    updatedAt := new.updatedAt }

/-- `ticket_counters.next_number + 1`. -/
def bumpCounterRow (row : CounterRow) : CounterRow :=
  { row with nextNumber := row.nextNumber + 1 }

theorem key_updateTicketRow (ticket : Ticket) (row : TicketRow) :
    Keyed.key (updateTicketRow ticket row) = Keyed.key row := rfl

theorem key_updateTimerRow (timer row : SlaTimer) :
    Keyed.key (updateTimerRow timer row) = Keyed.key row := rfl

theorem key_updatePolicyRow (new row : SlaPolicyRow) :
    Keyed.key (updatePolicyRow new row) = Keyed.key row := rfl

theorem key_bumpCounterRow (row : CounterRow) : Keyed.key (bumpCounterRow row) = Keyed.key row := rfl

end Rows

/-- One statement that changes the database. -/
inductive Write where
  | upsertTicket (ticket : Ticket)
  | insertComment (comment : Comment)
  | bumpCounter (tenantId : TenantId)
  | insertAuditLog (entry : AuditLog)
  | insertOutbox (rows : List OutboxRow)
  | insertProcessed (row : ProcessedRow)
  | upsertPolicy (row : SlaPolicyRow)
  | deletePolicy (tenantId : TenantId) (priority : TicketPriority)
  | upsertTimer (timer : SlaTimer)

namespace Write

def apply : Write → Db → Db
  | .upsertTicket ticket, db =>
      { db with
        tickets := db.tickets.upsert (createTicketRow ticket) (updateTicketRow ticket)
          (key_updateTicketRow ticket) }
  | .insertComment comment, db => { db with comments := db.comments.insert comment }
  | .bumpCounter tenantId, db =>
      { db with
        counters := db.counters.upsert { tenantId := tenantId, nextNumber := 2 } bumpCounterRow
          key_bumpCounterRow }
  | .insertAuditLog entry, db => { db with auditLogs := db.auditLogs.insert entry }
  | .insertOutbox rows, db => { db with outbox := rows.foldl Table.insert db.outbox }
  | .insertProcessed row, db => { db with processed := db.processed.insert row }
  | .upsertPolicy row, db =>
      { db with policies := db.policies.upsert row (updatePolicyRow row) (key_updatePolicyRow row) }
  | .deletePolicy tenantId priority, db =>
      { db with policies := db.policies.deleteWhere fun r => r.tenantId = tenantId ∧ r.priority = priority }
  | .upsertTimer timer, db =>
      { db with timers := db.timers.upsert timer (updateTimerRow timer) (key_updateTimerRow timer) }

end Write

/-- What `OutboxWriter.append` is given for each event. -/
structure OutboxRecord extends IntegrationEvent where
  id : Uuid
deriving DecidableEq, Repr

/-- The row of an appended record. -/
def OutboxRecord.row (record : OutboxRecord) (requestId : Option String) : OutboxRow where
  id := record.id
  tenantId := record.tenantId
  aggregateType := record.aggregateType
  aggregateId := record.aggregateId
  eventName := record.eventName
  version := record.version
  payload := record.payload
  occurredAt := record.occurredAt
  publishedAt := none
  attempts := 0
  lastError := none
  requestId := requestId

/-- The calls the use cases and the read model make. -/
inductive Call where
  | membersIsMember (tenantId : TenantId) (userId : UserId)
  | membersAgentsOf (tenantId : TenantId)
  | numbersNext (tenantId : TenantId)
  | ticketsFindById (tenantId : TenantId) (id : TicketId)
  | ticketsSave (ticket : Ticket)
  | commentsSave (comment : Comment)
  | auditLogsRecord (entry : AuditLog)
  | outboxAppend (records : List OutboxRecord)
  | processedClaim (consumer : String) (eventId : Uuid) (tenantId : TenantId)
  | policiesOverridesOf (tenantId : TenantId)
  | policiesUpsert (tenantId : TenantId) (priority : TicketPriority) (target : SlaTarget) (now : Instant)
  | policiesRemove (tenantId : TenantId) (priority : TicketPriority)
  | timersSave (timer : SlaTimer)
  | timersFindById (tenantId : TenantId) (id : SlaTimerId)
  | timersFindRunning (tenantId : TenantId) (ticketId : TicketId) (kind : SlaKind)
  | ticketsFindMany (tenantId : TenantId) (status : Option TicketStatus) (assigneeId : Option UserId)
      (requesterId : Option UserId) (cursor : Option TicketId) (take : Nat)
  | ticketsFindWithRelations (tenantId : TenantId) (id : TicketId)
  | auditLogsFindMany (tenantId : TenantId) (entityType : String) (entityId : Uuid)

/-- What each call answers with. -/
abbrev Call.Reply : Call → Type
  | .membersIsMember _ _ => Bool
  | .membersAgentsOf _ => List UserId
  | .numbersNext _ => Int
  | .ticketsFindById _ _ => Option Ticket
  | .ticketsSave _ => Unit
  | .commentsSave _ => Unit
  | .auditLogsRecord _ => Unit
  | .outboxAppend _ => Unit
  | .processedClaim _ _ _ => Bool
  | .policiesOverridesOf _ => Overrides
  | .policiesUpsert _ _ _ _ => Unit
  | .policiesRemove _ _ => Bool
  | .timersSave _ => Unit
  | .timersFindById _ _ => Option SlaTimer
  | .timersFindRunning _ _ _ => Option SlaTimer
  | .ticketsFindMany _ _ _ _ _ _ => List TicketRow
  | .ticketsFindWithRelations _ _ => Option (TicketRow × List Comment × List SlaTimer)
  | .auditLogsFindMany _ _ _ => List AuditLog

/-- The signature of the repositories. -/
abbrev sig : Signature where
  Call := Call
  Reply := Call.Reply

/-- The session settings a transaction runs under: `app.current_tenant`, and the request the work belongs
    to. -/
structure Ctx where
  tenant : Option TenantId
  requestId : Option String

section Queries

/-- `ORDER BY user_id`. -/
def orderByUserId (rows : List MembershipRow) : List MembershipRow :=
  rows.insertionSort fun a b => a.userId.uuid ≤ b.userId.uuid

/-- `ORDER BY created_at DESC, id DESC`: whether `a` comes no later than `b`. -/
def newestFirst (a b : TicketRow) : Prop :=
  b.createdAt < a.createdAt ∨ (b.createdAt = a.createdAt ∧ b.id.uuid ≤ a.id.uuid)

instance : DecidableRel newestFirst := fun a b =>
  inferInstanceAs (Decidable (b.createdAt < a.createdAt ∨ _))

/-- A page of tickets: `findMany` with the cursor located by its own row, whether or not that row matches
    the filter, and nothing at all if there is no such row; with a cursor one row is skipped. -/
def ticketPage (db : Db) (tenantId : TenantId) (status : Option TicketStatus)
    (assigneeId requesterId : Option UserId) (cursor : Option TicketId) (take : Nat) : List TicketRow :=
  let wanted (r : TicketRow) : Bool :=
    r.tenantId = tenantId ∧ (∀ s ∈ status, r.status = s) ∧ (∀ u ∈ assigneeId, r.assigneeId = some u) ∧
      (∀ u ∈ requesterId, r.requesterId = u)
  let ordered := (db.tickets.rows.filter wanted).insertionSort newestFirst
  match cursor with
  | none => ordered.take take
  | some id =>
      match db.tickets.find? id with
      | none => []
      | some at_cursor => ((ordered.filter (newestFirst at_cursor)).drop 1).take take

/-- The target a policy row stores. -/
def SlaPolicyRow.target (r : SlaPolicyRow) : SlaTarget where
  responseMinutes := r.responseMinutes
  resolutionMinutes := r.resolutionMinutes

end Queries

/-- What a call does: its reply and its writes, or `none` where the statement fails and the exception
    leaves the transaction no way but to roll back. -/
def exec (ctx : Ctx) (c : Call) (db : Db) : Option (c.Reply × List Write) :=
  let shown := db.visible ctx.tenant
  match c with
  | .membersIsMember tenantId userId =>
      some (shown.memberships.any fun r => r.tenantId = tenantId ∧ r.userId = userId, [])
  | .membersAgentsOf tenantId =>
      let agents := shown.memberships.rows.filter fun r =>
        r.tenantId = tenantId ∧ (r.role = .AGENT ∨ r.role = .ADMIN)
      some ((orderByUserId agents).map (·.userId), [])
  | .numbersNext tenantId =>
      if some tenantId = ctx.tenant then
        some (((db.counters.find? tenantId).elim 1 (·.nextNumber)), [.bumpCounter tenantId])
      else none
  | .ticketsFindById tenantId id =>
      some (((shown.tickets.find? id).filter fun r => r.tenantId = tenantId).map toTicket, [])
  | .ticketsSave ticket =>
      match shown.tickets.find? ticket.id with
      | some _ => some ((), [.upsertTicket ticket])
      | none =>
          if some ticket.tenantId = ctx.tenant ∧ db.tickets.find? ticket.id = none ∧
              db.tickets.any (fun r => r.tenantId = ticket.tenantId ∧ r.number = ticket.number) = false then
            some ((), [.upsertTicket ticket])
          else none
  | .commentsSave comment =>
      if some comment.tenantId = ctx.tenant ∧ db.comments.find? comment.id = none then
        some ((), [.insertComment comment])
      else none
  | .auditLogsRecord entry =>
      if some entry.tenantId = ctx.tenant ∧ db.auditLogs.find? entry.id = none then
        some ((), [.insertAuditLog entry])
      else none
  | .outboxAppend records =>
      -- a batch that mixes tenants is refused before it reaches the database
      if (∀ r ∈ records, some r.tenantId = ctx.tenant) ∧ (∀ r ∈ records, db.outbox.find? r.id = none) ∧
          (records.map (·.id)).Nodup then
        some ((), if records = [] then [] else [.insertOutbox (records.map (·.row ctx.requestId))])
      else none
  | .processedClaim consumer eventId tenantId =>
      if some tenantId = ctx.tenant then
        match db.processed.find? (consumer, eventId) with
        | some _ => some (false, [])
        | none =>
            some (true, [.insertProcessed { consumer := consumer, eventId := eventId, tenantId := tenantId }])
      else none
  | .policiesOverridesOf tenantId =>
      some (fun p => (shown.policies.find? (tenantId, p)).map SlaPolicyRow.target, [])
  | .policiesUpsert tenantId priority target now =>
      if some tenantId = ctx.tenant then
        some ((), [.upsertPolicy
          { tenantId := tenantId
            priority := priority
            responseMinutes := target.responseMinutes
            resolutionMinutes := target.resolutionMinutes
            updatedAt := now }])
      else none
  | .policiesRemove tenantId priority =>
      match shown.policies.find? (tenantId, priority) with
      | some _ => some (true, [.deletePolicy tenantId priority])
      | none => some (false, [])
  | .timersSave timer =>
      match shown.timers.find? timer.id with
      | some _ => some ((), [.upsertTimer timer])
      | none =>
          if some timer.tenantId = ctx.tenant ∧ db.timers.find? timer.id = none ∧
              db.timers.any (fun r => r.ticketId = timer.ticketId ∧ r.kind = timer.kind) = false then
            some ((), [.upsertTimer timer])
          else none
  | .timersFindById tenantId id =>
      some ((shown.timers.find? id).filter fun r => r.tenantId = tenantId, [])
  | .timersFindRunning tenantId ticketId kind =>
      some (shown.timers.findFirst fun r =>
        r.tenantId = tenantId ∧ r.ticketId = ticketId ∧ r.kind = kind ∧ r.isRunning, [])
  | .ticketsFindMany tenantId status assigneeId requesterId cursor take =>
      some (ticketPage shown tenantId status assigneeId requesterId cursor take, [])
  | .ticketsFindWithRelations tenantId id =>
      some (((shown.tickets.find? id).filter fun r => r.tenantId = tenantId).map fun row =>
        (row,
          (shown.comments.rows.filter fun c => c.ticketId = row.id).insertionSort
            (fun a b => a.createdAt ≤ b.createdAt),
          shown.timers.rows.filter fun t => t.ticketId = row.id), [])
  | .auditLogsFindMany tenantId entityType entityId =>
      let entries := shown.auditLogs.rows.filter fun r =>
        r.tenantId = tenantId ∧ r.entityType = entityType ∧ r.entityId = entityId
      some (entries.insertionSort fun a b => b.occurredAt ≤ a.occurredAt, [])

/-- What a transaction can hold a lock on: a row, or a value of a unique index. -/
inductive RowKey where
  | ticket (id : TicketId)
  | ticketNumber (tenantId : TenantId) (number : Int)
  | comment (id : CommentId)
  | counter (tenantId : TenantId)
  | auditLog (id : AuditLogId)
  | outbox (id : Uuid)
  | processed (consumer : String) (eventId : Uuid)
  | policy (tenantId : TenantId) (priority : TicketPriority)
  | timer (id : SlaTimerId)
  | timerSlot (ticketId : TicketId) (kind : SlaKind)
deriving DecidableEq

/-- The locks a write takes. -/
def Write.keys : Write → List RowKey
  | .upsertTicket ticket => [.ticket ticket.id, .ticketNumber ticket.tenantId ticket.number]
  | .insertComment comment => [.comment comment.id]
  | .bumpCounter tenantId => [.counter tenantId]
  | .insertAuditLog entry => [.auditLog entry.id]
  | .insertOutbox rows => rows.map fun r => .outbox r.id
  | .insertProcessed row => [.processed row.consumer row.eventId]
  | .upsertPolicy row => [.policy row.tenantId row.priority]
  | .deletePolicy tenantId priority => [.policy tenantId priority]
  | .upsertTimer timer => [.timer timer.id, .timerSlot timer.ticketId timer.kind]

/-- The locks other transactions must have given up before a call can run. Reads wait for nothing, and a
    delete only for a row that is there. -/
def Call.wants : Call → Db → List RowKey
  | .ticketsSave ticket, _ => (Write.upsertTicket ticket).keys
  | .commentsSave comment, _ => (Write.insertComment comment).keys
  | .numbersNext tenantId, _ => (Write.bumpCounter tenantId).keys
  | .auditLogsRecord entry, _ => (Write.insertAuditLog entry).keys
  | .outboxAppend records, _ => records.map fun r => .outbox r.id
  | .processedClaim consumer eventId _, _ => [.processed consumer eventId]
  | .policiesUpsert tenantId priority _ _, _ => [.policy tenantId priority]
  | .policiesRemove tenantId priority, db =>
      if (db.policies.find? (tenantId, priority)).isSome then [.policy tenantId priority] else []
  | .timersSave timer, _ => (Write.upsertTimer timer).keys
  | _, _ => []

/-- The repositories as a store. -/
abbrev repositories : Handler sig where
  Db := Db
  Ctx := Ctx
  Write := Write
  Key := RowKey
  apply := Write.apply
  exec := exec
  wants := Call.wants
  keys := Write.keys

end Helpdesk
