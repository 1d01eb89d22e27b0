/-
Module: HelpdeskApi.Domain.Ticket
Layer: Domain
Purpose: The ticket aggregate with its commands, the integration events the commands record, and the
  comments and audit entries that go with them. A command that fails leaves nothing behind: it answers
  with the error in place of the changed aggregate.
Trusted boundary: human-reviewed spec
Main exports: IntegrationEvent, Ticket, Ticket.changeStatus, Ticket.assignTo, Ticket.unassign,
  Ticket.registerComment, Ticket.recordSlaBreach, Ticket.opened, Ticket.Commanded, Comment, Comment.write
-/
import HelpdeskApi.Domain.TicketStatus

namespace Helpdesk

/-- An event as it leaves the domain. -/
structure IntegrationEvent where
  eventName : String
  aggregateType : String
  version : Int
  aggregateId : Uuid
  tenantId : TenantId
  occurredAt : Instant
  payload : Payload
deriving DecidableEq, Repr

/-- `AGGREGATE_TYPE`. -/
def aggregateType : String := "ticket"

section Events

variable (aggregateId : TicketId) (tenantId : TenantId) (occurredAt : Instant)

/-- What the six event classes share. -/
def ticketEvent (eventName : String) (version : Int) (payload : Payload) : IntegrationEvent where
  eventName := eventName
  aggregateType := aggregateType
  version := version
  aggregateId := aggregateId.uuid
  tenantId := tenantId
  occurredAt := occurredAt
  payload := payload

def ticketCreated (number : Int) (subject : String) (priority : TicketPriority) (status : TicketStatus)
    (requesterId : UserId) : IntegrationEvent :=
  ticketEvent aggregateId tenantId occurredAt "ticket.created" 1
    [("number", .num number), ("subject", .str subject), ("priority", .str priority.text),
      ("status", .str status.text), ("requesterId", .uuid requesterId.uuid)]

/-- A user id as a JSON value. -/
def userIdValue : Nullable UserId → Nullable Value
  | .undefined => .undefined
  | .null => .null
  | .value u => .value (.uuid u.uuid)

def ticketAssigned (assigneeId : Nullable UserId) (status : TicketStatus) : IntegrationEvent :=
  ticketEvent aggregateId tenantId occurredAt "ticket.assigned" 1
    (Payload.optional "assigneeId" (userIdValue assigneeId) ++ [("status", .str status.text)])

def ticketUnassigned (status : TicketStatus) : IntegrationEvent :=
  ticketEvent aggregateId tenantId occurredAt "ticket.unassigned" 1 [("status", .str status.text)]

def ticketStatusChanged (source target : TicketStatus) (assigneeId : Nullable UserId) :
    IntegrationEvent :=
  ticketEvent aggregateId tenantId occurredAt "ticket.status_changed" 1
    ([("from", .str source.text), ("to", .str target.text)] ++
      Payload.optional "assigneeId" (userIdValue assigneeId))

def commentAdded (commentId : CommentId) (authorId : UserId) (authorRole : String) : IntegrationEvent :=
  ticketEvent aggregateId tenantId occurredAt "comment.added" 2
    [("commentId", .uuid commentId.uuid), ("authorId", .uuid authorId.uuid),
      ("authorRole", .str authorRole)]

def slaBreached (timerId : SlaTimerId) (kind : String) (dueAt : Instant) (assigneeId : Nullable UserId)
    (priority : TicketPriority) : IntegrationEvent :=
  ticketEvent aggregateId tenantId occurredAt "sla.breached" 1
    ([("timerId", .uuid timerId.uuid), ("kind", .str kind), ("dueAt", .iso dueAt)] ++
      Payload.optional "assigneeId" (userIdValue assigneeId) ++ [("priority", .str priority.text)])

end Events

def SUBJECT_MAX : Nat := 200

def DESCRIPTION_MAX : Nat := 10000

/-- The aggregate, with the events it has recorded and nobody has pulled yet. -/
structure Ticket where
  id : TicketId
  tenantId : TenantId
  number : Int
  subject : String
  description : String
  status : TicketStatus
  priority : TicketPriority
  requesterId : UserId
  assigneeId : Nullable UserId
  createdAt : Instant
  updatedAt : Instant
  resolvedAt : Option Instant
  closedAt : Option Instant
  domainEvents : List IntegrationEvent
deriving DecidableEq, Repr

namespace Ticket

def addDomainEvent (t : Ticket) (e : IntegrationEvent) : Ticket :=
  { t with domainEvents := t.domainEvents ++ [e] }

/-- The recorded events, and the aggregate without them. -/
def pullDomainEvents (t : Ticket) : List IntegrationEvent × Ticket :=
  (t.domainEvents, { t with domainEvents := [] })

def touch (t : Ticket) (now : Instant) : Ticket :=
  { t with updatedAt := now }

def applyLifecycleTimestamps (t : Ticket) (next : TicketStatus) (now : Instant) : Ticket :=
  match next with
  | .RESOLVED => { t with resolvedAt := some now }
  | .CLOSED => { t with closedAt := some now }
  | .OPEN | .IN_PROGRESS => { t with resolvedAt := none, closedAt := none }

section Fields

variable (t : Ticket) (next : TicketStatus) (now : Instant) (e : IntegrationEvent)

@[simp] theorem addDomainEvent_id : (t.addDomainEvent e).id = t.id := rfl

@[simp] theorem addDomainEvent_status : (t.addDomainEvent e).status = t.status := rfl

@[simp] theorem addDomainEvent_domainEvents :
    (t.addDomainEvent e).domainEvents = t.domainEvents ++ [e] := rfl

@[simp] theorem touch_id : (t.touch now).id = t.id := rfl

@[simp] theorem touch_status : (t.touch now).status = t.status := rfl

@[simp] theorem touch_domainEvents : (t.touch now).domainEvents = t.domainEvents := rfl

@[simp] theorem applyLifecycleTimestamps_id : (t.applyLifecycleTimestamps next now).id = t.id := by
  cases next <;> rfl

@[simp] theorem applyLifecycleTimestamps_status :
    (t.applyLifecycleTimestamps next now).status = t.status := by
  cases next <;> rfl

@[simp] theorem applyLifecycleTimestamps_assigneeId :
    (t.applyLifecycleTimestamps next now).assigneeId = t.assigneeId := by
  cases next <;> rfl

@[simp] theorem applyLifecycleTimestamps_domainEvents :
    (t.applyLifecycleTimestamps next now).domainEvents = t.domainEvents := by
  cases next <;> rfl

end Fields

def changeStatus (t : Ticket) (next : TicketStatus) (now : Instant) : Except TicketingError Ticket :=
  if t.status = next then .ok t
  else if canTransition t.status next then
    .ok <|
      ((({ t with status := next }).applyLifecycleTimestamps next now).touch now).addDomainEvent
        (ticketStatusChanged t.id t.tenantId now t.status next t.assigneeId)
  else .error (.invalidTicketTransition t.status next)

def assignTo (t : Ticket) (assigneeId : Nullable UserId) (now : Instant) :
    Except TicketingError Ticket :=
  if isTerminal t.status then .error .ticketClosed
  else
    .ok <|
      ({ t with assigneeId := assigneeId }.touch now).addDomainEvent
        (ticketAssigned t.id t.tenantId now assigneeId t.status)

def unassign (t : Ticket) (now : Instant) : Except TicketingError Ticket :=
  if isTerminal t.status then .error .ticketClosed
  else
    .ok <|
      ({ t with assigneeId := .null }.touch now).addDomainEvent
        (ticketUnassigned t.id t.tenantId now t.status)

def acceptsComments (t : Ticket) : Bool :=
  !isTerminal t.status

def registerComment (t : Ticket) (commentId : CommentId) (authorId : UserId) (authorRole : String)
    (now : Instant) : Except TicketingError Ticket :=
  if t.acceptsComments then
    .ok <| (t.touch now).addDomainEvent (commentAdded t.id t.tenantId now commentId authorId authorRole)
  else .error .ticketClosed

/-- Records the event and nothing else: a breach does not touch the ticket. -/
def recordSlaBreach (t : Ticket) (timerId : SlaTimerId) (kind : String) (dueAt now : Instant) : Ticket :=
  t.addDomainEvent (slaBreached t.id t.tenantId now timerId kind dueAt t.assigneeId t.priority)

/-- `Ticket.open`. -/
def opened (id : TicketId) (tenantId : TenantId) (number : Int) (subject description : String)
    (priority : TicketPriority) (requesterId : UserId) (now : Instant) : Except TicketingError Ticket :=
  if jsLength (trim subject) = 0 ∨ SUBJECT_MAX < jsLength (trim subject) then
    .error .invalidTicketSubject
  else if jsLength (trim description) = 0 ∨ DESCRIPTION_MAX < jsLength (trim description) then
    .error .invalidTicketDescription
  else
    let ticket : Ticket :=
      { id := id
        tenantId := tenantId
        number := number
        subject := trim subject
        description := trim description
        status := .OPEN
        priority := priority
        requesterId := requesterId
        assigneeId := .null
        createdAt := now
        updatedAt := now
        resolvedAt := none
        closedAt := none
        domainEvents := [] }
    .ok <|
      ticket.addDomainEvent
        (ticketCreated id tenantId now number (trim subject) priority .OPEN requesterId)

/-- What every command keeps, and that it records one event. -/
structure Commanded (t t' : Ticket) : Prop where
  id : t'.id = t.id
  tenantId : t'.tenantId = t.tenantId
  number : t'.number = t.number
  records : ∃ e, t'.domainEvents = t.domainEvents ++ [e]

section Commands

variable {t t' : Ticket} {now : Instant}

theorem changeStatus_commanded {next : TicketStatus} (moves : t.status ≠ next)
    (done : t.changeStatus next now = .ok t') : t.Commanded t' ∧ t'.status = next := by
  unfold changeStatus at done
  rw [if_neg moves] at done
  split at done
  · cases done
    constructor
    · constructor <;> cases next <;> first | rfl | exact ⟨_, rfl⟩
    · cases next <;> rfl
  · cases done

theorem assignTo_commanded {assigneeId : Nullable UserId} (done : t.assignTo assigneeId now = .ok t') :
    t.Commanded t' ∧ t'.status = t.status ∧ t'.closedAt = t.closedAt := by
  unfold assignTo at done
  split at done
  · cases done
  · cases done
    exact ⟨⟨rfl, rfl, rfl, _, rfl⟩, rfl, rfl⟩

theorem unassign_commanded (done : t.unassign now = .ok t') :
    t.Commanded t' ∧ t'.status = t.status ∧ t'.closedAt = t.closedAt := by
  unfold unassign at done
  split at done
  · cases done
  · cases done
    exact ⟨⟨rfl, rfl, rfl, _, rfl⟩, rfl, rfl⟩

theorem registerComment_commanded {commentId : CommentId} {authorId : UserId} {authorRole : String}
    (done : t.registerComment commentId authorId authorRole now = .ok t') :
    t.Commanded t' ∧ t'.status = t.status ∧ t'.closedAt = t.closedAt := by
  unfold registerComment at done
  split at done
  · cases done
    exact ⟨⟨rfl, rfl, rfl, _, rfl⟩, rfl, rfl⟩
  · cases done

/-- A status that changes has been checked, and closing leaves its time. -/
theorem changeStatus_checked {next : TicketStatus} (moves : t.status ≠ next)
    (done : t.changeStatus next now = .ok t') :
    canTransition t.status next = true ∧ (next = .CLOSED → t'.closedAt = some now) := by
  unfold changeStatus at done
  rw [if_neg moves] at done
  split at done
  · rename_i legal
    cases done
    exact ⟨legal, fun closes => by subst closes; rfl⟩
  · cases done

theorem notClosed_of_assignTo {assigneeId : Nullable UserId} (done : t.assignTo assigneeId now = .ok t') :
    t.status ≠ .CLOSED := by
  intro closed
  simp [assignTo, closed] at done

theorem notClosed_of_unassign (done : t.unassign now = .ok t') : t.status ≠ .CLOSED := by
  intro closed
  simp [unassign, closed] at done

theorem notClosed_of_registerComment {commentId : CommentId} {authorId : UserId} {authorRole : String}
    (done : t.registerComment commentId authorId authorRole now = .ok t') : t.status ≠ .CLOSED := by
  intro closed
  simp [registerComment, acceptsComments, closed] at done

/-- The ticket that is opened, if its subject and its description are acceptable. -/
theorem opened_eq {id : TicketId} {tenantId : TenantId} {number : Int} {subject description : String}
    {priority : TicketPriority} {requesterId : UserId}
    (done : opened id tenantId number subject description priority requesterId now = .ok t') :
    t' = { id := id, tenantId := tenantId, number := number, subject := trim subject,
           description := trim description, status := .OPEN, priority := priority, requesterId := requesterId,
           assigneeId := .null, createdAt := now, updatedAt := now, resolvedAt := none, closedAt := none,
           domainEvents := [ticketCreated id tenantId now number (trim subject) priority .OPEN requesterId] } := by
  unfold opened at done
  split at done
  · cases done
  · split at done
    · cases done
    · cases done
      rfl

theorem opened_records {id : TicketId} {tenantId : TenantId} {number : Int} {subject description : String}
    {priority : TicketPriority} {requesterId : UserId}
    (done : opened id tenantId number subject description priority requesterId now = .ok t') :
    t'.id = id ∧ ∃ e, t'.domainEvents = [e] := by
  rw [opened_eq done]
  exact ⟨rfl, _, rfl⟩

end Commands

end Ticket

def BODY_MAX : Nat := 10000

structure Comment where
  id : CommentId
  tenantId : TenantId
  ticketId : TicketId
  authorId : UserId
  body : String
  createdAt : Instant
deriving DecidableEq, Repr

namespace Comment

def write (id : CommentId) (tenantId : TenantId) (ticketId : TicketId) (authorId : UserId)
    (body : String) (now : Instant) : Except TicketingError Comment :=
  if jsLength (trim body) = 0 ∨ BODY_MAX < jsLength (trim body) then .error .emptyComment
  else
    .ok
      { id := id
        tenantId := tenantId
        ticketId := ticketId
        authorId := authorId
        body := trim body
        createdAt := now }

theorem write_id {id : CommentId} {tenantId : TenantId} {ticketId : TicketId} {authorId : UserId}
    {body : String} {now : Instant} {comment : Comment}
    (written : write id tenantId ticketId authorId body now = .ok comment) : comment.id = id := by
  unfold write at written
  split at written
  · cases written
  · cases written
    rfl

end Comment

end Helpdesk
