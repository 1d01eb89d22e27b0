/-
Module: HelpdeskApi.Application.Tickets
Layer: Application
Purpose: The use cases on tickets, as programs over the repositories. Each is the body of one
  `runTransactional`: an error ends the program with nothing committed.
Trusted boundary: human-reviewed spec
Main exports: CreateTicket.execute, AssignTicket.execute, AutoAssignTicket.execute,
  ChangeTicketStatus.execute, AddComment.execute
-/
import HelpdeskApi.Application.Ports

namespace Helpdesk

open Txn

structure CreateTicketInput where
  tenantId : TenantId
  actorId : UserId
  subject : String
  description : String
  priority : TicketPriority
deriving DecidableEq, Repr

def CreateTicket.execute (input : CreateTicketInput) (ambient : Ambient) :
    Proc sig (Except TicketingError Ticket) := do
  let now := ambient.now
  let number ← TicketNumberGenerator.next input.tenantId
  match Ticket.opened ⟨ambient.uuid 0⟩ input.tenantId number input.subject input.description
      input.priority input.actorId now with
  | .error e => return .error e
  | .ok ticket =>
      TicketRepository.save ticket
      AuditRecorder.record (ambient.uuid 1) input.tenantId input.actorId .ticketCreated "ticket"
        ticket.id.uuid (.ticketCreated ticket.number ticket.priority) now
      EventRecorder.record (fun i => ambient.uuid (2 + i)) ticket
      return .ok ticket.pullDomainEvents.2

structure AssignTicketInput where
  tenantId : TenantId
  actorId : UserId
  ticketId : TicketId
  assigneeId : Option UserId
deriving DecidableEq, Repr

/-- Whether the requested assignee is acceptable: nobody, or a member of the organisation. -/
def AssignTicket.assigneeExists (tenantId : TenantId) : Option UserId → Proc sig Bool
  | none => pure true
  | some assigneeId => MemberDirectory.isMember tenantId assigneeId

/-- The command an assignment asks for. -/
def AssignTicket.apply (ticket : Ticket) (now : Instant) : Option UserId → Except TicketingError Ticket
  | none => ticket.unassign now
  | some assigneeId => ticket.assignTo (.value assigneeId) now

/-- The action an assignment is audited under. -/
def AssignTicket.action (assigneeId : Option UserId) : AuditAction :=
  if assigneeId = none then .ticketUnassigned else .ticketAssigned

def AssignTicket.execute (input : AssignTicketInput) (ambient : Ambient) :
    Proc sig (Except TicketingError Ticket) := do
  let now := ambient.now
  match ← TicketRepository.findById input.tenantId input.ticketId with
  | none => return .error .ticketNotFound
  | some ticket =>
      if ← AssignTicket.assigneeExists input.tenantId input.assigneeId then
        match AssignTicket.apply ticket now input.assigneeId with
        | .error e => return .error e
        | .ok ticket =>
            TicketRepository.save ticket
            AuditRecorder.record (ambient.uuid 0) input.tenantId input.actorId
              (AssignTicket.action input.assigneeId) "ticket" ticket.id.uuid
              (.ticketAssignment input.assigneeId) now
            EventRecorder.record (fun i => ambient.uuid (1 + i)) ticket
            return .ok ticket.pullDomainEvents.2
      else return .error .assigneeNotFound

def AUTO_ASSIGN_CONSUMER : String := "ticketing.auto-assign"

structure AutoAssignTicketInput where
  eventId : Uuid
  tenantId : TenantId
  ticketId : TicketId
  ticketNumber : Int
deriving DecidableEq, Repr

inductive AutoAssignSkip where
  | alreadyProcessed
  | ticketNotFound
  | alreadyAssigned
  | noAgents
  | notAssignable
deriving DecidableEq, Repr

inductive AutoAssignOutcome where
  | assigned (assigneeId : Nullable UserId)
  | skipped (reason : AutoAssignSkip)
deriving DecidableEq, Repr

/-- `agentes[i]`, which is `undefined` for an index that is out of range. -/
def elementAt {α : Type} (agentes : List α) (i : Int) : Nullable α :=
  if 0 ≤ i then
    match agentes[i.toNat]? with
    | some a => .value a
    | none => .undefined
  else .undefined

def AutoAssignTicket.execute (input : AutoAssignTicketInput) (ambient : Ambient) :
    Proc sig (Except TicketingError AutoAssignOutcome) := do
  let now := ambient.now
  if ← ProcessedMessages.claim AUTO_ASSIGN_CONSUMER input.eventId input.tenantId then
    match ← TicketRepository.findById input.tenantId input.ticketId with
    | none => return .ok (.skipped .ticketNotFound)
    | some ticket =>
        if ticket.assigneeId ≠ .null then return .ok (.skipped .alreadyAssigned)
        else
          let agentes ← MemberDirectory.agentsOf input.tenantId
          if agentes.length = 0 then return .ok (.skipped .noAgents)
          else
            -- the remainder of `%` has the sign of its left operand
            let elegido := elementAt agentes ((input.ticketNumber - 1).tmod agentes.length)
            match ticket.assignTo elegido now with
            | .error _ => return .ok (.skipped .notAssignable)
            | .ok ticket =>
                TicketRepository.save ticket
                AuditRecorder.record (ambient.uuid 0) input.tenantId SYSTEM_ACTOR_ID .ticketAssigned
                  "ticket" ticket.id.uuid (.automaticAssignment elegido) now
                EventRecorder.record (fun i => ambient.uuid (1 + i)) ticket
                return .ok (.assigned elegido)
  else return .ok (.skipped .alreadyProcessed)

structure ChangeTicketStatusInput where
  tenantId : TenantId
  actorId : UserId
  ticketId : TicketId
  status : TicketStatus
deriving DecidableEq, Repr

def ChangeTicketStatus.execute (input : ChangeTicketStatusInput) (ambient : Ambient) :
    Proc sig (Except TicketingError Ticket) := do
  let now := ambient.now
  match ← TicketRepository.findById input.tenantId input.ticketId with
  | none => return .error .ticketNotFound
  | some ticket =>
      let source := ticket.status
      match ticket.changeStatus input.status now with
      | .error e => return .error e
      | .ok ticket =>
          if source = input.status then return .ok ticket
          else
            TicketRepository.save ticket
            AuditRecorder.record (ambient.uuid 0) input.tenantId input.actorId .ticketStatusChanged
              "ticket" ticket.id.uuid (.statusChange source input.status) now
            EventRecorder.record (fun i => ambient.uuid (1 + i)) ticket
            return .ok ticket.pullDomainEvents.2

structure AddCommentInput where
  tenantId : TenantId
  actorId : UserId
  actorRole : String
  ticketId : TicketId
  body : String
deriving DecidableEq, Repr

def AddComment.execute (input : AddCommentInput) (ambient : Ambient) :
    Proc sig (Except TicketingError Comment) := do
  let now := ambient.now
  match ← TicketRepository.findById input.tenantId input.ticketId with
  | none => return .error .ticketNotFound
  | some ticket =>
      if ticket.acceptsComments then
        match Comment.write ⟨ambient.uuid 0⟩ input.tenantId input.ticketId input.actorId input.body now with
        | .error e => return .error e
        | .ok comment =>
            match ticket.registerComment comment.id input.actorId input.actorRole now with
            | .error e => return .error e
            | .ok ticket =>
                CommentRepository.save comment
                TicketRepository.save ticket
                AuditRecorder.record (ambient.uuid 1) input.tenantId input.actorId .commentAdded
                  "ticket" ticket.id.uuid (.commentAdded comment.id) now
                EventRecorder.record (fun i => ambient.uuid (2 + i)) ticket
                return .ok comment
      else return .error .ticketClosed

end Helpdesk
