/-
Module: HelpdeskApi.Domain.Commands
Layer: Domain
Purpose: The commands of a ticket behind one type, the facts they record, and the tickets any sequence of
  commands can lead to. What a ticket has recorded is always one of the six facts, about this very ticket.
Trusted boundary: human-reviewed spec
Main exports: Ticket.Command, Ticket.perform, TicketingEvent, TicketingEvent.integration, Ticket.Reachable,
  Ticket.Reachable.recorded
-/
import HelpdeskApi.Domain.Ticket
import HelpdeskApi.Library.Calendar

namespace Helpdesk

/-- What happened to a ticket. -/
inductive TicketingEvent where
  | created (number : Int) (subject : String) (priority : TicketPriority) (status : TicketStatus)
      (requesterId : UserId)
  | assigned (assigneeId : Nullable UserId) (status : TicketStatus)
  | unassigned (status : TicketStatus)
  | statusChanged (source target : TicketStatus) (assigneeId : Nullable UserId)
  | commentAdded (commentId : CommentId) (authorId : UserId) (authorRole : String)
  | slaBreached (timerId : SlaTimerId) (kind : String) (dueAt : Instant) (assigneeId : Nullable UserId)
      (priority : TicketPriority)
deriving DecidableEq

/-- The event a fact is recorded as. -/
def TicketingEvent.integration (aggregateId : TicketId) (tenantId : TenantId) (occurredAt : Instant) :
    TicketingEvent → IntegrationEvent
  | .created number subject priority status requesterId =>
      ticketCreated aggregateId tenantId occurredAt number subject priority status requesterId
  | .assigned assigneeId status => ticketAssigned aggregateId tenantId occurredAt assigneeId status
  | .unassigned status => ticketUnassigned aggregateId tenantId occurredAt status
  | .statusChanged source target assigneeId =>
      ticketStatusChanged aggregateId tenantId occurredAt source target assigneeId
  | .commentAdded commentId authorId authorRole =>
      Helpdesk.commentAdded aggregateId tenantId occurredAt commentId authorId authorRole
  | .slaBreached timerId kind dueAt assigneeId priority =>
      Helpdesk.slaBreached aggregateId tenantId occurredAt timerId kind dueAt assigneeId priority

namespace Ticket

inductive Command where
  | changeStatus (next : TicketStatus)
  | assignTo (assigneeId : Nullable UserId)
  | unassign
  | registerComment (commentId : CommentId) (authorId : UserId) (authorRole : String)
  | recordSlaBreach (timerId : SlaTimerId) (kind : String) (dueAt : Instant)

def perform (t : Ticket) (now : Instant) : Command → Except TicketingError Ticket
  | .changeStatus next => t.changeStatus next now
  | .assignTo assigneeId => t.assignTo assigneeId now
  | .unassign => t.unassign now
  | .registerComment commentId authorId authorRole => t.registerComment commentId authorId authorRole now
  | .recordSlaBreach timerId kind dueAt => .ok (t.recordSlaBreach timerId kind dueAt now)

/-- A `Date` that is a date. -/
abbrev ValidDate (t : Instant) : Prop :=
  Calendar.InRange t

/-- The tickets that are opened or read from the database, changed by commands, and rid of their events. -/
inductive Reachable : Ticket → Prop where
  | opened {id : TicketId} {tenantId : TenantId} {number : Int} {subject description : String}
      {priority : TicketPriority} {requesterId : UserId} {now : Instant} {t : Ticket} (valid : ValidDate now)
      (done : opened id tenantId number subject description priority requesterId now = .ok t) : Reachable t
  | restored {t : Ticket} (new : t.domainEvents = []) : Reachable t
  | command {t t' : Ticket} {now : Instant} {command : Command} (before : Reachable t) (valid : ValidDate now)
      (done : t.perform now command = .ok t') : Reachable t'
  | pulled {t : Ticket} (before : Reachable t) : Reachable t.pullDomainEvents.2

section Recorded

variable {t t' : Ticket} {now : Instant}

/-- A command records one fact about its ticket, or, where there is nothing to change, none. -/
theorem perform_recorded {command : Command} (done : t.perform now command = .ok t') :
    t'.id = t.id ∧ t'.tenantId = t.tenantId ∧
      (t'.domainEvents = t.domainEvents ∨
        ∃ fact : TicketingEvent, t'.domainEvents = t.domainEvents ++ [fact.integration t.id t.tenantId now]) := by
  cases command with
  | changeStatus next =>
      by_cases same : t.status = next
      · simp only [perform, changeStatus, if_pos same] at done
        cases done
        exact ⟨rfl, rfl, .inl rfl⟩
      · simp only [perform, changeStatus, if_neg same] at done
        split at done
        · cases done
          refine ⟨?_, ?_, .inr ⟨.statusChanged t.status next t.assigneeId, ?_⟩⟩ <;> cases next <;> rfl
        · cases done
  | assignTo assigneeId =>
      simp only [perform, assignTo] at done
      split at done
      · cases done
      · cases done
        exact ⟨rfl, rfl, .inr ⟨.assigned assigneeId t.status, rfl⟩⟩
  | unassign =>
      simp only [perform, unassign] at done
      split at done
      · cases done
      · cases done
        exact ⟨rfl, rfl, .inr ⟨.unassigned t.status, rfl⟩⟩
  | registerComment commentId authorId authorRole =>
      simp only [perform, registerComment] at done
      split at done
      · cases done
        exact ⟨rfl, rfl, .inr ⟨.commentAdded commentId authorId authorRole, rfl⟩⟩
      · cases done
  | recordSlaBreach timerId kind dueAt =>
      cases done
      exact ⟨rfl, rfl, .inr ⟨.slaBreached timerId kind dueAt t.assigneeId t.priority, rfl⟩⟩

/-- Everything a ticket has recorded is a fact about this ticket, at a valid date. -/
theorem Reachable.recorded (reachable : t.Reachable) :
    ∀ e ∈ t.domainEvents, ∃ (fact : TicketingEvent) (occurredAt : Instant),
      ValidDate occurredAt ∧ e = fact.integration t.id t.tenantId occurredAt := by
  induction reachable with
  | @opened id tenantId number subject description priority requesterId now t valid done =>
      rw [Ticket.opened_eq done]
      intro e recorded
      cases List.mem_singleton.mp recorded
      exact ⟨.created number (trim subject) priority .OPEN requesterId, now, valid, rfl⟩
  | restored new =>
      intro e recorded
      rw [new] at recorded
      cases recorded
  | @command t t' now command before valid done ih =>
      obtain ⟨sameId, sameTenant, records⟩ := perform_recorded done
      intro e recorded
      rw [sameId, sameTenant]
      rcases records with same | ⟨fact, one⟩
      · exact ih e (same ▸ recorded)
      · rw [one] at recorded
        rcases List.mem_append.mp recorded with old | new
        · exact ih e old
        · exact ⟨fact, now, valid, List.mem_singleton.mp new⟩
  | pulled before ih =>
      intro e recorded
      cases recorded

end Recorded

end Ticket

end Helpdesk
