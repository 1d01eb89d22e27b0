/-
Module: HelpdeskApi.Domain.AuditLog
Layer: Domain
Purpose: Audit entries: the closed list of actions, and the metadata each use case records with its own.
Trusted boundary: human-reviewed spec
Main exports: AuditAction, AuditMetadata, AuditLog, SYSTEM_ACTOR_ID
-/
import HelpdeskApi.Domain.Sla

namespace Helpdesk

/-- `SYSTEM_ACTOR_ID`, the actor of what the system does by itself. -/
def SYSTEM_ACTOR_ID : UserId := ⟨0⟩

/-- `AUDIT_ACTIONS`. -/
inductive AuditAction where
  | ticketCreated
  | ticketAssigned
  | ticketUnassigned
  | ticketStatusChanged
  | ticketPriorityChanged
  | commentAdded
  | slaBreached
  | slaPolicyChanged
deriving DecidableEq, Repr

/-- The literal the source writes for an action. -/
def AuditAction.text : AuditAction → String
  | .ticketCreated => "ticket.created"
  | .ticketAssigned => "ticket.assigned"
  | .ticketUnassigned => "ticket.unassigned"
  | .ticketStatusChanged => "ticket.status_changed"
  | .ticketPriorityChanged => "ticket.priority_changed"
  | .commentAdded => "comment.added"
  | .slaBreached => "sla.breached"
  | .slaPolicyChanged => "sla.policy_changed"

/-- The metadata objects the use cases record, one constructor for each. -/
inductive AuditMetadata where
  | ticketCreated (number : Int) (priority : TicketPriority)
  | ticketAssignment (assigneeId : Option UserId)
  | automaticAssignment (assigneeId : Nullable UserId)
  | statusChange (source target : TicketStatus)
  | commentAdded (commentId : CommentId)
  | slaBreach (timerId : SlaTimerId) (kind : SlaKind) (dueAt : Instant)
  | policyUpdate (priority : TicketPriority) (before : Option EffectiveSlaTarget) (after : SlaTarget)
  | policyReset (priority : TicketPriority) (before after : Option EffectiveSlaTarget)
deriving DecidableEq, Repr

structure AuditLog where
  id : AuditLogId
  tenantId : TenantId
  actorId : UserId
  action : AuditAction
  entityType : String
  entityId : Uuid
  metadata : AuditMetadata
  occurredAt : Instant
deriving DecidableEq, Repr

end Helpdesk
