/-
Module: HelpdeskApi.Application.Claims
Layer: Application
Purpose: Which use cases claim their event before they work on it, under which mark, and what they do when
  the claim comes too late. Every other use case, and the rest of every consumer, claims nothing.
Trusted boundary: none
Main exports: UseCase.mark, isAlreadyProcessed, Call.isClaim, ClaimFirst, Execution.claimFirst,
  Execution.noClaim
-/
import HelpdeskApi.Application.Jobs
import HelpdeskApi.Library.Traces

namespace Helpdesk

open Txn

/-- The mark of a consumer: its name and the event. -/
abbrev Mark := String × Uuid

/-- The mark a use case claims before anything else, if it is a consumer. -/
def UseCase.mark : UseCase → Option Mark
  | .autoAssignTicket input => some (AUTO_ASSIGN_CONSUMER, input.eventId)
  | .startSlaTimers input => some (START_SLA_CONSUMER, input.eventId)
  | .stopSlaTimer input => some (stopSlaConsumer input.kind, input.eventId)
  | _ => none

/-- `skipped`, because the event `already_processed`. -/
def isAlreadyProcessed : Except TicketingError Output → Bool
  | .ok (.autoAssign (.skipped .alreadyProcessed)) => true
  | .ok (.startSla .alreadyProcessed) => true
  | .ok (.stopSla .alreadyProcessed) => true
  | _ => false

def Call.isClaim : Call → Bool
  | .processedClaim _ _ _ => true
  | _ => false

section NoClaim

variable {α : Type}

/-- A program that claims nothing and does not end as already processed. -/
abbrev NoClaim (output : α → Except TicketingError Output) (p : Proc sig α) : Prop :=
  p.Within (fun c : Call => c.isClaim = false) fun out => isAlreadyProcessed (output out) = false

/-- A program that first claims a mark, ends at once if the mark is taken, and otherwise claims nothing
    more. -/
structure ClaimFirst (mark : Mark) (tenantId : TenantId) (p : Proc sig (Except TicketingError Output))
    (next : Bool → Proc sig (Except TicketingError Output)) : Prop where
  program : p = .call (.processedClaim mark.1 mark.2 tenantId) next
  tooLate : ∃ out, next false = .done (.ok out) ∧ isAlreadyProcessed (.ok out) = true
  first : NoClaim id (next true)

/-- The recorder of events claims nothing. -/
theorem noClaim_record {uuid : Nat → Uuid} {aggregate : Ticket} {next : Unit → Proc sig α}
    {output : α → Except TicketingError Output} (rest : NoClaim output (next ())) :
    NoClaim output (EventRecorder.record uuid aggregate >>= next) := by
  unfold EventRecorder.record
  simp only
  split
  · exact rest
  · exact ⟨rfl, fun _ => rest⟩

end NoClaim

section Requests

variable (ambient : Ambient)

theorem CreateTicket.noClaim (input : CreateTicketInput) :
    NoClaim (·.map .ticket) (execute input ambient) := by
  refine .ask rfl fun number => ?_
  split
  · rfl
  · exact .ask rfl fun _ => .ask rfl fun _ => noClaim_record rfl

theorem AssignTicket.noClaim (input : AssignTicketInput) :
    NoClaim (·.map .ticket) (execute input ambient) := by
  refine .ask rfl fun located => ?_
  cases located with
  | none => rfl
  | some ticket =>
      have asked : (assigneeExists input.tenantId input.assigneeId).Within
          (fun c : Call => c.isClaim = false) fun _ => True := by
        cases input.assigneeId with
        | none => trivial
        | some assigneeId => exact ⟨rfl, fun _ => trivial⟩
      apply asked.bind
      intro acceptable _
      split
      · split
        · rfl
        · exact .ask rfl fun _ => .ask rfl fun _ => noClaim_record rfl
      · rfl

theorem ChangeTicketStatus.noClaim (input : ChangeTicketStatusInput) :
    NoClaim (·.map .ticket) (execute input ambient) := by
  refine .ask rfl fun located => ?_
  cases located with
  | none => rfl
  | some ticket =>
      simp only
      split
      · rfl
      · split
        · rfl
        · exact .ask rfl fun _ => .ask rfl fun _ => noClaim_record rfl

theorem AddComment.noClaim (input : AddCommentInput) :
    NoClaim (·.map .comment) (execute input ambient) := by
  refine .ask rfl fun located => ?_
  cases located with
  | none => rfl
  | some ticket =>
      simp only
      split
      · split
        · rfl
        · split
          · rfl
          · exact .ask rfl fun _ => .ask rfl fun _ => .ask rfl fun _ => noClaim_record rfl
      · rfl

theorem MarkSlaBreached.noClaim (input : MarkSlaBreachedInput) :
    NoClaim (·.map .markSla) (execute input ambient) := by
  refine .ask rfl fun found => ?_
  cases found with
  | none => rfl
  | some timer =>
      simp only
      split
      · split
        · refine .ask rfl fun located => ?_
          cases located with
          | none => rfl
          | some ticket => exact .ask rfl fun _ => .ask rfl fun _ => noClaim_record rfl
        · rfl
      · rfl

theorem UpdateSlaPolicy.noClaim (input : UpdateSlaPolicyInput) :
    NoClaim (·.map .policy) (execute input ambient) := by
  unfold execute
  split
  · rfl
  · exact .ask rfl fun _ => .ask rfl fun _ => .ask rfl fun _ => rfl

theorem ResetSlaPolicy.noClaim (input : ResetSlaPolicyInput) :
    NoClaim (fun p => .ok (.policy p)) (execute input ambient) := by
  refine .ask rfl fun _ => .ask rfl fun habia => .ask rfl fun _ => ?_
  cases habia
  · rfl
  · exact .ask rfl fun _ => rfl

end Requests

section Consumers

variable (ambient : Ambient)

/-- What is left of `AutoAssignTicket` after its claim. -/
theorem AutoAssignTicket.claimFirst (input : AutoAssignTicketInput) :
    ∃ next, ClaimFirst (AUTO_ASSIGN_CONSUMER, input.eventId) input.tenantId
      ((·.map .autoAssign) <$> execute input ambient) next := by
  refine ⟨_, rfl, ⟨_, rfl, rfl⟩, ?_⟩
  refine (Proc.within_map _ _).mpr (.ask rfl fun located => ?_)
  cases located with
  | none => rfl
  | some ticket =>
      simp only
      split
      · rfl
      · refine .ask rfl fun agentes => ?_
        split
        · rfl
        · split
          · rfl
          · exact .ask rfl fun _ => .ask rfl fun _ => noClaim_record rfl

theorem StartSlaTimers.noClaim_saveAll (input : StartSlaTimersInput) (objetivo : SlaTarget)
    (uuid : Nat → Uuid) (kinds : List SlaKind) (i : Nat) :
    (saveAll input objetivo uuid kinds i).Within (fun c : Call => c.isClaim = false) fun _ => True := by
  induction kinds generalizing i with
  | nil => trivial
  | cons kind kinds ih => exact .ask rfl fun _ => ih (i + 1)

theorem StartSlaTimers.claimFirst (input : StartSlaTimersInput) :
    ∃ next, ClaimFirst (START_SLA_CONSUMER, input.eventId) input.tenantId
      ((·.map .startSla) <$> execute input ambient) next := by
  refine ⟨_, rfl, ⟨_, rfl, rfl⟩, ?_⟩
  exact (Proc.within_map _ _).mpr <| .ask rfl fun overrides =>
    (noClaim_saveAll input _ ambient.uuid SLA_KINDS 0).bind fun _ _ => rfl

theorem StopSlaTimer.claimFirst (input : StopSlaTimerInput) :
    ∃ next, ClaimFirst (stopSlaConsumer input.kind, input.eventId) input.tenantId
      ((·.map .stopSla) <$> execute input) next := by
  refine ⟨_, rfl, ⟨_, rfl, rfl⟩, ?_⟩
  refine (Proc.within_map _ _).mpr (.ask rfl fun found => ?_)
  cases found with
  | none => rfl
  | some timer => exact .ask rfl fun _ => rfl

end Consumers

namespace Execution

/-- A use case without a mark claims nothing. -/
theorem noClaim {e : Execution} (unmarked : e.useCase.mark = none) : NoClaim id e.program := by
  obtain ⟨useCase, ambient, requestId⟩ := e
  cases useCase with
  | createTicket input => exact (Proc.within_map _ _).mpr (CreateTicket.noClaim ambient input)
  | assignTicket input => exact (Proc.within_map _ _).mpr (AssignTicket.noClaim ambient input)
  | changeTicketStatus input => exact (Proc.within_map _ _).mpr (ChangeTicketStatus.noClaim ambient input)
  | addComment input => exact (Proc.within_map _ _).mpr (AddComment.noClaim ambient input)
  | markSlaBreached input => exact (Proc.within_map _ _).mpr (MarkSlaBreached.noClaim ambient input)
  | updateSlaPolicy input => exact (Proc.within_map _ _).mpr (UpdateSlaPolicy.noClaim ambient input)
  | resetSlaPolicy input => exact (Proc.within_map _ _).mpr (ResetSlaPolicy.noClaim ambient input)
  | getSlaPolicy tenantId => exact (Proc.within_map _ _).mpr (.ask rfl fun _ => rfl)
  | listTickets input => exact (Proc.within_map _ _).mpr (.ask rfl fun _ => rfl)
  | ticketDetail tenantId ticketId => exact (Proc.within_map _ _).mpr (.ask rfl fun _ => rfl)
  | ticketHistory tenantId ticketId => exact (Proc.within_map _ _).mpr (.ask rfl fun _ => rfl)
  | autoAssignTicket input => cases unmarked
  | startSlaTimers input => cases unmarked
  | stopSlaTimer input => cases unmarked

/-- A use case with a mark claims it first. -/
theorem claimFirst {e : Execution} {k : Mark} (marked : e.useCase.mark = some k) :
    ∃ next, ClaimFirst k e.useCase.tenantId e.program next := by
  obtain ⟨useCase, ambient, requestId⟩ := e
  cases useCase with
  | autoAssignTicket input => cases marked; exact AutoAssignTicket.claimFirst ambient input
  | startSlaTimers input => cases marked; exact StartSlaTimers.claimFirst ambient input
  | stopSlaTimer input => cases marked; exact StopSlaTimer.claimFirst input
  | _ => cases marked

end Execution

end Helpdesk
