/-
Module: HelpdeskApi.Application.Slas
Layer: Application
Purpose: The use cases on service levels: starting, stopping and breaching timers, and reading, changing
  and resetting the policy of an organisation.
Trusted boundary: human-reviewed spec
Main exports: StartSlaTimers.execute, StopSlaTimer.execute, MarkSlaBreached.execute, GetSlaPolicy.execute,
  UpdateSlaPolicy.execute, ResetSlaPolicy.execute
-/
import HelpdeskApi.Application.Ports

namespace Helpdesk

open Txn

def START_SLA_CONSUMER : String := "ticketing.sla-start"

structure StartSlaTimersInput where
  eventId : Uuid
  tenantId : TenantId
  ticketId : TicketId
  priority : TicketPriority
  occurredAt : Instant
deriving DecidableEq, Repr

inductive StartSlaOutcome where
  | started (timers : Nat)
  | alreadyProcessed
deriving DecidableEq, Repr

/-- `minutosPor`. -/
def minutosPor (objetivo : SlaTarget) : SlaKind → Int
  | .RESPONSE => objetivo.responseMinutes
  | .RESOLUTION => objetivo.resolutionMinutes

/-- The timer the loop of `StartSlaTimers` starts for one kind. -/
def StartSlaTimers.timer (input : StartSlaTimersInput) (objetivo : SlaTarget) (id : Uuid)
    (kind : SlaKind) : SlaTimer :=
  .start ⟨id⟩ input.tenantId input.ticketId kind (minutosPor objetivo kind) CALENDAR_24_7 input.occurredAt

/-- The loop of `StartSlaTimers` over the kinds, with an id from the generator for each. -/
def StartSlaTimers.saveAll (input : StartSlaTimersInput) (objetivo : SlaTarget) (uuid : Nat → Uuid) :
    List SlaKind → Nat → Proc sig Unit
  | [], _ => pure ()
  | kind :: kinds, i => do
      SlaTimerRepository.save (StartSlaTimers.timer input objetivo (uuid i) kind)
      StartSlaTimers.saveAll input objetivo uuid kinds (i + 1)

def StartSlaTimers.execute (input : StartSlaTimersInput) (ambient : Ambient) :
    Proc sig (Except TicketingError StartSlaOutcome) := do
  if ← ProcessedMessages.claim START_SLA_CONSUMER input.eventId input.tenantId then
    let overrides ← SlaPolicyRepository.overridesOf input.tenantId
    let objetivo := resolvePolicy overrides input.priority
    StartSlaTimers.saveAll input objetivo ambient.uuid SLA_KINDS 0
    return .ok (.started SLA_KINDS.length)
  else return .ok .alreadyProcessed

def STOP_SLA_CONSUMER : String := "ticketing.sla-stop"

/-- The consumer name a stop of this kind is claimed under. -/
def stopSlaConsumer (kind : SlaKind) : String :=
  STOP_SLA_CONSUMER ++ ":" ++ kind.text

structure StopSlaTimerInput where
  eventId : Uuid
  tenantId : TenantId
  ticketId : TicketId
  kind : SlaKind
  occurredAt : Instant
deriving DecidableEq, Repr

inductive StopSlaOutcome where
  | stopped (remainingMinutes : Int)
  | alreadyProcessed
  | noRunningTimer
deriving DecidableEq, Repr

def StopSlaTimer.execute (input : StopSlaTimerInput) : Proc sig (Except TicketingError StopSlaOutcome) := do
  if ← ProcessedMessages.claim (stopSlaConsumer input.kind) input.eventId input.tenantId then
    match ← SlaTimerRepository.findRunning input.tenantId input.ticketId input.kind with
    | none => return .ok .noRunningTimer
    | some timer =>
        let margen := timer.remainingMinutesAt input.occurredAt
        SlaTimerRepository.save (timer.stop input.occurredAt)
        return .ok (.stopped margen)
  else return .ok .alreadyProcessed

structure MarkSlaBreachedInput where
  tenantId : TenantId
  timerId : SlaTimerId
deriving DecidableEq, Repr

inductive MarkSlaBreachedSkip where
  | notFound
  | notRunning
  | notOverdue
  | ticketNotFound
deriving DecidableEq, Repr

inductive MarkSlaBreachedOutcome where
  | breached (kind : SlaKind)
  | skipped (reason : MarkSlaBreachedSkip)
deriving DecidableEq, Repr

def MarkSlaBreached.execute (input : MarkSlaBreachedInput) (ambient : Ambient) :
    Proc sig (Except TicketingError MarkSlaBreachedOutcome) := do
  let now := ambient.now
  match ← SlaTimerRepository.findById input.tenantId input.timerId with
  | none => return .ok (.skipped .notFound)
  | some timer =>
      if timer.isRunning then
        if timer.isOverdue now then
          match ← TicketRepository.findById input.tenantId timer.ticketId with
          | none => return .ok (.skipped .ticketNotFound)
          | some ticket =>
              let timer := (timer.markBreached now).1
              SlaTimerRepository.save timer
              AuditRecorder.record (ambient.uuid 0) input.tenantId SYSTEM_ACTOR_ID .slaBreached "ticket"
                ticket.id.uuid (.slaBreach timer.id timer.kind timer.dueAt) now
              let ticket := ticket.recordSlaBreach timer.id timer.kind.text timer.dueAt now
              EventRecorder.record (fun i => ambient.uuid (1 + i)) ticket
              return .ok (.breached timer.kind)
        else return .ok (.skipped .notOverdue)
      else return .ok (.skipped .notRunning)

def GetSlaPolicy.execute (tenantId : TenantId) : Proc sig (List EffectiveSlaTarget) := do
  let overrides ← SlaPolicyRepository.overridesOf tenantId
  return effectivePolicy overrides

/-- `find((t) => t.priority === priority)`. -/
def targetFor (priority : TicketPriority) (policy : List EffectiveSlaTarget) : Option EffectiveSlaTarget :=
  policy.find? fun t => t.priority = priority

structure UpdateSlaPolicyInput where
  tenantId : TenantId
  actorId : UserId
  priority : TicketPriority
  responseMinutes : JsNumber
  resolutionMinutes : JsNumber
deriving DecidableEq

def UpdateSlaPolicy.execute (input : UpdateSlaPolicyInput) (ambient : Ambient) :
    Proc sig (Except TicketingError (List EffectiveSlaTarget)) := do
  match makeSlaTarget input.responseMinutes input.resolutionMinutes with
  | .error e => return .error e
  | .ok target =>
      let overrides ← SlaPolicyRepository.overridesOf input.tenantId
      let antes := targetFor input.priority (effectivePolicy overrides)
      let now := ambient.now
      SlaPolicyRepository.upsert input.tenantId input.priority target now
      AuditRecorder.record (ambient.uuid 0) input.tenantId input.actorId .slaPolicyChanged "SlaPolicy"
        input.tenantId.uuid (.policyUpdate input.priority antes target) now
      return .ok (effectivePolicy fun p => if p = input.priority then some target else overrides p)

structure ResetSlaPolicyInput where
  tenantId : TenantId
  actorId : UserId
  priority : TicketPriority
deriving DecidableEq, Repr

def ResetSlaPolicy.execute (input : ResetSlaPolicyInput) (ambient : Ambient) :
    Proc sig (List EffectiveSlaTarget) := do
  let overrides ← SlaPolicyRepository.overridesOf input.tenantId
  let antes := targetFor input.priority (effectivePolicy overrides)
  let habia ← SlaPolicyRepository.remove input.tenantId input.priority
  let vigente := effectivePolicy (← SlaPolicyRepository.overridesOf input.tenantId)
  if habia then
    AuditRecorder.record (ambient.uuid 0) input.tenantId input.actorId .slaPolicyChanged "SlaPolicy"
      input.tenantId.uuid (.policyReset input.priority antes (targetFor input.priority vigente)) ambient.now
  return vigente

end Helpdesk
