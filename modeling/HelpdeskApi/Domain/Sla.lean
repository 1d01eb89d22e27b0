/-
Module: HelpdeskApi.Domain.Sla
Layer: Domain
Purpose: Service levels: the targets of a policy and where they come from, the calendar that turns
  minutes into a deadline, and the timer that runs against it.
Trusted boundary: human-reviewed spec
Main exports: SlaKind, isResponder, SlaTarget, DEFAULT_SLA_POLICY, resolvePolicy, makeSlaTarget,
  effectivePolicy, CALENDAR_24_7, SlaTimer, SlaTimer.stop, SlaTimer.markBreached, describeSlaTimer
-/
import HelpdeskApi.Domain.TicketStatus

namespace Helpdesk

inductive SlaKind where
  | RESPONSE
  | RESOLUTION
deriving DecidableEq, Repr, Inhabited

namespace SlaKind

/-- The literal the source and the database write for a kind. -/
def text : SlaKind → String
  | .RESPONSE => "RESPONSE"
  | .RESOLUTION => "RESOLUTION"

end SlaKind

/-- `SLA_KINDS`. -/
def SLA_KINDS : List SlaKind := [.RESPONSE, .RESOLUTION]

theorem mem_SLA_KINDS (kind : SlaKind) : kind ∈ SLA_KINDS := by
  cases kind <;> simp [SLA_KINDS]

instance (p : SlaKind → Prop) [DecidablePred p] : Decidable (∀ kind, p kind) :=
  decidable_of_iff (∀ kind ∈ SLA_KINDS, p kind)
    ⟨fun each kind => each kind (mem_SLA_KINDS kind), fun each kind _ => each kind⟩

def RESPONDER_ROLES : List String := ["AGENT", "ADMIN"]

def isResponder (role : String) : Bool :=
  RESPONDER_ROLES.contains role

section Policy

structure SlaTarget where
  responseMinutes : Int
  resolutionMinutes : Int
deriving DecidableEq, Repr

def DEFAULT_SLA_POLICY : TicketPriority → SlaTarget
  | .URGENT => { responseMinutes := 15, resolutionMinutes := 4 * 60 }
  | .HIGH => { responseMinutes := 60, resolutionMinutes := 8 * 60 }
  | .NORMAL => { responseMinutes := 4 * 60, resolutionMinutes := 24 * 60 }
  | .LOW => { responseMinutes := 8 * 60, resolutionMinutes := 72 * 60 }

/-- What an organisation has configured, for the priorities it has configured. -/
abbrev Overrides := TicketPriority → Option SlaTarget

def resolvePolicy (overrides : Overrides) (priority : TicketPriority) : SlaTarget :=
  (overrides priority).getD (DEFAULT_SLA_POLICY priority)

def SLA_MAX_MINUTES : Int := 365 * 24 * 60

/-- `esPlazoValido`, with the whole number of minutes it accepted. -/
def esPlazoValido (minutos : JsNumber) : Option Int :=
  minutos.integer?.filter fun m => 1 ≤ m && m ≤ SLA_MAX_MINUTES

def makeSlaTarget (responseMinutes resolutionMinutes : JsNumber) : Except TicketingError SlaTarget :=
  match esPlazoValido responseMinutes with
  | none =>
      .error <| .invalidSlaTarget
        ("El plazo de respuesta debe ser un número entero de minutos entre 1 y "
          ++ toString SLA_MAX_MINUTES ++ ".")
  | some response =>
      match esPlazoValido resolutionMinutes with
      | none =>
          .error <| .invalidSlaTarget
            ("El plazo de resolución debe ser un número entero de minutos entre 1 y "
              ++ toString SLA_MAX_MINUTES ++ ".")
      | some resolution =>
          if resolution < response then
            .error <| .invalidSlaTarget
              "El plazo de resolución no puede ser menor que el de respuesta."
          else .ok { responseMinutes := response, resolutionMinutes := resolution }

inductive SlaTargetSource where
  | organization
  | default
deriving DecidableEq, Repr

structure EffectiveSlaTarget extends SlaTarget where
  priority : TicketPriority
  source : SlaTargetSource
deriving DecidableEq, Repr

/-- The target in force for one priority. -/
def effectiveTarget (overrides : Overrides) (priority : TicketPriority) : EffectiveSlaTarget :=
  let target := (overrides priority).getD (DEFAULT_SLA_POLICY priority)
  { priority := priority
    responseMinutes := target.responseMinutes
    resolutionMinutes := target.resolutionMinutes
    source := if overrides priority = none then .default else .organization }

def effectivePolicy (overrides : Overrides) : List EffectiveSlaTarget :=
  TicketPriority.all.map (effectiveTarget overrides)

end Policy

def MS_PER_MINUTE : Int := 60000

/-- `CALENDAR_24_7.dueAt`. -/
def CALENDAR_24_7 (source : Instant) (minutes : Int) : Instant :=
  source + minutes * MS_PER_MINUTE

/-- `Math.round` of a number of milliseconds as minutes: halves go up. -/
def roundMinutes (ms : Int) : Int :=
  (ms + 30000) / MS_PER_MINUTE

/-- A margin is shown as negative from half a minute on. -/
theorem roundMinutes_neg_iff (ms : Int) : roundMinutes ms < 0 ↔ ms < -30000 := by
  unfold roundMinutes MS_PER_MINUTE
  omega

structure SlaTimer where
  id : SlaTimerId
  tenantId : TenantId
  ticketId : TicketId
  kind : SlaKind
  startedAt : Instant
  dueAt : Instant
  stoppedAt : Option Instant
  breachedAt : Option Instant
deriving DecidableEq, Repr

namespace SlaTimer

def isRunning (t : SlaTimer) : Bool :=
  t.stoppedAt == none && t.breachedAt == none

def isBreached (t : SlaTimer) : Bool :=
  t.breachedAt != none

def isOverdue (t : SlaTimer) (now : Instant) : Bool :=
  t.isRunning && decide (t.dueAt ≤ now)

/-- Keeps the first instant a timer was stopped at. -/
def stop (t : SlaTimer) (now : Instant) : SlaTimer :=
  if t.isRunning then { t with stoppedAt := some now } else t

/-- The timer, and whether it was this call that breached it. -/
def markBreached (t : SlaTimer) (now : Instant) : SlaTimer × Bool :=
  if t.isRunning then ({ t with breachedAt := some now }, true) else (t, false)

/-- The exact quotient, rounded, where the source divides doubles. The two agree for spans of up to 2 ^ 53 milliseconds,
    some 285000 years: the difference is exact there, and so is a quotient that ends in a half; any other one is
    further from a half than its rounding error. -/
def remainingMinutesAt (t : SlaTimer) (instant : Instant) : Int :=
  roundMinutes (t.dueAt - instant)

def start (id : SlaTimerId) (tenantId : TenantId) (ticketId : TicketId) (kind : SlaKind) (minutes : Int)
    (calendar : Instant → Int → Instant) (now : Instant) : SlaTimer where
  id := id
  tenantId := tenantId
  ticketId := ticketId
  kind := kind
  startedAt := now
  dueAt := calendar now minutes
  stoppedAt := none
  breachedAt := none

section Fields

variable (t : SlaTimer) (now : Instant)

@[simp] theorem stop_id : (t.stop now).id = t.id := by
  unfold stop
  split <;> rfl

end Fields

theorem isRunning_iff (t : SlaTimer) :
    t.isRunning = true ↔ t.stoppedAt = none ∧ t.breachedAt = none := by
  simp [isRunning]

theorem isOverdue_iff (t : SlaTimer) (now : Instant) :
    t.isOverdue now = true ↔ t.stoppedAt = none ∧ t.breachedAt = none ∧ t.dueAt ≤ now := by
  simp [isOverdue, isRunning_iff, and_assoc]

end SlaTimer

inductive SlaTimerStatus where
  | running
  | met
  | breached
deriving DecidableEq, Repr

structure SlaTimerView where
  kind : SlaKind
  dueAt : Instant
  stoppedAt : Option Instant
  breachedAt : Option Instant
  status : SlaTimerStatus
  remainingMinutes : Int
deriving DecidableEq, Repr

/-- The view of a timer, from the four columns the read model selects. -/
def describeSlaTimer (kind : SlaKind) (dueAt : Instant) (stoppedAt breachedAt : Option Instant)
    (now : Instant) : SlaTimerView :=
  let status : SlaTimerStatus :=
    if breachedAt ≠ none then .breached else if stoppedAt ≠ none then .met else .running
  let referencia := (breachedAt.or stoppedAt).getD now
  { kind := kind
    dueAt := dueAt
    stoppedAt := stoppedAt
    breachedAt := breachedAt
    status := status
    remainingMinutes := roundMinutes (dueAt - referencia) }

theorem describeSlaTimer_met_iff (kind : SlaKind) (dueAt : Instant) (stoppedAt breachedAt : Option Instant)
    (now : Instant) :
    (describeSlaTimer kind dueAt stoppedAt breachedAt now).status = .met ↔
      breachedAt = none ∧ stoppedAt ≠ none := by
  cases breachedAt <;> cases stoppedAt <;> simp [describeSlaTimer]

end Helpdesk
