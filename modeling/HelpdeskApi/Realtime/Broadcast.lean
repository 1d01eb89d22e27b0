/-
Module: HelpdeskApi.Realtime.Broadcast
Layer: Realtime
Purpose: What the worker of the `realtime` queue makes of a job: the messages an event is translated into,
  and whom each of them is for.
Trusted boundary: human-reviewed spec
Main exports: uuidText, UnknownValue, RealtimeMessage, BroadcastTicketEvent.deliveriesFor,
  BroadcastTicketEvent.execute, RealtimeProcessor.process
-/
import HelpdeskApi.Queue.Processors
import HelpdeskApi.Realtime.Gateway

namespace Helpdesk

/-- A hexadecimal digit, in lower case. -/
def hexDigit (d : Nat) : UInt16 :=
  if d < 10 then .ofNat (48 + d) else .ofNat (87 + d)

theorem isHexDigit_hexDigit {d : Nat} (small : d < 16) : isHexDigit (hexDigit d) = true := by
  have all : ∀ d < 16, isHexDigit (hexDigit d) = true := by decide
  exact all d small

/-- The last `width` hexadecimal digits of a number. -/
def hexDigits : Nat → Nat → JsString
  | 0, _ => []
  | width + 1, n => hexDigit (n / 16 ^ width % 16) :: hexDigits width n

/-- The text of a UUID. -/
def uuidText (u : Uuid) : UuidText where
  text := hexDigits 8 (u / 16 ^ 24) ++ 45 :: hexDigits 4 (u / 16 ^ 20) ++ 45 :: hexDigits 4 (u / 16 ^ 16) ++
    45 :: hexDigits 4 (u / 16 ^ 12) ++ 45 :: hexDigits 12 u
  wellFormed := by
    have digit (n : Nat) : isHexDigit (hexDigit (n % 16)) = true := isHexDigit_hexDigit (Nat.mod_lt _ (by decide))
    simp [isUuid, hexDigits, digit]

/-- The values of payloads, of which the use case only knows how to make an id, an instant and `null`. -/
class UnknownValue (V : Type) where
  uuid : Uuid → V
  iso : Instant → V
  null : V

instance : UnknownValue Value where
  uuid := .uuid
  iso := .iso
  null := .null

/-- What a client is sent. A field may be `undefined`. -/
structure RealtimeMessage (V : Type) where
  event : String
  payload : List (String × Option V)
deriving DecidableEq

structure BroadcastInput (V : Type) where
  eventName : String
  version : Int
  tenantId : TenantId
  ticketId : TicketId
  occurredAt : Instant
  payload : List (String × V)

/-- `input.payload[name]`. -/
def BroadcastInput.field? {V : Type} (input : BroadcastInput V) (name : String) : Option V :=
  input.payload.lookup name

inductive BroadcastOutcome where
  | broadcast (audiences : Nat)
  | ignored (detail : String)
deriving DecidableEq

namespace BroadcastTicketEvent

/-- A message and whom it is for. -/
structure Delivery (V : Type) where
  audience : RealtimeAudience
  message : RealtimeMessage V
deriving DecidableEq

variable {V : Type}

section Audiences

variable (input : BroadcastInput V)

def tenant : RealtimeAudience :=
  .tenant (uuidText input.tenantId.uuid)

def staff : RealtimeAudience :=
  .staff (uuidText input.tenantId.uuid)

def ticket : RealtimeAudience :=
  .ticket (uuidText input.tenantId.uuid) (uuidText input.ticketId.uuid).text

/-- The fields every message has. -/
def base [UnknownValue V] : List (String × Option V) :=
  [("ticketId", some (UnknownValue.uuid input.ticketId.uuid)),
    ("occurredAt", some (UnknownValue.iso input.occurredAt))]

/-- `?? null`. -/
def orNull [UnknownValue V] (field : Option V) : Option V :=
  some (field.getD UnknownValue.null)

end Audiences

def deliveriesFor [UnknownValue V] (input : BroadcastInput V) : List (Delivery V) :=
  if input.eventName = "ticket.created" then
    [{ audience := tenant input
       message :=
        { event := "ticket.created"
          payload := base input ++
            [("number", input.field? "number"), ("subject", input.field? "subject"),
              ("priority", input.field? "priority"), ("status", input.field? "status")] } }]
  else if input.eventName = "ticket.status_changed" then
    [tenant input, ticket input].map fun audience =>
      { audience := audience
        message :=
          { event := "ticket.status_changed"
            payload := base input ++ [("status", input.field? "to")] } }
  else if input.eventName = "comment.added" then
    [{ audience := ticket input
       message :=
        { event := "comment.added"
          payload := base input ++ [("commentId", input.field? "commentId")] } }]
  else if input.eventName = "ticket.assigned" ∨ input.eventName = "ticket.unassigned" then
    [{ audience := staff input
       message :=
        { event := input.eventName
          payload := base input ++
            [("assigneeId", orNull (input.field? "assigneeId")),
              ("status", input.field? "status")] } }]
  else if input.eventName = "sla.breached" then
    [{ audience := staff input
       message :=
        { event := "sla.breached"
          payload := base input ++
            [("kind", input.field? "kind"), ("dueAt", input.field? "dueAt"),
              ("priority", input.field? "priority"),
              ("assigneeId", orNull (input.field? "assigneeId"))] } }]
  else []

/-- What is published, in this order, and the answer. -/
def execute [UnknownValue V] (input : BroadcastInput V) : List (Delivery V) × BroadcastOutcome :=
  match deliveriesFor input with
  | [] => ([], .ignored ("evento sin vista: " ++ input.eventName))
  | deliveries => (deliveries, .broadcast deliveries.length)

end BroadcastTicketEvent

namespace RealtimeProcessor

/-- What the worker does with a job: it publishes some messages and answers something, or it sends the job
    to the dead letter queue. -/
inductive Result where
  | executed (published : List (BroadcastTicketEvent.Delivery Value)) (outcome : BroadcastOutcome)
  | discarded (motivo : String)
deriving DecidableEq

def process (data : EventJobData) : Result :=
  if data.aggregateType ≠ "ticket" then .discarded ("agregado no manejado: " ++ data.aggregateType)
  else
    let executed := BroadcastTicketEvent.execute
      { eventName := data.eventName
        version := data.version
        tenantId := data.tenantId
        ticketId := ⟨data.aggregateId⟩
        occurredAt := data.occurredAt
        payload := data.payload }
    .executed executed.1 executed.2

end RealtimeProcessor

end Helpdesk
