/-
Module: HelpdeskApi.Queue.Wire
Layer: Queue
Purpose: The way of an event from the outbox to a worker. The instant goes through a column of type
  `timestamp(3)` and comes to the worker as a text, and the payload goes through a column of type `jsonb`,
  which keeps the fields of an object in an order of its own. A worker reads from a job what the outbox
  was given.
Trusted boundary: human-reviewed spec
Main exports: timestamp3, jsonb, OutboxRow.readBack, WireJob, OutboxPublisher.enqueue, WireJob.read,
  read_data, readBack_spec
-/
import HelpdeskApi.Queue.Processors
import HelpdeskApi.Domain.Commands

namespace Helpdesk

/-- The instants a `timestamp(3)` can hold, from 4713 BC on and before the year 294277; other instants are
    refused. -/
def timestamp3 (t : Instant) : Option Instant :=
  if -210866803200000 ≤ t ∧ t < 9224318016000000 then some t else none

/-- The order in which `jsonb` keeps fields: shorter names first. -/
def fieldOrder (f g : String × Value) : Bool :=
  f.1.utf8ByteSize < g.1.utf8ByteSize ∨ (f.1.utf8ByteSize = g.1.utf8ByteSize ∧ f.1 ≤ g.1)

/-- The texts `jsonb` refuses: it has no way to write the character 0. -/
def Value.hasNul : Value → Bool
  | .str s => s.toList.contains (.ofNat 0)
  | _ => false

/-- What a `jsonb` column gives back for an object. -/
def jsonb (p : Payload) : Option Payload :=
  if p.any fun field => field.2.hasNul then none else some (p.mergeSort fieldOrder)

/-- No two fields of an object have one name. -/
def Payload.DistinctNames (p : Payload) : Prop :=
  (p.map Prod.fst).Nodup

theorem Payload.field?_eq_some_iff {p : Payload} (distinct : p.DistinctNames) (name : String) (v : Value) :
    p.field? name = some v ↔ (name, v) ∈ p := by
  induction p with
  | nil => simp [Payload.field?]
  | cons field rest ih =>
      obtain ⟨name', v'⟩ := field
      obtain ⟨new, distinctRest⟩ := List.nodup_cons.mp distinct
      rw [Payload.field?, List.lookup_cons, List.mem_cons]
      by_cases same : name = name'
      · subst same
        have notLater : (name, v) ∉ rest := fun later =>
          new (List.mem_map.mpr ⟨(name, v), later, rfl⟩)
        simp [notLater, eq_comm]
      · have different : (name == name') = false := beq_eq_false_iff_ne.mpr same
        have notFirst : (name, v) ≠ (name', v') := fun first => same (Prod.mk.inj first).1
        rw [different]
        simpa [notFirst, Payload.field?] using ih distinctRest

/-- The order of the fields does not matter to who reads them by name. -/
theorem field?_of_jsonb {p p' : Payload} (distinct : p.DistinctNames) (kept : jsonb p = some p') (name : String) :
    p'.field? name = p.field? name := by
  unfold jsonb at kept
  split at kept
  · cases kept
  · cases kept
    have same : (p.mergeSort fieldOrder).Perm p := List.mergeSort_perm p fieldOrder
    have distinct' : Payload.DistinctNames (p.mergeSort fieldOrder) := (same.map _).nodup_iff.mpr distinct
    ext v
    rw [Payload.field?_eq_some_iff distinct', Payload.field?_eq_some_iff distinct, same.mem_iff]

/-- What is read from the columns of a message, if they took it. -/
def OutboxRow.readBack (m : OutboxRow) : Option OutboxRow := do
  let occurredAt ← timestamp3 m.occurredAt
  let payload ← jsonb m.payload
  some { m with occurredAt := occurredAt, payload := payload }

/-- A job as it lies in a queue. -/
structure WireJob where
  eventId : Uuid
  tenantId : TenantId
  aggregateType : String
  aggregateId : Uuid
  eventName : String
  version : Int
  payload : Payload
  occurredAt : String
  requestId : Option String
deriving DecidableEq

namespace OutboxPublisher

/-- `EventJobData`, with the instant in text. -/
def data (message : OutboxRow) : WireJob where
  eventId := message.id
  tenantId := message.tenantId
  aggregateType := message.aggregateType
  aggregateId := message.aggregateId
  eventName := message.eventName
  version := message.version
  payload := message.payload
  occurredAt := Calendar.isoText message.occurredAt
  requestId := message.requestId

/-- The jobs of a message, with the queues they go to. -/
def enqueue (message : OutboxRow) : List (String × WireJob) :=
  (queuesFor message.eventName).map fun nombre => (nombre, data message)

end OutboxPublisher

/-- `new Date(text)`, for a text that `toISOString` writes. -/
def newDate (text : String) : Option Instant :=
  Calendar.ofIsoText text

/-- What a worker works with. -/
def WireJob.read (job : WireJob) : Option EventJobData :=
  (newDate job.occurredAt).map fun occurredAt =>
    { eventId := job.eventId
      tenantId := job.tenantId
      aggregateType := job.aggregateType
      aggregateId := job.aggregateId
      eventName := job.eventName
      version := job.version
      payload := job.payload
      occurredAt := occurredAt
      requestId := job.requestId }

/-- A worker works with the job of the message it was enqueued for. -/
theorem read_data {m : OutboxRow} (valid : Ticket.ValidDate m.occurredAt) :
    (OutboxPublisher.data m).read = some m.job := by
  unfold WireJob.read OutboxPublisher.data newDate
  dsimp only
  rw [Calendar.ofIsoText_isoText valid]
  rfl

/-- The columns of a message lose nothing but the order of the fields. -/
theorem readBack_spec {m m' : OutboxRow} (stored : m.readBack = some m') :
    ∃ payload, jsonb m.payload = some payload ∧ m' = { m with payload := payload } := by
  obtain ⟨occurredAt, fits, rest⟩ := Option.bind_eq_some_iff.mp stored
  obtain ⟨payload, kept, isRow⟩ := Option.bind_eq_some_iff.mp rest
  have sameInstant : m.occurredAt = occurredAt := by
    unfold timestamp3 at fits
    split at fits
    · exact Option.some.inj fits
    · cases fits
  rw [← sameInstant] at isRow
  exact ⟨payload, kept, (Option.some.inj isRow).symm⟩

end Helpdesk
