/-
Module: HelpdeskApi.Outbox.Publisher
Layer: Outbox
Purpose: The outbox, the queues, and the publishers that drain the one into the others. A publisher claims a
  batch of messages, which it keeps locked until its transaction ends, adds each of them to its queues and
  marks what has become of it; use cases append messages. What is added to a queue is there at once,
  whatever becomes of the transaction.
Trusted boundary: human-reviewed spec, and what the queues and the row locks of the database promise
Main exports: Db, Write, Call, Publisher, claimBatch, OutboxPublisher.publishPending, store, Job, outbox
-/
import HelpdeskApi.Library.Faults
import HelpdeskApi.Library.Scripts
import HelpdeskApi.Queue.Wire

namespace Helpdesk.Outbox

open Relational Txn

/-- The messages, and the jobs the queues have taken, with the queue each of them went to. -/
structure Db where
  outbox : Table OutboxRow
  accepted : List (String × WireJob)

def Db.empty : Db where
  outbox := .empty
  accepted := []

/-- `left(error, 1000)`. -/
def left1000 (error : String) : String :=
  .ofList (error.toList.take 1000)

inductive Write where
  | insertOutbox (rows : List OutboxRow)
  | markPublished (ids : List Uuid) (now : Instant)
  | markFailed (id : Uuid) (error : String)
  | accept (queue : String) (job : WireJob)

namespace Write

/-- The rows `outbox_mark_published` updates. -/
def publishes (ids : List Uuid) (m : OutboxRow) : Bool :=
  ids.contains m.id && m.publishedAt = none

def apply : Write → Db → Db
  | .insertOutbox rows, db => { db with outbox := rows.foldl Table.insert db.outbox }
  | .markPublished ids now, db =>
      { db with
        outbox := db.outbox.updateWhere (publishes ids) (fun m => { m with publishedAt := some now }) fun _ => rfl }
  | .markFailed id error, db =>
      { db with
        outbox := db.outbox.updateWhere (fun m => m.id = id)
          (fun m => { m with attempts := m.attempts + 1, lastError := some (left1000 error) }) fun _ => rfl }
  | .accept queue job, db => { db with accepted := db.accepted ++ [(queue, job)] }

end Write

/-- What a publisher and a use case ask of the outbox and the queues. -/
inductive Call where
  | claimBatch (limit maxAttempts : Nat)
  | add (queue : String) (message : OutboxRow)
  | markPublished (ids : List Uuid)
  | markFailed (id : Uuid) (error : String)
  | outboxAppend (records : List OutboxRecord) (requestId : Option String)

@[reducible] def Call.Reply : Call → Type
  | .claimBatch _ _ => List OutboxRow
  | .add _ _ => Except String Unit
  | .markPublished _ => Unit
  | .markFailed _ _ => Unit
  | .outboxAppend _ _ => Unit

abbrev sig : Signature where
  Call := Call
  Reply := Call.Reply

/-- An execution of `publishPending`: its settings, the instant of its transaction, and what becomes of each
    job it adds to a queue. Where adding a job throws, the job may have been stored all the same. -/
structure Publisher where
  limit : Nat
  maxAttempts : Nat
  now : Instant
  fate : String → Uuid → Fate
  detalle : String → Uuid → String

/-- `ORDER BY occurred_at, id`. -/
def oldestFirst (a b : OutboxRow) : Prop :=
  a.occurredAt < b.occurredAt ∨ (a.occurredAt = b.occurredAt ∧ a.id ≤ b.id)

instance : DecidableRel oldestFirst := fun _ _ => inferInstanceAs (Decidable (_ ∨ _))

/-- The messages `outbox_claim_batch` selects, without those that others hold. -/
def claimBatch (limit maxAttempts : Nat) (held : Uuid → Bool) (db : Db) : List OutboxRow :=
  let pending := db.outbox.rows.filter fun m => m.publishedAt = none ∧ m.attempts < maxAttempts ∧ held m.id = false
  (pending.insertionSort oldestFirst).take limit

/-- How adding a job comes out. -/
def Publisher.adding (p : Publisher) (queue : String) (message : OutboxRow) :
    Outcome sig Write Uuid (.add queue message) :=
  match p.fate queue message.id with
  | .answers =>
      { reply := .ok (), writes := [], effects := [.accept queue (Helpdesk.OutboxPublisher.data message)], locks := [] }
  | .lost =>
      { reply := .error (p.detalle queue message.id)
        writes := []
        effects := [.accept queue (Helpdesk.OutboxPublisher.data message)]
        locks := [] }
  | .throws => { reply := .error (p.detalle queue message.id), writes := [], effects := [], locks := [] }

/-- How a call comes out; not at all where it throws. -/
def answer (p : Publisher) (held : Uuid → Bool) : (c : Call) → Db → Option (Outcome sig Write Uuid c)
  | .claimBatch limit maxAttempts, db =>
      let batch := claimBatch limit maxAttempts held db
      some { reply := batch, writes := [], effects := [], locks := batch.map OutboxRow.id }
  | .add queue message, _ => some (p.adding queue message)
  | .markPublished ids, _ => some { reply := (), writes := [.markPublished ids p.now], effects := [], locks := [] }
  | .markFailed id error, _ => some { reply := (), writes := [.markFailed id error], effects := [], locks := [] }
  | .outboxAppend records requestId, db =>
      -- the primary key
      if (records.map OutboxRecord.id).Nodup ∧ ∀ record ∈ records, db.outbox.find? record.id = none then
        some
          { reply := ()
            writes := if records = [] then [] else [.insertOutbox (records.map (·.row requestId))]
            effects := []
            locks := [] }
      else none

/-- The outbox and the queues, as transactions meet them. -/
abbrev store : Store sig where
  Db := Db
  Ctx := Publisher
  Write := Write
  Key := Uuid
  apply := Write.apply
  answers p held c db := (answer p held c db).toList

/-- `QueueRegistry.get`: the queues that are registered. -/
def registered (queue : String) : Bool :=
  [TICKET_ROUTING_QUEUE, SLA_QUEUE, REALTIME_QUEUE].contains queue

namespace OutboxReader

/-- Claims a batch and goes on with it, in the transaction that keeps it locked. -/
def withClaimedBatch {α : Type} (limit maxAttempts : Nat) (fn : List OutboxRow → Proc sig α) : Proc sig α :=
  .call (S := sig) (.claimBatch limit maxAttempts) fn

@[simp] def markPublished (ids : List Uuid) : Proc sig Unit :=
  if ids.length = 0 then return () else .ask (S := sig) (.markPublished ids)

@[simp] def markFailed (id : Uuid) (error : String) : Proc sig Unit :=
  .ask (S := sig) (.markFailed id error)

end OutboxReader

namespace OutboxPublisher

/-- The rest of `enqueue`: the queues the message has not been added to yet. What it throws it answers here
    as an error. -/
def addTo (message : OutboxRow) : List String → Proc sig (Except String Unit)
  | [] => return .ok ()
  | nombre :: colas => do
      if registered nombre then
        match ← Proc.ask (S := sig) (.add nombre message) with
        | .ok () => addTo message colas
        | .error detalle => return .error detalle
      else return .error ("Cola no registrada: " ++ nombre)

def enqueue (message : OutboxRow) : Proc sig (Except String Unit) :=
  addTo message (queuesFor message.eventName)

/-- The loop over the batch, with the ids that have been enqueued so far. -/
def publishBatch : List OutboxRow → List Uuid → Proc sig Unit
  | [], publicados => OutboxReader.markPublished publicados
  | message :: messages, publicados => do
      match ← enqueue message with
      | .ok () => publishBatch messages (publicados ++ [message.id])
      | .error detalle => do
          OutboxReader.markFailed message.id detalle
          publishBatch messages publicados

def publishPending (limit maxAttempts : Nat) : Proc sig Nat :=
  OutboxReader.withClaimedBatch limit maxAttempts fun messages => do
    publishBatch messages []
    return messages.length

end OutboxPublisher

/-- What runs: publishers, and use cases whose transactions append messages. -/
inductive Job where
  | publishPending (publisher : Publisher)
  | useCase (records : List OutboxRecord) (requestId : Option String)

/-- A use case adds nothing to a queue. -/
def Job.publisher : Job → Publisher
  | .publishPending publisher => publisher
  | .useCase _ _ => { limit := 0, maxAttempts := 0, now := 0, fate := fun _ _ => .throws, detalle := fun _ _ => "" }

def Job.program : Job → Proc sig Nat
  | .publishPending publisher => OutboxPublisher.publishPending publisher.limit publisher.maxAttempts
  | .useCase records requestId => (fun _ => 0) <$> Proc.ask (S := sig) (.outboxAppend records requestId)

/-- Publishers of any number of instances and use cases, interleaved one call at a time. Whatever throws
    where it is not caught ends the transaction, as the death of the process does: the session aborts. -/
abbrev outbox : App where
  sig := sig
  store := store
  Job := Job
  Out := Nat
  ctx := Job.publisher
  program := Job.program
  commits _ := true

end Helpdesk.Outbox
