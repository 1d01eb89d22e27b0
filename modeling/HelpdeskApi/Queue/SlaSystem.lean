/-
Module: HelpdeskApi.Queue.SlaSystem
Layer: Queue
Purpose: The system service levels live in, one atomic use case at a time: requests change tickets and
  leave messages in the outbox, the messages are delivered to `SlaProcessor` whenever and as often as the
  queue likes, and sweeps ask for the overdue timers and mark them one by one. The system remembers what
  was delivered.
Trusted boundary: human-reviewed spec
Main exports: slaDueTimers, SlaSystem, SlaAction, SlaSystem.step, SlaSystem.Stepped
-/
import HelpdeskApi.Queue.Processors
import HelpdeskApi.Application.SerialRuns

namespace Helpdesk

/-- A row of `sla_due_timers`. -/
structure DueTimerRow where
  id : SlaTimerId
  tenantId : TenantId
deriving DecidableEq, Repr

/-- `sla_due_timers`: the running timers of all tenants that are due, the longest overdue first. -/
def slaDueTimers (db : Db) (limit : Nat) (now : Instant) : List DueTimerRow :=
  let due := db.timers.rows.filter fun t => t.stoppedAt = none ∧ t.breachedAt = none ∧ t.dueAt ≤ now
  ((due.insertionSort fun a b => a.dueAt ≤ b.dueAt).take limit).map fun t =>
    { id := t.id, tenantId := t.tenantId }

/-- The database, what each sweep still has to mark, and the jobs processed so far. -/
structure SlaSystem where
  db : Db
  sweeps : List (List DueTimerRow)
  delivered : List EventJobData

/-- What can happen next: a request is served, a message of the outbox is delivered to `SlaProcessor`, a
    sweep asks for the timers that are due, or the `i`-th sweep marks the next of its timers. -/
inductive SlaAction where
  | request (e : Execution)
  | deliver (messageId : Uuid) (ambient : Ambient)
  | sweep (limit : Nat) (now : Instant)
  | mark (i : Nat) (ambient : Ambient)

namespace SlaSystem

/-- What processing a job does to the database. -/
def processed (data : EventJobData) (ambient : Ambient) (db : Db) : Db :=
  match SlaProcessor.despachar data with
  | .run useCase => (serve { useCase := useCase, ambient := ambient, requestId := data.requestId } db).2
  | _ => db

/-- The execution with which a sweep marks a timer. -/
def marking (row : DueTimerRow) (ambient : Ambient) : Execution where
  useCase := .markSlaBreached { tenantId := row.tenantId, timerId := row.id }
  ambient := ambient
  requestId := none

/-- One step of the system. Ids the generator hands out are new. -/
def step (w : SlaSystem) : SlaAction → Option SlaSystem
  | .request e =>
      if e.useCase.isRequest ∧ e.ambient.freshIn w.db then some { w with db := (serve e w.db).2 } else none
  | .deliver messageId ambient =>
      match w.db.outbox.find? messageId with
      | some message =>
          if ambient.freshIn w.db then
            some { w with db := processed message.job ambient w.db, delivered := w.delivered ++ [message.job] }
          else none
      | none => none
  | .sweep limit now => some { w with sweeps := w.sweeps ++ [slaDueTimers w.db limit now] }
  | .mark i ambient =>
      match w.sweeps[i]? with
      | some (row :: rest) =>
          if ambient.freshIn w.db then
            some { w with db := (serve (marking row ambient) w.db).2, sweeps := w.sweeps.set i rest }
          else none
      | _ => none

/-- Everything an action can do, one constructor for each way it can go. -/
inductive Stepped (w : SlaSystem) : SlaAction → SlaSystem → Prop where
  | request {e : Execution} (isRequest : e.useCase.isRequest = true) (fresh : e.ambient.freshIn w.db = true) :
      Stepped w (.request e) { w with db := w.db.after (e.committed w.db) }
  | started {messageId : Uuid} {ambient : Ambient} {message : OutboxRow} {input : StartSlaTimersInput}
      (found : w.db.outbox.find? messageId = some message) (fresh : ambient.freshIn w.db = true)
      (dispatched : SlaProcessor.despachar message.job = .run (.startSlaTimers input)) :
      Stepped w (.deliver messageId ambient)
        { w with
          db := w.db.after (StartSlaTimers.committed input ambient w.db)
          delivered := w.delivered ++ [message.job] }
  | stopped {messageId : Uuid} {ambient : Ambient} {message : OutboxRow} {kind : SlaKind}
      (found : w.db.outbox.find? messageId = some message)
      (dispatched : SlaProcessor.despachar message.job =
        .run (.stopSlaTimer (SlaProcessor.stopInput message.job kind))) :
      Stepped w (.deliver messageId ambient)
        { w with
          db := w.db.after (StopSlaTimer.committed (SlaProcessor.stopInput message.job kind) w.db)
          delivered := w.delivered ++ [message.job] }
  | passed {messageId : Uuid} {ambient : Ambient} {message : OutboxRow}
      (found : w.db.outbox.find? messageId = some message)
      (idle : ∀ useCase, SlaProcessor.despachar message.job ≠ .run useCase) :
      Stepped w (.deliver messageId ambient) { w with delivered := w.delivered ++ [message.job] }
  | sweep (limit : Nat) (now : Instant) :
      Stepped w (.sweep limit now) { w with sweeps := w.sweeps ++ [slaDueTimers w.db limit now] }
  | mark {i : Nat} {ambient : Ambient} {row : DueTimerRow} {rest : List DueTimerRow}
      (pending : w.sweeps[i]? = some (row :: rest)) (fresh : ambient.freshIn w.db = true) :
      Stepped w (.mark i ambient)
        { w with
          db := w.db.after (MarkSlaBreached.committed { tenantId := row.tenantId, timerId := row.id } ambient
            none w.db)
          sweeps := w.sweeps.set i rest }

theorem step_stepped {w w' : SlaSystem} {a : SlaAction} (taken : w.step a = some w') : w.Stepped a w' := by
  cases a with
  | request e =>
      simp only [step] at taken
      split at taken
      · rename_i allowed
        rw [Option.some.injEq, serve_committed e allowed.2] at taken
        exact taken ▸ .request allowed.1 allowed.2
      · cases taken
  | deliver messageId ambient =>
      simp only [step] at taken
      split at taken
      · rename_i message found
        split at taken
        · rename_i fresh
          rw [Option.some.injEq] at taken
          subst taken
          unfold processed
          split
          · rename_i useCase dispatched
            rw [serve_committed _ fresh]
            rcases SlaProcessor.despachar_run dispatched with ⟨priority, rfl⟩ | ⟨kind, rfl⟩
            · exact .started found fresh dispatched
            · exact .stopped found dispatched
          · rename_i idle
            exact .passed found idle
        · cases taken
      · cases taken
  | sweep limit now =>
      simp only [step, Option.some.injEq] at taken
      exact taken ▸ .sweep limit now
  | mark i ambient =>
      simp only [step] at taken
      split at taken
      · rename_i row rest pending
        split at taken
        · rename_i fresh
          rw [Option.some.injEq, serve_committed _ fresh] at taken
          exact taken ▸ .mark pending fresh
        · cases taken
      · cases taken

/-- The system before any message was delivered or any sweep begun. -/
def initial (db : Db) : SlaSystem where
  db := db
  sweeps := []
  delivered := []

/-- A timer is started for the message of a new ticket, which stops none. -/
theorem fulfils_of_started {data : EventJobData} {input : StartSlaTimersInput} (kind : SlaKind)
    (dispatched : SlaProcessor.despachar data = .run (.startSlaTimers input)) : data.fulfils kind = false := by
  by_contra fulfilled
  have stops := (SlaProcessor.despachar_stop_iff data kind).mpr (by simpa using fulfilled)
  simp [dispatched] at stops

/-- A message stops timers of one kind only. -/
theorem kind_of_stopped {data : EventJobData} {kind other : SlaKind}
    (dispatched : SlaProcessor.despachar data = .run (.stopSlaTimer (SlaProcessor.stopInput data kind)))
    (fulfilled : data.fulfils other = true) : other = kind := by
  have stops := (SlaProcessor.despachar_stop_iff data other).mpr fulfilled
  rw [dispatched] at stops
  simp only [Dispatch.run.injEq, UseCase.stopSlaTimer.injEq, SlaProcessor.stopInput,
    StopSlaTimerInput.mk.injEq] at stops
  exact stops.2.2.2.1.symm

end SlaSystem

end Helpdesk
