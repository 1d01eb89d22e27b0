/-
Module: HelpdeskApi.Queue.Backend
Layer: Queue
Purpose: All that runs in the background together with what sets it off, one atomic use case at a time: a
  request is served, a worker takes the job of a message of the outbox, or a sweep marks a timer. Jobs come
  in any order and as often as the queues like. Each of them runs under the id of what it was set off by.
Trusted boundary: human-reviewed spec
Main exports: Worker, BackendAction, BackendAction.execution, BackendAction.step, step_eq_some_iff,
  AddsUnder, addsUnder_serve
-/
import HelpdeskApi.Queue.Processors
import HelpdeskApi.Application.SerialRuns
import HelpdeskApi.Observability.RequestContext

namespace Helpdesk

open Relational Txn

/-- The use case a worker runs for a job, if it runs one. -/
def Dispatch.useCase : Dispatch → Option UseCase
  | .run useCase => some useCase
  | _ => none

inductive Worker where
  | ticketRouting
  | sla
  | realtime
deriving DecidableEq, Repr

namespace Worker

/-- The queue a worker listens to. -/
def queue : Worker → String
  | .ticketRouting => TICKET_ROUTING_QUEUE
  | .sla => SLA_QUEUE
  | .realtime => REALTIME_QUEUE

/-- The use case a worker runs for a job on the database. -/
def useCase : Worker → EventJobData → Option UseCase
  | .ticketRouting, data => (TicketRoutingProcessor.process data).useCase
  | .sla, data => (SlaProcessor.despachar data).useCase
  -- this one tells the browsers, and writes nothing
  | .realtime, _ => none

end Worker

/-- What can happen next. -/
inductive BackendAction where
  | http (request : HttpRequest) (useCase : UseCase) (ambient : Ambient)
  | job (worker : Worker) (messageId : Uuid) (generated : RandomUuid) (ambient : Ambient)
  | mark (input : MarkSlaBreachedInput) (ambient : Ambient)

namespace BackendAction

/-- The execution of an action, with the id of the request it is traced back to. Sweeps have none. -/
def execution (db : Db) : BackendAction → Option Execution
  | .http request useCase ambient =>
      if useCase.isRequest then
        some { useCase := useCase, ambient := ambient, requestId := some request.requestId }
      else none
  | .job worker messageId generated ambient =>
      match db.outbox.find? messageId with
      | some m =>
          if worker.queue ∈ queuesFor m.eventName then
            (worker.useCase m.job).map fun useCase =>
              { useCase := useCase
                ambient := ambient
                requestId := some (runWithJobContext m.job.requestId generated) }
          else none
      | none => none
  | .mark input ambient => some { useCase := .markSlaBreached input, ambient := ambient, requestId := none }

/-- One step of the backend. -/
def step (db : Db) (a : BackendAction) : Option Db :=
  (a.execution db).bind fun e => serially db e

theorem step_eq_some_iff {db db' : Db} {a : BackendAction} : step db a = some db' ↔
    ∃ e, a.execution db = some e ∧ e.ambient.freshIn db = true ∧ db' = (serve e db).2 := by
  simp only [step, serially, Option.bind_eq_some_iff, Option.ite_none_right_eq_some, Option.some.injEq,
    eq_comm (b := db')]

/-- The execution of a job. -/
theorem execution_job {db : Db} {worker : Worker} {messageId : Uuid} {generated : RandomUuid} {ambient : Ambient}
    {e : Execution} (runs : (job worker messageId generated ambient).execution db = some e) :
    ∃ m, db.outbox.find? messageId = some m ∧ worker.queue ∈ queuesFor m.eventName ∧
      worker.useCase m.job = some e.useCase ∧ e.ambient = ambient ∧
      e.requestId = some (runWithJobContext m.requestId generated) := by
  simp only [execution] at runs
  split at runs
  · rename_i m found
    split at runs
    · rename_i listens
      obtain ⟨useCase, asked, rfl⟩ := Option.map_eq_some_iff.mp runs
      exact ⟨m, found, listens, asked, rfl, rfl⟩
    · cases runs
  · cases runs

end BackendAction

/-- The messages that are added carry this id. -/
def AddsUnder (requestId : Option String) (db db' : Db) : Prop :=
  ∀ m ∈ db'.outbox.rows, m ∈ db.outbox.rows ∨ m.requestId = requestId

theorem AddsUnder.refl (requestId : Option String) (db : Db) : AddsUnder requestId db db :=
  fun _ stored => .inl stored

theorem AddsUnder.trans {requestId : Option String} {db₁ db₂ db₃ : Db} (first : AddsUnder requestId db₁ db₂)
    (second : AddsUnder requestId db₂ db₃) : AddsUnder requestId db₁ db₃ := by
  intro m stored
  rcases second m stored with old | new
  · exact first m old
  · exact .inr new

/-- Whatever a repository appends carries the id of the session. -/
theorem addsUnder_exec {ctx : Ctx} {c : Call} {db : Db} {reply : c.Reply} {writes : List Write}
    (answered : exec ctx c db = some (reply, writes)) : AddsUnder ctx.requestId db (db.after writes) := by
  intro m stored
  rcases mem_outbox_after stored with old | ⟨rows, written, inside⟩
  · exact .inl old
  · rcases exec_writes answered with rfl | ⟨w, isWrite, rfl⟩
    · cases written
    · rw [List.mem_singleton] at written
      subst written
      cases c with
      | outboxAppend records =>
          simp only [Call.write?, Option.some.injEq, Write.insertOutbox.injEq] at isWrite
          subst isWrite
          obtain ⟨record, _, rfl⟩ := List.mem_map.mp inside
          exact .inr rfl
      | _ => simp [Call.write?] at isWrite

/-- So does whatever an execution leaves behind, for the id it runs under. -/
theorem addsUnder_serve (e : Execution) (db : Db) : AddsUnder e.requestId db (serve e db).2 :=
  Handler.transact_of_calls (.refl e.requestId) .trans addsUnder_exec _ _ _

/-- What is in the outbox stays as it is. -/
def KeepsMessages (db db' : Db) : Prop :=
  ∀ id m, db.outbox.find? id = some m → db'.outbox.find? id = some m

theorem keepsMessages_serve (e : Execution) (db : Db) : KeepsMessages db (serve e db).2 :=
  Handler.transact_kept (η := repositories) (fun _ _ _ found => found)
    (fun first second id m found => second id m (first id m found))
    (fun w _ _ _ found => find?_outbox_after [w] found) _ _ _

end Helpdesk
