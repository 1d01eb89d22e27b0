/-
Module: HelpdeskApi.Queue.DeadLetters
Layer: Queue
Purpose: What the workers of all three queues have to do for a job, what they throw where a use case answers with an
  error, and the letter they leave in the dead letter queue for a job they discard or have tried in vain.
Trusted boundary: human-reviewed spec
Main exports: Task, Worker.task, UseCase.thrownFor, DeadLetter, Worker.deadLetterId, Worker.toDeadLetter,
  mark_of_task, Execution.returnsOk, not_rolledBack_of_run
-/
import HelpdeskApi.Application.Claims
import HelpdeskApi.Queue.Backend
import HelpdeskApi.Realtime.Broadcast

namespace Helpdesk

open Txn

/-- What a worker has to do for a job: run a use case, send messages to the browsers, nothing, or send it to the dead
    letter queue. -/
inductive Task where
  | run (useCase : UseCase)
  | tell (messages : List (BroadcastTicketEvent.Delivery Value))
  | ignore
  | discard (motivo : String)

def Dispatch.task : Dispatch → Task
  | .run useCase => .run useCase
  | .ignoredComment | .ignoredTransition _ => .ignore
  | .discarded motivo => .discard motivo

def RealtimeProcessor.Result.task : RealtimeProcessor.Result → Task
  | .executed published _ => .tell published
  | .discarded motivo => .discard motivo

def Worker.task : Worker → EventJobData → Task
  | .ticketRouting, data => (TicketRoutingProcessor.process data).task
  | .sla, data => (SlaProcessor.despachar data).task
  | .realtime, data => (RealtimeProcessor.process data).task

/-- The message of the `Error` a worker throws where the use case it has run answers with an error. -/
def UseCase.thrownFor (reason : TicketingError) : UseCase → String
  | .startSlaTimers _ => "No se pudieron arrancar los SLA: " ++ reason.code
  | .stopSlaTimer input =>
      match input.kind with
      | .RESPONSE => "No se pudo parar el SLA de respuesta: " ++ reason.code
      | .RESOLUTION => "No se pudo parar el SLA de resolución: " ++ reason.code
  -- of the other use cases `autoAssignTicket` is the only one a worker runs
  | _ => "Auto-asignación fallida (" ++ reason.code ++ "): " ++ reason.message

/-- The data of a `failed-job`. -/
structure DeadLetter where
  queue : String
  jobName : String
  data : EventJobData
  reason : String
  attemptsMade : Nat
  failedAt : Instant
deriving DecidableEq, Repr

namespace Worker

/-- The `jobId` of a dead letter: what it begins with, and the id of the event. -/
def deadLetterId (eventId : Uuid) : Worker → String × Uuid
  | .ticketRouting => ("dlq-", eventId)
  | .sla => ("dlq-sla-", eventId)
  | .realtime => ("dlq-realtime-", eventId)

/-- The letter `toDeadLetter` adds. A job has the name of its event. -/
def toDeadLetter (worker : Worker) (data : EventJobData) (motivo : String) (attemptsMade : Nat) (failedAt : Instant) :
    DeadLetter where
  queue := worker.queue
  jobName := data.eventName
  data := data
  reason := motivo
  attemptsMade := attemptsMade
  failedAt := failedAt

/-- No worker's letter takes the place of another's, nor that of another event. -/
theorem deadLetterId_injective {worker worker' : Worker} {eventId eventId' : Uuid}
    (same : worker.deadLetterId eventId = worker'.deadLetterId eventId') : worker = worker' ∧ eventId = eventId' := by
  obtain ⟨samePrefix, sameEvent⟩ := Prod.ext_iff.mp same
  cases worker <;> cases worker' <;> simp_all [deadLetterId]

end Worker

theorem Dispatch.task_run {d : Dispatch} {useCase : UseCase} (runs : d.task = .run useCase) : d = .run useCase := by
  cases d <;> cases runs
  rfl

/-- A worker runs a use case that claims the event of the job. -/
theorem mark_of_task {worker : Worker} {data : EventJobData} {useCase : UseCase}
    (runs : worker.task data = .run useCase) : ∃ consumer, useCase.mark = some (consumer, data.eventId) := by
  cases worker with
  | ticketRouting =>
      obtain ⟨_, numero, _, rfl⟩ := TicketRoutingProcessor.process_run (Dispatch.task_run runs)
      exact ⟨_, rfl⟩
  | sla =>
      rcases SlaProcessor.despachar_run (Dispatch.task_run runs) with ⟨priority, rfl⟩ | ⟨kind, rfl⟩
      · exact ⟨_, rfl⟩
      · exact ⟨_, rfl⟩
  | realtime =>
      change (RealtimeProcessor.process data).task = _ at runs
      cases result : RealtimeProcessor.process data <;> simp [result, RealtimeProcessor.Result.task] at runs

section Answers

variable {α : Type} (ambient : Ambient)

/-- A program that never answers with an error. -/
abbrev ReturnsOk (p : Proc sig (Except TicketingError α)) : Prop :=
  p.Within (fun _ => True) fun out => commitsResult out = true

theorem returnsOk_map {β : Type} (f : α → β) {p : Proc sig (Except TicketingError α)} (returns : ReturnsOk p) :
    ReturnsOk ((·.map f) <$> p) := by
  refine (Proc.within_map _ p).mpr ?_
  induction p with
  | done out => cases out <;> exact returns
  | call c next ih => exact ⟨trivial, fun reply => ih reply (returns.2 reply)⟩

/-- The recorder of events answers nothing. -/
theorem returnsOk_record {uuid : Nat → Uuid} {aggregate : Ticket} {a : α} :
    ReturnsOk (EventRecorder.record uuid aggregate >>= fun _ => .done (.ok a)) := by
  unfold EventRecorder.record
  simp only
  split
  · rfl
  · exact ⟨trivial, fun _ => rfl⟩

theorem AutoAssignTicket.returnsOk (input : AutoAssignTicketInput) : ReturnsOk (execute input ambient) := by
  refine .ask trivial fun first => ?_
  cases first with
  | false => rfl
  | true =>
      refine .ask trivial fun located => ?_
      cases located with
      | none => rfl
      | some ticket =>
          simp only
          split
          · rfl
          · refine .ask trivial fun agentes => ?_
            split
            · rfl
            · split
              · rfl
              · exact .ask trivial fun _ => .ask trivial fun _ => returnsOk_record

theorem StartSlaTimers.returnsOk (input : StartSlaTimersInput) : ReturnsOk (execute input ambient) := by
  refine .ask trivial fun first => ?_
  cases first with
  | false => rfl
  | true => exact .ask trivial fun overrides => .ask trivial fun _ => .ask trivial fun _ => rfl

theorem StopSlaTimer.returnsOk (input : StopSlaTimerInput) : ReturnsOk (execute input) := by
  refine .ask trivial fun first => ?_
  cases first with
  | false => rfl
  | true =>
      refine .ask trivial fun located => ?_
      cases located with
      | none => rfl
      | some timer => exact .ask trivial fun _ => rfl

/-- What a worker runs never answers with an error: it can only throw. -/
theorem Execution.returnsOk {e : Execution} {mark : Mark} (isConsumer : e.useCase.mark = some mark) :
    ReturnsOk e.program := by
  obtain ⟨useCase, ambient, requestId⟩ := e
  cases useCase with
  | autoAssignTicket input => exact returnsOk_map _ (AutoAssignTicket.returnsOk ambient input)
  | startSlaTimers input => exact returnsOk_map _ (StartSlaTimers.returnsOk ambient input)
  | stopSlaTimer input => exact returnsOk_map _ (StopSlaTimer.returnsOk input)
  | _ => cases isConsumer

/-- So its attempt is never rolled back by its answer. -/
theorem not_rolledBack_of_run {db₀ : Db} {jobs : List Execution} {history : List (Config ticketing × Move ticketing)}
    {c : Config ticketing} (run : Transition.Run Config.step (.start db₀ jobs) history c) {i : Nat}
    {s : Session ticketing} (found : c.sessions[i]? = some s) {mark : Mark}
    (isConsumer : s.job.useCase.mark = some mark) (out : Except TicketingError Output) :
    s.status ≠ .rolledBack out := by
  intro status
  let Answers (e : Execution) (out : Except TicketingError Output) : Prop :=
    e.useCase.mark ≠ none → commitsResult out = true
  have spec (e : Execution) : e.program.Satisfies (repositories.transactional.Plausible e.ctx) (fun _ => True)
      (fun _ out => Answers e out) [] := by
    cases consumer : e.useCase.mark with
    | none => exact Proc.satisfies_of_forall (fun _ => trivial) (fun _ _ some => absurd consumer some) _ _
    | some mark =>
        refine ((e.returnsOk consumer).satisfies (I := fun _ => True) (fun _ _ _ _ _ => trivial) trivial).mono
          (fun _ _ => trivial) fun _ out both _ => both.2
  have conforms := Config.conforms_of_run (A := ticketing) (R := fun _ _ => True) (Q := fun e _ out => Answers e out)
    (fun e => ⟨trivial, spec e⟩) run i s found
  obtain ⟨answers, fails⟩ := conforms.rolledBack out status
  cases (answers (by rw [isConsumer]; nofun)).symm.trans fails

end Answers

end Helpdesk
