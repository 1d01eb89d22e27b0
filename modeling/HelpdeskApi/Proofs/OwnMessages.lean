/-
Module: HelpdeskApi.Proofs.OwnMessages
Layer: Proofs
Purpose: The workers understand what the use cases write. Where every message tells something that has happened to a
  ticket, so do those that are added, and no worker ever discards one of them or hears of an error from a use case
  it runs. A job can only fail by what is thrown, and a letter is left only where that has happened at every attempt.
Trusted boundary: none
Main exports: OutboxRow.Genuine, Worker.understands, Deliveries.Understanding, own_messages_understood
-/
import HelpdeskApi.Application.Announcements
import HelpdeskApi.Proofs.JobCustody
import HelpdeskApi.Proofs.WireFormat

namespace Helpdesk

open Txn Transition

/-- A message whose job carries something that has happened to a ticket. -/
def OutboxRow.Genuine (m : OutboxRow) : Prop :=
  ∃ (fact : TicketingEvent) (ticketId : TicketId) (tenantId : TenantId) (occurredAt : Instant),
    Carries m.job m.id (fact.integration ticketId tenantId occurredAt)

theorem OutboxRow.TellsFact.genuine {m : OutboxRow} (tells : m.TellsFact) : m.Genuine := by
  obtain ⟨⟨e, id⟩, requestId, ⟨fact, ticketId, tenantId, occurredAt, rfl⟩, rfl⟩ := tells
  exact ⟨fact, ticketId, tenantId, occurredAt, rfl, rfl, rfl, rfl, rfl, rfl, rfl, fun _ => rfl⟩

namespace Worker

theorem queue_injective {worker worker' : Worker} (same : worker.queue = worker'.queue) : worker = worker' := by
  cases worker <;> cases worker' <;> first | rfl | exact absurd same (by decide)

/-- What a worker acts on makes it run a use case, or do nothing, or publish the views of the fact. -/
theorem task_of_accepted {worker : Worker} {data : EventJobData} {eventId : Uuid} {ticketId : TicketId}
    {tenantId : TenantId} {occurredAt : Instant} {fact : TicketingEvent} {queue : String}
    (accepted : Accepted data eventId ticketId tenantId occurredAt fact queue) (listens : worker.queue = queue) :
    (∃ useCase, worker.task data = .run useCase) ∨ worker.task data = .ignore ∨
      worker.task data = .tell (views ticketId tenantId occurredAt fact) := by
  cases accepted with
  | routed runs =>
      obtain rfl : worker = .ticketRouting := queue_injective listens
      exact .inl ⟨_, congrArg Dispatch.task runs⟩
  | started runs | answered _ runs | resolved runs =>
      obtain rfl : worker = .sla := queue_injective listens
      exact .inl ⟨_, congrArg Dispatch.task runs⟩
  | notAnswered _ ignores | notResolved _ ignores =>
      obtain rfl : worker = .sla := queue_injective listens
      exact .inr (.inl (congrArg Dispatch.task ignores))
  | shown executes =>
      obtain rfl : worker = .realtime := queue_injective listens
      exact .inr (.inr (congrArg RealtimeProcessor.Result.task executes))

/-- So does a genuine message that is routed to its queue. -/
theorem task_of_genuine {worker : Worker} {m : OutboxRow} (genuine : m.Genuine)
    (routed : worker.queue ∈ queuesFor m.eventName) :
    (∃ useCase, worker.task m.job = .run useCase) ∨ worker.task m.job = .ignore ∨
      ∃ (fact : TicketingEvent) (ticketId : TicketId) (tenantId : TenantId) (occurredAt : Instant),
        Carries m.job m.id (fact.integration ticketId tenantId occurredAt) ∧
          worker.task m.job = .tell (views ticketId tenantId occurredAt fact) := by
  obtain ⟨fact, ticketId, tenantId, occurredAt, carries⟩ := genuine
  have sameName : m.eventName = (fact.integration ticketId tenantId occurredAt).eventName := carries.eventName
  rw [sameName] at routed
  rcases task_of_accepted (accepted_of_carries fact carries routed) rfl with runs | ignores | tells
  · exact .inl runs
  · exact .inr (.inl ignores)
  · exact .inr (.inr ⟨fact, ticketId, tenantId, occurredAt, carries, tells⟩)

/-- The worker of a queue that a genuine message is routed to can make something of it. -/
theorem understands {worker : Worker} {m : OutboxRow} (genuine : m.Genuine)
    (routed : worker.queue ∈ queuesFor m.eventName) (motivo : String) : worker.task m.job ≠ .discard motivo := by
  intro discards
  rcases worker.task_of_genuine genuine routed with ⟨useCase, runs⟩ | ignores | ⟨fact, _, _, _, _, tells⟩
  · cases discards.symm.trans runs
  · cases discards.symm.trans ignores
  · cases discards.symm.trans tells

end Worker

namespace Deliveries

/-- Every message is genuine, no worker discards the job of one, and none answers a job with an error. Every letter is
    about a job that has failed at all its attempts. -/
structure Understanding (σ : Deliveries) : Prop where
  genuine : ∀ m ∈ σ.backend.db.outbox.rows, m.Genuine
  kept : ∀ worker id data motivo, σ.Routed worker id data → worker.task data ≠ .discard motivo
  answers : ∀ worker id job attempt reason, σ.queues worker id = some job → attempt.fate = .answers →
    σ.verdict worker job attempt ≠ some (.fail reason)
  letters : ∀ key letter, σ.deadLetter key = some letter → ∃ worker id job, key = worker.deadLetterId id ∧
    σ.queues worker id = some job ∧ job.data = letter.data.data ∧ job.stage = .failed letter.data.reason ∧
      job.attemptsMade = job.attempts

variable {db₀ : Db} {jobs : List Execution} {history : List (Deliveries × DeliveryMove)} {σ : Deliveries}

/-- What is answered is no failure, since no use case that a worker runs is rolled back by its answer. -/
theorem verdict_of_answers (run : Run step (start db₀ jobs) history σ) {worker : Worker} {id : Uuid}
    {job : JobQueue.Job EventJobData (Option Nat)} {attempt : Attempt} (known : σ.queues worker id = some job)
    (answers : attempt.fate = .answers) (reason : String) : σ.verdict worker job attempt ≠ some (.fail reason) := by
  intro ends
  obtain ⟨moves, ran⟩ := backend_of_run run
  have fits := ((sound_of_run run).jobs worker id job known).2
  simp only [verdict, answers] at ends
  split at ends
  · split at ends
    · rename_i i active
      rw [active] at fits
      obtain ⟨s, found, works⟩ := fits
      obtain ⟨consumer, isMark⟩ := mark_of_task works
      rw [found, Option.map_some] at ends
      split at ends
      · cases ends
      · rename_i rolledBack
        exact not_rolledBack_of_run ran found isMark _ (Option.some.inj rolledBack)
      · cases ends
    · cases ends
  · cases ends

/-- Where all messages are genuine to begin with, they always are. -/
theorem genuine_of_run (genuine : ∀ m ∈ db₀.outbox.rows, m.Genuine) (run : Run step (start db₀ jobs) history σ) :
    ∀ m ∈ σ.backend.db.outbox.rows, m.Genuine := by
  intro m stored
  obtain ⟨moves, ran⟩ := backend_of_run run
  rcases tellsFact_of_run ran stored with old | tells
  · exact genuine m old
  · exact tells.genuine

/-- So the workers understand them. -/
theorem own_messages_understood (genuine : ∀ m ∈ db₀.outbox.rows, m.Genuine)
    (run : Run step (start db₀ jobs) history σ) : σ.Understanding := by
  have genuineNow := genuine_of_run genuine run
  have kept (worker : Worker) (id : Uuid) (data : EventJobData) (motivo : String) (routed : σ.Routed worker id data) :
      worker.task data ≠ .discard motivo := by
    obtain ⟨m, stored, listens, rfl⟩ := routed
    exact worker.understands (genuineNow m (Relational.Table.mem_of_find? stored)) listens motivo
  refine ⟨genuineNow, kept, fun _ _ _ _ reason known answers => verdict_of_answers run known answers reason, ?_⟩
  intro key letter posted
  obtain ⟨worker, id, isKey, justified⟩ := (sound_of_run run).letters key letter posted
  rcases justified.cause with discards | ⟨job, known, isData, failed, exhausted, _⟩
  · exact absurd discards (kept worker id _ _ justified.routed)
  · exact ⟨worker, id, job, isKey, known, isData, failed, exhausted⟩

section Example

/-- A ticket is created, and the only attempt to start its timers throws. -/
def creation : Execution :=
  exampleExecution 0 (.createTicket ⟨⟨1⟩, ⟨2⟩, "Hola", "No entra", .HIGH⟩)

def creationMoves : List DeliveryMove :=
  [.backend (.call 0 0), .backend (.call 0 0), .backend (.call 0 0), .backend (.call 0 0), .backend (.finish 0),
    .enqueue .sla 102 1, .take .sla 102 exampleUuid (exampleAmbient 3), .process .sla 102 (throwing "no connection"),
    .onFailed .sla 102 answering]

end Example

theorem own_messages_understood_example : ∃ history σ letter, Run step (start .empty [creation]) history σ ∧
    σ.deadLetter ("dlq-sla-", 102) = some letter ∧ letter.data.reason = "no connection" ∧ σ.Understanding := by
  have possible : (play step (start .empty [creation]) creationMoves).map
      (fun σ => (σ.deadLetter ("dlq-sla-", 102)).map fun letter => letter.data.reason) =
        some (some "no connection") := by
    decide
  obtain ⟨σ, played, shown⟩ := Option.map_eq_some_iff.mp possible
  obtain ⟨letter, posted, reason⟩ := Option.map_eq_some_iff.mp shown
  have run := play_run played
  have nothing : ∀ m ∈ Db.empty.outbox.rows, m.Genuine := fun _ stored => (nomatch stored)
  exact ⟨_, σ, letter, run, posted, reason, own_messages_understood nothing run⟩

end Deliveries

end Helpdesk
