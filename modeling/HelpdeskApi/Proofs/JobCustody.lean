/-
Module: HelpdeskApi.Proofs.JobCustody
Layer: Proofs
Purpose: No job is lost between the queues and the workers. Whatever throws, whoever dies and however the calls
  interleave, a job that was added is still to be done, or has failed and is kept, or has been done: once, if it changes
  the database. The dead letter queue says of each of its letters why it was written, and keeps it.
Trusted boundary: none
Main exports: Deliveries.Settled, no_job_lost, deadLetters_justified
-/
import HelpdeskApi.Proofs.ExactlyOnce
import HelpdeskApi.Queue.JobLives

namespace Helpdesk

open Relational Txn Transition

namespace Deliveries

/-- What has come of a job that a worker has done: the event is marked, and one attempt took effect, unless it was
    marked from the start; or the browsers were told; or there was nothing to do; or there is a dead letter with it. -/
inductive Settled (db₀ : Db) (σ : Deliveries) (worker : Worker) (data : EventJobData) : Prop where
  | done {useCase : UseCase} {k : Mark} (runs : worker.task data = .run useCase) (isMark : useCase.mark = some k)
      (marked : (σ.backend.db.processed.find? k).isSome = true)
      (once : (db₀.processed.find? k).isSome = true ∨ ∃ i, ∀ j, Effective σ.backend k j ↔ j = i)
  | told {messages : List (BroadcastTicketEvent.Delivery Value)} (tells : worker.task data = .tell messages)
      (told : ∀ message ∈ messages, message ∈ σ.told)
  | ignored (ignores : worker.task data = .ignore)
  | discarded {motivo : String} {letter : JobQueue.Job DeadLetter Empty} (discards : worker.task data = .discard motivo)
      (posted : σ.deadLetter (worker.deadLetterId data.eventId) = some letter) (same : letter.data.data = data)

variable {db₀ : Db} {jobs : List Execution} {history : List (Deliveries × DeliveryMove)} {σ : Deliveries}
  {worker : Worker} {id : Uuid} {data : EventJobData}

section Settling

variable {c : Config ticketing} {moves : List (Config ticketing × Move ticketing)}

/-- The work of a mark that is there was done once, or before everything else. -/
theorem once_of_marked (run : Run Config.step (.start db₀ jobs) moves c) {k : Mark} (marked : Db.marked k.key c.db) :
    (db₀.processed.find? k).isSome = true ∨ ∃ i, ∀ j, Effective c k j ↔ j = i := by
  have log := Config.commitLog_of_run repositories.deferred_transactional run
  have once := once_of_run run
  refine ((log.taken_iff marking k.key).mp marked).imp_right ?_
  rintro ⟨i, sets⟩
  refine ⟨i, fun j => ?_⟩
  rw [effective_iff run]
  constructor
  · intro sets'
    exact once.unique j i k.key sets' sets
  · rintro rfl
    exact sets

/-- A letter for the job of a message carries that job. -/
theorem data_of_letter (sound : σ.Sound) (routed : σ.Routed worker id data) {letter : JobQueue.Job DeadLetter Empty}
    (posted : σ.deadLetter (worker.deadLetterId data.eventId) = some letter) : letter.data.data = data := by
  obtain ⟨worker', id', isKey, justified⟩ := sound.letters _ letter posted
  obtain ⟨rfl, sameEvent⟩ := Worker.deadLetterId_injective isKey
  rw [routed.eventId] at sameEvent
  subst sameEvent
  exact justified.routed.unique routed

theorem settled_of_handled (run : Run step (start db₀ jobs) history σ) (routed : σ.Routed worker id data)
    (handled : σ.Handled worker data) : Settled db₀ σ worker data := by
  obtain ⟨moves, ran⟩ := backend_of_run run
  cases handled with
  | run found runs committed =>
      obtain ⟨consumer, isMark⟩ := mark_of_task runs
      have marked := marked_of_committed ran found isMark committed
      exact .done runs isMark marked (once_of_marked ran marked)
  | told tells told => exact .told tells told
  | ignored ignores => exact .ignored ignores
  | discarded discards posted =>
      obtain ⟨letter, known⟩ := Option.isSome_iff_exists.mp posted
      exact .discarded discards known (data_of_letter (sound_of_run run) routed known)

end Settling

section Example

/-- A message about a ticket that is gone. -/
def goneMessage : OutboxRow where
  id := 40
  tenantId := ⟨1⟩
  aggregateType := "ticket"
  aggregateId := 7
  eventName := "ticket.created"
  version := 1
  payload := [("number", .num 12), ("priority", .str "HIGH")]
  occurredAt := 0
  publishedAt := none
  attempts := 0
  lastError := none
  requestId := some "r1"

def goneDb : Db :=
  { Db.empty with outbox := Table.empty.insert goneMessage }

/-- The processing of a job that comes to an answer, or throws. -/
def answering : Attempt where
  fate := .answers
  error := ""
  sent := 0
  now := 0

def throwing (error : String) : Attempt :=
  { answering with fate := .throws, error := error }

/-- The first attempt to assign the ticket dies with its transaction, and the second one finds that the ticket is
    gone; the only attempt to start its timers throws. -/
def deliveryMoves : List DeliveryMove :=
  [.take .ticketRouting 40 exampleUuid (exampleAmbient 1), .backend (.call 0 0), .backend (.abort 0),
    .process .ticketRouting 40 (throwing "timeout"), .take .ticketRouting 40 exampleUuid (exampleAmbient 2),
    .backend (.call 1 0), .backend (.call 1 0), .backend (.finish 1), .process .ticketRouting 40 answering,
    .enqueue .sla 40 1, .take .sla 40 exampleUuid (exampleAmbient 3), .process .sla 40 (throwing "no connection"),
    .onFailed .sla 40 answering]

/-- What is seen of the jobs of the message. -/
def stagesOf (σ : Deliveries) : Option (JobQueue.Stage (Option Nat)) × Option (JobQueue.Stage (Option Nat)) × Option String :=
  ((σ.queues .ticketRouting 40).map JobQueue.Job.stage, (σ.queues .sla 40).map JobQueue.Job.stage,
    (σ.deadLetter ("dlq-sla-", 40)).map fun letter => letter.data.reason)

theorem deliveries_played : ∃ σ, play step (start goneDb []) (.enqueue .ticketRouting 40 5 :: deliveryMoves) = some σ ∧
    stagesOf σ = (some .completed, some (.failed "no connection"), some "no connection") := by
  have possible : (play step (start goneDb []) (.enqueue .ticketRouting 40 5 :: deliveryMoves)).map stagesOf =
      some (some .completed, some (.failed "no connection"), some "no connection") := by decide
  exact Option.map_eq_some_iff.mp possible

end Example

/-- In every state that is reached, a job that was ever added waits for an attempt it has left, or a worker has it, or
    it has failed for good and is kept with the reason, or it is settled. -/
theorem no_job_lost (run : Run step (start db₀ jobs) history σ) {before : Deliveries} {attempts : Nat}
    (added : (before, .enqueue worker id attempts) ∈ history) :
    ∃ m, σ.backend.db.outbox.find? id = some m ∧ worker.queue ∈ queuesFor m.eventName ∧
      ((∃ job, σ.queues worker id = some job ∧ job.data = m.job ∧
          (job.stage.isPending = true ∧ job.attemptsMade < job.attempts ∨ ∃ reason, job.stage = .failed reason)) ∨
        Settled db₀ σ worker m.job) := by
  obtain ⟨data, routed, kept⟩ := accounted_of_run run added
  have ofMessage := routed
  obtain ⟨m, stored, listens, rfl⟩ := ofMessage
  refine ⟨m, stored, listens, kept.imp ?_ (settled_of_handled run routed)⟩
  rintro ⟨job, known, isData, unfinished⟩
  refine ⟨job, known, isData, ?_⟩
  cases stage : job.stage with
  | waiting => exact .inl ⟨rfl, job.left (by rw [stage]; rfl)⟩
  | active work => exact .inl ⟨rfl, job.left (by rw [stage]; rfl)⟩
  | completed => exact absurd stage unfinished
  | failed reason => exact .inr ⟨reason, rfl⟩

theorem no_job_lost_example : ∃ history σ before m, Run step (start goneDb []) history σ ∧
    (before, .enqueue .ticketRouting 40 5) ∈ history ∧ σ.backend.db.outbox.find? 40 = some m ∧
    Settled goneDb σ .ticketRouting m.job := by
  obtain ⟨σ, played, stages⟩ := deliveries_played
  obtain ⟨σ₁, enqueued, later⟩ := Option.bind_eq_some_iff.mp played
  have run := Run.cons enqueued (play_run later)
  obtain ⟨m, stored, _, kept | settled⟩ := no_job_lost run List.mem_cons_self
  · obtain ⟨job, known, _, stage⟩ := kept
    have completed : job.stage = .completed := by simpa [stagesOf, known] using congrArg Prod.fst stages
    simp [completed, JobQueue.Stage.isPending] at stage
  · exact ⟨_, σ, _, m, run, List.mem_cons_self, stored, settled⟩

/-- In every state that is reached, a dead letter is the letter of one worker about one message. It carries the job of
    that message, which its worker can make nothing of, or which has failed for good with all its attempts made and is
    kept; and it stays as it is. -/
theorem deadLetters_justified (run : Run step (start db₀ jobs) history σ) {key : String × Uuid}
    {letter : JobQueue.Job DeadLetter Empty} (posted : σ.deadLetter key = some letter) :
    ∃ worker id, (∀ worker' id', key = worker'.deadLetterId id' ↔ worker' = worker ∧ id' = id) ∧
      σ.Justified worker id letter.data ∧
      ∀ history' σ', Run step σ history' σ' → σ'.deadLetter key = some letter := by
  obtain ⟨worker, id, rfl, justified⟩ := (sound_of_run run).letters key letter posted
  refine ⟨worker, id, fun worker' id' => ?_, justified, fun history' σ' later => ?_⟩
  · constructor
    · intro same
      obtain ⟨sameWorker, sameEvent⟩ := Worker.deadLetterId_injective same
      exact ⟨sameWorker.symm, sameEvent.symm⟩
    · rintro ⟨rfl, rfl⟩
      rfl
  · exact later.invariant posted fun _ _ _ there taken => (onwards_of_step taken).letters _ letter there

theorem deadLetters_justified_example : ∃ history σ letter, Run step (start goneDb []) history σ ∧
    σ.deadLetter ("dlq-sla-", 40) = some letter ∧ letter.data.reason = "no connection" ∧
    ∃ worker id, σ.Justified worker id letter.data := by
  obtain ⟨σ, played, stages⟩ := deliveries_played
  have run := play_run played
  obtain ⟨letter, posted, reason⟩ := Option.map_eq_some_iff.mp (congrArg (fun seen => seen.2.2) stages)
  obtain ⟨worker, id, _, justified, _⟩ := deadLetters_justified run posted
  exact ⟨_, σ, letter, run, posted, reason, worker, id, justified⟩

end Deliveries

end Helpdesk
