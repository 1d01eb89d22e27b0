/-
Module: HelpdeskApi.Proofs.LetterCauses
Layer: Proofs
Purpose: When there is a dead letter. A worker leaves one about a message exactly where it has discarded its job, or has
  heard that the job has failed at its last attempt, and the letter could be added. Nothing else leaves one.
Trusted boundary: none
Main exports: Deliveries.Posts, posts_iff_of_step, letter_iff
-/
import HelpdeskApi.Proofs.JobCustody

namespace Helpdesk

open Txn Transition

theorem Worker.deadLetterId_inj {worker worker' : Worker} {id id' : Uuid} :
    worker.deadLetterId id = worker'.deadLetterId id' ↔ worker = worker' ∧ id = id' := by
  constructor
  · exact deadLetterId_injective
  · rintro ⟨rfl, rfl⟩
    rfl

namespace Deliveries

/-- A move by which a worker leaves a letter about a message, if it has left none before. -/
def Posts (σ : Deliveries) (worker : Worker) (id : Uuid) : DeliveryMove → Prop
  | .process worker' id' attempt => worker' = worker ∧ id' = id ∧ attempt.fate ≠ .throws ∧
      ∃ job motivo, σ.queues worker' id' = some job ∧ worker'.task job.data = .discard motivo
  | .linger worker' id' _ attempt => worker' = worker ∧ id' = id ∧ attempt.fate ≠ .throws ∧
      ∃ m motivo, σ.backend.db.outbox.find? id' = some m ∧ worker'.task m.job = .discard motivo
  | .onFailed worker' id' attempt => worker' = worker ∧ id' = id ∧ attempt.fate ≠ .throws ∧
      ∃ job, σ.queues worker' id' = some job ∧ job.attemptsMade = job.attempts
  | .backend _ | .enqueue _ _ _ | .take _ _ _ _ | .decide _ _ => False

/-- There is a letter of the worker about the message. -/
def HasLetter (σ : Deliveries) (worker : Worker) (id : Uuid) : Prop :=
  (σ.deadLetter (worker.deadLetterId id)).isSome = true

section Steps

variable {σ σ' : Deliveries} {a : DeliveryMove} {worker worker' : Worker} {id : Uuid} {data : EventJobData}
  {motivo : String} {attemptsMade : Nat} {attempt : Attempt}

theorem hasLetter_toDeadLetter : (σ.toDeadLetter worker' data motivo attemptsMade attempt).HasLetter worker id ↔
    σ.HasLetter worker id ∨ worker' = worker ∧ data.eventId = id ∧ attempt.fate ≠ .throws := by
  unfold HasLetter toDeadLetter
  split
  · rename_i throws
    simp [throws]
  · rename_i posts
    have added : attempt.fate ≠ .throws := posts
    rw [JobQueue.Queue.isSome_add_iff, Worker.deadLetterId_inj]
    simp [added]

theorem hasLetter_carryOut : (σ.carryOut worker' data attemptsMade attempt).HasLetter worker id ↔
    σ.HasLetter worker id ∨ worker' = worker ∧ data.eventId = id ∧ attempt.fate ≠ .throws ∧
      ∃ motivo, worker'.task data = .discard motivo := by
  cases asked : worker'.task data with
  | discard motivo => simp [carryOut, asked, hasLetter_toDeadLetter]
  | tell messages =>
      have same : (σ.carryOut worker' data attemptsMade attempt).deadLetter = σ.deadLetter := by
        simp only [carryOut, asked]
        split <;> rfl
      simp [HasLetter, same]
  | run useCase => simp [carryOut, asked]
  | ignore => simp [carryOut, asked]

theorem hasLetter_onFailed {job : JobQueue.Job EventJobData (Option Nat)} :
    (σ.onFailed worker' job motivo attempt).HasLetter worker id ↔
      σ.HasLetter worker id ∨ worker' = worker ∧ job.data.eventId = id ∧ attempt.fate ≠ .throws ∧
        job.attemptsMade = job.attempts := by
  have within := job.within
  unfold onFailed
  split
  · have left : job.attemptsMade ≠ job.attempts := by omega
    simp [left]
  · have exhausted : job.attemptsMade = job.attempts := by omega
    simp [hasLetter_toDeadLetter, exhausted]

/-- There is a letter after a step exactly where there was one before, or the step leaves it. -/
theorem posts_iff_of_step (sound : σ.Sound) (taken : σ.step a = some σ') :
    σ'.HasLetter worker id ↔ σ.HasLetter worker id ∨ σ.Posts worker id a := by
  cases step_stepped taken with
  | @process other id' attempt m queue job known ends moved =>
      have isEvent := (sound.jobs other id' job known).1.eventId
      change (σ.carryOut other job.data job.attemptsMade attempt).HasLetter worker id ↔ _
      simp [hasLetter_carryOut, Posts, isEvent, known]
  | @linger other id' attemptsMade attempt m stored routed =>
      have isEvent : m.job.eventId = id' := Relational.Table.key_of_find? stored
      simp [hasLetter_carryOut, Posts, isEvent, stored]
  | @onFailed other id' attempt reason job known failed =>
      have isEvent := (sound.jobs other id' job known).1.eventId
      simp [hasLetter_onFailed, Posts, isEvent, known]
  | backend _ | enqueue _ _ _ | run _ _ _ | take _ _ _ | decide _ => simp [HasLetter, Posts, arrive]

end Steps

variable {db₀ : Db} {jobs : List Execution} {history : List (Deliveries × DeliveryMove)} {σ : Deliveries}
  {worker : Worker} {id : Uuid}

/-- In every state that is reached, there is a letter of a worker about a message exactly where a step before has left
    it: the worker has discarded the job, or has heard that its last attempt has failed. -/
theorem letter_iff (run : Run step (start db₀ jobs) history σ) :
    σ.HasLetter worker id ↔ ∃ before a, (before, a) ∈ history ∧ before.Posts worker id a := by
  induction run with
  | start => simp [HasLetter, start, JobQueue.Queue.empty]
  | @step history σ σ' a run taken ih =>
      rw [posts_iff_of_step (sound_of_run run) taken, ih]
      constructor
      · rintro (⟨before, b, inside, posts⟩ | posts)
        · exact ⟨before, b, List.mem_append_left _ inside, posts⟩
        · exact ⟨σ, a, List.mem_append_right _ (List.mem_singleton_self _), posts⟩
      · rintro ⟨before, b, inside, posts⟩
        rcases List.mem_append.mp inside with earlier | now
        · exact .inl ⟨before, b, earlier, posts⟩
        · cases List.mem_singleton.mp now
          exact .inr posts

theorem letter_iff_example : ∃ history σ before a, Run step (start goneDb []) history σ ∧
    σ.HasLetter .sla 40 ∧ (before, a) ∈ history ∧ before.Posts .sla 40 a := by
  obtain ⟨σ, played, stages⟩ := deliveries_played
  have run := play_run played
  obtain ⟨letter, posted, _⟩ := Option.map_eq_some_iff.mp (congrArg (fun seen => seen.2.2) stages)
  have present : σ.HasLetter .sla 40 := by
    change (σ.deadLetter ("dlq-sla-", 40)).isSome = true
    rw [posted]
    rfl
  obtain ⟨before, a, inside, posts⟩ := (letter_iff run).mp present
  exact ⟨_, σ, before, a, run, present, inside, posts⟩

end Deliveries

end Helpdesk
