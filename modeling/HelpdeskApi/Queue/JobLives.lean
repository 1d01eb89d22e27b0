/-
Module: HelpdeskApi.Queue.JobLives
Layer: Queue
Purpose: What holds of the jobs in every state that is reached: they are the jobs of stored messages, a worker works on
  what the job asks for, what is completed has been handled, and a dead letter says why it was written. A job that was
  added is kept until it is handled.
Trusted boundary: none
Main exports: Deliveries.Routed, Deliveries.Handled, Deliveries.Justified, Deliveries.Sound, sound_of_run,
  Deliveries.Standing, accounted_of_run
-/
import HelpdeskApi.Queue.Deliveries

namespace Helpdesk

open Txn Transition

namespace Deliveries

/-- The job of a stored message that is routed to the queue of the worker. -/
def Routed (σ : Deliveries) (worker : Worker) (id : Uuid) (data : EventJobData) : Prop :=
  ∃ m, σ.backend.db.outbox.find? id = some m ∧ worker.queue ∈ queuesFor m.eventName ∧ data = m.job

/-- A worker has begun what a job asks for. -/
def Works (σ : Deliveries) (worker : Worker) (data : EventJobData) : Option Nat → Prop
  | some i => ∃ s, σ.backend.sessions[i]? = some s ∧ worker.task data = .run s.job.useCase
  | none => ∀ useCase, worker.task data ≠ .run useCase

/-- A worker has done what a job asks for. -/
inductive Handled (σ : Deliveries) (worker : Worker) (data : EventJobData) : Prop where
  | run {i : Nat} {s : Session ticketing} {out : Except TicketingError Output}
      (found : σ.backend.sessions[i]? = some s) (runs : worker.task data = .run s.job.useCase)
      (committed : s.status = .committed out)
  | told {messages : List (BroadcastTicketEvent.Delivery Value)} (tells : worker.task data = .tell messages)
      (told : ∀ message ∈ messages, message ∈ σ.told)
  | ignored (ignores : worker.task data = .ignore)
  | discarded {motivo : String} (discards : worker.task data = .discard motivo)
      (posted : (σ.deadLetter (worker.deadLetterId data.eventId)).isSome = true)

/-- What the stage of a job says of it. -/
def Fits (σ : Deliveries) (worker : Worker) (data : EventJobData) : JobQueue.Stage (Option Nat) → Prop
  | .active work => σ.Works worker data work
  | .completed => σ.Handled worker data
  | .waiting | .failed _ => True

/-- A dead letter of a worker about a message: it carries the job of the message, and was written because the worker
    can make nothing of it, or because all attempts at it have failed, the last one for the reason it gives. -/
structure Justified (σ : Deliveries) (worker : Worker) (id : Uuid) (letter : DeadLetter) : Prop where
  routed : σ.Routed worker id letter.data
  written : letter = worker.toDeadLetter letter.data letter.reason letter.attemptsMade letter.failedAt
  cause : worker.task letter.data = .discard letter.reason ∨
    ∃ job, σ.queues worker id = some job ∧ job.data = letter.data ∧ job.stage = .failed letter.reason ∧
      job.attemptsMade = job.attempts ∧ letter.attemptsMade = job.attempts

/-- What holds in every state that is reached. -/
structure Sound (σ : Deliveries) : Prop where
  jobs : ∀ worker id job, σ.queues worker id = some job →
    σ.Routed worker id job.data ∧ σ.Fits worker job.data job.stage
  letters : ∀ key letter, σ.deadLetter key = some letter →
    ∃ worker id, key = worker.deadLetterId id ∧ σ.Justified worker id letter.data

variable {σ σ' : Deliveries} {a : DeliveryMove} {worker : Worker} {id : Uuid} {data : EventJobData}

section Onwards

theorem Routed.eventId (routed : σ.Routed worker id data) : data.eventId = id := by
  obtain ⟨m, stored, _, rfl⟩ := routed
  exact Relational.Table.key_of_find? stored

theorem Routed.unique {data' : EventJobData} (routed : σ.Routed worker id data) (routed' : σ.Routed worker id data') :
    data = data' := by
  obtain ⟨m, stored, _, rfl⟩ := routed
  obtain ⟨m', stored', _, rfl⟩ := routed'
  cases stored.symm.trans stored'
  rfl

theorem Routed.onwards (routed : σ.Routed worker id data) (goes : σ.Onwards σ') : σ'.Routed worker id data := by
  obtain ⟨m, stored, queue, same⟩ := routed
  exact ⟨m, goes.messages id m stored, queue, same⟩

theorem Works.onwards {work : Option Nat} (works : σ.Works worker data work) (goes : σ.Onwards σ') :
    σ'.Works worker data work := by
  cases work with
  | none => exact works
  | some i =>
      obtain ⟨s, found, runs⟩ := works
      obtain ⟨s', found', later⟩ := goes.sessions i s found
      exact ⟨s', found', later.job ▸ runs⟩

theorem Handled.onwards (handled : σ.Handled worker data) (goes : σ.Onwards σ') : σ'.Handled worker data := by
  cases handled with
  | @run i s out found runs committed =>
      obtain ⟨s', found', later⟩ := goes.sessions i s found
      cases later.committed committed
      exact .run found' runs committed
  | told tells told => exact .told tells fun message inside => goes.told.subset (told message inside)
  | ignored ignores => exact .ignored ignores
  | discarded discards posted =>
      obtain ⟨letter, known⟩ := Option.isSome_iff_exists.mp posted
      exact .discarded discards (by rw [goes.letters _ letter known]; rfl)

/-- What has been done does not depend on the queues. -/
theorem Handled.of_queues (handled : σ.Handled worker data) (other : Worker) (queue : Jobs) :
    (σ.put other queue).Handled worker data := by
  cases handled with
  | run found runs committed => exact .run found runs committed
  | told tells told => exact .told tells told
  | ignored ignores => exact .ignored ignores
  | discarded discards posted => exact .discarded discards posted

theorem Fits.onwards {stage : JobQueue.Stage (Option Nat)} (fits : σ.Fits worker data stage) (goes : σ.Onwards σ') :
    σ'.Fits worker data stage := by
  cases stage with
  | active work => exact Works.onwards fits goes
  | completed => exact Handled.onwards fits goes
  | waiting => trivial
  | failed reason => trivial

theorem Justified.onwards {letter : DeadLetter} (justified : σ.Justified worker id letter) (goes : σ.Onwards σ') :
    σ'.Justified worker id letter where
  routed := justified.routed.onwards goes
  written := justified.written
  cause := by
    refine justified.cause.imp_right ?_
    rintro ⟨job, known, isData, failed, exhausted⟩
    exact ⟨job, goes.failed worker id job _ known failed, isData, failed, exhausted⟩

end Onwards

section Steps

/-- What is asked of an event of a queue: what is added is the job of a stored message, and what moves fits where it
    gets. -/
def Asked (σ σ' : Deliveries) (worker : Worker) : JobQueue.Event Uuid EventJobData (Option Nat) → Prop
  | .add id data _ => σ'.Routed worker id data
  | .move id m => ∀ job job', σ.queues worker id = some job → JobQueue.Job.Stepped job m job' →
      σ'.Fits worker job.data job'.stage
  | .forget _ => True

/-- A worker answers only when it has done what the job asks for. -/
theorem handled_of_verdict {job : JobQueue.Job EventJobData (Option Nat)} {attempt : Attempt} (sound : σ.Sound)
    (known : σ.queues worker id = some job) (ends : σ.verdict worker job attempt = some .complete) :
    (σ.carryOut worker job.data job.attemptsMade attempt).Handled worker job.data := by
  unfold verdict at ends
  split at ends
  · rename_i answers
    split at ends
    · rename_i useCase runs
      split at ends
      · rename_i i active
        split at ends
        · rename_i out status
          obtain ⟨s, found, committed⟩ := Option.map_eq_some_iff.mp status
          have works := (sound.jobs worker id job known).2
          rw [active] at works
          obtain ⟨s', found', runs'⟩ := works
          cases found.symm.trans found'
          exact .run (by rw [carryOut_backend]; exact found) runs' committed
        · cases ends
        · cases ends
      · cases ends
    · rename_i idle
      cases task : worker.task job.data with
      | run useCase => exact absurd task (idle useCase)
      | tell messages =>
          refine .told task fun message inside => ?_
          simp only [carryOut, task, answers]
          exact List.mem_append_right _ inside
      | ignore => exact .ignored task
      | discard motivo =>
          refine .discarded task ?_
          simp only [carryOut, task]
          exact isSome_toDeadLetter (by rw [answers]; nofun)
  · cases ends

/-- The processing of a job completes it or fails. -/
theorem eq_of_verdict {job : JobQueue.Job EventJobData (Option Nat)} {attempt : Attempt}
    {m : JobQueue.Move (Option Nat)} (ends : σ.verdict worker job attempt = some m) :
    m = .complete ∨ ∃ reason, m = .fail reason := by
  unfold verdict at ends
  split at ends
  · split at ends
    · split at ends
      · split at ends <;> cases ends
        · exact .inl rfl
        · exact .inr ⟨_, rfl⟩
      · cases ends
    · cases ends
      exact .inl rfl
  · cases ends
    exact .inr ⟨_, rfl⟩

/-- Where only one queue has changed. -/
theorem queue_of_put (τ : Deliveries) {other : Worker} {e : JobQueue.Event Uuid EventJobData (Option Nat)} {queue : Jobs}
    (moved : (σ.queues other).step e = some queue) (same : τ.queues = σ.queues)
    (asked : σ.Asked (τ.put other queue) other e) (worker : Worker) :
    (τ.put other queue).queues worker = σ.queues worker ∨
      ∃ e, (σ.queues worker).step e = some ((τ.put other queue).queues worker) ∧
        σ.Asked (τ.put other queue) worker e := by
  by_cases isIt : worker = other
  · subst isIt
    exact .inr ⟨e, by rw [put_self, moved], asked⟩
  · exact .inl (by rw [put_of_ne _ _ _ isIt, same])

/-- A queue does what it is asked to do, or nothing. -/
theorem queue_of_step (sound : σ.Sound) (taken : σ.step a = some σ') (worker : Worker) :
    σ'.queues worker = σ.queues worker ∨
      ∃ e, (σ.queues worker).step e = some (σ'.queues worker) ∧ σ.Asked σ' worker e := by
  cases step_stepped taken with
  | backend moved => exact .inl rfl
  | enqueue stored routed moved => exact queue_of_put σ moved rfl ⟨_, stored, routed, rfl⟩ worker
  | @run other id generated ambient useCase queue job known runs moved =>
      refine queue_of_put (σ.arrive _) moved rfl (fun job' after known' stepped => ?_) worker
      cases known.symm.trans known'
      cases stepped
      refine ⟨.start (job.data.execution useCase generated ambient), ?_, runs⟩
      change (σ.backend.sessions ++ [_])[σ.backend.sessions.length]? = _
      rw [List.getElem?_concat_length]
  | @take other id generated ambient queue job known idle moved =>
      refine queue_of_put _ moved rfl (fun job' after known' stepped => ?_) worker
      cases known.symm.trans known'
      cases stepped
      exact idle
  | @process other id attempt m queue job known ends moved =>
      refine queue_of_put _ moved (carryOut_queues ..) (fun job' after known' stepped => ?_) worker
      cases known.symm.trans known'
      rcases eq_of_verdict ends with rfl | ⟨reason, rfl⟩
      · cases stepped
        exact (handled_of_verdict sound known ends).of_queues _ _
      · cases stepped with
        | fail _ pending =>
            rcases JobQueue.Job.stage_fail reason pending with waits | ⟨fails, _⟩
            · rw [waits]
              trivial
            · rw [fails]
              trivial
  | linger stored routed => exact .inl (congrFun (carryOut_queues ..) worker)
  | onFailed known failed => exact .inl (congrFun (onFailed_queues ..) worker)
  | @decide other decision queue moved =>
      refine queue_of_put σ moved rfl ?_ worker
      cases decision with
      | stall id =>
          intro job after known stepped
          cases stepped
          trivial
      | giveUp id reason =>
          intro job after known stepped
          cases stepped
          trivial
      | forget id => trivial

/-- The jobs of the queues are those of stored messages, and fit, after the step as well. -/
theorem fits_of_step (sound : σ.Sound) (taken : σ.step a = some σ') (worker : Worker) :
    ∀ id job, σ'.queues worker id = some job → σ'.Routed worker id job.data ∧ σ'.Fits worker job.data job.stage := by
  have goes := onwards_of_step taken
  have before (id : Uuid) (job : JobQueue.Job EventJobData (Option Nat)) (known : σ.queues worker id = some job) :
      σ'.Routed worker id job.data ∧ σ'.Fits worker job.data job.stage := by
    obtain ⟨routed, fits⟩ := sound.jobs worker id job known
    exact ⟨routed.onwards goes, fits.onwards goes⟩
  rcases queue_of_step sound taken worker with same | ⟨e, moved, asked⟩
  · rw [same]
    exact before
  · refine JobQueue.Queue.forall_of_step
      (P := fun id data stage => σ'.Routed worker id data ∧ σ'.Fits worker data stage) moved before ?_ ?_
    · rintro id data attempts rfl
      exact ⟨asked, trivial⟩
    · rintro id m job after rfl known stepped
      exact ⟨(before id job known).1, asked job after known stepped⟩

/-- A letter was there before the step, or the step gives its reason. -/
theorem justified_of_step (sound : σ.Sound) (taken : σ.step a = some σ') {key : String × Uuid}
    {letter : JobQueue.Job DeadLetter Empty} (known : σ'.deadLetter key = some letter) :
    σ.deadLetter key = some letter ∨
      ∃ worker id, key = worker.deadLetterId id ∧ σ'.Justified worker id letter.data := by
  have goes := onwards_of_step taken
  have discarded {worker : Worker} {id : Uuid} {data : EventJobData} {attemptsMade : Nat} {attempt : Attempt}
      (routed : σ.Routed worker id data)
      (known : (σ.carryOut worker data attemptsMade attempt).deadLetter key = some letter) :
      σ.deadLetter key = some letter ∨
        ∃ worker id, key = worker.deadLetterId id ∧ σ'.Justified worker id letter.data := by
    refine (of_known_carryOut known).imp_right ?_
    rintro ⟨motivo, discards, rfl, isLetter⟩
    refine ⟨worker, id, by rw [routed.eventId], ?_⟩
    rw [isLetter]
    exact ⟨routed.onwards goes, rfl, .inl discards⟩
  cases step_stepped taken with
  | process known' ends moved => exact discarded (sound.jobs _ _ _ known').1 known
  | linger stored routed => exact discarded ⟨_, stored, routed, rfl⟩ known
  | @onFailed worker id attempt reason job known' failed =>
      refine (of_known_onFailed known).imp_right ?_
      rintro ⟨exhausted, rfl, isLetter⟩
      have routed := (sound.jobs worker id job known').1
      refine ⟨worker, id, by rw [routed.eventId], ?_⟩
      rw [isLetter]
      exact ⟨routed.onwards goes, rfl,
        .inr ⟨job, goes.failed worker id job reason known' failed, rfl, failed, exhausted, exhausted⟩⟩
  | backend _ | enqueue _ _ _ | run _ _ _ | take _ _ _ | decide _ => exact .inl known

theorem sound_of_step (sound : σ.Sound) (taken : σ.step a = some σ') : σ'.Sound := by
  refine ⟨fits_of_step sound taken, fun key letter known => ?_⟩
  rcases justified_of_step sound taken known with before | new
  · obtain ⟨worker, id, isKey, justified⟩ := sound.letters key letter before
    exact ⟨worker, id, isKey, justified.onwards (onwards_of_step taken)⟩
  · exact new

end Steps

section Runs

variable {db₀ : Db} {jobs : List Execution} {history : List (Deliveries × DeliveryMove)}

theorem sound_of_run (run : Run step (start db₀ jobs) history σ) : σ.Sound :=
  run.invariant ⟨fun _ _ _ known => (nomatch known), fun _ _ known => (nomatch known)⟩ fun _ _ _ sound taken =>
    sound_of_step sound taken

/-- The use cases have a run of their own. -/
theorem backend_of_run (run : Run step (start db₀ jobs) history σ) :
    ∃ moves, Run Config.step (.start db₀ jobs) moves σ.backend := by
  induction run with
  | start => exact ⟨[], .start⟩
  | @step history σ σ' a run taken ih =>
      obtain ⟨moves, ran⟩ := ih
      rcases backend_of_step taken with same | ⟨m, moved⟩
      · exact ⟨moves, same ▸ ran⟩
      · exact ⟨moves ++ [(σ.backend, m)], ran.step moved⟩

/-- The queue still has the job of a message, and has not completed it. -/
def Standing (σ : Deliveries) (worker : Worker) (id : Uuid) (data : EventJobData) : Prop :=
  ∃ job, σ.queues worker id = some job ∧ job.data = data ∧ job.stage ≠ .completed

/-- A job is kept until it is handled. -/
theorem standing_step (sound : σ.Sound) (taken : σ.step a = some σ')
    (standing : σ.Standing worker id data) : σ'.Standing worker id data ∨ σ'.Handled worker data := by
  obtain ⟨job, known, rfl, unfinished⟩ := standing
  rcases queue_of_step sound taken worker with same | ⟨e, moved, asked⟩
  · exact .inl ⟨job, by rw [same, known], rfl, unfinished⟩
  · rcases JobQueue.Queue.kept_of_step moved known unfinished with
      ⟨job', known', sameData, unfinished'⟩ | ⟨job', rfl, stepped⟩
    · exact .inl ⟨job', known', sameData, unfinished'⟩
    · have fits := asked job job' known stepped
      cases stepped
      exact .inr fits

/-- In every state that is reached, a job that was ever added has been handled, or the queue still has it. -/
theorem accounted_of_run (run : Run step (start db₀ jobs) history σ) {before : Deliveries} {attempts : Nat}
    (added : (before, .enqueue worker id attempts) ∈ history) :
    ∃ data, σ.Routed worker id data ∧ (σ.Standing worker id data ∨ σ.Handled worker data) := by
  induction run with
  | start => cases added
  | @step history σ σ' a run taken ih =>
      have sound := sound_of_run run
      have goes := onwards_of_step taken
      rcases List.mem_append.mp added with old | new
      · obtain ⟨data, routed, standing | handled⟩ := ih old
        · exact ⟨data, routed.onwards goes, standing_step sound taken standing⟩
        · exact ⟨data, routed.onwards goes, .inr (handled.onwards goes)⟩
      · cases List.mem_singleton.mp new
        have sound' := sound_of_step sound taken
        cases step_stepped taken with
        | enqueue stored routed moved =>
            obtain ⟨job, known⟩ := JobQueue.Queue.known_of_add moved
            obtain ⟨fromMessage, fits⟩ := sound'.jobs worker id job (by rw [put_self, known])
            refine ⟨job.data, fromMessage, ?_⟩
            by_cases completed : job.stage = .completed
            · rw [completed] at fits
              exact .inr fits
            · exact .inl ⟨job, by rw [put_self, known], rfl, completed⟩

end Runs

end Deliveries

end Helpdesk
