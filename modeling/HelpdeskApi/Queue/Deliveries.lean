/-
Module: HelpdeskApi.Queue.Deliveries
Layer: Queue
Purpose: The use cases, interleaved call by call, together with the queues: jobs of stored messages are added, taken
  by workers, carried out, tried again, given up and forgotten, in any order and by any number of workers. What a
  worker throws, and when, is left open; so is what becomes of a worker that has lost its job.
Trusted boundary: human-reviewed spec, and what the queues promise
Main exports: Attempt, Deliveries, DeliveryMove, Deliveries.step, Deliveries.Stepped, Deliveries.Onwards,
  onwards_of_step
-/
import HelpdeskApi.Library.CommitLog
import HelpdeskApi.Library.Faults
import HelpdeskApi.Library.JobQueue
import HelpdeskApi.Queue.DeadLetters

namespace Helpdesk

open Txn

/-- What becomes of an attempt at a job: whether it answers, what it throws otherwise, how many messages it has sent
    by then, and the instant its letter is dated. Where it is lost, the letter has been added all the same. -/
structure Attempt where
  fate : Fate
  error : String
  sent : Nat
  now : Instant

/-- The jobs of a queue, with the session of the use case that a worker runs for one, if it runs one. -/
abbrev Jobs := JobQueue.Queue Uuid EventJobData (Option Nat)

/-- The use cases at work, the three queues, the dead letter queue, and what the browsers were told. -/
structure Deliveries where
  backend : Config ticketing
  queues : Worker → Jobs
  deadLetter : JobQueue.Queue (String × Uuid) DeadLetter Empty
  told : List (BroadcastTicketEvent.Delivery Value)

/-- What a queue does on its own: it takes a job back from a worker that has vanished, or gives the job up, or forgets
    a job that is completed. -/
inductive QueueDecision where
  | stall (id : Uuid)
  | giveUp (id : Uuid) (reason : String)
  | forget (id : Uuid)

def QueueDecision.event : QueueDecision → JobQueue.Event Uuid EventJobData (Option Nat)
  | .stall id => .move id .stall
  | .giveUp id reason => .move id (.giveUp reason)
  | .forget id => .forget id

/-- What can happen next: a use case arrives or goes on, the publisher adds the job of a message, a worker takes a
    job, its processing ends, it goes on although it has lost the job, it hears that a job has failed, or a queue
    decides something. -/
inductive DeliveryMove where
  | backend (m : Move ticketing)
  | enqueue (worker : Worker) (id : Uuid) (attempts : Nat)
  | take (worker : Worker) (id : Uuid) (generated : RandomUuid) (ambient : Ambient)
  | process (worker : Worker) (id : Uuid) (attempt : Attempt)
  | linger (worker : Worker) (id : Uuid) (attemptsMade : Nat) (attempt : Attempt)
  | onFailed (worker : Worker) (id : Uuid) (attempt : Attempt)
  | decide (worker : Worker) (decision : QueueDecision)

/-- A use case that runs for a job, under the id of what the job was set off by. -/
def EventJobData.execution (data : EventJobData) (useCase : UseCase) (generated : RandomUuid) (ambient : Ambient) :
    Execution where
  useCase := useCase
  ambient := ambient
  requestId := some (runWithJobContext data.requestId generated)

namespace Deliveries

/-- Nothing has been added yet. -/
def start (db : Db) (jobs : List Execution) : Deliveries where
  backend := .start db jobs
  queues _ := .empty
  deadLetter := .empty
  told := []

/-- Replace a queue. -/
def put (σ : Deliveries) (worker : Worker) (queue : Jobs) : Deliveries :=
  { σ with queues := Function.update σ.queues worker queue }

/-- Let an execution begin. -/
def arrive (σ : Deliveries) (e : Execution) : Deliveries :=
  { σ with backend := { σ.backend with sessions := σ.backend.sessions ++ [.start e] } }

/-- `toDeadLetter`, unless adding the letter throws. A letter whose id is known is not added again. -/
def toDeadLetter (σ : Deliveries) (worker : Worker) (data : EventJobData) (motivo : String) (attemptsMade : Nat)
    (attempt : Attempt) : Deliveries :=
  match attempt.fate with
  | .throws => σ
  | _ =>
      { σ with
        deadLetter := σ.deadLetter.add (worker.deadLetterId data.eventId)
          (.new (worker.toDeadLetter data motivo attemptsMade attempt.now) 1 Nat.one_pos) }

/-- What `process` leaves behind, the use case it runs apart. -/
def carryOut (σ : Deliveries) (worker : Worker) (data : EventJobData) (attemptsMade : Nat) (attempt : Attempt) :
    Deliveries :=
  match worker.task data with
  | .tell messages =>
      match attempt.fate with
      | .answers => { σ with told := σ.told ++ messages }
      | _ => { σ with told := σ.told ++ messages.take attempt.sent }
  | .discard motivo => σ.toDeadLetter worker data motivo attemptsMade attempt
  | .run _ | .ignore => σ

/-- How the processing of a job ends, if it can end this way. It throws of its own where the use case answers with an
    error. -/
def verdict (σ : Deliveries) (worker : Worker) (job : JobQueue.Job EventJobData (Option Nat)) (attempt : Attempt) :
    Option (JobQueue.Move (Option Nat)) :=
  match attempt.fate with
  | .answers =>
      match worker.task job.data with
      | .run useCase =>
          match job.stage with
          | .active (some i) =>
              match (σ.backend.sessions[i]?).map Session.status with
              | some (.committed _) => some .complete
              | some (.rolledBack (.error reason)) => some (.fail (useCase.thrownFor reason))
              | _ => none
          | _ => none
      | _ => some .complete
  | _ => some (.fail attempt.error)

/-- `onFailed`. -/
def onFailed (σ : Deliveries) (worker : Worker) (job : JobQueue.Job EventJobData (Option Nat)) (error : String)
    (attempt : Attempt) : Deliveries :=
  if job.attemptsMade < job.attempts then σ
  else σ.toDeadLetter worker job.data error job.attemptsMade attempt

/-- What an event makes of a queue. -/
def queueStep (σ : Deliveries) (worker : Worker) (e : JobQueue.Event Uuid EventJobData (Option Nat)) :
    Option Deliveries :=
  ((σ.queues worker).step e).map (σ.put worker)

/-- One step of the system. -/
def step (σ : Deliveries) : DeliveryMove → Option Deliveries
  | .backend m => (σ.backend.step m).map fun c => { σ with backend := c }
  | .enqueue worker id attempts =>
      match σ.backend.db.outbox.find? id with
      | some m => if worker.queue ∈ queuesFor m.eventName then σ.queueStep worker (.add id m.job attempts) else none
      | none => none
  | .take worker id generated ambient => do
      let job ← σ.queues worker id
      match worker.task job.data with
      | .run useCase =>
          (σ.arrive (job.data.execution useCase generated ambient)).queueStep worker
            (.move id (.take (some σ.backend.sessions.length)))
      | _ => σ.queueStep worker (.move id (.take none))
  | .process worker id attempt => do
      let job ← σ.queues worker id
      let m ← σ.verdict worker job attempt
      (σ.carryOut worker job.data job.attemptsMade attempt).queueStep worker (.move id m)
  | .linger worker id attemptsMade attempt =>
      match σ.backend.db.outbox.find? id with
      | some m =>
          if worker.queue ∈ queuesFor m.eventName then some (σ.carryOut worker m.job attemptsMade attempt) else none
      | none => none
  | .onFailed worker id attempt => do
      let job ← σ.queues worker id
      match job.stage with
      | .failed reason => some (σ.onFailed worker job reason attempt)
      | _ => none
  | .decide worker decision => σ.queueStep worker decision.event

section Put

variable (σ : Deliveries) (worker : Worker) (queue : Jobs)

@[simp] theorem put_backend : (σ.put worker queue).backend = σ.backend := rfl

@[simp] theorem put_deadLetter : (σ.put worker queue).deadLetter = σ.deadLetter := rfl

@[simp] theorem put_told : (σ.put worker queue).told = σ.told := rfl

@[simp] theorem put_self : (σ.put worker queue).queues worker = queue := Function.update_self ..

theorem put_of_ne {other : Worker} (different : other ≠ worker) : (σ.put worker queue).queues other = σ.queues other :=
  Function.update_of_ne different ..

end Put

/-- Everything a move can do, one constructor for each way it can go. -/
inductive Stepped (σ : Deliveries) : DeliveryMove → Deliveries → Prop where
  | backend {m : Move ticketing} {c : Config ticketing} (taken : σ.backend.step m = some c) :
      Stepped σ (.backend m) { σ with backend := c }
  | enqueue {worker : Worker} {id : Uuid} {attempts : Nat} {m : OutboxRow} {queue : Jobs}
      (stored : σ.backend.db.outbox.find? id = some m) (routed : worker.queue ∈ queuesFor m.eventName)
      (taken : (σ.queues worker).step (.add id m.job attempts) = some queue) :
      Stepped σ (.enqueue worker id attempts) (σ.put worker queue)
  | run {worker : Worker} {id : Uuid} {generated : RandomUuid} {ambient : Ambient} {useCase : UseCase} {queue : Jobs}
      {job : JobQueue.Job EventJobData (Option Nat)} (known : σ.queues worker id = some job)
      (runs : worker.task job.data = .run useCase)
      (taken : (σ.queues worker).step (.move id (.take (some σ.backend.sessions.length))) = some queue) :
      Stepped σ (.take worker id generated ambient)
        ((σ.arrive (job.data.execution useCase generated ambient)).put worker queue)
  | take {worker : Worker} {id : Uuid} {generated : RandomUuid} {ambient : Ambient} {queue : Jobs}
      {job : JobQueue.Job EventJobData (Option Nat)} (known : σ.queues worker id = some job)
      (idle : ∀ useCase, worker.task job.data ≠ .run useCase)
      (taken : (σ.queues worker).step (.move id (.take none)) = some queue) :
      Stepped σ (.take worker id generated ambient) (σ.put worker queue)
  | process {worker : Worker} {id : Uuid} {attempt : Attempt} {m : JobQueue.Move (Option Nat)} {queue : Jobs}
      {job : JobQueue.Job EventJobData (Option Nat)} (known : σ.queues worker id = some job)
      (ends : σ.verdict worker job attempt = some m) (taken : (σ.queues worker).step (.move id m) = some queue) :
      Stepped σ (.process worker id attempt)
        ((σ.carryOut worker job.data job.attemptsMade attempt).put worker queue)
  | linger {worker : Worker} {id : Uuid} {attemptsMade : Nat} {attempt : Attempt} {m : OutboxRow}
      (stored : σ.backend.db.outbox.find? id = some m) (routed : worker.queue ∈ queuesFor m.eventName) :
      Stepped σ (.linger worker id attemptsMade attempt) (σ.carryOut worker m.job attemptsMade attempt)
  | onFailed {worker : Worker} {id : Uuid} {attempt : Attempt} {reason : String}
      {job : JobQueue.Job EventJobData (Option Nat)} (known : σ.queues worker id = some job)
      (failed : job.stage = .failed reason) :
      Stepped σ (.onFailed worker id attempt) (σ.onFailed worker job reason attempt)
  | decide {worker : Worker} {decision : QueueDecision} {queue : Jobs}
      (taken : (σ.queues worker).step decision.event = some queue) :
      Stepped σ (.decide worker decision) (σ.put worker queue)

section CarryOut

variable (σ : Deliveries) (worker : Worker) (data : EventJobData) (motivo : String) (attemptsMade : Nat)
  (attempt : Attempt)

@[simp] theorem toDeadLetter_backend :
    (σ.toDeadLetter worker data motivo attemptsMade attempt).backend = σ.backend := by
  unfold toDeadLetter
  split <;> rfl

@[simp] theorem toDeadLetter_queues : (σ.toDeadLetter worker data motivo attemptsMade attempt).queues = σ.queues := by
  unfold toDeadLetter
  split <;> rfl

@[simp] theorem toDeadLetter_told : (σ.toDeadLetter worker data motivo attemptsMade attempt).told = σ.told := by
  unfold toDeadLetter
  split <;> rfl

@[simp] theorem carryOut_backend : (σ.carryOut worker data attemptsMade attempt).backend = σ.backend := by
  unfold carryOut
  split
  · split <;> rfl
  · exact toDeadLetter_backend ..
  · rfl
  · rfl

@[simp] theorem carryOut_queues : (σ.carryOut worker data attemptsMade attempt).queues = σ.queues := by
  unfold carryOut
  split
  · split <;> rfl
  · exact toDeadLetter_queues ..
  · rfl
  · rfl

@[simp] theorem onFailed_backend (job : JobQueue.Job EventJobData (Option Nat)) :
    (σ.onFailed worker job motivo attempt).backend = σ.backend := by
  unfold onFailed
  split
  · rfl
  · exact toDeadLetter_backend ..

@[simp] theorem onFailed_queues (job : JobQueue.Job EventJobData (Option Nat)) :
    (σ.onFailed worker job motivo attempt).queues = σ.queues := by
  unfold onFailed
  split
  · rfl
  · exact toDeadLetter_queues ..

@[simp] theorem onFailed_told (job : JobQueue.Job EventJobData (Option Nat)) :
    (σ.onFailed worker job motivo attempt).told = σ.told := by
  unfold onFailed
  split
  · rfl
  · exact toDeadLetter_told ..

end CarryOut

variable {σ σ' : Deliveries} {a : DeliveryMove}

theorem queueStep_eq_some_iff {worker : Worker} {e : JobQueue.Event Uuid EventJobData (Option Nat)} :
    σ.queueStep worker e = some σ' ↔ ∃ queue, (σ.queues worker).step e = some queue ∧ σ.put worker queue = σ' :=
  Option.map_eq_some_iff

theorem step_stepped (taken : σ.step a = some σ') : σ.Stepped a σ' := by
  cases a with
  | backend m =>
      obtain ⟨c, moved, rfl⟩ := Option.map_eq_some_iff.mp taken
      exact .backend moved
  | enqueue worker id attempts =>
      simp only [step] at taken
      split at taken
      · rename_i m stored
        split at taken
        · rename_i routed
          obtain ⟨queue, added, rfl⟩ := queueStep_eq_some_iff.mp taken
          exact .enqueue stored routed added
        · cases taken
      · cases taken
  | take worker id generated ambient =>
      simp only [step, Option.bind_eq_bind, Option.bind_eq_some_iff] at taken
      obtain ⟨job, known, taken⟩ := taken
      split at taken
      · rename_i useCase runs
        obtain ⟨queue, moved, rfl⟩ := queueStep_eq_some_iff.mp taken
        exact .run known runs moved
      · rename_i idle
        obtain ⟨queue, moved, rfl⟩ := queueStep_eq_some_iff.mp taken
        exact .take known idle moved
  | process worker id attempt =>
      simp only [step, Option.bind_eq_bind, Option.bind_eq_some_iff] at taken
      obtain ⟨job, known, m, ends, taken⟩ := taken
      obtain ⟨queue, moved, rfl⟩ := queueStep_eq_some_iff.mp taken
      rw [carryOut_queues] at moved
      exact .process known ends moved
  | linger worker id attemptsMade attempt =>
      simp only [step] at taken
      split at taken
      · rename_i m stored
        split at taken
        · rename_i routed
          cases taken
          exact .linger stored routed
        · cases taken
      · cases taken
  | onFailed worker id attempt =>
      simp only [step, Option.bind_eq_bind, Option.bind_eq_some_iff] at taken
      obtain ⟨job, known, taken⟩ := taken
      split at taken
      · rename_i reason failed
        cases taken
        exact .onFailed known failed
      · cases taken
  | decide worker decision =>
      obtain ⟨queue, moved, rfl⟩ := queueStep_eq_some_iff.mp taken
      exact .decide moved

/-- The use cases do not notice the queues. -/
theorem backend_of_step (taken : σ.step a = some σ') :
    σ'.backend = σ.backend ∨ ∃ m, σ.backend.step m = some σ'.backend := by
  cases step_stepped taken with
  | backend moved => exact .inr ⟨_, moved⟩
  | run known runs moved => exact .inr ⟨.arrive _, rfl⟩
  | process known ends moved => exact .inl (by simp)
  | linger stored routed => exact .inl (by simp)
  | onFailed known failed => exact .inl (by simp)
  | enqueue _ _ _ | take _ _ _ | decide _ => exact .inl rfl

/-- What is there stays there: messages and sessions, what the browsers were told, dead letters, and the jobs that
    have failed for good. -/
structure Onwards (σ σ' : Deliveries) : Prop where
  messages : KeepsMessages σ.backend.db σ'.backend.db
  sessions : ∀ (i : Nat) (s : Session ticketing), σ.backend.sessions[i]? = some s →
    ∃ s', σ'.backend.sessions[i]? = some s' ∧ s.Later s'
  told : σ.told <+: σ'.told
  letters : ∀ key letter, σ.deadLetter key = some letter → σ'.deadLetter key = some letter
  failed : ∀ worker id job reason, σ.queues worker id = some job → job.stage = .failed reason →
    σ'.queues worker id = some job

/-- Every move of the use cases keeps the messages. -/
theorem keepsMessages_of_step {c c' : Config ticketing} {m : Move ticketing} (taken : c.step m = some c') :
    KeepsMessages c.db c'.db := by
  intro id row found
  have kept (writes : List Write) : (repositories.transactional.applyAll writes c.db).outbox.find? id = some row :=
    find?_outbox_after writes found
  cases Config.step_stepped taken with
  | call at_i running answer => exact kept _
  | commit at_i running commits => exact kept _
  | _ => exact found

theorem told_carryOut (worker : Worker) (data : EventJobData) (attemptsMade : Nat) (attempt : Attempt) :
    σ.told <+: (σ.carryOut worker data attemptsMade attempt).told := by
  unfold carryOut
  split
  · split <;> exact List.prefix_append _ _
  · simp
  · exact List.prefix_rfl
  · exact List.prefix_rfl

section Letters

variable {worker : Worker} {data : EventJobData} {motivo : String} {attemptsMade : Nat} {attempt : Attempt}
  {key : String × Uuid} {letter : JobQueue.Job DeadLetter Empty}

theorem known_toDeadLetter (known : σ.deadLetter key = some letter) :
    (σ.toDeadLetter worker data motivo attemptsMade attempt).deadLetter key = some letter := by
  unfold toDeadLetter
  split
  · exact known
  · exact JobQueue.Queue.known_add known

/-- A letter was there before, or has been written now. -/
theorem of_known_toDeadLetter
    (known : (σ.toDeadLetter worker data motivo attemptsMade attempt).deadLetter key = some letter) :
    σ.deadLetter key = some letter ∨ key = worker.deadLetterId data.eventId ∧
      letter.data = worker.toDeadLetter data motivo attemptsMade attempt.now := by
  unfold toDeadLetter at known
  split at known
  · exact .inl known
  · rcases JobQueue.Queue.of_known_add known with before | ⟨rfl, _, rfl⟩
    · exact .inl before
    · exact .inr ⟨rfl, rfl⟩

theorem isSome_toDeadLetter (posts : attempt.fate ≠ .throws) :
    ((σ.toDeadLetter worker data motivo attemptsMade attempt).deadLetter
      (worker.deadLetterId data.eventId)).isSome = true := by
  unfold toDeadLetter
  split
  · exact absurd ‹_› posts
  · exact JobQueue.Queue.isSome_add

theorem known_carryOut (known : σ.deadLetter key = some letter) :
    (σ.carryOut worker data attemptsMade attempt).deadLetter key = some letter := by
  unfold carryOut
  split
  · split <;> exact known
  · exact known_toDeadLetter known
  · exact known
  · exact known

theorem of_known_carryOut (known : (σ.carryOut worker data attemptsMade attempt).deadLetter key = some letter) :
    σ.deadLetter key = some letter ∨ ∃ motivo, worker.task data = .discard motivo ∧
      key = worker.deadLetterId data.eventId ∧
      letter.data = worker.toDeadLetter data motivo attemptsMade attempt.now := by
  unfold carryOut at known
  split at known
  · split at known <;> exact .inl known
  · rename_i motivo discards
    exact (of_known_toDeadLetter known).imp_right fun written => ⟨motivo, discards, written⟩
  · exact .inl known
  · exact .inl known

theorem known_onFailed {job : JobQueue.Job EventJobData (Option Nat)} (known : σ.deadLetter key = some letter) :
    (σ.onFailed worker job motivo attempt).deadLetter key = some letter := by
  unfold onFailed
  split
  · exact known
  · exact known_toDeadLetter known

/-- A job that has failed gets a letter when all its attempts are made. -/
theorem of_known_onFailed {job : JobQueue.Job EventJobData (Option Nat)}
    (known : (σ.onFailed worker job motivo attempt).deadLetter key = some letter) :
    σ.deadLetter key = some letter ∨ job.attemptsMade = job.attempts ∧
      key = worker.deadLetterId job.data.eventId ∧
      letter.data = worker.toDeadLetter job.data motivo job.attemptsMade attempt.now := by
  unfold onFailed at known
  split at known
  · exact .inl known
  · rename_i exhausted
    have within := job.within
    exact (of_known_toDeadLetter known).imp_right fun written => ⟨by omega, written⟩

end Letters

/-- A queue keeps the jobs that have failed for good, whatever happens to it. -/
theorem failed_put {worker : Worker} {e : JobQueue.Event Uuid EventJobData (Option Nat)} {queue : Jobs}
    (moved : (σ.queues worker).step e = some queue) {other : Worker} {id : Uuid}
    {job : JobQueue.Job EventJobData (Option Nat)} {reason : String} (known : σ.queues other id = some job)
    (failed : job.stage = .failed reason) (σ' : Deliveries) (same : σ'.queues = σ.queues) :
    (σ'.put worker queue).queues other id = some job := by
  by_cases isIt : other = worker
  · subst isIt
    rw [put_self]
    exact JobQueue.Queue.failed_stays moved known failed
  · rw [put_of_ne _ _ _ isIt, same]
    exact known

theorem onwards_of_step (taken : σ.step a = some σ') : σ.Onwards σ' := by
  have backend : KeepsMessages σ.backend.db σ'.backend.db ∧
      ∀ (i : Nat) (s : Session ticketing), σ.backend.sessions[i]? = some s →
        ∃ s', σ'.backend.sessions[i]? = some s' ∧ s.Later s' := by
    rcases backend_of_step taken with same | ⟨m, moved⟩
    · rw [same]
      exact ⟨fun _ _ found => found, fun i s found => ⟨s, found, .refl s⟩⟩
    · exact ⟨keepsMessages_of_step moved, fun i s found => Config.later_of_step moved found⟩
  have still (told : σ.told <+: σ'.told)
      (letters : ∀ key letter, σ.deadLetter key = some letter → σ'.deadLetter key = some letter)
      (failed : ∀ worker id job reason, σ.queues worker id = some job → job.stage = .failed reason →
        σ'.queues worker id = some job) : σ.Onwards σ' := ⟨backend.1, backend.2, told, letters, failed⟩
  cases step_stepped taken with
  | backend moved => exact still List.prefix_rfl (fun _ _ known => known) fun _ _ _ _ known _ => known
  | enqueue stored routed moved =>
      exact still List.prefix_rfl (fun _ _ known => known) fun _ _ _ _ known failed =>
        failed_put moved known failed σ rfl
  | run known runs moved =>
      exact still List.prefix_rfl (fun _ _ known => known) fun _ _ _ _ known failed =>
        failed_put moved known failed _ rfl
  | take known idle moved =>
      exact still List.prefix_rfl (fun _ _ known => known) fun _ _ _ _ known failed =>
        failed_put moved known failed σ rfl
  | process known ends moved =>
      exact still (told_carryOut ..) (fun _ _ known => known_carryOut known) fun _ _ _ _ known failed =>
        failed_put moved known failed _ (carryOut_queues ..)
  | linger stored routed =>
      exact still (told_carryOut ..) (fun _ _ known => known_carryOut known) fun _ _ _ _ known _ =>
        (congrFun (congrFun (carryOut_queues ..) _) _).trans known
  | onFailed known failed =>
      refine still ?_ (fun _ _ known => known_onFailed known) fun _ _ _ _ known _ =>
        (congrFun (congrFun (onFailed_queues ..) _) _).trans known
      simp
  | decide moved =>
      exact still List.prefix_rfl (fun _ _ known => known) fun _ _ _ _ known failed =>
        failed_put moved known failed σ rfl

end Deliveries

end Helpdesk
