/-
Module: HelpdeskApi.Proofs.JobProgress
Layer: Proofs
Purpose: No job is ever stuck. Whatever has thrown or died before, a job that has to be done can be taken back from the
  worker that has it, taken again, and carried to its end, with no one else at work.
Trusted boundary: none
Main exports: Deliveries.CanComplete, exists_waiting, canComplete_of_run, canComplete_of_idle, pending_completes
-/
import HelpdeskApi.Application.Completion
import HelpdeskApi.Library.Quiescence
import HelpdeskApi.Proofs.JobCustody

namespace Helpdesk

open Txn Transition

namespace Deliveries

/-- The job can be completed, with the data it has. -/
def CanComplete (σ : Deliveries) (worker : Worker) (id : Uuid) (data : EventJobData) : Prop :=
  ∃ history σ' job, Run step σ history σ' ∧ σ'.queues worker id = some job ∧ job.data = data ∧
    job.stage = .completed

variable {σ σ' : Deliveries} {worker : Worker} {id : Uuid} {data : EventJobData}
  {job : JobQueue.Job EventJobData (Option Nat)}

theorem CanComplete.after {history : List (Deliveries × DeliveryMove)} (run : Run step σ history σ')
    (completes : σ'.CanComplete worker id data) : σ.CanComplete worker id data := by
  obtain ⟨later, σ'', job, goesOn, completed⟩ := completes
  exact ⟨_, σ'', job, run.append goesOn, completed⟩

/-- The use cases can go on while nothing happens to the queues. -/
theorem lift_backend {c : Config ticketing} {moves : List (Config ticketing × Move ticketing)}
    (run : Run Config.step σ.backend moves c) : ∃ history, Run step σ history { σ with backend := c } := by
  induction run with
  | start => exact ⟨[], .start⟩
  | @step moves c c' m run taken ih =>
      obtain ⟨history, ran⟩ := ih
      exact ⟨_, ran.step (l := .backend m) (by simp [step, taken])⟩

/-- A queue moves a job it knows. -/
theorem queueStep_move {m : JobQueue.Move (Option Nat)} {job' : JobQueue.Job EventJobData (Option Nat)}
    (known : σ.queues worker id = some job) (moved : job.step m = some job') :
    σ.queueStep worker (.move id m) = some (σ.put worker (Function.update (σ.queues worker) id (some job'))) :=
  congrArg (Option.map (σ.put worker)) (JobQueue.Queue.step_move known moved)

theorem queues_put_update (σ : Deliveries) (job : JobQueue.Job EventJobData (Option Nat)) :
    (σ.put worker (Function.update (σ.queues worker) id (some job))).queues worker id = some job := by
  rw [put_self, Function.update_self]

/-- A job that has to be done can be taken back, so that it waits. -/
theorem exists_waiting (known : σ.queues worker id = some job) (pending : job.stage.isPending = true) :
    ∃ history σ' job', Run step σ history σ' ∧ σ'.backend = σ.backend ∧ σ'.queues worker id = some job' ∧
      job'.data = job.data ∧ job'.stage = .waiting := by
  cases stage : job.stage with
  | waiting => exact ⟨[], σ, job, .start, rfl, known, rfl, stage⟩
  | active work =>
      have works : job.stage.isActive = true := by rw [stage]; rfl
      have taken : σ.step (.decide worker (.stall id)) = some _ := queueStep_move known (dif_pos works)
      exact ⟨_, _, job.move .waiting pending, Run.start.step taken, rfl, queues_put_update σ _, rfl, rfl⟩
  | completed => simp [stage, JobQueue.Stage.isPending] at pending
  | failed reason => simp [stage, JobQueue.Stage.isPending] at pending

/-- A worker that has done what a job asks for completes it. -/
theorem canComplete_of_active {work : Option Nat} (known : σ.queues worker id = some job)
    (active : job.stage = .active work) (ends : σ.verdict worker job answering = some .complete) :
    σ.CanComplete worker id job.data := by
  have works : job.stage.isActive = true := by rw [active]; rfl
  have pending := JobQueue.Stage.pending_of_active works
  let τ := σ.carryOut worker job.data job.attemptsMade answering
  have known' : τ.queues worker id = some job := by rw [carryOut_queues, known]
  have taken : σ.step (.process worker id answering) =
      some (τ.put worker (Function.update (τ.queues worker) id (some (job.move .completed pending)))) := by
    simp only [step, known, ends, Option.bind_eq_bind, Option.bind_some]
    exact queueStep_move known' (dif_pos works)
  exact ⟨_, _, job.move .completed pending, Run.start.step taken, queues_put_update τ _, rfl, rfl⟩

/-- A use case that nobody disturbs runs to its end, and so does the job. -/
theorem canComplete_of_run {useCase : UseCase} (quiet : σ.backend.Quiet) (known : σ.queues worker id = some job)
    (waiting : job.stage = .waiting) (runs : worker.task job.data = .run useCase)
    (accepted : ¬ useCase.RefusedIn σ.backend.db) : σ.CanComplete worker id job.data := by
  obtain ⟨ambient, _, fresh⟩ := Ambient.exists_freshIn σ.backend.db 0
  obtain ⟨consumer, isMark⟩ := mark_of_task runs
  let e := job.data.execution useCase exampleUuid ambient
  obtain ⟨out, db', ran, commits⟩ := ran_of_accepted (e := e) isMark fresh accepted
  have waits : job.stage.isWaiting = true := by rw [waiting]; rfl
  let job₁ := job.move (.active (some σ.backend.sessions.length)) (JobQueue.Stage.pending_of_waiting waits)
  let σ₁ := (σ.arrive e).put worker (Function.update (σ.queues worker) id (some job₁))
  have taken : σ.step (.take worker id exampleUuid ambient) = some σ₁ := by
    simp only [step, known, runs, Option.bind_eq_bind, Option.bind_some]
    exact queueStep_move (σ := σ.arrive e) known (dif_pos waits)
  have alone : σ₁.backend.Alone σ.backend.sessions.length := quiet.alone e
  have found : σ₁.backend.sessions[σ.backend.sessions.length]? = some (Session.start e) :=
    List.getElem?_concat_length
  obtain ⟨moves, c, s, run, _, ended, _, status⟩ :=
    Config.transact_alone (η := repositories) found alone (Handler.transact_of_commit ran commits)
  rw [if_pos commits] at status
  obtain ⟨history, lifted⟩ := lift_backend (σ := σ₁) run
  have known₁ : ({ σ₁ with backend := c } : Deliveries).queues worker id = some job₁ :=
    queues_put_update (σ.arrive e) job₁
  have ends : ({ σ₁ with backend := c } : Deliveries).verdict worker job₁ answering = some .complete := by
    have runs₁ : worker.task job₁.data = .run useCase := runs
    have active : job₁.stage = .active (some σ.backend.sessions.length) := rfl
    simp only [verdict, answering, runs₁, active, ended, Option.map_some, status]
  exact ((canComplete_of_active known₁ rfl ends).after lifted).after (Run.start.step taken)

/-- So does a job that no use case has to run for. -/
theorem canComplete_of_idle (known : σ.queues worker id = some job) (waiting : job.stage = .waiting)
    (idle : ∀ useCase, worker.task job.data ≠ .run useCase) : σ.CanComplete worker id job.data := by
  have waits : job.stage.isWaiting = true := by rw [waiting]; rfl
  let job₁ := job.move (.active none) (JobQueue.Stage.pending_of_waiting waits)
  have taken : σ.step (.take worker id exampleUuid (exampleAmbient 0)) =
      some (σ.put worker (Function.update (σ.queues worker) id (some job₁))) := by
    have moved := queueStep_move (m := .take none) known (dif_pos waits)
    cases task : worker.task job.data with
    | run useCase => exact absurd task (idle useCase)
    | _ => simpa only [step, known, task, Option.bind_eq_bind, Option.bind_some] using moved
  have ends : (σ.put worker (Function.update (σ.queues worker) id (some job₁))).verdict worker job₁ answering =
      some .complete := by
    have sameTask : worker.task job₁.data = worker.task job.data := rfl
    cases task : worker.task job.data with
    | run useCase => exact absurd task (idle useCase)
    | _ => simp [verdict, answering, sameTask, task]
  exact (canComplete_of_active (queues_put_update σ job₁) rfl ends).after (Run.start.step taken)

variable {db₀ : Db} {jobs : List Execution} {history : List (Deliveries × DeliveryMove)}

/-- From every state that is reached, a job that has to be done can be completed, and is settled then, unless the
    database refuses what it asks for. -/
theorem pending_completes (run : Run step (start db₀ jobs) history σ) {worker : Worker} {id : Uuid}
    {job : JobQueue.Job EventJobData (Option Nat)} (known : σ.queues worker id = some job)
    (pending : job.stage.isPending = true)
    (accepted : ∀ useCase, worker.task job.data = .run useCase → ¬ useCase.RefusedIn σ.backend.db) :
    ∃ later σ' job', Run step σ later σ' ∧ σ'.queues worker id = some job' ∧ job'.data = job.data ∧
      job'.stage = .completed ∧ Settled db₀ σ' worker job.data := by
  -- all sessions are aborted, and the job is taken back
  obtain ⟨moves, c, aborted, sameDb, quiet⟩ := σ.backend.exists_quiet
  obtain ⟨history₁, lifted⟩ := lift_backend aborted
  obtain ⟨history₂, σ₂, job₂, takenBack, sameBackend, known₂, sameData₂, waiting⟩ :=
    exists_waiting (σ := { σ with backend := c }) known pending
  have completes : σ₂.CanComplete worker id job₂.data := by
    by_cases idle : ∀ useCase, worker.task job₂.data ≠ .run useCase
    · exact canComplete_of_idle known₂ waiting idle
    · simp only [not_forall, not_not] at idle
      obtain ⟨useCase, runs⟩ := idle
      have quiet₂ : σ₂.backend.Quiet := sameBackend ▸ quiet
      refine canComplete_of_run quiet₂ known₂ waiting runs ?_
      rw [sameBackend]
      change ¬ useCase.RefusedIn c.db
      rw [sameDb]
      exact accepted useCase (sameData₂ ▸ runs)
  obtain ⟨history₃, σ₃, job₃, carriedOut, known₃, sameData₃, completed⟩ := completes
  have later := (lifted.append takenBack).append carriedOut
  have whole := run.append later
  have sameData : job₃.data = job.data := sameData₃.trans sameData₂
  obtain ⟨routed, fits⟩ := (sound_of_run whole).jobs worker id job₃ known₃
  rw [completed, sameData] at fits
  rw [sameData] at routed
  exact ⟨_, σ₃, job₃, later, known₃, sameData, completed, settled_of_handled whole routed fits⟩

section Example

/-- The first start of the timers of a new ticket dies with its transaction, and a worker has taken the job again. -/
def stalledMoves : List DeliveryMove :=
  [.enqueue .sla 102 5, .take .sla 102 exampleUuid (exampleAmbient 1), .backend (.call 0 0), .backend (.abort 0),
    .process .sla 102 (throwing "timeout"), .take .sla 102 exampleUuid (exampleAmbient 2)]

/-- Whether the database takes what a job asks for. -/
def accepts (σ : Deliveries) (worker : Worker) (data : EventJobData) : Bool :=
  match worker.task data with
  | .run useCase => decide (¬ useCase.RefusedIn σ.backend.db)
  | _ => true

/-- The ticket is there and has no timers yet, so the job can be completed. -/
theorem pending_completes_example : ∃ history σ job later σ', Run step (start createdDb []) history σ ∧
    σ.queues .sla 102 = some job ∧ job.attemptsMade = 1 ∧ Run step σ later σ' ∧
    Settled createdDb σ' .sla job.data := by
  have possible : (play step (start createdDb []) stalledMoves).map (fun σ =>
      (σ.queues .sla 102).map fun job => (job.stage.isPending, job.attemptsMade, σ.accepts .sla job.data)) =
      some (some (true, 1, true)) := by
    decide
  obtain ⟨σ, played, seen⟩ := Option.map_eq_some_iff.mp possible
  obtain ⟨job, known, shown⟩ := Option.map_eq_some_iff.mp seen
  simp only [Prod.mk.injEq] at shown
  obtain ⟨pending, once, accepted⟩ := shown
  have run := play_run played
  obtain ⟨later, σ', _, goesOn, _, _, _, settled⟩ := pending_completes run known pending fun useCase runs => by
    rw [accepts, runs] at accepted
    exact of_decide_eq_true accepted
  exact ⟨_, σ, job, later, σ', run, known, once, goesOn, settled⟩

end Example

end Deliveries

end Helpdesk
