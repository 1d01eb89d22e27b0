/-
Module: HelpdeskApi.Library.JobQueue
Layer: Library
Purpose: A queue that keeps jobs by id and hands them out until they are done. A job waits, a worker has it, and it
  ends completed or failed. It fails for good when its last attempt does, or when the queue gives it up because its
  workers vanish; before that it waits again. A job whose id is known is not added a second time, a failed one is
  kept, and a completed one may be forgotten.
Trusted boundary: none
Main exports: Stage, Job, Move, Job.step, Queue, Event, Queue.step, Queue.kept_of_step, Queue.failed_stays,
  Queue.forall_of_step
-/
import Mathlib.Logic.Function.Basic

namespace JobQueue

variable {Id Data Work : Type}

/-- Where a job stands. -/
inductive Stage (Work : Type) where
  | waiting
  | active (work : Work)
  | completed
  | failed (reason : String)
deriving DecidableEq, Repr

namespace Stage

/-- Whether the job still has to be done. -/
def isPending : Stage Work → Bool
  | .waiting | .active _ => true
  | .completed | .failed _ => false

def isWaiting : Stage Work → Bool
  | .waiting => true
  | _ => false

def isActive : Stage Work → Bool
  | .active _ => true
  | _ => false

theorem pending_of_waiting {stage : Stage Work} (waits : stage.isWaiting = true) : stage.isPending = true := by
  cases stage <;> first | rfl | cases waits

theorem pending_of_active {stage : Stage Work} (works : stage.isActive = true) : stage.isPending = true := by
  cases stage <;> first | rfl | cases works

end Stage

/-- A job, which has an attempt left for as long as it is not over. -/
structure Job (Data Work : Type) where
  data : Data
  attempts : Nat
  attemptsMade : Nat
  stage : Stage Work
  within : attemptsMade ≤ attempts
  left : stage.isPending = true → attemptsMade < attempts

/-- What can happen to a job. -/
inductive Move (Work : Type) where
  | take (work : Work)
  | complete
  | fail (reason : String)
  | stall
  | giveUp (reason : String)

namespace Job

/-- A job that has just been added. -/
def new (data : Data) (attempts : Nat) (positive : 0 < attempts) : Job Data Work where
  data := data
  attempts := attempts
  attemptsMade := 0
  stage := .waiting
  within := Nat.zero_le _
  left _ := positive

/-- A job with another stage, and as many attempts as before. -/
def move (job : Job Data Work) (stage : Stage Work) (pending : job.stage.isPending = true) : Job Data Work :=
  { job with stage := stage, left := fun _ => job.left pending }

/-- One more attempt has failed: the job waits for the next, if there is one. -/
def fail (job : Job Data Work) (reason : String) (pending : job.stage.isPending = true) : Job Data Work :=
  if again : job.attemptsMade + 1 < job.attempts then
    { job with
      attemptsMade := job.attemptsMade + 1
      stage := .waiting
      within := Nat.le_of_lt again
      left := fun _ => again }
  else
    { job with
      attemptsMade := job.attemptsMade + 1
      stage := .failed reason
      within := job.left pending
      left := nofun }

/-- What becomes of a job, if the move is possible. -/
def step (job : Job Data Work) : Move Work → Option (Job Data Work)
  | .take work =>
      if waits : job.stage.isWaiting then some (job.move (.active work) (Stage.pending_of_waiting waits)) else none
  | .complete =>
      if works : job.stage.isActive then some (job.move .completed (Stage.pending_of_active works)) else none
  | .fail reason =>
      if works : job.stage.isActive then some (job.fail reason (Stage.pending_of_active works)) else none
  | .stall =>
      if works : job.stage.isActive then some (job.move .waiting (Stage.pending_of_active works)) else none
  | .giveUp reason =>
      if works : job.stage.isActive then some (job.move (.failed reason) (Stage.pending_of_active works)) else none

/-- Where a move takes a job that has to be done. -/
inductive Stepped (job : Job Data Work) : Move Work → Job Data Work → Prop where
  | take (work : Work) (pending : job.stage.isPending = true) :
      Stepped job (.take work) (job.move (.active work) pending)
  | complete (pending : job.stage.isPending = true) : Stepped job .complete (job.move .completed pending)
  | fail (reason : String) (pending : job.stage.isPending = true) : Stepped job (.fail reason) (job.fail reason pending)
  | stall (pending : job.stage.isPending = true) : Stepped job .stall (job.move .waiting pending)
  | giveUp (reason : String) (pending : job.stage.isPending = true) :
      Stepped job (.giveUp reason) (job.move (.failed reason) pending)

variable {job job' : Job Data Work} {m : Move Work}

theorem step_stepped (taken : job.step m = some job') : job.Stepped m job' := by
  cases m with
  | take work =>
      simp only [step, Option.dite_none_right_eq_some, Option.some.injEq] at taken
      obtain ⟨waits, rfl⟩ := taken
      exact .take work _
  | complete =>
      simp only [step, Option.dite_none_right_eq_some, Option.some.injEq] at taken
      obtain ⟨works, rfl⟩ := taken
      exact .complete _
  | fail reason =>
      simp only [step, Option.dite_none_right_eq_some, Option.some.injEq] at taken
      obtain ⟨works, rfl⟩ := taken
      exact .fail reason _
  | stall =>
      simp only [step, Option.dite_none_right_eq_some, Option.some.injEq] at taken
      obtain ⟨works, rfl⟩ := taken
      exact .stall _
  | giveUp reason =>
      simp only [step, Option.dite_none_right_eq_some, Option.some.injEq] at taken
      obtain ⟨works, rfl⟩ := taken
      exact .giveUp reason _

theorem Stepped.pending (stepped : job.Stepped m job') : job.stage.isPending = true := by
  cases stepped <;> assumption

@[simp] theorem fail_data (reason : String) (pending : job.stage.isPending = true) :
    (job.fail reason pending).data = job.data := by
  unfold fail
  split <;> rfl

/-- A failure ends a job for good with its last attempt. -/
theorem stage_fail (reason : String) (pending : job.stage.isPending = true) :
    (job.fail reason pending).stage = .waiting ∨
      (job.fail reason pending).stage = .failed reason ∧
        (job.fail reason pending).attemptsMade = (job.fail reason pending).attempts := by
  unfold fail
  split
  · exact .inl rfl
  · rename_i last
    have left := job.left pending
    exact .inr ⟨rfl, by dsimp only; omega⟩

theorem Stepped.data (stepped : job.Stepped m job') : job'.data = job.data := by
  cases stepped with
  | fail reason pending => exact fail_data reason pending
  | _ => rfl

/-- A job is completed by nothing else. -/
theorem Stepped.completes (stepped : job.Stepped m job') (completed : job'.stage = .completed) : m = .complete := by
  cases stepped with
  | complete pending => rfl
  | fail reason pending =>
      rcases stage_fail reason pending with waits | ⟨fails, _⟩
      · cases waits.symm.trans completed
      · cases fails.symm.trans completed
  | _ => cases completed

end Job

/-- The jobs that are known, by their ids. -/
abbrev Queue (Id Data Work : Type) :=
  Id → Option (Job Data Work)

inductive Event (Id Data Work : Type) where
  | add (id : Id) (data : Data) (attempts : Nat)
  | move (id : Id) (m : Move Work)
  | forget (id : Id)

namespace Queue

variable [DecidableEq Id]

/-- No job is known. -/
def empty : Queue Id Data Work :=
  fun _ => none

/-- Add a job, unless its id is known. -/
def add (q : Queue Id Data Work) (id : Id) (job : Job Data Work) : Queue Id Data Work :=
  match q id with
  | some _ => q
  | none => Function.update q id (some job)

/-- What an event makes of the queue, if it is possible. -/
def step (q : Queue Id Data Work) : Event Id Data Work → Option (Queue Id Data Work)
  | .add id data attempts => if positive : 0 < attempts then some (q.add id (.new data attempts positive)) else none
  | .move id m => do
      let job ← q id
      let job' ← job.step m
      some (Function.update q id (some job'))
  | .forget id => do
      let job ← q id
      match job.stage with
      | .completed => some (Function.update q id none)
      | _ => none

section Add

variable {q : Queue Id Data Work} {id id' : Id} {job job' : Job Data Work}

theorem add_of_known (known : q id = some job') : q.add id job = q := by
  simp only [add, known]

theorem add_of_unknown (unknown : q id = none) : q.add id job = Function.update q id (some job) := by
  simp only [add, unknown]

/-- What is known stays as it is. -/
theorem known_add (known : q id' = some job') : q.add id job id' = some job' := by
  cases found : q id with
  | some other => rwa [add_of_known found]
  | none =>
      have other : id' ≠ id := by
        rintro rfl
        cases found.symm.trans known
      rw [add_of_unknown found, Function.update_of_ne other, known]

/-- What is known afterwards was known before, or is new. -/
theorem of_known_add (known : q.add id job id' = some job') :
    q id' = some job' ∨ id' = id ∧ q id = none ∧ job' = job := by
  cases found : q id with
  | some other =>
      rw [add_of_known found] at known
      exact .inl known
  | none =>
      rw [add_of_unknown found] at known
      by_cases same : id' = id
      · subst same
        rw [Function.update_self, Option.some.injEq] at known
        exact .inr ⟨rfl, rfl, known.symm⟩
      · rw [Function.update_of_ne same] at known
        exact .inl known

theorem isSome_add_iff : (q.add id job id').isSome = true ↔ (q id').isSome = true ∨ id = id' := by
  cases found : q id with
  | some other =>
      rw [add_of_known found]
      refine ⟨.inl, fun known => known.elim (fun known => known) ?_⟩
      rintro rfl
      rw [found]
      rfl
  | none =>
      rw [add_of_unknown found]
      by_cases same : id = id'
      · subst same
        simp
      · simp [Function.update_of_ne (Ne.symm same), same]

theorem isSome_add : (q.add id job id).isSome = true :=
  isSome_add_iff.mpr (.inr rfl)

end Add

/-- Everything an event can do, one constructor for each kind of it. -/
inductive Stepped (q : Queue Id Data Work) : Event Id Data Work → Queue Id Data Work → Prop where
  | add (id : Id) (data : Data) {attempts : Nat} (positive : 0 < attempts) :
      Stepped q (.add id data attempts) (q.add id (.new data attempts positive))
  | move {id : Id} {m : Move Work} {job job' : Job Data Work} (known : q id = some job) (stepped : job.Stepped m job') :
      Stepped q (.move id m) (Function.update q id (some job'))
  | forget {id : Id} {job : Job Data Work} (known : q id = some job) (completed : job.stage = .completed) :
      Stepped q (.forget id) (Function.update q id none)

variable {q q' : Queue Id Data Work} {e : Event Id Data Work}

theorem step_stepped (taken : q.step e = some q') : q.Stepped e q' := by
  cases e with
  | add id data attempts =>
      simp only [step, Option.dite_none_right_eq_some, Option.some.injEq] at taken
      obtain ⟨positive, rfl⟩ := taken
      exact .add id data positive
  | move id m =>
      simp only [step, Option.bind_eq_bind, Option.bind_eq_some_iff, Option.some.injEq] at taken
      obtain ⟨job, known, job', stepped, rfl⟩ := taken
      exact .move known (Job.step_stepped stepped)
  | forget id =>
      simp only [step, Option.bind_eq_bind, Option.bind_eq_some_iff] at taken
      obtain ⟨job, known, taken⟩ := taken
      split at taken
      · rename_i completed
        cases taken
        exact .forget known completed
      · cases taken

/-- A job that is known moves as it can. -/
theorem step_move {id : Id} {m : Move Work} {job job' : Job Data Work} (known : q id = some job)
    (moved : job.step m = some job') : q.step (.move id m) = some (Function.update q id (some job')) := by
  simp [step, known, moved]

/-- A job that is not completed is kept with its data, unless it is completed now. -/
theorem kept_of_step {id : Id} {job : Job Data Work} (taken : q.step e = some q') (known : q id = some job)
    (standing : job.stage ≠ .completed) :
    (∃ job', q' id = some job' ∧ job'.data = job.data ∧ job'.stage ≠ .completed) ∨
      ∃ job', e = .move id .complete ∧ job.Stepped .complete job' := by
  cases step_stepped taken with
  | add id' data positive => exact .inl ⟨job, known_add known, rfl, standing⟩
  | @move id' m before after known' stepped =>
      by_cases same : id = id'
      · subst same
        cases known.symm.trans known'
        by_cases completed : after.stage = .completed
        · cases stepped.completes completed
          exact .inr ⟨after, rfl, stepped⟩
        · exact .inl ⟨after, Function.update_self .., stepped.data, completed⟩
      · exact .inl ⟨job, by rw [Function.update_of_ne same, known], rfl, standing⟩
  | @forget id' before known' completed =>
      have other : id ≠ id' := by
        rintro rfl
        cases known.symm.trans known'
        exact standing completed
      exact .inl ⟨job, by rw [Function.update_of_ne other, known], rfl, standing⟩

/-- What is added is known. -/
theorem known_of_add {id : Id} {data : Data} {attempts : Nat} (taken : q.step (.add id data attempts) = some q') :
    ∃ job, q' id = some job := by
  cases step_stepped taken with
  | add _ _ positive => exact Option.isSome_iff_exists.mp isSome_add

/-- A job that has failed for good stays as it is. -/
theorem failed_stays {id : Id} {job : Job Data Work} {reason : String} (taken : q.step e = some q')
    (known : q id = some job) (failed : job.stage = .failed reason) : q' id = some job := by
  cases step_stepped taken with
  | add id' data positive => exact known_add known
  | @move id' m before after known' stepped =>
      have other : id ≠ id' := by
        rintro rfl
        cases known.symm.trans known'
        have pending := stepped.pending
        rw [failed] at pending
        cases pending
      rw [Function.update_of_ne other, known]
  | @forget id' before known' completed =>
      have other : id ≠ id' := by
        rintro rfl
        cases known.symm.trans known'
        cases failed.symm.trans completed
      rw [Function.update_of_ne other, known]

/-- What is asked of the data of every job and of the stage it has reached holds if it holds of what is added and of
    what is moved. -/
theorem forall_of_step {P : Id → Data → Stage Work → Prop} (taken : q.step e = some q')
    (all : ∀ id job, q id = some job → P id job.data job.stage)
    (added : ∀ id data attempts, e = .add id data attempts → P id data .waiting)
    (moved : ∀ id m job job', e = .move id m → q id = some job → job.Stepped m job' → P id job.data job'.stage) :
    ∀ id job, q' id = some job → P id job.data job.stage := by
  intro id job found
  cases step_stepped taken with
  | @add id' data attempts positive =>
      rcases of_known_add found with old | ⟨rfl, _, rfl⟩
      · exact all id job old
      · exact added _ data _ rfl
  | @move id' m before after known' stepped =>
      by_cases same : id = id'
      · subst same
        rw [Function.update_self, Option.some.injEq] at found
        subst found
        rw [stepped.data]
        exact moved id m before after rfl known' stepped
      · rw [Function.update_of_ne same] at found
        exact all id job found
  | @forget id' before known' completed =>
      by_cases same : id = id'
      · subst same
        rw [Function.update_self] at found
        cases found
      · rw [Function.update_of_ne same] at found
        exact all id job found

end Queue

end JobQueue
