/-
Module: HelpdeskApi.Proofs.MetInTime
Layer: Proofs
Purpose: Whether a timer that is reported as met was stopped in time. `SlaTimer.stop` looks at nothing but
  whether the timer is running, so a late stop that is processed before a sweep has seen the timer leaves
  it met. `metInTime_iff` says that nothing else goes wrong: along a run every met timer was met in time
  exactly if every stop that finds its timer running is in time.
Trusted boundary: none
Main exports: InTime, MetInTime, StopsInTime, metInTime_iff
-/
import HelpdeskApi.Queue.SlaSystem
import HelpdeskApi.Queue.TimerChanges

namespace Helpdesk

open Relational Transition

/-- A timer reported as met was stopped no later than its deadline, and one that has ended is breached
    if every fact delivered for it occurred after its deadline. -/
structure InTime (delivered : List EventJobData) (t : SlaTimer) : Prop where
  met : ∀ now, (describeSlaTimer t.kind t.dueAt t.stoppedAt t.breachedAt now).status = .met →
    ∃ s, t.stoppedAt = some s ∧ s ≤ t.dueAt
  late : t.isRunning = false → (∀ data ∈ delivered, data.stops t → t.dueAt < data.occurredAt) →
    t.isBreached = true

/-- Every timer of the system is in time. -/
def MetInTime (w : SlaSystem) : Prop :=
  ∀ t ∈ w.db.timers.rows, InTime w.delivered t

/-- A stop that is about to end a running timer occurred no later than the timer's deadline. -/
def StopsInTime (w : SlaSystem) : SlaAction → Prop
  | .deliver messageId _ =>
      ∀ message, w.db.outbox.find? messageId = some message →
        ∀ kind, message.job.fulfils kind = true →
          ∀ timer, StopSlaTimer.ending (SlaProcessor.stopInput message.job kind) w.db = some timer →
            message.occurredAt ≤ timer.dueAt
  | _ => True

instance (w : SlaSystem) : DecidablePred (StopsInTime w)
  | .deliver messageId _ =>
      inferInstanceAs (Decidable (∀ message ∈ w.db.outbox.find? messageId, ∀ kind, message.job.fulfils kind = true →
        ∀ timer ∈ StopSlaTimer.ending (SlaProcessor.stopInput message.job kind) w.db,
          message.occurredAt ≤ timer.dueAt))
  | .request _ | .sweep _ _ | .mark _ _ => .isTrue trivial

namespace InTime

variable {delivered delivered' : List EventJobData} {t : SlaTimer}

theorem of_running (running : t.isRunning = true) : InTime delivered t where
  met now isMet := by
    have stopped := ((describeSlaTimer_met_iff _ _ _ _ _).mp isMet).2
    exact absurd ((t.isRunning_iff).mp running).1 stopped
  late ended := by simp [running] at ended

theorem of_breached (breached : t.isBreached = true) : InTime delivered t where
  met now isMet := by
    have unbreached := ((describeSlaTimer_met_iff _ _ _ _ _).mp isMet).1
    simp [SlaTimer.isBreached, unbreached] at breached
  late _ _ := breached

/-- The more was delivered, the less is asked of a timer. -/
theorem mono (inTime : InTime delivered t) (more : ∀ data ∈ delivered, data ∈ delivered') :
    InTime delivered' t where
  met := inTime.met
  late ended allLate := inTime.late ended fun data member => allLate data (more data member)

end InTime

variable {w w' : SlaSystem} {a : SlaAction}

/-- Timers that are still running, and timers that were breached, need no further look. -/
theorem MetInTime.kept (before : MetInTime w) (more : ∀ data ∈ w.delivered, data ∈ w'.delivered)
    (origin : ∀ t ∈ w'.db.timers.rows, t ∈ w.db.timers.rows ∨ t.isRunning = true ∨ t.isBreached = true) :
    MetInTime w' := by
  intro t member
  rcases origin t member with old | running | breached
  · exact (before t old).mono more
  · exact .of_running running
  · exact .of_breached breached

theorem MetInTime.of_same (before : MetInTime w) (more : ∀ data ∈ w.delivered, data ∈ w'.delivered)
    (same : w'.db.timers = w.db.timers) : MetInTime w' :=
  before.kept more fun _ member => .inl (same ▸ member)

section Stopping

variable {message : OutboxRow} {kind : SlaKind} {timer : SlaTimer}

/-- A stop that ends a timer keeps every timer in time exactly if it is in time itself. -/
theorem metInTime_stop_iff (before : MetInTime w) (fulfilled : message.job.fulfils kind = true)
    (ends : StopSlaTimer.ending (SlaProcessor.stopInput message.job kind) w.db = some timer)
    (delivered : w'.delivered = w.delivered ++ [message.job])
    (replaced : w.db.TimerReplaced w'.db { timer with stoppedAt := some message.occurredAt }) :
    MetInTime w' ↔ message.occurredAt ≤ timer.dueAt := by
  obtain ⟨stored, ofTenant, ofTicket, ofKind, running⟩ :=
    StopSlaTimer.running_spec (StopSlaTimer.ending_spec ends).2
  have unbreached := (timer.isRunning_iff.mp running).2
  constructor
  · intro after
    have stopped := after _ ((replaced _).mpr (.inr rfl))
    obtain ⟨s, same, inTime⟩ := stopped.met 0 ((describeSlaTimer_met_iff _ _ _ _ _).mpr
      ⟨unbreached, by simp⟩)
    simp only [Option.some.injEq] at same
    exact same ▸ inTime
  · intro inTime t member
    rcases (replaced t).mp member with ⟨old, _⟩ | rfl
    · exact (before t old).mono fun data earlier => by simp [delivered, earlier]
    · constructor
      · intro _ _
        exact ⟨_, rfl, inTime⟩
      · -- the message itself was delivered, and it is not late
        intro _ allLate
        have isLate := allLate message.job (by simp [delivered])
          ⟨ofKind ▸ fulfilled, ofTenant.symm, congrArg TicketId.uuid ofTicket.symm⟩
        exact absurd inTime (Int.not_le.mpr isLate)

end Stopping

/-- One step keeps every timer in time exactly if the stop it processes, if any, is in time. -/
theorem metInTime_step_iff (before : MetInTime w) (taken : w.step a = some w') :
    MetInTime w' ↔ StopsInTime w a := by
  cases SlaSystem.step_stepped taken with
  | request isRequest _ =>
      exact iff_of_true (before.of_same (fun _ member => member) (Execution.timers_of_request isRequest _))
        trivial
  | @started messageId ambient message input found fresh dispatched =>
      refine iff_of_true (before.kept (by simp +contextual) ?_) ?_
      · intro t member
        rcases StartSlaTimers.mem_timers_committed fresh member with old | ⟨_, kind, rfl⟩
        · exact .inl old
        · exact .inr (.inl rfl)
      · intro message' found' kind fulfilled
        cases found.symm.trans found'
        simp [SlaSystem.fulfils_of_started kind dispatched] at fulfilled
  | @stopped messageId ambient message kind found dispatched =>
      have fulfilled := (SlaProcessor.despachar_stop_iff _ _).mp dispatched
      have condition : StopsInTime w (.deliver messageId ambient) ↔
          ∀ timer, StopSlaTimer.ending (SlaProcessor.stopInput message.job kind) w.db = some timer →
            message.occurredAt ≤ timer.dueAt := by
        constructor
        · intro inTime
          exact inTime message found kind fulfilled
        · intro inTime message' found' other fulfilled'
          cases found.symm.trans found'
          cases SlaSystem.kind_of_stopped dispatched fulfilled'
          exact inTime
      rw [condition]
      cases ends : StopSlaTimer.ending (SlaProcessor.stopInput message.job kind) w.db with
      | none =>
          exact iff_of_true (before.of_same (by simp +contextual) (StopSlaTimer.timers_of_idle ends))
            (by simp)
      | some timer =>
          rw [metInTime_stop_iff before fulfilled ends rfl (StopSlaTimer.timers_of_ending ends)]
          simp
  | @passed messageId ambient message found idle =>
      refine iff_of_true (before.of_same (by simp +contextual) rfl) ?_
      intro message' found' kind fulfilled
      cases found.symm.trans found'
      exact absurd ((SlaProcessor.despachar_stop_iff _ _).mpr fulfilled) (idle _)
  | sweep limit now => exact iff_of_true (before.of_same (fun _ member => member) rfl) trivial
  | @mark i ambient row rest pending fresh =>
      refine iff_of_true (before.kept (fun _ member => member) ?_) trivial
      intro t member
      rcases MarkSlaBreached.mem_timers_committed member with old | ⟨timer, _, _, rfl⟩
      · exact .inl old
      · exact .inr (.inr rfl)

/-- In every state of a run that starts without timers, the timers reported as met were met in time and
    those whose facts all came late are breached, exactly if every stop that finds its timer running
    occurred by the timer's deadline. -/
theorem metInTime_iff {db : Db} (noTimers : db.timers = .empty) {history : List (SlaSystem × SlaAction)}
    (run : Run SlaSystem.step (.initial db) history w) :
    Always MetInTime history w ↔ Meets StopsInTime history := by
  refine run.always_iff_steps (I := fun _ => True) trivial (fun _ _ _ _ _ => trivial) ?_ ?_
  · intro t member
    simp [SlaSystem.initial, noTimers] at member
  · intro _ _ _ _ before taken
    exact metInTime_step_iff before taken

section Example

/-- An answer forty minutes after the deadline reaches the worker before any sweep has looked at the
    timer. -/
def lateAnswer : List SlaAction :=
  [.request (exampleExecution 0 (.createTicket ⟨⟨1⟩, ⟨2⟩, "Hola", "No entra", .HIGH⟩)),
    .deliver 102 (exampleAmbient 1),
    .request (exampleExecution 100 (.addComment ⟨⟨1⟩, ⟨3⟩, "AGENT", ⟨100⟩, "Lo miramos"⟩)),
    .deliver 10102 (exampleAmbient 101)]

/-- The timer of the example ends up met, stopped forty minutes after its deadline. -/
theorem lateAnswer_met :
    ∃ history w, Run SlaSystem.step (.initial Db.empty) history w ∧ ¬ Always MetInTime history w := by
  have possible : ((play SlaSystem.step (.initial Db.empty) lateAnswer).map
      fun w => w.db.timers.rows.any fun t =>
        t.dueAt == 3600000 && t.stoppedAt == some 6000000 && t.breachedAt == none) = some true := by decide
  obtain ⟨w, played, found⟩ := Option.map_eq_some_iff.mp possible
  obtain ⟨t, member, reads⟩ := List.any_eq_true.mp found
  simp only [Bool.and_eq_true, beq_iff_eq] at reads
  refine ⟨_, w, play_run played, fun always => ?_⟩
  obtain ⟨s, same, inTime⟩ := (always.2 t member).met 0
    ((describeSlaTimer_met_iff _ _ _ _ _).mpr ⟨reads.2, by simp [reads]⟩)
  rw [reads.1.2, Option.some.injEq] at same
  rw [reads.1.1, ← same] at inTime
  exact absurd inTime (by decide)

/-- An answer two minutes after the ticket, processed at once; another one comes after a sweep has marked the
    clock of the solution. -/
def earlyAnswer : List SlaAction :=
  [.request (exampleExecution 0 (.createTicket ⟨⟨1⟩, ⟨2⟩, "Hola", "No entra", .HIGH⟩)),
    .deliver 102 (exampleAmbient 1),
    .request (exampleExecution 2 (.addComment ⟨⟨1⟩, ⟨3⟩, "AGENT", ⟨100⟩, "Lo miramos"⟩)),
    .deliver 302 (exampleAmbient 3),
    .sweep 10 30000000,
    .mark 0 (exampleAmbient 500),
    .request (exampleExecution 501 (.addComment ⟨⟨1⟩, ⟨3⟩, "AGENT", ⟨100⟩, "Seguimos"⟩)),
    .deliver 50202 (exampleAmbient 502)]

/-- The stop of the example is in time, so the timer it ended was met in time. -/
theorem metInTime_iff_earlyAnswer :
    ∃ w, Run SlaSystem.step (.initial Db.empty) (playHistory SlaSystem.step (.initial Db.empty) earlyAnswer) w ∧
      Meets StopsInTime (playHistory SlaSystem.step (.initial Db.empty) earlyAnswer) ∧
      (∃ t ∈ w.db.timers.rows, t.stoppedAt = some 120000) ∧
      Always MetInTime (playHistory SlaSystem.step (.initial Db.empty) earlyAnswer) w := by
  have possible : ((play SlaSystem.step (.initial Db.empty) earlyAnswer).map
      fun w => w.db.timers.rows.any fun t => t.stoppedAt == some 120000) = some true := by decide
  have meets : Meets StopsInTime (playHistory SlaSystem.step (.initial Db.empty) earlyAnswer) := by decide
  obtain ⟨w, played, found⟩ := Option.map_eq_some_iff.mp possible
  obtain ⟨t, member, stopped⟩ := List.any_eq_true.mp found
  exact ⟨w, play_run played, meets, ⟨t, member, beq_iff_eq.mp stopped⟩,
    (metInTime_iff rfl (play_run played)).mpr meets⟩

end Example

end Helpdesk
