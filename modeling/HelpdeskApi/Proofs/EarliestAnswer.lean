/-
Module: HelpdeskApi.Proofs.EarliestAnswer
Layer: Proofs
Purpose: Which of several answers a timer keeps. A running timer is stopped by the message that reaches the
  worker first, and with the instant at which that one occurred: the earliest answer counts exactly when it is
  also the first to be delivered.
Trusted boundary: none
Main exports: answersSince, firstAnswer, EarliestCounts, FirstIsEarliest, answeredFirst_run, earliestCounts_iff
-/
import HelpdeskApi.Proofs.ClosedInTime

namespace Helpdesk

open Relational Transition

/-- What was delivered between two states for a timer to stop at, in the order of the deliveries. -/
def answersSince (w w' : SlaSystem) (timer : SlaTimer) : List EventJobData :=
  (w'.delivered.drop w.delivered.length).filter fun job => job.Answers timer.ticketId timer.kind

/-- The first of these that had not been delivered before. -/
def firstAnswer (w w' : SlaSystem) (timer : SlaTimer) : Option EventJobData :=
  (answersSince w w' timer).find? fun job => job ∉ w.delivered

/-- The timer is stopped at the smallest of the instants at which the answers occurred. -/
def EarliestCounts (w w' : SlaSystem) (timer : SlaTimer) : Prop :=
  ∃ r ∈ w'.db.timers.rows, r.id = timer.id ∧ ∃ earliest ∈ answersSince w w' timer,
    r.stoppedAt = some earliest.occurredAt ∧
      ∀ job ∈ answersSince w w' timer, earliest.occurredAt ≤ job.occurredAt

/-- No answer occurred before the one that was delivered first. -/
def FirstIsEarliest (w w' : SlaSystem) (timer : SlaTimer) : Prop :=
  ∃ first, firstAnswer w w' timer = some first ∧
    ∀ job ∈ answersSince w w' timer, first.occurredAt ≤ job.occurredAt

/-- The step of a sweep that marks a timer. -/
def SlaAction.marks : SlaAction → Bool
  | .mark _ _ => true
  | _ => false

/-- The timer once it was stopped by a job, if there was one. -/
def SlaTimer.stoppedBy (timer : SlaTimer) (job : Option EventJobData) : SlaTimer :=
  { timer with stoppedAt := job.map EventJobData.occurredAt }

/-- What a timer that was running has become: the first answer has stopped it. -/
structure AnsweredFirst (w₀ : SlaSystem) (timer : SlaTimer) (w : SlaSystem) : Prop where
  more : w₀.delivered <+: w.delivered
  stored : timer.stoppedBy (firstAnswer w₀ w timer) ∈ w.db.timers.rows

section Deliveries

variable {w₀ w w' : SlaSystem} {timer : SlaTimer} {job : EventJobData}

/-- One more delivery is one more answer, or none. -/
theorem answersSince_snoc (more : w₀.delivered <+: w.delivered) (delivered : w'.delivered = w.delivered ++ [job]) :
    answersSince w₀ w' timer = answersSince w₀ w timer ++
      if job.Answers timer.ticketId timer.kind then [job] else [] := by
  have within : w₀.delivered.length ≤ w.delivered.length := more.length_le
  rw [answersSince, delivered, List.drop_append_of_le_length within, List.filter_append]
  by_cases answers : job.Answers timer.ticketId timer.kind
  · simp [answersSince, answers]
  · simp [answersSince, answers]

/-- A delivery after the first answer does not change which one that is. -/
theorem firstAnswer_snoc (more : w₀.delivered <+: w.delivered) (delivered : w'.delivered = w.delivered ++ [job]) :
    firstAnswer w₀ w' timer = (firstAnswer w₀ w timer).or
      (if job.Answers timer.ticketId timer.kind ∧ job ∉ w₀.delivered then some job else none) := by
  rw [firstAnswer, answersSince_snoc more delivered, List.find?_append]
  congr 1
  by_cases answers : job.Answers timer.ticketId timer.kind
  · by_cases known : job ∈ w₀.delivered <;> simp [answers, known]
  · simp [answers]

/-- Before the first answer, whatever was delivered for the timer had been delivered before. -/
theorem known_of_unanswered (more : w₀.delivered <+: w.delivered) (unanswered : firstAnswer w₀ w timer = none)
    (answers : job.Answers timer.ticketId timer.kind) (member : job ∈ w.delivered) : job ∈ w₀.delivered := by
  obtain ⟨later, whole⟩ := more
  rw [← whole, List.mem_append] at member
  rcases member with before | since
  · exact before
  · have isAnswer : job ∈ answersSince w₀ w timer := by
      simp [answersSince, ← whole, since, answers]
    simpa using List.find?_eq_none.mp unanswered job isAnswer

/-- Nothing that concerns the timer was delivered. -/
theorem AnsweredFirst.of_same (first : AnsweredFirst w₀ timer w) (delivered : w'.delivered = w.delivered)
    (timers : ∀ r ∈ w.db.timers.rows, r ∈ w'.db.timers.rows) : AnsweredFirst w₀ timer w' where
  more := delivered ▸ first.more
  stored := by
    have sameAnswer : firstAnswer w₀ w' timer = firstAnswer w₀ w timer := by
      simp only [firstAnswer, answersSince, delivered]
    rw [sameAnswer]
    exact timers _ first.stored

/-- A job was delivered that is no new answer. -/
theorem AnsweredFirst.of_other (first : AnsweredFirst w₀ timer w) (delivered : w'.delivered = w.delivered ++ [job])
    (other : job.Answers timer.ticketId timer.kind → job ∈ w₀.delivered ∨ firstAnswer w₀ w timer ≠ none)
    (timers : timer.stoppedBy (firstAnswer w₀ w timer) ∈ w'.db.timers.rows) : AnsweredFirst w₀ timer w' where
  more := delivered ▸ first.more.trans (List.prefix_append _ _)
  stored := by
    have sameAnswer : firstAnswer w₀ w' timer = firstAnswer w₀ w timer := by
      rw [firstAnswer_snoc first.more delivered]
      cases answered : firstAnswer w₀ w timer with
      | some job' => rfl
      | none =>
          have idle : ¬(job.Answers timer.ticketId timer.kind ∧ job ∉ w₀.delivered) := by
            intro new
            rcases other new.1 with known | answered'
            · exact new.2 known
            · exact answered' answered
          rw [if_neg idle]
          rfl
    rw [sameAnswer]
    exact timers

end Deliveries

/-- A timer that is running has not been stopped by anything. -/
theorem SlaTimer.stoppedBy_none {timer : SlaTimer} (running : timer.isRunning = true) :
    timer.stoppedBy none = timer := by
  have unstopped : timer.stoppedAt = none := (timer.isRunning_iff.mp running).1
  cases timer
  cases unstopped
  rfl

section Stops

variable {w₀ w w' : SlaSystem} {timer : SlaTimer} {message : OutboxRow} {kind : SlaKind}

/-- The first answer stops the timer. -/
theorem AnsweredFirst.of_answer (sound : Sound w.db) (handled : Handled w.db w.delivered)
    (first : AnsweredFirst w₀ timer w) (running : timer.isRunning = true) (sent : message ∈ w.db.outbox.rows)
    (dispatched : SlaProcessor.despachar message.job =
      .run (.stopSlaTimer (SlaProcessor.stopInput message.job kind)))
    (answers : message.job.Answers timer.ticketId timer.kind) (new : message.job ∉ w₀.delivered)
    (unanswered : firstAnswer w₀ w timer = none) (delivered : w'.delivered = w.delivered ++ [message.job])
    (committed : w'.db = w.db.after (StopSlaTimer.committed (SlaProcessor.stopInput message.job kind) w.db)) :
    AnsweredFirst w₀ timer w' := by
  have ofKind : timer.kind = kind := SlaSystem.kind_of_stopped dispatched answers.1
  have stored : timer ∈ w.db.timers.rows := by
    have unstopped := first.stored
    rw [unanswered, SlaTimer.stoppedBy_none running] at unstopped
    exact unstopped
  have unclaimed : w.db.processed.find? (stopSlaConsumer kind, message.id) = none := by
    by_contra claimed
    obtain ⟨job, member, sameId, _⟩ :=
      (handled.stopMarks kind message.id).mp (Option.isSome_iff_ne_none.mpr claimed)
    rw [handled.eq_of_eventId sent member sameId] at member
    exact new (known_of_unanswered first.more unanswered answers member)
  have ofTicket : timer.ticketId = ⟨message.aggregateId⟩ := congrArg TicketId.mk answers.2.symm
  obtain ⟨r, ends, sameTicket, sameKind⟩ :=
    handled.ending_of_running sent unclaimed stored running ofTicket ofKind
  have isRow := (StopSlaTimer.running_spec (StopSlaTimer.ending_spec ends).2).1
  cases sound.unique r isRow timer stored sameTicket sameKind
  have answered : firstAnswer w₀ w' timer = some message.job := by
    rw [firstAnswer_snoc first.more delivered, unanswered, if_pos ⟨answers, new⟩]
    rfl
  refine ⟨delivered ▸ first.more.trans (List.prefix_append _ _), ?_⟩
  rw [answered, committed]
  exact (StopSlaTimer.timers_of_ending ends _).mpr (.inr rfl)

/-- Any other message leaves the timer as it is. -/
theorem AnsweredFirst.of_no_answer (handled : Handled w.db w.delivered) (first : AnsweredFirst w₀ timer w)
    (dispatched : SlaProcessor.despachar message.job =
      .run (.stopSlaTimer (SlaProcessor.stopInput message.job kind)))
    (other : message.job.Answers timer.ticketId timer.kind →
      message.job ∈ w₀.delivered ∨ firstAnswer w₀ w timer ≠ none)
    (delivered : w'.delivered = w.delivered ++ [message.job])
    (committed : w'.db = w.db.after (StopSlaTimer.committed (SlaProcessor.stopInput message.job kind) w.db)) :
    AnsweredFirst w₀ timer w' := by
  apply first.of_other delivered other
  rw [committed]
  cases ends : StopSlaTimer.ending (SlaProcessor.stopInput message.job kind) w.db with
  | none =>
      rw [StopSlaTimer.timers_of_idle ends]
      exact first.stored
  | some r =>
      refine (StopSlaTimer.timers_of_ending ends _).mpr (.inl ⟨first.stored, ?_⟩)
      intro sameId
      obtain ⟨unclaimed, found⟩ := StopSlaTimer.ending_spec ends
      obtain ⟨isRow, _, ofTicket, ofKind, running⟩ := StopSlaTimer.running_spec found
      -- the message would have stopped this very timer, and so it would have been its first answer
      cases Table.eq_of_key first.stored isRow sameId
      have unanswered : firstAnswer w₀ w timer = none :=
        Option.map_eq_none_iff.mp ((SlaTimer.isRunning_iff _).mp running).1
      have answers : message.job.Answers timer.ticketId timer.kind :=
        ⟨ofKind ▸ (SlaProcessor.despachar_stop_iff _ _).mp dispatched, congrArg TicketId.uuid ofTicket.symm⟩
      obtain known | answered := other answers
      · have claimed := (handled.stopMarks kind message.id).mpr
          ⟨message.job, first.more.subset known, rfl, (SlaProcessor.despachar_stop_iff _ _).mp dispatched⟩
        have unmarked : w.db.processed.find? (stopSlaConsumer kind, message.id) = none := unclaimed
        simp [unmarked] at claimed
      · exact answered unanswered

end Stops

section Steps

variable {w₀ w w' : SlaSystem} {timer : SlaTimer} {a : SlaAction}

/-- One step that is not one of a sweep. -/
theorem answeredFirst_step (sound : Sound w.db) (handled : Handled w.db w.delivered)
    (running : timer.isRunning = true) (first : AnsweredFirst w₀ timer w) (noSweep : a.marks = false)
    (taken : w.step a = some w') : AnsweredFirst w₀ timer w' := by
  cases SlaSystem.step_stepped taken with
  | request isRequest fresh =>
      refine first.of_same rfl ?_
      intro r stored
      rw [Execution.timers_of_request isRequest]
      exact stored
  | started found fresh dispatched =>
      apply first.of_other rfl
      · intro answers
        have idle := SlaSystem.fulfils_of_started timer.kind dispatched
        exact absurd (idle.symm.trans answers.1) Bool.false_ne_true
      · obtain ⟨same, _⟩ | ⟨_, added⟩ := StartSlaTimers.timers_committed _ fresh
        · rw [same]
          exact first.stored
        · rw [added]
          exact List.mem_append_left _ first.stored
  | @stopped messageId ambient message kind found dispatched =>
      have sent := Table.mem_of_find? found
      by_cases new : message.job.Answers timer.ticketId timer.kind ∧ message.job ∉ w₀.delivered ∧
          firstAnswer w₀ w timer = none
      · exact first.of_answer sound handled running sent dispatched new.1 new.2.1 new.2.2 rfl rfl
      · refine first.of_no_answer handled dispatched ?_ rfl rfl
        intro answers
        by_contra neither
        rw [not_or, ne_eq, not_not] at neither
        exact new ⟨answers, neither⟩
  | passed found idle =>
      refine first.of_other rfl ?_ first.stored
      intro answers
      exact absurd ((SlaProcessor.despachar_stop_iff _ _).mpr answers.1) (idle _)
  | sweep => exact first.of_same rfl fun _ stored => stored
  | mark => cases noSweep

/-- Any number of steps none of which is one of a sweep. -/
theorem answeredFirst_run {base : Db} {earlier history : List (SlaSystem × SlaAction)}
    (before : Run SlaSystem.step (.initial base.beforeQueues) earlier w₀)
    (run : Run SlaSystem.step w₀ history w) (noSweep : ∀ entry ∈ history, entry.2.marks = false)
    (stored : timer ∈ w₀.db.timers.rows) (running : timer.isRunning = true) : AnsweredFirst w₀ timer w := by
  induction run with
  | start =>
      refine ⟨List.prefix_rfl, ?_⟩
      have nothing : firstAnswer w₀ w₀ timer = none := by
        simp [firstAnswer, answersSince]
      rw [nothing, SlaTimer.stoppedBy_none running]
      exact stored
  | @step history w w' a run taken ih =>
      have first := ih fun entry member => noSweep entry (List.mem_append_left _ member)
      obtain ⟨sound, handled⟩ := handled_of_run (before.append run)
      exact answeredFirst_step sound handled running first (noSweep (w, a) (by simp)) taken

/-- Whatever else happens, as long as no sweep marks a timer: the answer that occurred first is the one that
    counts exactly if it is the one that was delivered first. -/
theorem earliestCounts_iff {base : Db} {earlier history : List (SlaSystem × SlaAction)}
    (before : Run SlaSystem.step (.initial base.beforeQueues) earlier w₀)
    (run : Run SlaSystem.step w₀ history w) (noSweep : ∀ entry ∈ history, entry.2.marks = false)
    (stored : timer ∈ w₀.db.timers.rows) (running : timer.isRunning = true) :
    EarliestCounts w₀ w timer ↔ FirstIsEarliest w₀ w timer := by
  have kept := (answeredFirst_run before run noSweep stored running).stored
  constructor
  · intro counts
    obtain ⟨r, isRow, sameId, job, _, stoppedAt, least⟩ := counts
    cases Table.eq_of_key isRow kept sameId
    obtain ⟨first, answered, sameInstant⟩ := Option.map_eq_some_iff.mp stoppedAt
    refine ⟨first, answered, ?_⟩
    rw [sameInstant]
    exact least
  · intro isFirst
    obtain ⟨first, answered, least⟩ := isFirst
    rw [answered] at kept
    exact ⟨_, kept, rfl, first, List.mem_of_find?_eq_some answered, rfl, least⟩

end Steps

section Example

/-- A ticket, the delivery of its message, and two comments of the staff. -/
def twoAnswers : List SlaAction :=
  [.request (exampleExecution 0 (.createTicket ⟨⟨1⟩, ⟨2⟩, "Hola", "No entra", .HIGH⟩)),
    .deliver 102 (exampleAmbient 1),
    .request (exampleExecution 2 (.addComment ⟨⟨1⟩, ⟨3⟩, "AGENT", ⟨100⟩, "Lo miramos"⟩)),
    .request (exampleExecution 3 (.addComment ⟨⟨1⟩, ⟨3⟩, "AGENT", ⟨100⟩, "Resuelto"⟩))]

/-- The timer for the first answer to it. -/
def answerTimer : SlaTimer where
  id := ⟨200⟩
  tenantId := ⟨1⟩
  ticketId := ⟨100⟩
  kind := .RESPONSE
  startedAt := 0
  dueAt := 3600000
  stoppedAt := none
  breachedAt := none

/-- The comments are delivered as they were made, the first of them twice. -/
def asMade : List SlaAction :=
  [.deliver 302 (exampleAmbient 4), .deliver 402 (exampleAmbient 5), .deliver 302 (exampleAmbient 6)]

/-- The second comment is delivered first. -/
def overtaken : List SlaAction :=
  [.deliver 402 (exampleAmbient 4), .deliver 302 (exampleAmbient 5)]

theorem earliestCounts_iff_asMade :
    ∃ earlier history w w', Run SlaSystem.step (.initial Db.empty.beforeQueues) earlier w ∧
      Run SlaSystem.step w history w' ∧ answerTimer ∈ w.db.timers.rows ∧
      (EarliestCounts w w' answerTimer ↔ FirstIsEarliest w w' answerTimer) := by
  have possible : ((play SlaSystem.step (.initial Db.empty.beforeQueues) twoAnswers).map fun w =>
      (decide (answerTimer ∈ w.db.timers.rows), (play SlaSystem.step w asMade).isSome)) = some (true, true) := by
    decide
  obtain ⟨w, played, facts⟩ := Option.map_eq_some_iff.mp possible
  simp only [Prod.mk.injEq, decide_eq_true_eq] at facts
  obtain ⟨w', played'⟩ := Option.isSome_iff_exists.mp facts.2
  have noSweep : ∀ a ∈ asMade, a.marks = false := by decide
  exact ⟨_, _, w, w', play_run played, play_run played', facts.1,
    earliestCounts_iff (play_run played) (play_run played') (fun _ member => noSweep _ (mem_schedule member))
      facts.1 rfl⟩

/-- The later of two answers counts where it overtakes the other. -/
theorem overtaken_counts :
    ∃ earlier history w w', Run SlaSystem.step (.initial Db.empty.beforeQueues) earlier w ∧
      Run SlaSystem.step w history w' ∧ (∀ entry ∈ history, entry.2.marks = false) ∧
      answerTimer ∈ w.db.timers.rows ∧ answersSince w w' answerTimer ≠ [] ∧
      ¬ EarliestCounts w w' answerTimer := by
  have possible : ((play SlaSystem.step (.initial Db.empty.beforeQueues) twoAnswers).bind fun w =>
      (play SlaSystem.step w overtaken).map fun w' =>
        (decide (answerTimer ∈ w.db.timers.rows),
          (answersSince w w' answerTimer).map fun job => job.occurredAt,
          (w'.db.timers.rows.filter fun r => r.id = answerTimer.id).map fun r => r.stoppedAt)) =
      some (true, [180000, 120000], [some 180000]) := by decide
  obtain ⟨w, played, rest⟩ := Option.bind_eq_some_iff.mp possible
  obtain ⟨w', played', facts⟩ := Option.map_eq_some_iff.mp rest
  simp only [Prod.mk.injEq, decide_eq_true_eq] at facts
  obtain ⟨stored, instants, stops⟩ := facts
  have noSweep : ∀ a ∈ overtaken, a.marks = false := by decide
  refine ⟨_, _, w, w', play_run played, play_run played', fun _ member => noSweep _ (mem_schedule member),
    stored, ?_, ?_⟩
  · intro nothing
    simp [nothing] at instants
  · intro counts
    obtain ⟨r, isRow, sameId, earliest, _, stoppedAt, least⟩ := counts
    have isStop : r.stoppedAt ∈ [some (180000 : Instant)] := by
      rw [← stops]
      exact List.mem_map_of_mem (List.mem_filter.mpr ⟨isRow, decide_eq_true sameId⟩)
    have isFirst : (120000 : Instant) ∈ (answersSince w w' answerTimer).map fun job => job.occurredAt := by
      rw [instants]
      decide
    obtain ⟨job, answers, madeFirst⟩ := List.mem_map.mp isFirst
    have late : earliest.occurredAt = 180000 := by
      rw [stoppedAt, List.mem_singleton, Option.some.injEq] at isStop
      exact isStop
    have before := least job answers
    rw [madeFirst, late] at before
    exact absurd before (by decide)

end Example

end Helpdesk
