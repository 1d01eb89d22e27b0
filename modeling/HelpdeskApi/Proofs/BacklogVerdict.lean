/-
Module: HelpdeskApi.Proofs.BacklogVerdict
Layer: Proofs
Purpose: Whether a backlog of the queue can change a verdict. A sweep decides by the timer row alone, which
  shows an answer only once the message of the answer was processed. `verdictsFair_iff` says exactly when
  nobody who answered in time is reported late: whenever a sweep comes to a timer after its deadline that is
  answered in time in the run, an answer has been taken up before, after the message about the new ticket.
Trusted boundary: none
Main exports: Db.Answered, Db.VerdictsFair, ComesLate, AnswersTakenUp, exists_comesLate, verdictsFair_iff
-/
import HelpdeskApi.Proofs.ClosedInTime

namespace Helpdesk

open Relational Transition

namespace Db

/-- Somebody did before its deadline what a timer waits for, and the outbox has it. -/
def Answered (db : Db) (t : SlaTimer) : Prop :=
  ∃ m ∈ db.outbox.rows, m.job.stops t ∧ m.occurredAt < t.dueAt

/-- Neither a message nor an audit entry reports the breach of a timer. -/
def Unreported (db : Db) (t : SlaTimer) : Prop :=
  (∀ m ∈ db.outbox.rows, m.breachedTimer ≠ some t.id) ∧
    ∀ a ∈ db.auditLogs.rows, a.breachedTimer ≠ some t.id

/-- A timer that was answered in time is not breached, and was never reported as breached. -/
def VerdictsFair (db : Db) : Prop :=
  ∀ t ∈ db.timers.rows, db.Answered t → t.isBreached = false ∧ db.Unreported t

end Db

/-- A sweep comes to a timer when its deadline has passed, whatever has become of the timer meanwhile. -/
inductive ComesLate (w : SlaSystem) (t : SlaTimer) : SlaAction → Prop where
  | mark {i : Nat} {ambient : Ambient} {rest : List DueTimerRow} (stored : t ∈ w.db.timers.rows)
      (pending : w.sweeps[i]? = some (t.dueRow :: rest)) (passed : t.dueAt ≤ ambient.now) :
      ComesLate w t (.mark i ambient)

/-- Whenever a sweep comes to a timer after its deadline for which the run has an answer in time, a message
    that answers it has been processed, after the message about the new ticket. -/
def AnswersTakenUp (history : List (SlaSystem × SlaAction)) (w : SlaSystem) : Prop :=
  ∀ entry ∈ history, ∀ t, ComesLate entry.1 t entry.2 → w.db.Answered t →
    TakenUp entry.1.delivered t.ticketId t.kind

section Reports

variable {db db' : Db} {t r : SlaTimer}

/-- An answer stays one, whatever has become of the timer. -/
theorem Db.Answered.kept (answered : db.Answered t) (later : t.Later r)
    (messages : ∀ m ∈ db.outbox.rows, m ∈ db'.outbox.rows) : db'.Answered r := by
  obtain ⟨m, sent, ⟨fulfils, ofTenant, ofTicket⟩, inTime⟩ := answered
  refine ⟨m, messages m sent, ⟨later.kind ▸ fulfils, ?_, ?_⟩, later.dueAt ▸ inTime⟩
  · exact ofTenant.trans later.tenantId.symm
  · exact ofTicket.trans (congrArg TicketId.uuid later.ticketId.symm)

/-- An answer to what has become of a timer is one to the timer. -/
theorem Db.Answered.of_later (answered : db.Answered r) (later : t.Later r) : db.Answered t := by
  obtain ⟨m, sent, ⟨fulfils, ofTenant, ofTicket⟩, inTime⟩ := answered
  refine ⟨m, sent, ⟨later.kind ▸ fulfils, ?_, ?_⟩, later.dueAt ▸ inTime⟩
  · exact ofTenant.trans later.tenantId
  · exact ofTicket.trans (congrArg TicketId.uuid later.ticketId)

/-- What is reported has been breached. -/
theorem Sound.unreported (sound : Sound db) (stored : t ∈ db.timers.rows) (unbreached : t.isBreached = false) :
    db.Unreported t := by
  have spared : db.breached t.id = false := by
    rw [← Bool.not_eq_true, Db.breached_eq_true]
    rintro ⟨t', stored', sameId, breached⟩
    rw [Table.eq_of_key stored' stored sameId] at breached
    simp [SlaTimer.isBreached, breached] at unbreached
  have noMessage := sound.announced t.id
  have noEntry := sound.audited t.id
  rw [spared, Bool.toNat_false] at noMessage noEntry
  constructor
  · intro m sent names
    have counted := List.countP_eq_zero.mp noMessage m sent
    simp [names] at counted
  · intro a written names
    have counted := List.countP_eq_zero.mp noEntry a written
    simp [names] at counted

end Reports

section Steps

variable {w w' : SlaSystem} {a : SlaAction} {t r : SlaTimer}

/-- Messages stay in the outbox. -/
theorem outbox_step (taken : w.step a = some w') (m : OutboxRow) (sent : m ∈ w.db.outbox.rows) :
    m ∈ w'.db.outbox.rows := by
  cases SlaSystem.step_stepped taken with
  | request isRequest fresh => exact (Execution.recorded_of_request isRequest w.db).messagesKept m sent
  | @started _ ambient _ input => exact (outbox_of_start w.db input ambient).1 ▸ sent
  | @stopped _ _ message kind => exact (outbox_of_stop w.db (SlaProcessor.stopInput message.job kind)).1 ▸ sent
  | passed => exact sent
  | sweep => exact sent
  | mark => exact outbox_afterMark sent

theorem ComesLate.stored (late : ComesLate w t a) : t ∈ w.db.timers.rows := by
  cases late with
  | mark stored pending passed => exact stored

/-- A timer that is breached after a step was so before, or a sweep has come to it after its deadline, while
    it was running. -/
theorem breached_step (taken : w.step a = some w') (stored : r ∈ w'.db.timers.rows) (breached : r.isBreached = true) :
    r ∈ w.db.timers.rows ∨ ∃ t, ComesLate w t a ∧ t.isRunning = true ∧ t.Later r := by
  cases SlaSystem.step_stepped taken with
  | request isRequest fresh => exact .inl (Execution.timers_of_request isRequest w.db ▸ stored)
  | started found fresh dispatched =>
      rcases StartSlaTimers.mem_timers_committed fresh stored with old | ⟨_, kind, rfl⟩
      · exact .inl old
      · cases breached
  | stopped found dispatched =>
      rcases StopSlaTimer.mem_timers_committed stored with ⟨old, _⟩ | ⟨timer, _, ends, rfl⟩
      · exact .inl old
      · -- only running timers are stopped
        obtain ⟨_, _, _, _, running⟩ := StopSlaTimer.running_spec (StopSlaTimer.ending_spec ends).2
        simp [SlaTimer.isBreached, (timer.isRunning_iff.mp running).2] at breached
  | passed => exact .inl stored
  | sweep => exact .inl stored
  | @mark i ambient due rest pending fresh =>
      cases found : MarkSlaBreached.breaching { tenantId := due.tenantId, timerId := due.id } ambient w.db with
      | none =>
          simp only [MarkSlaBreached.committed_of_idle found] at stored
          exact .inl stored
      | some pair =>
          obtain ⟨timer, row⟩ := pair
          obtain ⟨inTable, isTimer, ofTenant, overdue, _⟩ := MarkSlaBreached.breaching_spec found
          obtain ⟨notStopped, notBreached, passed⟩ := (timer.isOverdue_iff _).mp overdue
          have running := timer.isRunning_iff.mpr ⟨notStopped, notBreached⟩
          have isDue : timer.dueRow = due := by rw [SlaTimer.dueRow, isTimer, ofTenant]
          rcases (MarkSlaBreached.timers_of_breaching none found r).mp stored with ⟨old, _⟩ | rfl
          · exact .inl old
          · exact .inr ⟨timer, .mark inTable (isDue ▸ pending) passed, running,
              SlaTimer.later_of_running running timer.stoppedAt (some ambient.now)⟩

/-- A timer a sweep comes to after its deadline is breached from then on, unless it has been taken up. -/
theorem breached_of_comesLate (sound : Sound w.db) (handled : Handled w.db w.delivered) (late : ComesLate w t a)
    (passed : ¬TakenUp w.delivered t.ticketId t.kind) (taken : w.step a = some w') :
    ∃ r ∈ w'.db.timers.rows, t.Later r ∧ r.isBreached = true := by
  cases late with
  | @mark i ambient rest stored pending overdue =>
      obtain ⟨r, found, later⟩ := (sound_step sound taken).2 t.id t (Table.find?_key stored)
      have inTable : r ∈ w'.db.timers.rows := Table.mem_of_find? found
      refine ⟨r, inTable, later, ?_⟩
      have unstopped : t.stoppedAt = none := by
        by_contra stopped
        exact passed (handled.stopped t stored stopped)
      by_cases already : t.breachedAt = none
      · cases SlaSystem.step_stepped taken with
        | mark pending' fresh =>
            cases pending.symm.trans pending'
            have isOverdue := (t.isOverdue_iff _).mpr ⟨unstopped, already, overdue⟩
            obtain ⟨_, r', marked, sameId, breached⟩ :=
              breached_afterMark handled.ticketsThere stored rfl isOverdue
            have same : r' = r := Table.eq_of_key marked inTable (sameId.trans later.id.symm)
            rw [SlaTimer.isBreached, ← same]
            simpa [Option.isSome_iff_ne_none] using breached
      · have sameBreach := (later.ended (.inr already)).2
        simpa [SlaTimer.isBreached, sameBreach] using already

end Steps

section Runs

variable {base : Db} {history : List (SlaSystem × SlaAction)} {w w' : SlaSystem}

/-- What a run does to the outbox and to the timers. -/
theorem nothingLost_of_run (sound : Sound w.db) (run : Run SlaSystem.step w history w') :
    (∀ m ∈ w.db.outbox.rows, m ∈ w'.db.outbox.rows) ∧ KeepsTimers w.db w'.db := by
  suffices Sound w'.db ∧ (∀ m ∈ w.db.outbox.rows, m ∈ w'.db.outbox.rows) ∧ KeepsTimers w.db w'.db from this.2
  induction run with
  | start => exact ⟨sound, fun _ sent => sent, .of_same rfl⟩
  | step run taken ih =>
      obtain ⟨soundThere, messages, timers⟩ := ih
      obtain ⟨soundAfter, kept⟩ := sound_step soundThere taken
      exact ⟨soundAfter, fun m sent => outbox_step taken m (messages m sent), timers.trans kept⟩

/-- Every breach goes back to a sweep that came to the timer after its deadline, while it was running. -/
theorem exists_comesLate (run : Run SlaSystem.step (.initial base.beforeQueues) history w) :
    ∀ r ∈ w.db.timers.rows, r.isBreached = true →
      ∃ entry ∈ history, ∃ t, ComesLate entry.1 t entry.2 ∧ t.isRunning = true ∧ t.Later r := by
  induction run with
  | start =>
      intro r stored
      cases stored
  | step run taken ih =>
      intro r stored breached
      rcases breached_step taken stored breached with old | new
      · obtain ⟨entry, member, comes⟩ := ih r old breached
        exact ⟨entry, List.mem_append_left _ member, comes⟩
      · exact ⟨_, List.mem_append_right _ List.mem_cons_self, new⟩

/-- Where all answers in time are taken up before the sweeps come, the state that is reached is fair. -/
theorem verdictsFair_of_takenUp (run : Run SlaSystem.step (.initial base.beforeQueues) history w)
    (takenUp : AnswersTakenUp history w) : w.db.VerdictsFair := by
  intro r stored answered
  have unbreached : r.isBreached = false := by
    by_contra breached
    rw [Bool.not_eq_false] at breached
    obtain ⟨entry, member, t, late, running, later⟩ := exists_comesLate run r stored breached
    obtain ⟨earlier, reached, _⟩ := run.mem_history member
    have ended := (handled_of_run reached).2.ended t late.stored
      (takenUp entry member t late (answered.of_later later))
    rw [running] at ended
    cases ended
  exact ⟨unbreached, (handled_of_run run).1.unreported stored unbreached⟩

/-- In every state of a run that starts before the first ticket, nobody who answered in time is reported late,
    exactly if every answer in time is taken up before a sweep comes to its timer after the deadline. -/
theorem verdictsFair_iff (run : Run SlaSystem.step (.initial base.beforeQueues) history w) :
    Always (fun w => w.db.VerdictsFair) history w ↔ AnswersTakenUp history w := by
  constructor
  · intro fair entry member t late answered
    by_contra passed
    obtain ⟨earlier, later, w₂, before, taken, after, _⟩ := run.split member
    obtain ⟨sound, handled⟩ := handled_of_run before
    obtain ⟨r, stored, becomes, breached⟩ := breached_of_comesLate sound handled late passed taken
    obtain ⟨_, timers⟩ := nothingLost_of_run (sound_step sound taken).1 after
    obtain ⟨r', found, later'⟩ := timers r.id r (Table.find?_key stored)
    have ended : r.breachedAt ≠ none := by simpa [SlaTimer.isBreached] using breached
    have sameBreach := (later'.ended (.inr ended)).2
    have answered' := answered.kept (becomes.trans later') fun _ sent => sent
    have spared := (fair.2 r' (Table.mem_of_find? found) answered').1
    simp [SlaTimer.isBreached, sameBreach, ended] at spared
  · intro takenUp
    refine ⟨fun entry member => ?_, verdictsFair_of_takenUp run takenUp⟩
    obtain ⟨earlier, later, _, before, taken, after, rfl⟩ := run.split member
    apply verdictsFair_of_takenUp before
    intro entry' member' t late answered
    obtain ⟨messages, _⟩ := nothingLost_of_run (handled_of_run before).1 (.cons taken after)
    exact takenUp entry' (List.mem_append_left _ member') t late (answered.kept (.refl t) messages)

end Runs

section Example

/-- An agent answers after a minute, but the queue is slow: a sweep after the deadline comes first. -/
def slowQueue : List SlaAction :=
  [.request (exampleExecution 0 (.createTicket ⟨⟨1⟩, ⟨2⟩, "Hola", "No entra", .HIGH⟩)),
    .deliver 102 (exampleAmbient 1),
    .request (exampleExecution 2 (.addComment ⟨⟨1⟩, ⟨3⟩, "AGENT", ⟨100⟩, "Lo miramos"⟩)),
    .sweep 10 3660000,
    .mark 0 (exampleAmbient 61),
    .deliver 302 (exampleAmbient 62)]

/-- The timer of the example is breached although its answer came fifty-eight minutes before the
    deadline. -/
theorem slowQueue_breached :
    ∃ history w, Run SlaSystem.step (.initial Db.empty.beforeQueues) history w ∧
      ¬ Always (fun w => w.db.VerdictsFair) history w := by
  have possible : ((play SlaSystem.step (.initial Db.empty.beforeQueues) slowQueue).map
      fun w => w.db.timers.rows.any fun t => w.db.outbox.rows.any fun m =>
        m.job.fulfils t.kind && decide (m.tenantId = t.tenantId) &&
          decide (m.aggregateId = t.ticketId.uuid) && decide (m.occurredAt < t.dueAt) && t.isBreached) =
      some true := by decide
  obtain ⟨w, played, found⟩ := Option.map_eq_some_iff.mp possible
  obtain ⟨t, member, found⟩ := List.any_eq_true.mp found
  obtain ⟨m, sent, reads⟩ := List.any_eq_true.mp found
  simp only [Bool.and_eq_true, decide_eq_true_eq] at reads
  obtain ⟨⟨⟨⟨fulfilled, ofTenant⟩, ofTicket⟩, inTime⟩, breached⟩ := reads
  refine ⟨_, w, play_run played, fun always => ?_⟩
  have spared := (always.2 t member ⟨m, sent, ⟨fulfilled, ofTenant, ofTicket⟩, inTime⟩).1
  rw [breached] at spared
  cases spared

/-- The same day, but the message of the answer comes just before the sweep that has asked for the timer gets
    to it. -/
def quickQueue : List SlaAction :=
  [.request (exampleExecution 0 (.createTicket ⟨⟨1⟩, ⟨2⟩, "Hola", "No entra", .HIGH⟩)),
    .deliver 102 (exampleAmbient 1),
    .request (exampleExecution 2 (.addComment ⟨⟨1⟩, ⟨3⟩, "AGENT", ⟨100⟩, "Lo miramos"⟩)),
    .sweep 10 3660000,
    .deliver 302 (exampleAmbient 61)]

/-- The answer of the example has been taken up by then. -/
theorem takenUp_quickQueue {w : SlaSystem} (only : onlyTicket w = true)
    (seen : glances w = [(102, true, false, false), (302, false, true, false)]) :
    TakenUp w.delivered ⟨100⟩ .RESPONSE := by
  simp only [onlyTicket, Bool.and_eq_true, List.all_eq_true, decide_eq_true_eq] at only
  simp only [glances, List.map_eq_cons_iff, List.map_eq_nil_iff, Prod.mk.injEq] at seen
  obtain ⟨creation, rest, whole, ⟨id₀, created, _⟩, answer, rest', rfl, ⟨id₁, _, answers, _⟩, rfl⟩ := seen
  rw [whole] at only ⊢
  refine ⟨[creation], answer, by simp, ⟨answers, only.1 answer (by simp)⟩, ?_, creation, by simp,
    of_decide_eq_true created, only.1 creation (by simp)⟩
  intro same
  rw [List.mem_singleton.mp same, id₀] at id₁
  cases id₁

/-- Whether the sweep of the example is about to come to the timer that was answered in time, and only to it. -/
def aboutToMark (w : SlaSystem) : Bool :=
  w.sweeps = [[⟨⟨200⟩, ⟨1⟩⟩]] &&
    (w.db.timers.rows.any fun t => t.dueRow = ⟨⟨200⟩, ⟨1⟩⟩ && t.dueAt = 3600000 && w.db.outbox.rows.any fun m =>
      m.job.fulfils t.kind && m.tenantId = t.tenantId && m.aggregateId = t.ticketId.uuid && m.occurredAt = 120000) &&
    w.db.timers.rows.all fun t => t.dueRow ≠ ⟨⟨200⟩, ⟨1⟩⟩ || t.kind = .RESPONSE

theorem comesLate_of_aboutToMark {w : SlaSystem} (about : aboutToMark w = true) :
    ∃ t, ComesLate w t (.mark 0 (exampleAmbient 61)) ∧ w.db.Answered t := by
  simp only [aboutToMark, Bool.and_eq_true, decide_eq_true_eq] at about
  obtain ⟨⟨sweeps, waiting⟩, _⟩ := about
  obtain ⟨t, stored, isTimer⟩ := List.any_eq_true.mp waiting
  simp only [Bool.and_eq_true, decide_eq_true_eq] at isTimer
  obtain ⟨⟨isDue, deadline⟩, answer⟩ := isTimer
  obtain ⟨m, sent, reads⟩ := List.any_eq_true.mp answer
  simp only [Bool.and_eq_true, decide_eq_true_eq] at reads
  obtain ⟨⟨⟨fulfilled, ofTenant⟩, ofTicket⟩, instant⟩ := reads
  have pending : w.sweeps[0]? = some (t.dueRow :: []) := by
    rw [sweeps, isDue]
    rfl
  have passed : t.dueAt ≤ (exampleAmbient 61).now := by
    rw [deadline]
    decide
  have inTime : m.occurredAt < t.dueAt := by
    rw [deadline, instant]
    decide
  exact ⟨t, .mark stored pending passed, m, sent, ⟨fulfilled, ofTenant, ofTicket⟩, inTime⟩

/-- Wherever the day of the example ends with that sweep, the answers are taken up. -/
theorem answersTakenUp_quickQueue (s₀ w' : SlaSystem) {w : SlaSystem} (only : onlyTicket w = true)
    (seen : glances w = [(102, true, false, false), (302, false, true, false)]) (about : aboutToMark w = true) :
    AnswersTakenUp (playHistory SlaSystem.step s₀ quickQueue ++ [(w, .mark 0 (exampleAmbient 61))]) w' := by
  intro entry member t late _
  rcases List.mem_append.mp member with earlier | newest
  · -- no sweep gets to a timer before
    have scheduled := mem_schedule earlier
    obtain ⟨w₁, a⟩ := entry
    cases late with
    | mark => simp [quickQueue] at scheduled
  · cases List.mem_singleton.mp newest
    simp only [aboutToMark, Bool.and_eq_true, decide_eq_true_eq] at about
    obtain ⟨⟨sweeps, _⟩, alone⟩ := about
    cases late with
    | mark stored pending passed =>
        simp only [sweeps, List.getElem?_cons_zero, Option.some.injEq, List.cons.injEq] at pending
        have isDue : t.dueRow = ⟨⟨200⟩, ⟨1⟩⟩ := pending.1.symm
        have ofKind : t.kind = .RESPONSE := by simpa [isDue] using List.all_eq_true.mp alone t stored
        have ofTicket : t.ticketId = ⟨100⟩ := by
          simp only [onlyTicket, Bool.and_eq_true, List.all_eq_true, decide_eq_true_eq] at only
          exact only.2 t stored
        rw [ofKind, ofTicket]
        exact takenUp_quickQueue only seen

/-- A sweep comes late to a timer that was answered in time, and the day is fair. -/
theorem verdictsFair_iff_quickQueue :
    ∃ history w, Run SlaSystem.step (.initial Db.empty.beforeQueues) history w ∧
      (∃ entry ∈ history, ∃ t, ComesLate entry.1 t entry.2 ∧ w.db.Answered t) ∧
      AnswersTakenUp history w ∧ Always (fun w => w.db.VerdictsFair) history w := by
  have possible : (play SlaSystem.step (.initial Db.empty.beforeQueues) quickQueue).bind (fun w =>
      (w.step (.mark 0 (exampleAmbient 61))).map fun _ =>
        (onlyTicket w, decide (glances w = [(102, true, false, false), (302, false, true, false)]), aboutToMark w)) =
      some (true, true, true) := by
    decide
  obtain ⟨w, played, last⟩ := Option.bind_eq_some_iff.mp possible
  obtain ⟨w', taken, facts⟩ := Option.map_eq_some_iff.mp last
  simp only [Prod.mk.injEq, decide_eq_true_eq] at facts
  obtain ⟨only, seen, about⟩ := facts
  obtain ⟨t, late, answered⟩ := comesLate_of_aboutToMark about
  have run := (play_run played).step taken
  have takenUp := answersTakenUp_quickQueue (.initial Db.empty.beforeQueues) w' only seen about
  exact ⟨_, w', run, ⟨_, List.mem_append_right _ List.mem_cons_self, t, late,
    answered.kept (.refl t) (outbox_step taken)⟩, takenUp, (verdictsFair_iff run).mpr takenUp⟩

end Example

end Helpdesk
