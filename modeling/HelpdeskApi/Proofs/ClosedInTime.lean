/-
Module: HelpdeskApi.Proofs.ClosedInTime
Layer: Proofs
Purpose: Whether a ticket that was closed before its timers were due is ever reported as breached. Closing
  stops nothing: a timer ends with the message it waits for, or not at all. Where both timers of such a
  ticket have been taken up when a sweep begins, nothing is reported from then on, and where one of them has
  not, a later sweep reports it.
Trusted boundary: none
Main exports: ClosedInTime, Prompt, ClosedTakenUp, ClosedNeverBreach, ClosedInTime.run,
  closedNeverBreach_of_takenUp, breach_follows
-/
import HelpdeskApi.Queue.TakenUp
import HelpdeskApi.Proofs.TimerLedger
import HelpdeskApi.Proofs.SweepProgress

namespace Helpdesk

open Relational Transition

/-- A database in which nothing has been processed either. -/
def Db.beforeQueues (base : Db) : Db :=
  { base.beforeService with processed := .empty }

/-- A message that the ticket has breached a service level. -/
def OutboxRow.Reports (m : OutboxRow) (id : TicketId) : Prop :=
  m.eventName = "sla.breached" ∧ m.aggregateId = id.uuid

/-- The ticket was closed before either of its timers was due. -/
def ClosedInTime (db : Db) (id : TicketId) : Prop :=
  ∃ row, db.tickets.find? id = some row ∧ row.status = .CLOSED ∧ ∃ closedAt, row.closedAt = some closedAt ∧
    ∀ kind, ∃ r ∈ db.timers.rows, r.ticketId = id ∧ r.kind = kind ∧ closedAt < r.dueAt

/-- Every message for `SlaProcessor` has been processed when a sweep begins. -/
def Prompt (w : SlaSystem) : SlaAction → Prop
  | .sweep _ _ => ∀ m ∈ w.db.outbox.rows, SLA_QUEUE ∈ queuesFor m.eventName → m.job ∈ w.delivered
  | _ => True

/-- The timers of the tickets that were closed in time have been taken up when a sweep begins. -/
def ClosedTakenUp (w : SlaSystem) : SlaAction → Prop
  | .sweep _ _ => ∀ id, ClosedInTime w.db id → ∀ kind, TakenUp w.delivered id kind
  | _ => True

/-- Nothing is reported of a ticket after the beginning of a sweep at which it was closed in time. -/
def ClosedNeverBreach (history : List (SlaSystem × SlaAction)) (w : SlaSystem) : Prop :=
  ∀ w₁ limit now, (w₁, .sweep limit now) ∈ history → ∀ id, ClosedInTime w₁.db id →
    ∀ m ∈ w.db.outbox.rows, m.Reports id → m ∈ w₁.db.outbox.rows

/-- The ticket has timers, and all of them have ended. -/
structure TimersEnded (db : Db) (id : TicketId) : Prop where
  timed : ∃ r ∈ db.timers.rows, r.ticketId = id
  ended : ∀ r ∈ db.timers.rows, r.ticketId = id → r.isRunning = false

/-- Nothing new is reported of the ticket. -/
def Unreported (id : TicketId) (db db' : Db) : Prop :=
  ∀ m ∈ db'.outbox.rows, m.Reports id → m ∈ db.outbox.rows

theorem handled_beforeQueues (base : Db) : Handled base.beforeQueues [] where
  addressed _ stored := by cases stored
  starts _ stored := by cases stored
  sent _ member := by cases member
  stopMarks kind u := by
    constructor
    · intro marked
      cases marked
    · intro answered
      obtain ⟨job, member, _⟩ := answered
      cases member
  startMarks _ marked := by cases marked
  tenants _ stored := by cases stored
  created _ stored := by cases stored
  both _ _ member := by cases member
  stopped _ stored := by cases stored
  ended _ stored := by cases stored

theorem sound_beforeQueues (base : Db) : Sound base.beforeQueues where
  unique _ stored := by cases stored
  started _ stored := by cases stored
  exclusive _ stored := by cases stored
  announced _ := rfl
  audited _ := rfl
  created _ stored := by cases stored

section Steps

variable {w w' : SlaSystem} {a : SlaAction} {id : TicketId}

theorem handled_step (sound : Sound w.db) (handled : Handled w.db w.delivered) (taken : w.step a = some w') :
    Handled w'.db w'.delivered := by
  cases SlaSystem.step_stepped taken with
  | request isRequest fresh => exact handled.of_request isRequest fresh
  | started found fresh dispatched => exact handled.of_started (Table.mem_of_find? found) fresh dispatched
  | stopped found dispatched => exact handled.of_stopped sound.unique (Table.mem_of_find? found) dispatched
  | passed found idle => exact handled.of_passed (Table.mem_of_find? found) idle
  | sweep => exact handled
  | mark => exact handled.of_marked _ _ none

/-- How the messages, the marks and the timers stand in any state. -/
theorem handled_of_run {base : Db} {history : List (SlaSystem × SlaAction)}
    (run : Run SlaSystem.step (.initial base.beforeQueues) history w) :
    Sound w.db ∧ Handled w.db w.delivered := by
  refine run.invariant (I := fun w => Sound w.db ∧ Handled w.db w.delivered) ?_ ?_
  · exact ⟨sound_beforeQueues base, handled_beforeQueues base⟩
  · intro w a w' both taken
    exact ⟨(sound_step both.1 taken).1, handled_step both.1 both.2 taken⟩

/-- No step writes to the row of a closed ticket. -/
theorem find?_of_closed {row : TicketRow} (taken : w.step a = some w') (found : w.db.tickets.find? id = some row)
    (closed : row.status = .CLOSED) : w'.db.tickets.find? id = some row := by
  cases SlaSystem.step_stepped taken with
  | request isRequest fresh =>
      exact (Execution.rowServed_of_request isRequest fresh id).eq_of_closed found closed
  | @started _ ambient _ input =>
      have same := tickets_of_start w.db input ambient
      rw [same]
      exact found
  | @stopped _ _ message kind =>
      have same := tickets_of_stop w.db (SlaProcessor.stopInput message.job kind)
      rw [same]
      exact found
  | passed => exact found
  | sweep => exact found
  | mark =>
      rw [tickets_of_mark]
      exact found

/-- A ticket that was closed in time stays so. -/
theorem ClosedInTime.step (sound : Sound w.db) (closed : ClosedInTime w.db id) (taken : w.step a = some w') :
    ClosedInTime w'.db id := by
  obtain ⟨row, found, isClosed, closedAt, since, timed⟩ := closed
  refine ⟨row, find?_of_closed taken found isClosed, isClosed, closedAt, since, ?_⟩
  intro kind
  obtain ⟨r, stored, ofTicket, ofKind, early⟩ := timed kind
  obtain ⟨r', kept, later⟩ := (sound_step sound taken).2 r.id r (Table.find?_key stored)
  have early' : closedAt < r'.dueAt := later.dueAt ▸ early
  exact ⟨r', Table.mem_of_find? kept, later.ticketId.trans ofTicket, later.kind.trans ofKind, early'⟩

theorem ClosedInTime.run {history : List (SlaSystem × SlaAction)} (sound : Sound w.db)
    (closed : ClosedInTime w.db id) (run : Run SlaSystem.step w history w') : ClosedInTime w'.db id := by
  refine (run.invariant (I := fun w => Sound w.db ∧ ClosedInTime w.db id) ⟨sound, closed⟩ ?_).2
  intro w a w' both taken
  exact ⟨(sound_step both.1 taken).1, both.2.step both.1 taken⟩

/-- Once all timers of a ticket have ended, nothing is reported of it. -/
theorem TimersEnded.step (ended : TimersEnded w.db id) (taken : w.step a = some w') :
    TimersEnded w'.db id ∧ Unreported id w.db w'.db := by
  obtain ⟨r₀, stored₀, ofTicket₀⟩ := ended.timed
  have same {w' : SlaSystem} (timers : w'.db.timers = w.db.timers) : TimersEnded w'.db id :=
    ⟨timers ▸ ended.timed, timers ▸ ended.ended⟩
  cases SlaSystem.step_stepped taken with
  | @request e isRequest fresh =>
      refine ⟨same (Execution.timers_of_request isRequest _), ?_⟩
      intro m inside reports
      rcases Execution.described_of_request isRequest fresh m inside with old | ⟨t, _, describes⟩
      · exact old
      · exact absurd reports.1 describes.noBreach
  | @started messageId ambient message input found fresh dispatched =>
      refine ⟨?_, fun m inside _ => (outbox_of_start w.db input ambient).1 ▸ inside⟩
      rcases StartSlaTimers.timers_committed input fresh with ⟨timers, _⟩ | ⟨vacant, added⟩
      · exact same timers
      · have members := StartSlaTimers.mem_timers_of_added added
        refine ⟨⟨r₀, (members r₀).mpr (.inl stored₀), ofTicket₀⟩, ?_⟩
        intro r member ofTicket
        rcases (members r).mp member with old | ⟨kind, rfl⟩
        · exact ended.ended r old ofTicket
        · exact absurd (ofTicket₀.trans ofTicket.symm) (vacant r₀ stored₀)
  | @stopped messageId ambient message kind found dispatched =>
      refine ⟨⟨?_, ?_⟩, fun m inside _ => (outbox_of_stop w.db _).1 ▸ inside⟩
      · obtain ⟨r, stored, ofTicket, _⟩ := StopSlaTimer.timer_kept stored₀
        exact ⟨r, stored, ofTicket.trans ofTicket₀⟩
      · intro r member ofTicket
        rcases StopSlaTimer.mem_timers_committed member with ⟨old, _⟩ | ⟨timer, old, _, rfl⟩
        · exact ended.ended r old ofTicket
        · simp [SlaTimer.isRunning]
  | passed => exact ⟨ended, fun m inside _ => inside⟩
  | sweep => exact ⟨ended, fun m inside _ => inside⟩
  | @mark i ambient row rest pending fresh =>
      cases found : MarkSlaBreached.breaching { tenantId := row.tenantId, timerId := row.id } ambient w.db with
      | none =>
          rw [MarkSlaBreached.committed_of_idle found]
          exact ⟨ended, fun m inside _ => inside⟩
      | some pair =>
          obtain ⟨timer, ticket⟩ := pair
          have replaced := MarkSlaBreached.timers_of_breaching none found
          have running := MarkSlaBreached.running_of_breaching found
          obtain ⟨stored, _, _, _, located⟩ := MarkSlaBreached.breaching_spec found
          -- the timer is running, so it is one of another ticket
          have other : timer.ticketId ≠ id := fun ofTicket =>
            Bool.false_ne_true ((ended.ended timer stored ofTicket).symm.trans running)
          refine ⟨⟨⟨r₀, (replaced r₀).mpr (.inl ⟨stored₀, ?_⟩), ofTicket₀⟩, ?_⟩, ?_⟩
          · intro sameId
            exact other (Table.eq_of_key stored₀ stored sameId ▸ ofTicket₀)
          · intro r member ofTicket
            rcases (replaced r).mp member with ⟨old, _⟩ | rfl
            · exact ended.ended r old ofTicket
            · exact absurd ofTicket other
          · intro m inside reports
            simp only [MarkSlaBreached.committed, found] at inside
            rcases Table.mem_of_mem_insert inside with old | rfl
            · exact old
            · have sameId : ticket.id = timer.ticketId := Table.key_of_find? (Db.ticketOf_eq_some_iff.mp located).1
              exact absurd (congrArg TicketId.mk (congrArg TicketId.uuid sameId.symm |>.trans reports.2)) other

theorem TimersEnded.run {history : List (SlaSystem × SlaAction)} (ended : TimersEnded w.db id)
    (run : Run SlaSystem.step w history w') : TimersEnded w'.db id ∧ Unreported id w.db w'.db := by
  induction run with
  | start => exact ⟨ended, fun m inside _ => inside⟩
  | step run taken ih =>
      obtain ⟨before, unreported⟩ := ih
      obtain ⟨after, unreported'⟩ := before.step taken
      exact ⟨after, fun m inside reports => unreported m (unreported' m inside reports) reports⟩

theorem Handled.timersEnded {db : Db} {delivered : List EventJobData} (handled : Handled db delivered)
    (takenUp : ∀ kind, TakenUp delivered id kind) : TimersEnded db id := by
  constructor
  · obtain ⟨earlier, job, isPrefix, _, _, creation, inside, creates⟩ := takenUp .RESPONSE
    have member : creation ∈ delivered := isPrefix.subset (List.mem_append_left _ inside)
    obtain ⟨r, stored, ofTicket, _⟩ := handled.both id creation member creates .RESPONSE
    exact ⟨r, stored, ofTicket⟩
  · intro r stored ofTicket
    apply handled.ended r stored
    rw [ofTicket]
    exact takenUp r.kind

/-- A ticket that was closed before its timers were due is not reported by any later sweep, in every run in
    which each sweep finds the timers of such tickets taken up. -/
theorem closedNeverBreach_of_takenUp {base : Db} {history : List (SlaSystem × SlaAction)}
    (run : Run SlaSystem.step (.initial base.beforeQueues) history w) (takenUp : Meets ClosedTakenUp history) :
    ClosedNeverBreach history w := by
  intro w₁ limit now member id closed
  obtain ⟨earlier, later, w₂, before, taken, after, _⟩ := run.split member
  have handled := (handled_of_run before).2
  have ended : TimersEnded w₁.db id := handled.timersEnded (takenUp _ member id closed)
  exact (ended.run (.cons taken after)).2

end Steps

section Futures

variable {w : SlaSystem} {r : SlaTimer} {now : Instant}

theorem SlaSystem.step_mark {i : Nat} {row : DueTimerRow} {rest : List DueTimerRow} {ambient : Ambient}
    (pending : w.sweeps[i]? = some (row :: rest)) (fresh : ambient.freshIn w.db = true) :
    w.step (.mark i ambient) = some { w with db := afterMark w.db row ambient, sweeps := w.sweeps.set i rest } := by
  have served := serve_committed (marking row ambient) fresh
  simp only [step, pending, fresh, served]
  rfl

/-- The ticket of every timer is there. -/
theorem Handled.ticketsThere {db : Db} {delivered : List EventJobData} (handled : Handled db delivered) :
    TicketsThere db := by
  intro t timer
  obtain ⟨ticket, found, sameTenant⟩ := handled.tenants t timer
  rw [Db.ticketOf_eq_some_iff.mpr ⟨found, sameTenant.symm⟩]
  rfl

/-- Marking an overdue timer reports its ticket. -/
theorem reported_afterMark {db : Db} {ambient : Ambient} (there : TicketsThere db) (stored : r ∈ db.timers.rows)
    (overdue : r.isOverdue ambient.now = true) (fresh : ambient.freshIn db = true) :
    ∃ m ∈ (afterMark db r.dueRow ambient).outbox.rows, m.Reports r.ticketId ∧ m ∉ db.outbox.rows := by
  obtain ⟨ticket, found, sameId⟩ := breaching_of_overdue there stored overdue
  obtain ⟨_, unused, _⟩ := Ambient.unused_of_freshIn fresh
  have isNew : db.outbox.find? (ambient.uuid 1) = none := unused.outbox
  refine ⟨outboxRow (ambient.uuid 1) none (MarkSlaBreached.event ambient r ticket), ?_, ⟨rfl, ?_⟩, ?_⟩
  · simp only [afterMark, MarkSlaBreached.committed, SlaTimer.dueRow, found]
    exact Table.mem_of_find? (Table.find?_insert_self isNew)
  · exact congrArg TicketId.uuid sameId
  · intro old
    cases isNew.symm.trans (Table.find?_key old)

/-- A sweep that goes through its rows reports the ticket of an overdue timer among them. -/
theorem run_until {i : Nat} {rows rest : List DueTimerRow} (there : TicketsThere w.db) (stored : r ∈ w.db.timers.rows)
    (overdue : r.isOverdue now = true) (pending : w.sweeps[i]? = some (rows ++ r.dueRow :: rest))
    (others : ∀ row ∈ rows, r.id ≠ row.id) :
    ∃ history w', Run SlaSystem.step w history w' ∧ Meets Prompt history ∧
      ∃ m ∈ w'.db.outbox.rows, m.Reports r.ticketId ∧ m ∉ w.db.outbox.rows := by
  induction rows generalizing w with
  | nil =>
      obtain ⟨ambient, rfl, fresh⟩ := Ambient.exists_freshIn w.db now
      have taken := SlaSystem.step_mark pending fresh
      refine ⟨_, _, .cons taken .start, ?_, reported_afterMark there stored overdue fresh⟩
      intro entry member
      cases List.mem_singleton.mp member
      trivial
  | cons row rows ih =>
      obtain ⟨ambient, rfl, fresh⟩ := Ambient.exists_freshIn w.db now
      have taken := SlaSystem.step_mark pending fresh
      have bound : i < w.sweeps.length := (List.getElem?_eq_some_iff.mp pending).1
      have still : r ∈ (afterMark w.db row ambient).timers.rows :=
        mem_afterMark stored (.inl (others row List.mem_cons_self))
      obtain ⟨history, w', run, prompt, m, sent, reports, new⟩ :=
        ih (w := { w with
            db := afterMark w.db row ambient
            sweeps := w.sweeps.set i (rows ++ r.dueRow :: rest) })
          (Sweeper.ticketsThere_afterMark there row ambient) still (List.getElem?_set_self bound)
          fun row' member => others row' (List.mem_cons_of_mem _ member)
      refine ⟨_, w', .cons taken run, ?_, m, sent, reports, fun old => new (outbox_afterMark old)⟩
      intro entry member
      rcases List.mem_cons.mp member with rfl | later
      · trivial
      · exact prompt entry later

/-- What a sweep is given that asks for all timers there are. -/
theorem mem_slaDueTimers {db : Db} {row : DueTimerRow} :
    row ∈ slaDueTimers db db.timers.rows.length now ↔ ∃ t ∈ overdueTimers db now, t.dueRow = row := by
  obtain ⟨order, listing, isList⟩ := Sweeper.listing_slaDueTimers db db.timers.rows.length now
  have bound : order.length ≤ db.timers.rows.length := by
    rw [listing.perm.length_eq]
    exact List.length_filter_le _ _
  rw [isList, List.take_of_length_le bound, List.mem_map]
  exact exists_congr fun t => and_congr_left fun _ => listing.perm.mem_iff

/-- A ticket with a timer that has not been taken up when every message has been processed is reported by a
    later sweep, whether or not it was closed in time. -/
theorem breach_follows {base : Db} {history : List (SlaSystem × SlaAction)}
    (run : Run SlaSystem.step (.initial base.beforeQueues) history w) {limit : Nat} (settled : Prompt w (.sweep limit now))
    (stored : r ∈ w.db.timers.rows) (unbreached : r.breachedAt = none) (passed : ¬TakenUp w.delivered r.ticketId r.kind) :
    ∃ later w', Run SlaSystem.step w later w' ∧ Meets Prompt later ∧
      ∃ m ∈ w'.db.outbox.rows, m.Reports r.ticketId ∧ m ∉ w.db.outbox.rows := by
  obtain ⟨_, handled⟩ := handled_of_run run
  have unstopped : r.stoppedAt = none := by
    by_contra stopped
    exact passed (handled.stopped r stored stopped)
  have overdue : r.isOverdue r.dueAt = true := (r.isOverdue_iff _).mpr ⟨unstopped, unbreached, Int.le_refl _⟩
  have due : r ∈ overdueTimers w.db r.dueAt := mem_overdueTimers.mpr ⟨stored, unstopped, unbreached, Int.le_refl _⟩
  have there := handled.ticketsThere
  obtain ⟨rows, rest, whole, first⟩ := List.eq_append_cons_of_mem (mem_slaDueTimers.mpr ⟨r, due, rfl⟩)
  have others : ∀ row ∈ rows, r.id ≠ row.id := by
    intro row before sameId
    obtain ⟨t, dueToo, rfl⟩ := mem_slaDueTimers.mp (whole ▸ List.mem_append_left _ before)
    rw [← Table.eq_of_key stored (mem_overdueTimers.mp dueToo).1 sameId] at before
    exact first before
  have taken : w.step (.sweep w.db.timers.rows.length r.dueAt) =
      some { w with sweeps := w.sweeps ++ [slaDueTimers w.db w.db.timers.rows.length r.dueAt] } := rfl
  rw [whole] at taken
  have pending : (w.sweeps ++ [rows ++ r.dueRow :: rest])[w.sweeps.length]? = some (rows ++ r.dueRow :: rest) :=
    List.getElem?_concat_length
  obtain ⟨later, w', run, prompt, reported⟩ :=
    run_until (w := { w with sweeps := w.sweeps ++ [rows ++ r.dueRow :: rest] }) there stored overdue pending others
  refine ⟨_, w', .cons taken run, ?_, reported⟩
  intro entry member
  rcases List.mem_cons.mp member with rfl | marks
  · exact settled
  · exact prompt entry marks

/-- Of a ticket that was closed in time and has not been reported, nothing is reported whatever happens next if
    and only if its timers have been taken up. -/
theorem closedInTime_unreported_iff {base : Db} {history : List (SlaSystem × SlaAction)} {id : TicketId}
    (run : Run SlaSystem.step (.initial base.beforeQueues) history w) {limit : Nat} (settled : Prompt w (.sweep limit now))
    (closed : ClosedInTime w.db id) (unbreached : ∀ r ∈ w.db.timers.rows, r.ticketId = id → r.breachedAt = none) :
    (∀ later w', Run SlaSystem.step w later w' → Meets Prompt later → Unreported id w.db w'.db) ↔
      ∀ kind, TakenUp w.delivered id kind := by
  constructor
  · intro never kind
    by_contra passed
    obtain ⟨_, _, _, _, _, timed⟩ := closed
    obtain ⟨r, stored, rfl, rfl, _⟩ := timed kind
    obtain ⟨later, w', after, prompt, m, sent, reports, new⟩ :=
      breach_follows run settled stored (unbreached r stored rfl) passed
    exact new (never later w' after prompt m sent reports)
  · intro takenUp later w' after _
    exact (((handled_of_run run).2.timersEnded takenUp).run after).2

end Futures

section Example

/-- A ticket that is resolved and closed within three minutes, without an answer. -/
def unansweredDay : List SlaAction :=
  [.request (exampleExecution 0 (.createTicket ⟨⟨1⟩, ⟨2⟩, "Hola", "No entra", .HIGH⟩)),
    .deliver 102 (exampleAmbient 1),
    .request (exampleExecution 2 (.changeTicketStatus ⟨⟨1⟩, ⟨3⟩, ⟨100⟩, .RESOLVED⟩)),
    .request (exampleExecution 3 (.changeTicketStatus ⟨⟨1⟩, ⟨3⟩, ⟨100⟩, .CLOSED⟩)),
    .deliver 301 (exampleAmbient 4),
    .deliver 401 (exampleAmbient 5)]

/-- The sweep of the second hour. -/
def secondHour : List SlaAction :=
  [.sweep 10 7200000, .mark 0 (exampleAmbient 121)]

/-- Whether a sweep may begin. -/
def settledFor (w : SlaSystem) : Bool :=
  w.db.outbox.rows.all fun m => !(queuesFor m.eventName).contains SLA_QUEUE || decide (m.job ∈ w.delivered)

theorem prompt_of_settledFor {w : SlaSystem} {limit : Nat} {now : Instant} (settled : settledFor w = true) :
    Prompt w (.sweep limit now) := by
  intro m stored forWorker
  have both := List.all_eq_true.mp settled m stored
  simpa [forWorker] using both

/-- Whether an action lets the sweeps alone that have not begun. -/
def SlaAction.isSweepless : SlaAction → Bool
  | .sweep _ _ => false
  | _ => true

/-- A condition on the beginning of sweeps holds of a schedule without any. -/
theorem meets_of_sweepless {C : SlaSystem → SlaAction → Prop} (others : ∀ w a, a.isSweepless = true → C w a)
    {s₀ : SlaSystem} {schedule : List SlaAction} (sweepless : schedule.all SlaAction.isSweepless = true) :
    Meets C (playHistory SlaSystem.step s₀ schedule) := by
  intro entry member
  exact others entry.1 entry.2 (List.all_eq_true.mp sweepless entry.2 (mem_schedule member))

theorem prompt_of_sweepless (w : SlaSystem) (a : SlaAction) (sweepless : a.isSweepless = true) : Prompt w a := by
  cases a with
  | sweep limit now => cases sweepless
  | _ => trivial

theorem closedTakenUp_of_sweepless (w : SlaSystem) (a : SlaAction) (sweepless : a.isSweepless = true) :
    ClosedTakenUp w a := by
  cases a with
  | sweep limit now => cases sweepless
  | _ => trivial

/-- Whether the ticket of the example is closed at an instant before its timers are due. -/
def closedEarly (closedAt : Instant) (db : Db) : Bool :=
  (db.tickets.find? ⟨100⟩).any (fun row => row.status = .CLOSED && row.closedAt = some closedAt) &&
    SLA_KINDS.all fun kind => db.timers.rows.any fun r => r.ticketId = ⟨100⟩ && r.kind = kind && decide (closedAt < r.dueAt)

theorem closedInTime_of_closedEarly {db : Db} {closedAt : Instant} (early : closedEarly closedAt db = true) :
    ClosedInTime db ⟨100⟩ := by
  simp only [closedEarly, Bool.and_eq_true, Option.any_eq_true, List.all_eq_true, List.any_eq_true,
    decide_eq_true_eq] at early
  obtain ⟨⟨row, found, closed, closedAt⟩, timed⟩ := early
  refine ⟨row, found, closed, _, closedAt, ?_⟩
  intro kind
  obtain ⟨r, stored, ⟨ofTicket, ofKind⟩, later⟩ := timed kind (by cases kind <;> decide)
  exact ⟨r, stored, ofTicket, ofKind, later⟩

/-- Whether the ticket of the example has been reported. -/
def reported (db : Db) : Bool :=
  db.outbox.rows.any fun m => m.eventName = "sla.breached" && m.aggregateId = 100

/-- The ticket that was closed without an answer is reported. -/
theorem closedNeverBreach_unanswered :
    ∃ history w, Run SlaSystem.step (.initial Db.empty.beforeQueues) history w ∧ Meets Prompt history ∧
      ¬ClosedNeverBreach history w := by
  have possible : (play SlaSystem.step (.initial Db.empty.beforeQueues) unansweredDay).bind (fun w =>
      (play SlaSystem.step w secondHour).map fun w' =>
        (closedEarly 180000 w.db, settledFor w, reported w.db, reported w'.db)) = some (true, true, false, true) := by
    decide
  obtain ⟨w, played, rest⟩ := Option.bind_eq_some_iff.mp possible
  obtain ⟨w', played', facts⟩ := Option.map_eq_some_iff.mp rest
  simp only [Prod.mk.injEq] at facts
  obtain ⟨early, settled, unreported, breached⟩ := facts
  obtain ⟨swept, taken, marked⟩ := Option.bind_eq_some_iff.mp played'
  have sweepFirst : playHistory SlaSystem.step w secondHour =
      (w, .sweep 10 7200000) :: playHistory SlaSystem.step swept [.mark 0 (exampleAmbient 121)] := by
    simp only [secondHour, playHistory, taken]
  refine ⟨_, w', (play_run played).append (play_run played'), ?_, ?_⟩
  · rw [sweepFirst]
    intro entry member
    rcases List.mem_append.mp member with before | after
    · exact meets_of_sweepless prompt_of_sweepless rfl entry before
    · rcases List.mem_cons.mp after with rfl | later
      · exact prompt_of_settledFor settled
      · exact meets_of_sweepless prompt_of_sweepless rfl entry later
  · intro never
    have member : (w, SlaAction.sweep 10 7200000) ∈ playHistory SlaSystem.step (.initial Db.empty.beforeQueues)
        unansweredDay ++ playHistory SlaSystem.step w secondHour := by
      rw [sweepFirst]
      exact List.mem_append_right _ List.mem_cons_self
    obtain ⟨m, sent, isReport⟩ := List.any_eq_true.mp breached
    simp only [Bool.and_eq_true, decide_eq_true_eq] at isReport
    have old := never w 10 7200000 member ⟨100⟩ (closedInTime_of_closedEarly early) m sent isReport
    have none := List.any_eq_false.mp unreported m old
    simp [isReport] at none

/-- A ticket that is answered, resolved and closed within four minutes. -/
def answeredDay : List SlaAction :=
  [.request (exampleExecution 0 (.createTicket ⟨⟨1⟩, ⟨2⟩, "Hola", "No entra", .HIGH⟩)),
    .deliver 102 (exampleAmbient 1),
    .request (exampleExecution 2 (.addComment ⟨⟨1⟩, ⟨3⟩, "AGENT", ⟨100⟩, "Lo miramos"⟩)),
    .deliver 302 (exampleAmbient 3),
    .request (exampleExecution 4 (.changeTicketStatus ⟨⟨1⟩, ⟨3⟩, ⟨100⟩, .RESOLVED⟩)),
    .deliver 501 (exampleAmbient 5),
    .request (exampleExecution 6 (.changeTicketStatus ⟨⟨1⟩, ⟨3⟩, ⟨100⟩, .CLOSED⟩)),
    .deliver 701 (exampleAmbient 7)]

/-- The jobs of the example, as far as its timers look at them. -/
def glances (w : SlaSystem) : List (Uuid × Bool × Bool × Bool) :=
  w.delivered.map fun job =>
    (job.eventId, decide (job.eventName = "ticket.created"), job.fulfils .RESPONSE, job.fulfils .RESOLUTION)

/-- Whether everything in the example is about its ticket. -/
def onlyTicket (w : SlaSystem) : Bool :=
  (w.delivered.all fun job => job.aggregateId = 100) && w.db.timers.rows.all fun r => r.ticketId = ⟨100⟩

/-- Whether the messages of the example have been processed in their order. -/
def inOrder (w : SlaSystem) : Bool :=
  glances w = [(102, true, false, false), (302, false, true, false), (501, false, false, true), (701, false, false, false)]

/-- The timers of the example are taken up. -/
theorem closedTakenUp_of_inOrder {w : SlaSystem} {limit : Nat} {now : Instant} (only : onlyTicket w = true)
    (ordered : inOrder w = true) : ClosedTakenUp w (.sweep limit now) := by
  intro id closed kind
  obtain ⟨_, _, _, _, _, timed⟩ := closed
  obtain ⟨r, stored, ofTicket, _⟩ := timed kind
  simp only [onlyTicket, Bool.and_eq_true, List.all_eq_true, decide_eq_true_eq] at only
  obtain ⟨aboutTicket, ofTicket'⟩ := only
  have isTicket : id = ⟨100⟩ := ofTicket.symm.trans (ofTicket' r stored)
  have about (job : EventJobData) (member : job ∈ w.delivered) : job.aggregateId = id.uuid := by
    rw [isTicket]
    exact aboutTicket job member
  have seen := of_decide_eq_true ordered
  simp only [glances, List.map_eq_cons_iff, List.map_eq_nil_iff, Prod.mk.injEq] at seen
  obtain ⟨creation, rest, whole, ⟨id₀, created, _⟩, answer, rest', rfl, ⟨id₁, _, answers, _⟩, resolution, rest'', rfl,
    ⟨id₂, _, _, resolves⟩, _⟩ := seen
  rw [whole] at about ⊢
  have creates : creation.Creates id := ⟨of_decide_eq_true created, about creation (by simp)⟩
  cases kind with
  | RESPONSE =>
      refine ⟨[creation], answer, by simp, ⟨answers, about answer (by simp)⟩, ?_, creation, by simp, creates⟩
      intro same
      rw [List.mem_singleton.mp same, id₀] at id₁
      cases id₁
  | RESOLUTION =>
      refine ⟨[creation, answer], resolution, by simp, ⟨resolves, about resolution (by simp)⟩, ?_, creation, by simp,
        creates⟩
      intro same
      rcases List.mem_pair.mp same with same | same
      · rw [same, id₀] at id₂
        cases id₂
      · rw [same, id₁] at id₂
        cases id₂

/-- The ticket that was closed with an answer is never reported. -/
theorem closedNeverBreach_of_takenUp_answered :
    ∃ history w, Run SlaSystem.step (.initial Db.empty.beforeQueues) history w ∧
      (∃ w₁, (w₁, .sweep 10 86400000) ∈ history ∧ ClosedInTime w₁.db ⟨100⟩) ∧ ClosedNeverBreach history w := by
  have possible : (play SlaSystem.step (.initial Db.empty.beforeQueues) answeredDay).map
      (fun w => (closedEarly 360000 w.db, onlyTicket w, inOrder w)) = some (true, true, true) := by decide
  obtain ⟨w, played, facts⟩ := Option.map_eq_some_iff.mp possible
  simp only [Prod.mk.injEq] at facts
  obtain ⟨early, only, ordered⟩ := facts
  have swept : w.step (.sweep 10 86400000) =
      some { w with sweeps := w.sweeps ++ [slaDueTimers w.db 10 86400000] } := rfl
  have run := (play_run played).step swept
  refine ⟨_, _, run, ⟨w, by simp, closedInTime_of_closedEarly early⟩, closedNeverBreach_of_takenUp run ?_⟩
  rw [meets_append]
  exact ⟨meets_of_sweepless closedTakenUp_of_sweepless rfl, closedTakenUp_of_inOrder only ordered⟩

end Example

end Helpdesk
