/-
Module: HelpdeskApi.Queue.TimerChanges
Layer: Queue
Purpose: What the use cases do to the timers, and to the marks of the consumers that start and stop them,
  when they run in one piece: a stop and a breach each replace one running timer, a start adds two, and
  no request touches a timer.
Trusted boundary: none
Main exports: Db.TimerReplaced, StopSlaTimer.ending, StopSlaTimer.timers_of_ending,
  MarkSlaBreached.timers_of_breaching, StartSlaTimers.timers_committed, Execution.timers_of_request
-/
import HelpdeskApi.Application.SerialRuns

namespace Helpdesk

open Relational

/-- The timers afterwards are the timers before, with `new` in place of the one that had its id. -/
def Db.TimerReplaced (db db' : Db) (new : SlaTimer) : Prop :=
  ∀ r, r ∈ db'.timers.rows ↔ (r ∈ db.timers.rows ∧ r.id ≠ new.id) ∨ r = new

/-- Saving a changed timer that is stored replaces it. -/
theorem Db.timerReplaced_upsert (db : Db) {timer new : SlaTimer} (stored : timer ∈ db.timers.rows)
    (changed : updateTimerRow new timer = new) : db.TimerReplaced ((Write.upsertTimer new).apply db) new := by
  have sameId : new.id = timer.id := changed ▸ rfl
  have found : db.timers.find? new.id = some timer := sameId ▸ Table.find?_key stored
  intro r
  simp only [Write.apply, Table.mem_upsert_iff, key_timer, found, Option.elim_some, changed]

theorem stopSlaConsumer_inj {kind other : SlaKind} (same : stopSlaConsumer kind = stopSlaConsumer other) :
    kind = other := by
  revert same
  cases kind <;> cases other <;> decide

theorem stopSlaConsumer_ne_start (kind : SlaKind) : stopSlaConsumer kind ≠ START_SLA_CONSUMER := by
  cases kind <;> decide

namespace StopSlaTimer

variable {input : StopSlaTimerInput} {db : Db} {timer : SlaTimer}

/-- The timer the event ends, which is none once the event has been claimed. -/
def ending (input : StopSlaTimerInput) (db : Db) : Option SlaTimer :=
  match db.processed.find? (stopSlaConsumer input.kind, input.eventId) with
  | some _ => none
  | none => running input db

theorem running_spec (found : running input db = some timer) :
    timer ∈ db.timers.rows ∧ timer.tenantId = input.tenantId ∧ timer.ticketId = input.ticketId ∧
      timer.kind = input.kind ∧ timer.isRunning = true := by
  obtain ⟨stored, fits⟩ := Table.findFirst_mem found
  exact ⟨stored, of_decide_eq_true fits⟩

theorem ending_spec (ends : ending input db = some timer) :
    db.processed.find? (stopSlaConsumer input.kind, input.eventId) = none ∧
      running input db = some timer := by
  unfold ending at ends
  split at ends
  · cases ends
  · rename_i unclaimed
    exact ⟨unclaimed, ends⟩

/-- The event is claimed afterwards, and nothing else is claimed anew. -/
theorem marked_committed (k : String × Uuid) :
    ((db.after (committed input db)).processed.find? k).isSome = true ↔
      (db.processed.find? k).isSome = true ∨ k = (stopSlaConsumer input.kind, input.eventId) := by
  unfold committed
  split
  · rename_i claimed
    refine ⟨.inl, ?_⟩
    rintro (old | rfl)
    · exact old
    · simp [claimed]
  · have marks (row : ProcessedRow) (writes : List Write)
        (timersOnly : writes = [] ∨ ∃ timer, writes = [.upsertTimer timer]) :
        (db.after (.insertProcessed row :: writes)).processed = db.processed.insert row := by
      rcases timersOnly with rfl | ⟨timer, rfl⟩ <;> rfl
    rw [marks _ _ (by split <;> simp), Table.isSome_find?_insert]
    rfl

theorem timers_of_idle (idle : ending input db = none) :
    (db.after (committed input db)).timers = db.timers := by
  unfold ending at idle
  unfold committed
  split
  · rfl
  · rename_i unclaimed
    simp only [unclaimed] at idle
    simp [idle]

theorem timers_of_ending (ends : ending input db = some timer) :
    db.TimerReplaced (db.after (committed input db)) { timer with stoppedAt := some input.occurredAt } := by
  obtain ⟨unclaimed, found⟩ := ending_spec ends
  obtain ⟨stored, _, _, _, running⟩ := running_spec found
  have stopped : timer.stop input.occurredAt = { timer with stoppedAt := some input.occurredAt } := by
    simp [SlaTimer.stop, running]
  simp only [committed, unclaimed, found, stopped]
  exact Db.timerReplaced_upsert ((Write.insertProcessed _).apply db) stored rfl

/-- A timer afterwards is one the stop has not ended, or the one it has ended. -/
theorem mem_timers_committed {r : SlaTimer} (member : r ∈ (db.after (committed input db)).timers.rows) :
    (r ∈ db.timers.rows ∧ ∀ timer, ending input db = some timer → r.id ≠ timer.id) ∨
      ∃ timer ∈ db.timers.rows, ending input db = some timer ∧
        r = { timer with stoppedAt := some input.occurredAt } := by
  cases ends : ending input db with
  | none =>
      rw [timers_of_idle ends] at member
      exact .inl ⟨member, fun timer same => by cases same⟩
  | some timer =>
      have stored := (running_spec (ending_spec ends).2).1
      rcases (timers_of_ending ends r).mp member with ⟨old, other⟩ | new
      · refine .inl ⟨old, fun timer' same => ?_⟩
        cases same
        exact other
      · exact .inr ⟨timer, stored, rfl, new⟩

/-- No ticket loses a timer. -/
theorem timer_kept {r : SlaTimer} (stored : r ∈ db.timers.rows) :
    ∃ r' ∈ (db.after (committed input db)).timers.rows, r'.ticketId = r.ticketId ∧ r'.kind = r.kind := by
  cases ends : ending input db with
  | none =>
      rw [timers_of_idle ends]
      exact ⟨r, stored, rfl, rfl⟩
  | some timer =>
      have replaced := timers_of_ending ends
      have old := (running_spec (ending_spec ends).2).1
      by_cases same : r.id = timer.id
      · cases Table.eq_of_key stored old same
        exact ⟨_, (replaced _).mpr (.inr rfl), rfl, rfl⟩
      · exact ⟨r, (replaced r).mpr (.inl ⟨stored, same⟩), rfl, rfl⟩

end StopSlaTimer

namespace MarkSlaBreached

variable {input : MarkSlaBreachedInput} {ambient : Ambient} {requestId : Option String} {db : Db}
  {timer : SlaTimer} {row : TicketRow}

theorem breaching_spec (found : breaching input ambient db = some (timer, row)) :
    timer ∈ db.timers.rows ∧ timer.id = input.timerId ∧ timer.tenantId = input.tenantId ∧
      timer.isOverdue ambient.now = true ∧ db.ticketOf input.tenantId timer.ticketId = some row := by
  unfold breaching at found
  split at found
  · cases found
  · rename_i timer' located
    obtain ⟨row', ticket, same⟩ := Option.map_eq_some_iff.mp found
    cases same
    obtain ⟨stored, overdue⟩ := Option.filter_eq_some_iff.mp located
    obtain ⟨inTable, ofTenant⟩ := Db.timerOf_eq_some_iff.mp stored
    exact ⟨Table.mem_of_find? inTable, Table.key_of_find? inTable, ofTenant, overdue, ticket⟩

theorem committed_of_idle (idle : breaching input ambient db = none) :
    committed input ambient requestId db = [] := by
  simp [committed, idle]

theorem timers_of_breaching (requestId : Option String) (found : breaching input ambient db = some (timer, row)) :
    db.TimerReplaced (db.after (committed input ambient requestId db))
      { timer with breachedAt := some ambient.now } := by
  simp only [committed, found]
  exact Db.timerReplaced_upsert db (breaching_spec found).1 rfl

/-- A timer that is there afterwards was there before, or it is the overdue one, breached. -/
theorem mem_timers_committed {r : SlaTimer}
    (member : r ∈ (db.after (committed input ambient requestId db)).timers.rows) :
    r ∈ db.timers.rows ∨ ∃ timer ∈ db.timers.rows, timer.isOverdue ambient.now = true ∧
      r = { timer with breachedAt := some ambient.now } := by
  cases found : breaching input ambient db with
  | none =>
      rw [committed_of_idle found] at member
      exact .inl member
  | some pair =>
      obtain ⟨stored, _, _, overdue, _⟩ := breaching_spec found
      rcases (timers_of_breaching requestId found r).mp member with ⟨old, _⟩ | new
      · exact .inl old
      · exact .inr ⟨pair.1, stored, overdue, new⟩

end MarkSlaBreached

namespace StartSlaTimers

variable {input : StartSlaTimersInput} {ambient : Ambient} {db : Db}

/-- A start leaves the timers alone, or it adds one of each kind to a ticket without any. -/
theorem timers_committed (input : StartSlaTimersInput) (fresh : ambient.freshIn db = true) :
    ((db.after (committed input ambient db)).timers = db.timers ∧
        (db.processed.find? (START_SLA_CONSUMER, input.eventId) = none →
          ∃ r ∈ db.timers.rows, r.ticketId = input.ticketId)) ∨
      ((∀ r ∈ db.timers.rows, r.ticketId ≠ input.ticketId) ∧
        (db.after (committed input ambient db)).timers.rows = db.timers.rows ++
          [timer input (objetivo input db) (ambient.uuid 0) .RESPONSE,
            timer input (objetivo input db) (ambient.uuid 1) .RESOLUTION]) := by
  obtain ⟨unused₀, unused₁, _⟩ := Ambient.unused_of_freshIn fresh
  have distinct := Ambient.distinct_of_freshIn fresh
  unfold committed
  split
  · rename_i claimed
    exact .inl ⟨rfl, fun unclaimed => by simp [claimed] at unclaimed⟩
  · split
    · rename_i occupied
      obtain ⟨r, stored, same⟩ := List.any_eq_true.mp occupied
      exact .inl ⟨rfl, fun _ => ⟨r, stored, of_decide_eq_true same⟩⟩
    · rename_i vacant
      refine .inr ⟨by simpa [Table.any] using vacant, ?_⟩
      have free₀ : db.timers.find? (timer input (objetivo input db) (ambient.uuid 0) .RESPONSE).id = none :=
        unused₀.timer
      have free₁ : (db.timers.insert (timer input (objetivo input db) (ambient.uuid 0) .RESPONSE)).find?
          (timer input (objetivo input db) (ambient.uuid 1) .RESOLUTION).id = none := by
        rw [Table.find?_insert]
        simp [timer, SlaTimer.start, unused₁.timer, distinct]
      simp only [Db.after_cons, Db.after_nil, Write.apply, Table.upsert_of_free free₀]
      rw [Table.rows_upsert_of_free free₁, Table.rows_insert_of_free free₀, List.append_assoc]
      rfl

/-- The id of the timer of a kind that a start adds. -/
def timerId (ambient : Ambient) : SlaKind → Uuid
  | .RESPONSE => ambient.uuid 0
  | .RESOLUTION => ambient.uuid 1

/-- The timers after a start that added some: the old ones, and one of each kind. -/
theorem mem_timers_of_added {db' : Db} (added : db'.timers.rows = db.timers.rows ++
      [timer input (objetivo input db) (ambient.uuid 0) .RESPONSE,
        timer input (objetivo input db) (ambient.uuid 1) .RESOLUTION]) (r : SlaTimer) :
    r ∈ db'.timers.rows ↔ r ∈ db.timers.rows ∨
      ∃ kind, r = timer input (objetivo input db) (timerId ambient kind) kind := by
  rw [added, List.mem_append, List.mem_pair]
  refine or_congr_right ⟨?_, ?_⟩
  · rintro (rfl | rfl)
    · exact ⟨.RESPONSE, rfl⟩
    · exact ⟨.RESOLUTION, rfl⟩
  · rintro ⟨kind, rfl⟩
    cases kind with
    | RESPONSE => exact .inl rfl
    | RESOLUTION => exact .inr rfl

/-- A timer that is there afterwards was there before, or it is new and its ticket had none. -/
theorem mem_timers_committed (fresh : ambient.freshIn db = true) {r : SlaTimer}
    (member : r ∈ (db.after (committed input ambient db)).timers.rows) :
    r ∈ db.timers.rows ∨ (∀ t ∈ db.timers.rows, t.ticketId ≠ input.ticketId) ∧
      ∃ kind, r = timer input (objetivo input db) (timerId ambient kind) kind := by
  rcases timers_committed input fresh with ⟨same, _⟩ | ⟨vacant, added⟩
  · exact .inl (same ▸ member)
  · exact ((mem_timers_of_added added r).mp member).imp_right fun new => ⟨vacant, new⟩

theorem committed_of_claimed {row : ProcessedRow}
    (claimed : db.processed.find? (START_SLA_CONSUMER, input.eventId) = some row) :
    committed input ambient db = [] := by
  simp [committed, claimed]

theorem committed_of_occupied {r : SlaTimer} (occupied : r ∈ db.timers.rows) (sameTicket : r.ticketId = input.ticketId) :
    committed input ambient db = [] := by
  have isSome : (db.timers.any fun r => decide (r.ticketId = input.ticketId)) = true :=
    List.any_eq_true.mpr ⟨r, occupied, decide_eq_true sameTicket⟩
  unfold committed
  split
  · rfl
  · rw [if_pos isSome]

/-- The event of a ticket without timers is claimed afterwards, and nothing else is claimed anew. -/
theorem marked_of_vacant (unclaimed : db.processed.find? (START_SLA_CONSUMER, input.eventId) = none)
    (vacant : ∀ r ∈ db.timers.rows, r.ticketId ≠ input.ticketId) (k : String × Uuid) :
    ((db.after (committed input ambient db)).processed.find? k).isSome = true ↔
      (db.processed.find? k).isSome = true ∨ k = (START_SLA_CONSUMER, input.eventId) := by
  have noTimer : (db.timers.any fun r => decide (r.ticketId = input.ticketId)) = false := by
    simpa [Table.any] using vacant
  simp only [committed, unclaimed, noTimer]
  exact Table.isSome_find?_insert _ _ _

end StartSlaTimers

/-- Requests do not touch timers. -/
theorem Execution.timers_of_request {e : Execution} (isRequest : e.useCase.isRequest = true) (db : Db) :
    (db.after (e.committed db)).timers = db.timers := by
  have commits := e.commits db
  generalize e.committed db = writes at commits ⊢
  cases commits with
  | started asked | stopped asked | breached asked => simp [asked, UseCase.isRequest] at isRequest
  | _ => rfl

end Helpdesk
