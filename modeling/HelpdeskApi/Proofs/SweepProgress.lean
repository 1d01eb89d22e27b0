/-
Module: HelpdeskApi.Proofs.SweepProgress
Layer: Proofs
Purpose: Sweep after sweep where marking some of the timers throws every time. The next batch is the
  earliest due timers again, so the timers that cannot be marked keep their places in it: the others are
  all marked exactly as long as those do not fill a batch by themselves.
Trusted boundary: none
Main exports: TicketsThere, Cleared, NeverCrowded, sweeps_clear_iff
-/
import HelpdeskApi.Library.Runs
import HelpdeskApi.Queue.Sweeper

namespace Helpdesk

open Relational Batches Transition

/-- Every timer has its ticket: the foreign key of `sla_timers`. -/
def TicketsThere (db : Db) : Prop :=
  ∀ t ∈ db.timers.rows, (db.ticketOf t.tenantId t.ticketId).isSome = true

/-- Every timer that was overdue and can be marked has been. -/
def Cleared (db₀ : Db) (now₀ : Instant) (throws : SlaTimerId → Bool) (db : Db) : Prop :=
  ∀ t ∈ overdueTimers db₀ now₀, throws t.id = false →
    ∃ t' ∈ db.timers.rows, t'.id = t.id ∧ t'.breachedAt.isSome = true

/-- No timer that can be marked has a whole batch of timers that cannot before it. -/
def NeverCrowded (db₀ : Db) (now₀ : Instant) (throws : SlaTimerId → Bool) (limit : Nat) : Prop :=
  ∀ t ∈ overdueTimers db₀ now₀, throws t.id = false →
    ((overdueTimers db₀ now₀).countP fun f => throws f.id && decide (f.dueAt ≤ t.dueAt)) < limit

theorem mem_overdueTimers {db : Db} {now : Instant} {t : SlaTimer} :
    t ∈ overdueTimers db now ↔
      t ∈ db.timers.rows ∧ t.stoppedAt = none ∧ t.breachedAt = none ∧ t.dueAt ≤ now := by
  simp [overdueTimers]

theorem nodup_overdueTimers (db : Db) (now : Instant) : (overdueTimers db now).Nodup :=
  (List.Nodup.of_map _ db.timers.keysDistinct).filter _

section Marks

variable {db : Db} {fila : DueTimerRow} {ambient : Ambient}

/-- The database once a row of a sweep has been dealt with. -/
abbrev afterMark (db : Db) (fila : DueTimerRow) (ambient : Ambient) : Db :=
  db.after (MarkSlaBreached.committed { tenantId := fila.tenantId, timerId := fila.id } ambient none db)

theorem ticketOf_afterMark (t : TenantId) (id : TicketId) :
    (afterMark db fila ambient).ticketOf t id = db.ticketOf t id := by
  rw [Db.ticketOf, tickets_of_mark]
  rfl

/-- Dealing with a row leaves the timers as they are, or replaces the one of the row by its breached self. -/
theorem timers_afterMark (db : Db) (fila : DueTimerRow) (ambient : Ambient) :
    (afterMark db fila ambient).timers = db.timers ∨
      ∃ timer ∈ db.timers.rows, timer.id = fila.id ∧ timer.isRunning = true ∧
        db.TimerReplaced (afterMark db fila ambient) { timer with breachedAt := some ambient.now } := by
  cases found : MarkSlaBreached.breaching { tenantId := fila.tenantId, timerId := fila.id } ambient db with
  | none =>
      refine .inl ?_
      rw [afterMark, MarkSlaBreached.committed_of_idle found]
      rfl
  | some pair =>
      obtain ⟨timer, row⟩ := pair
      obtain ⟨stored, sameId, _⟩ := MarkSlaBreached.breaching_spec found
      exact .inr ⟨timer, stored, sameId, MarkSlaBreached.running_of_breaching found,
        MarkSlaBreached.timers_of_breaching none found⟩

/-- A timer of another row, or one that is breached already, stays as it is. -/
theorem mem_afterMark {t : SlaTimer} (stored : t ∈ db.timers.rows)
    (other : t.id ≠ fila.id ∨ t.breachedAt.isSome = true) : t ∈ (afterMark db fila ambient).timers.rows := by
  rcases timers_afterMark db fila ambient with same | ⟨timer, inside, sameId, running, replaced⟩
  · rw [same]
    exact stored
  · refine (replaced t).mpr (.inl ⟨stored, ?_⟩)
    change t.id ≠ timer.id
    intro same
    rcases other with apart | breached
    · exact apart (same.trans sameId)
    · cases Table.eq_of_key stored inside same
      rw [(t.isRunning_iff.mp running).2] at breached
      cases breached

/-- A timer is as it was, or has been breached. -/
theorem kept_afterMark {t : SlaTimer} (stored : t ∈ db.timers.rows) :
    t ∈ (afterMark db fila ambient).timers.rows ∨
      ∃ t' ∈ (afterMark db fila ambient).timers.rows, t'.id = t.id ∧ t'.breachedAt.isSome = true := by
  rcases timers_afterMark db fila ambient with same | ⟨timer, inside, _, _, replaced⟩
  · rw [same]
    exact .inl stored
  · by_cases sameId : t.id = timer.id
    · exact .inr ⟨_, (replaced _).mpr (.inr rfl), sameId.symm, rfl⟩
    · exact .inl ((replaced t).mpr (.inl ⟨stored, sameId⟩))

/-- A timer afterwards was there before, or is a breached one. -/
theorem mem_of_afterMark {t : SlaTimer} (stored : t ∈ (afterMark db fila ambient).timers.rows) :
    t ∈ db.timers.rows ∨ (t.breachedAt.isSome = true ∧
      ∃ old ∈ db.timers.rows, t.id = old.id ∧ t.tenantId = old.tenantId ∧ t.ticketId = old.ticketId) := by
  rcases timers_afterMark db fila ambient with same | ⟨timer, inside, _, _, replaced⟩
  · rw [same] at stored
    exact .inl stored
  · rcases (replaced t).mp stored with before | rfl
    · exact .inl before.1
    · exact .inr ⟨rfl, timer, inside, rfl, rfl, rfl⟩

/-- Messages stay. -/
theorem outbox_afterMark {m : OutboxRow} (sent : m ∈ db.outbox.rows) : m ∈ (afterMark db fila ambient).outbox.rows := by
  unfold afterMark MarkSlaBreached.committed
  split
  · exact sent
  · exact Table.mem_insert_of_mem _ sent

/-- A running timer that is due is one a sweep breaches. -/
theorem breaching_of_overdue {t : SlaTimer} (there : TicketsThere db) (stored : t ∈ db.timers.rows)
    (overdue : t.isOverdue ambient.now = true) :
    ∃ ticket, MarkSlaBreached.breaching { tenantId := t.tenantId, timerId := t.id } ambient db = some (t, ticket) ∧
      ticket.id = t.ticketId := by
  obtain ⟨ticket, located⟩ := Option.isSome_iff_exists.mp (there t stored)
  have byId : db.timerOf t.tenantId t.id = some t := Db.timerOf_eq_some_iff.mpr ⟨Table.find?_key stored, rfl⟩
  refine ⟨ticket, ?_, Table.key_of_find? (Db.ticketOf_eq_some_iff.mp located).1⟩
  simp [MarkSlaBreached.breaching, byId, Option.filter_some, overdue, located]

/-- A running timer that is due is marked. -/
theorem breached_afterMark {t : SlaTimer} (there : TicketsThere db) (stored : t ∈ db.timers.rows)
    (ofRow : t.dueRow = fila) (overdue : t.isOverdue ambient.now = true) :
    t ∉ (afterMark db fila ambient).timers.rows ∧
      ∃ t' ∈ (afterMark db fila ambient).timers.rows, t'.id = t.id ∧ t'.breachedAt.isSome = true := by
  cases ofRow
  obtain ⟨ticket, found, _⟩ := breaching_of_overdue there stored overdue
  have replaced := MarkSlaBreached.timers_of_breaching none found
  have running := (t.isOverdue_iff _).mp overdue
  constructor
  · intro still
    rcases (replaced t).mp still with before | same
    · exact before.2 rfl
    · have breached := congrArg SlaTimer.breachedAt same
      rw [running.2.1] at breached
      cases breached
  · exact ⟨_, (replaced _).mpr (.inr rfl), rfl, rfl⟩

end Marks

namespace Sweeper

variable {db₀ : Db} {now₀ : Instant} {throws : SlaTimerId → Bool} {limit : Nat} {w w' : Sweeper}

/-- How many of the timers that can be marked still wait for it. -/
def waiting (db₀ : Db) (now₀ : Instant) (throws : SlaTimerId → Bool) (db : Db) : Nat :=
  (overdueTimers db₀ now₀).countP fun t => !throws t.id && decide (t ∈ db.timers.rows)

/-- What any number of sweeps leave: running timers are those there were, and the overdue ones are as they
    were or have been marked. -/
structure Swept (db₀ : Db) (now₀ : Instant) (w : Sweeper) : Prop where
  later : now₀ ≤ w.now
  tickets : TicketsThere w.db
  old : ∀ t ∈ w.db.timers.rows, t.breachedAt = none → t ∈ db₀.timers.rows
  kept : ∀ t ∈ overdueTimers db₀ now₀, t ∈ w.db.timers.rows ∨
    ∃ t' ∈ w.db.timers.rows, t'.id = t.id ∧ t'.breachedAt.isSome = true

/-- The next row of the sweep that is under way, among those that wait. -/
def Coming (db₀ : Db) (now₀ : Instant) (throws : SlaTimerId → Bool) (w : Sweeper) : Prop :=
  ∃ t ∈ overdueTimers db₀ now₀, throws t.id = false ∧ t ∈ w.db.timers.rows ∧ t.dueRow ∈ w.vencidos

/-- Every sweep that is over has marked a timer, unless none waits any more. -/
def Progress (db₀ : Db) (now₀ : Instant) (throws : SlaTimerId → Bool) (w : Sweeper) : Prop :=
  waiting db₀ now₀ throws w.db = 0 ∨
    waiting db₀ now₀ throws w.db + w.sweeps ≤ (overdueTimers db₀ now₀).length ∨
    (waiting db₀ now₀ throws w.db + w.sweeps ≤ (overdueTimers db₀ now₀).length + 1 ∧ Coming db₀ now₀ throws w)

theorem swept_initial (there : TicketsThere db₀) : Swept db₀ now₀ (initial db₀ now₀) where
  later := le_refl now₀
  tickets := there
  old _ stored _ := stored
  kept _ overdue := .inl (mem_overdueTimers.mp overdue).1

theorem ticketsThere_afterMark {db : Db} (there : TicketsThere db) (fila : DueTimerRow) (ambient : Ambient) :
    TicketsThere (afterMark db fila ambient) := by
  intro t stored
  rw [ticketOf_afterMark]
  rcases mem_of_afterMark stored with before | ⟨_, timer, inside, _, tenant, ticket⟩
  · exact there t before
  · rw [tenant, ticket]
    exact there timer inside

theorem Swept.step {a : SweeperAction} (swept : Swept db₀ now₀ w) (taken : w.step limit throws a = some w') :
    Swept db₀ now₀ w' := by
  cases step_stepped taken with
  | sweep idle later listing => exact { swept with later := swept.later.trans later }
  | threw next thrown => exact { swept with }
  | @marked ambient fila vencidos next passed later fresh =>
      constructor
      · exact swept.later
      · exact ticketsThere_afterMark swept.tickets fila ambient
      · intro t stored unbreached
        rcases mem_of_afterMark stored with before | ⟨breached, _⟩
        · exact swept.old t before unbreached
        · rw [unbreached] at breached
          cases breached
      · intro t overdue
        rcases swept.kept t overdue with stored | ⟨t', stored, sameId, breached⟩
        · exact kept_afterMark stored
        · exact .inr ⟨t', mem_afterMark stored (.inr breached), sameId, breached⟩

/-- What waits after a mark has waited before. -/
theorem waited_of_afterMark {db : Db} {fila : DueTimerRow} {ambient : Ambient} :
    ∀ t ∈ overdueTimers db₀ now₀,
      (!throws t.id && decide (t ∈ (afterMark db fila ambient).timers.rows)) = true →
        (!throws t.id && decide (t ∈ db.timers.rows)) = true := by
  intro t overdue both
  simp only [Bool.and_eq_true, decide_eq_true_eq] at both ⊢
  refine ⟨both.1, ?_⟩
  rcases mem_of_afterMark both.2 with before | ⟨breached, _⟩
  · exact before
  · rw [(mem_overdueTimers.mp overdue).2.2.1] at breached
    cases breached

/-- One less waits where a timer that did has been marked. -/
theorem waiting_afterMark_lt {db : Db} {fila : DueTimerRow} {ambient : Ambient} {t : SlaTimer}
    (overdue : t ∈ overdueTimers db₀ now₀) (passed : throws t.id = false) (stored : t ∈ db.timers.rows)
    (gone : t ∉ (afterMark db fila ambient).timers.rows) :
    waiting db₀ now₀ throws (afterMark db fila ambient) < waiting db₀ now₀ throws db := by
  apply countP_lt waited_of_afterMark overdue
  · rw [passed, decide_eq_true stored]
    rfl
  · rw [decide_eq_false gone, Bool.and_false]

/-- A timer that waits is marked when its row comes. -/
theorem Swept.gone (swept : Swept db₀ now₀ w) {t : SlaTimer} (overdue : t ∈ overdueTimers db₀ now₀)
    (stored : t ∈ w.db.timers.rows) {ambient : Ambient} (later : w.now ≤ ambient.now) :
    t ∉ (afterMark w.db t.dueRow ambient).timers.rows := by
  obtain ⟨_, unstopped, unbreached, due⟩ := mem_overdueTimers.mp overdue
  have isOverdue : t.isOverdue ambient.now = true :=
    (t.isOverdue_iff _).mpr ⟨unstopped, unbreached, (due.trans swept.later).trans later⟩
  exact (breached_afterMark swept.tickets stored rfl isOverdue).1

/-- A sweep that begins while timers wait is given one of them. -/
theorem coming_of_sweep (uncrowded : NeverCrowded db₀ now₀ throws limit) (swept : Swept db₀ now₀ w) {now : Instant}
    {order : List SlaTimer} (later : w.now ≤ now)
    (listing : Listing SlaTimer.dueAt (overdueTimers w.db now) order)
    (some : waiting db₀ now₀ throws w.db ≠ 0) :
    ∃ t ∈ overdueTimers db₀ now₀, throws t.id = false ∧ t ∈ w.db.timers.rows ∧ t ∈ order.take limit := by
  obtain ⟨t, overdue, both⟩ := List.countP_pos_iff.mp (Nat.pos_of_ne_zero some)
  simp only [Bool.and_eq_true, Bool.not_eq_true', decide_eq_true_eq] at both
  obtain ⟨passed, stored⟩ := both
  by_contra none
  have out : t ∉ order.take limit := fun taken => none ⟨t, overdue, passed, stored, taken⟩
  obtain ⟨_, unstopped, unbreached, due⟩ := mem_overdueTimers.mp overdue
  have isDue : t ∈ overdueTimers w.db now :=
    mem_overdueTimers.mpr ⟨stored, unstopped, unbreached, (due.trans swept.later).trans later⟩
  obtain ⟨full, earlier⟩ := listing.crowded isDue out
  -- the batch is full of timers that cannot be marked, and they were all there in the beginning
  have crowd : ∀ f ∈ order.take limit, f ∈ overdueTimers db₀ now₀ ∧ throws f.id = true := by
    intro f taken
    obtain ⟨inside, unstopped', unbreached', _⟩ := mem_overdueTimers.mp (listing.mem_batch taken)
    have overdue' : f ∈ overdueTimers db₀ now₀ :=
      mem_overdueTimers.mpr ⟨swept.old f inside unbreached', unstopped', unbreached', (earlier f taken).trans due⟩
    refine ⟨overdue', ?_⟩
    by_contra passed'
    exact none ⟨f, overdue', by simpa using passed', inside, taken⟩
  have distinct : (order.take limit).Nodup :=
    (listing.perm.nodup_iff.mpr (nodup_overdueTimers w.db now)).sublist (List.take_sublist limit order)
  have counted : limit ≤ (overdueTimers db₀ now₀).countP fun f => throws f.id && decide (f.dueAt ≤ t.dueAt) := by
    have all : (order.take limit).countP (fun f => throws f.id && decide (f.dueAt ≤ t.dueAt)) = limit := by
      refine (List.countP_eq_length.mpr ?_).trans full
      intro f taken
      rw [(crowd f taken).2, decide_eq_true (earlier f taken)]
      rfl
    rw [← all]
    exact countP_le_of_subset distinct fun f taken _ => (crowd f taken).1
  exact absurd (uncrowded t overdue passed) (Nat.not_lt.mpr counted)

theorem Progress.step {a : SweeperAction} (uncrowded : NeverCrowded db₀ now₀ throws limit)
    (swept : Swept db₀ now₀ w) (progress : Progress db₀ now₀ throws w) (taken : w.step limit throws a = some w') :
    Progress db₀ now₀ throws w' := by
  unfold Progress at progress ⊢
  cases step_stepped taken with
  | @sweep now order idle later listing =>
      by_cases none : waiting db₀ now₀ throws w.db = 0
      · exact .inl none
      · rcases progress with zero | less | ⟨_, t, _, _, _, coming⟩
        · exact absurd zero none
        · obtain ⟨t, overdue, passed, stored, given⟩ := coming_of_sweep uncrowded swept later listing none
          refine .inr (.inr ⟨?_, t, overdue, passed, stored, List.mem_map_of_mem given⟩)
          dsimp only
          omega
        · rw [idle] at coming
          cases coming
  | @threw ambient fila vencidos next thrown =>
      rcases progress with zero | less | ⟨bound, t, overdue, passed, stored, coming⟩
      · exact .inl zero
      · exact .inr (.inl less)
      · refine .inr (.inr ⟨bound, t, overdue, passed, stored, ?_⟩)
        rw [next] at coming
        rcases List.mem_cons.mp coming with first | later
        · rw [← first, SlaTimer.dueRow, passed] at thrown
          cases thrown
        · exact later
  | @marked ambient fila vencidos next passed' later fresh =>
      have fewer : waiting db₀ now₀ throws (afterMark w.db fila ambient) ≤ waiting db₀ now₀ throws w.db :=
        List.countP_mono_left waited_of_afterMark
      rcases progress with zero | less | ⟨bound, t, overdue, passed, stored, coming⟩
      · exact .inl (Nat.le_zero.mp (zero ▸ fewer))
      · exact .inr (.inl (le_trans (Nat.add_le_add_right fewer _) less))
      · by_cases still : t ∈ (afterMark w.db fila ambient).timers.rows
        · have notRow : t.dueRow ≠ fila := by
            intro isRow
            subst isRow
            exact swept.gone overdue stored later still
          rw [next] at coming
          exact .inr (.inr ⟨le_trans (Nat.add_le_add_right fewer _) bound, t, overdue, passed, still,
            (List.mem_cons.mp coming).resolve_left notRow⟩)
        · have dropped := waiting_afterMark_lt overdue passed stored still
          refine .inr (.inl ?_)
          change waiting db₀ now₀ throws (afterMark w.db fila ambient) + w.sweeps ≤ _
          omega

/-- Where the timers that cannot be marked do not fill a batch, as many sweeps as there are overdue timers
    mark all the others. -/
theorem cleared_of_run (there : TicketsThere db₀) (uncrowded : NeverCrowded db₀ now₀ throws limit)
    {history : List (Sweeper × SweeperAction)} (run : Run (step limit throws) (initial db₀ now₀) history w)
    (idle : w.vencidos = []) (enough : (overdueTimers db₀ now₀).length ≤ w.sweeps) :
    Cleared db₀ now₀ throws w.db := by
  obtain ⟨swept, progress⟩ : Swept db₀ now₀ w ∧ Progress db₀ now₀ throws w := by
    refine run.invariant (I := fun w => Swept db₀ now₀ w ∧ Progress db₀ now₀ throws w)
      ⟨swept_initial there, .inr (.inl List.countP_le_length)⟩ ?_
    intro w a w' both taken
    exact ⟨both.1.step taken, both.2.step uncrowded both.1 taken⟩
  have nobody : waiting db₀ now₀ throws w.db = 0 := by
    rcases progress with zero | less | ⟨_, t, _, _, _, coming⟩
    · exact zero
    · omega
    · rw [idle] at coming
      cases coming
  intro t overdue passed
  rcases swept.kept t overdue with stored | breached
  · have waits := List.countP_eq_zero.mp nobody t overdue
    rw [passed, decide_eq_true stored] at waits
    exact absurd rfl waits
  · exact breached

/-- A timer waits behind those that cannot be marked. -/
structure Behind (db₀ : Db) (now₀ : Instant) (throws : SlaTimerId → Bool) (t : SlaTimer) (w : Sweeper) : Prop where
  stored : t ∈ w.db.timers.rows
  crowd : ∀ f ∈ overdueTimers db₀ now₀, throws f.id = true → f ∈ w.db.timers.rows

variable {t : SlaTimer}

/-- A sweep that is not given the timer goes through its rows and leaves the timer waiting. -/
theorem run_marks (behind : Behind db₀ now₀ throws t w) (others : ∀ fila ∈ w.vencidos, t.id ≠ fila.id) :
    ∃ history w', Run (step limit throws) w history w' ∧ w'.vencidos = [] ∧ w'.now = w.now ∧
      w'.sweeps = w.sweeps ∧ Behind db₀ now₀ throws t w' := by
  generalize rows : w.vencidos = vencidos at others
  induction vencidos generalizing w with
  | nil => exact ⟨[], w, .start, rows, rfl, rfl, behind⟩
  | cons fila vencidos ih =>
      have rest : ∀ fila ∈ vencidos, t.id ≠ fila.id := fun fila member => others fila (List.mem_cons_of_mem _ member)
      obtain ⟨ambient, sameNow, fresh⟩ := Ambient.exists_freshIn w.db w.now
      cases thrown : throws fila.id with
      | true =>
          obtain ⟨history, w', run, after⟩ :=
            ih (w := { w with vencidos := vencidos }) ⟨behind.stored, behind.crowd⟩ rfl rest
          have taken := (@Stepped.threw limit throws w ambient fila vencidos rows thrown).step
          exact ⟨_, w', .cons taken run, after⟩
      | false =>
          have behind' : Behind db₀ now₀ throws t { w with db := afterMark w.db fila ambient, vencidos := vencidos } := by
            constructor
            · exact mem_afterMark behind.stored (.inl (others fila List.mem_cons_self))
            · intro f overdue crowds
              refine mem_afterMark (behind.crowd f overdue crowds) (.inl ?_)
              intro same
              rw [same, thrown] at crowds
              cases crowds
          obtain ⟨history, w', run, after⟩ := ih behind' rfl rest
          exact ⟨_, w', .cons (Stepped.marked rows thrown (le_of_eq sameNow.symm) fresh).step run, after⟩

/-- A timer behind a whole batch of timers that cannot be marked need not be in the next batch. -/
theorem run_sweep (behind : Behind db₀ now₀ throws t w) (passed : throws t.id = false)
    (crowded : limit ≤ (overdueTimers db₀ now₀).countP fun f => throws f.id && decide (f.dueAt ≤ t.dueAt))
    (idle : w.vencidos = []) (sameNow : w.now = now₀) :
    ∃ history w', Run (step limit throws) w history w' ∧ w'.vencidos = [] ∧ w'.now = now₀ ∧
      w'.sweeps = w.sweeps + 1 ∧ Behind db₀ now₀ throws t w' := by
  have still : ∀ f ∈ overdueTimers db₀ now₀, f ∈ w.db.timers.rows → f ∈ overdueTimers w.db now₀ := by
    intro f overdue stored
    exact mem_overdueTimers.mpr ⟨stored, (mem_overdueTimers.mp overdue).2⟩
  have enough : limit ≤ (overdueTimers w.db now₀).countP fun f => throws f.id && decide (f.dueAt ≤ t.dueAt) := by
    refine crowded.trans (countP_le_of_subset (nodup_overdueTimers db₀ now₀) fun f overdue both => ?_)
    rw [Bool.and_eq_true] at both
    exact still f overdue (behind.crowd f overdue both.1)
  obtain ⟨order, listing, out⟩ := exists_listing_without enough passed
  have others : ∀ fila ∈ (order.take limit).map SlaTimer.dueRow, t.id ≠ fila.id := by
    intro fila member sameId
    obtain ⟨u, taken, rfl⟩ := List.mem_map.mp member
    cases Table.eq_of_key behind.stored (mem_overdueTimers.mp (listing.mem_batch taken)).1 sameId
    exact out taken
  obtain ⟨history, w', run, idle', sameNow', sweeps, behind'⟩ :=
    run_marks (w := { w with
      now := now₀, vencidos := (order.take limit).map SlaTimer.dueRow, sweeps := w.sweeps + 1 })
      ⟨behind.stored, behind.crowd⟩ others
  exact ⟨_, w', .cons (Stepped.sweep idle (le_of_eq sameNow) listing).step run, idle', sameNow', sweeps, behind'⟩

/-- So it may wait for any number of sweeps. -/
theorem run_sweeps (overdue : t ∈ overdueTimers db₀ now₀) (passed : throws t.id = false)
    (crowded : limit ≤ (overdueTimers db₀ now₀).countP fun f => throws f.id && decide (f.dueAt ≤ t.dueAt)) (n : Nat) :
    ∃ history w, Run (step limit throws) (initial db₀ now₀) history w ∧ w.vencidos = [] ∧ w.now = now₀ ∧
      w.sweeps = n ∧ Behind db₀ now₀ throws t w := by
  induction n with
  | zero =>
      exact ⟨[], initial db₀ now₀, .start, rfl, rfl, rfl, (mem_overdueTimers.mp overdue).1,
        fun f due _ => (mem_overdueTimers.mp due).1⟩
  | succ n ih =>
      obtain ⟨history, w, run, idle, sameNow, sweeps, behind⟩ := ih
      obtain ⟨history', w', run', idle', sameNow', sweeps', behind'⟩ :=
        run_sweep behind passed crowded idle sameNow
      exact ⟨_, w', run.append run', idle', sameNow', by rw [sweeps', sweeps], behind'⟩

end Sweeper

/-- As many sweeps as there are overdue timers mark all that can be marked, however the database orders
    timers that are due together, exactly if none of them has a whole batch of timers that cannot be marked
    before it. -/
theorem sweeps_clear_iff {db₀ : Db} (there : TicketsThere db₀) (now₀ : Instant) (limit : Nat)
    (throws : SlaTimerId → Bool) :
    (∀ history w, Run (Sweeper.step limit throws) (.initial db₀ now₀) history w → w.vencidos = [] →
      (overdueTimers db₀ now₀).length ≤ w.sweeps → Cleared db₀ now₀ throws w.db) ↔
      NeverCrowded db₀ now₀ throws limit := by
  constructor
  · intro always t overdue passed
    by_contra crowded
    obtain ⟨history, w, run, idle, _, sweeps, behind⟩ :=
      Sweeper.run_sweeps overdue passed (Nat.le_of_not_lt crowded) (overdueTimers db₀ now₀).length
    obtain ⟨t', stored, sameId, breached⟩ := always history w run idle sweeps.ge t overdue passed
    cases Table.eq_of_key stored behind.stored sameId
    rw [(mem_overdueTimers.mp overdue).2.2.1] at breached
    cases breached
  · intro uncrowded history w run idle enough
    exact Sweeper.cleared_of_run there uncrowded run idle enough

section Example

/-- A HIGH ticket of minute 0 with its timers, `RESPONSE` and `RESOLUTION`. -/
def unansweredDb : Db :=
  (serve (exampleExecution 1 (.startSlaTimers ⟨102, ⟨1⟩, ⟨100⟩, .HIGH, 0⟩))
    (serve (exampleExecution 0 (.createTicket ⟨⟨1⟩, ⟨2⟩, "Hola", "No entra", .HIGH⟩)) .empty).2).2

/-- Marking the `RESPONSE` timer throws. -/
def responseThrows (id : SlaTimerId) : Bool :=
  id = ⟨200⟩

theorem unansweredDb_tickets : TicketsThere unansweredDb := by
  unfold TicketsThere
  decide

/-- Two sweeps of minute 500, when both timers are overdue. -/
def narrowSweeps : List SweeperAction :=
  let order := overdueTimers unansweredDb 30000000
  [.sweep 30000000 order, .mark (exampleAmbient 500), .sweep 30000000 order, .mark (exampleAmbient 501)]

/-- With batches of one, the timer that cannot be marked takes every place there is. -/
theorem narrowSweeps_block :
    TicketsThere unansweredDb ∧ ∃ history w,
      Run (Sweeper.step 1 responseThrows) (.initial unansweredDb 30000000) history w ∧ w.vencidos = [] ∧
        (overdueTimers unansweredDb 30000000).length ≤ w.sweeps ∧
          ¬Cleared unansweredDb 30000000 responseThrows w.db := by
  have possible : (play (Sweeper.step 1 responseThrows) (.initial unansweredDb 30000000) narrowSweeps).map
      (fun w => (w.vencidos, w.sweeps, w.db.timers.rows.map fun t => (t.id, t.breachedAt))) =
      some ([], 2, [(⟨200⟩, none), (⟨201⟩, none)]) := by decide
  obtain ⟨w, played, facts⟩ := Option.map_eq_some_iff.mp possible
  simp only [Prod.mk.injEq] at facts
  obtain ⟨idle, sweeps, timers⟩ := facts
  refine ⟨unansweredDb_tickets, _, w, play_run played, idle, ?_, ?_⟩
  · rw [sweeps]
    decide
  · intro cleared
    have unbreached : ∀ t ∈ w.db.timers.rows, t.breachedAt = none := by
      intro t stored
      have shown := timers ▸ List.mem_map_of_mem (f := fun (t : SlaTimer) => (t.id, t.breachedAt)) stored
      simp only [List.mem_cons, Prod.mk.injEq, List.not_mem_nil, or_false] at shown
      exact shown.elim And.right And.right
    have waits : ∃ t ∈ overdueTimers unansweredDb 30000000, responseThrows t.id = false := by decide
    obtain ⟨t, overdue, passed⟩ := waits
    obtain ⟨t', stored, _, breached⟩ := cleared t overdue passed
    rw [unbreached t' stored] at breached
    cases breached

/-- With batches of two both timers have a place. -/
theorem sweeps_clear_iff_pair :
    NeverCrowded unansweredDb 30000000 responseThrows 2 ∧
      ∀ history w, Run (Sweeper.step 2 responseThrows) (.initial unansweredDb 30000000) history w →
        w.vencidos = [] → (overdueTimers unansweredDb 30000000).length ≤ w.sweeps →
          Cleared unansweredDb 30000000 responseThrows w.db := by
  have uncrowded : NeverCrowded unansweredDb 30000000 responseThrows 2 := by
    unfold NeverCrowded
    decide
  exact ⟨uncrowded, (sweeps_clear_iff unansweredDb_tickets 30000000 2 responseThrows).mpr uncrowded⟩

end Example

end Helpdesk
