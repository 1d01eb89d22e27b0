/-
Module: HelpdeskApi.Proofs.ConcurrentSweeps
Layer: Proofs
Purpose: Any number of sweeps, interleaved call by call. A sweep looks at a timer and then writes its row
  whatever the row says by then, so two sweeps that both look before either of them commits breach the
  timer twice. As long as every save finds the committed row still running, they do no harm.
Trusted boundary: none
Main exports: becameBreached, Harmless, SweepSavesRunning, sweeps_harmless
-/
import HelpdeskApi.Queue.Sweeps
import HelpdeskApi.Queue.TimerRuns

namespace Helpdesk

open Relational Txn Transition

/-- Whether a row is breached that was not at the start. -/
def newlyBreached (db₀ : Db) (row : SlaTimer) : Bool :=
  row.isBreached && !(db₀.timers.find? row.id).any SlaTimer.isBreached

def becameBreached (db₀ db : Db) (id : SlaTimerId) : Bool :=
  (db.timers.find? id).any (newlyBreached db₀)

/-- The sweeps have done each breach once, from the start of the run to `w`. -/
structure Harmless (db₀ : Db) (history : List (Sweeping × SweepMove)) (w : Sweeping) : Prop where
  announced : ∀ id, w.config.db.announcements id =
    db₀.announcements id + (becameBreached db₀ w.config.db id).toNat
  audited : ∀ id, w.config.db.breachEntries id =
    db₀.breachEntries id + (becameBreached db₀ w.config.db id).toNat
  /-- An instant that was committed stays. -/
  kept : ∀ entry ∈ history, ∀ id row breachedAt, entry.1.config.db.timers.find? id = some row →
    row.breachedAt = some breachedAt →
      ∃ row', w.config.db.timers.find? id = some row' ∧ row'.breachedAt = some breachedAt
  /-- Once all sweeps have returned, they have counted the timers that became breached. -/
  counted : (∀ sweep ∈ w.sweeps, sweep.current = none) →
    (w.sweeps.map Sweep.incumplidos).sum = w.config.db.timers.rows.countP (newlyBreached db₀)

/-- A transaction that is about to save a timer finds the committed row of it still running. -/
def SweepSavesRunning (w : Sweeping) (m : SweepMove) : Prop :=
  ∀ move ∈ w.turn m, SavesRunning w.config move

instance (w : Sweeping) (m : SweepMove) : Decidable (SweepSavesRunning w m) :=
  inferInstanceAs (Decidable (∀ move ∈ w.turn m, SavesRunning w.config move))

section Recorded

variable {db₀ db db' : Db} {timer : SlaTimer} {breachedAt : Instant}

theorem newlyBreached_running (running : timer.isRunning = true) : newlyBreached db₀ timer = false := by
  obtain ⟨_, notBreached⟩ := (SlaTimer.isRunning_iff timer).mp running
  simp [newlyBreached, SlaTimer.isBreached, notBreached]

/-- A timer that was running at the start is newly breached once it is breached. -/
theorem newlyBreached_breached (original : timer ∈ db₀.timers.rows) (running : timer.isRunning = true) :
    newlyBreached db₀ { timer with breachedAt := some breachedAt } = true := by
  obtain ⟨_, notBreached⟩ := (SlaTimer.isRunning_iff timer).mp running
  have found : db₀.timers.find? timer.id = some timer := Table.find?_key original
  simp [newlyBreached, found, SlaTimer.isBreached, notBreached]

/-- The timer has become breached by what was recorded, and no other timer has. -/
theorem becameBreached_recorded (original : timer ∈ db₀.timers.rows)
    (recorded : BreachRecorded db timer breachedAt db') (id : SlaTimerId) :
    (becameBreached db₀ db' id).toNat = (becameBreached db₀ db id).toNat + (decide (timer.id = id)).toNat := by
  unfold becameBreached
  rw [recorded.find?_timers]
  by_cases isTimer : id = timer.id
  · subst isTimer
    rw [if_pos rfl, recorded.stored]
    simp [newlyBreached_running recorded.running, newlyBreached_breached original recorded.running]
  · rw [if_neg isTimer]
    simp [Ne.symm isTimer]

theorem countP_recorded (original : timer ∈ db₀.timers.rows)
    (recorded : BreachRecorded db timer breachedAt db') :
    db'.timers.rows.countP (newlyBreached db₀) = db.timers.rows.countP (newlyBreached db₀) + 1 := by
  have counted : db'.timers.rows.countP (newlyBreached db₀) + (newlyBreached db₀ timer).toNat =
      db.timers.rows.countP (newlyBreached db₀) +
        (newlyBreached db₀ { timer with breachedAt := some breachedAt }).toNat := by
    rw [recorded.timers]
    refine Table.countP_upsert recorded.stored ?_ _
    rfl
  simpa [newlyBreached_running recorded.running, newlyBreached_breached original recorded.running] using counted

end Recorded

section Transactions

variable {db₀ : Db} {jobs : List Execution} {history : List (Config ticketing × Move ticketing)}
  {c : Config ticketing}

/-- All that goes on is timers being marked. -/
def AllMark (c : Config ticketing) : Prop :=
  ∀ s ∈ c.sessions, ∃ input, s.job.useCase = .markSlaBreached input

theorem AllMark.allEnd (marks : AllMark c) : AllEnd c := by
  intro s inside
  obtain ⟨input, isMark⟩ := marks s inside
  simp [Execution.endsTimers, isMark]

/-- What a transaction commits: nothing, which it does not count, or a breach. -/
theorem commit_cases (run : Run Config.step (.start db₀ jobs) history c) (marks : AllMark c)
    (one : OneSaver c) {j : Nat} {t : Session ticketing} {out : Except TicketingError Output}
    (at_j : c.sessions[j]? = some t) (running : t.status = .running (.done out)) :
    (t.view c.db = c.db ∧ incumplido (.committed out) = 0) ∨
      ∃ timer ∈ db₀.timers.rows, BreachRecorded c.db timer t.job.ambient.now (t.view c.db) ∧
        incumplido (.committed out) = 1 := by
  obtain ⟨input, isMark⟩ := marks t (List.mem_of_getElem? at_j)
  have ends : EndsTimer t.job t.trace out := (timers_conform run j t at_j).rest _ running
  simp only [EndsTimer, isMark] at ends
  rcases ends with ⟨nothing, notBreached⟩ | ⟨saved, entry, m, kind, reported, isOut⟩
  · refine .inl ⟨by rw [Session.view, nothing]; rfl, ?_⟩
    unfold incumplido
    split
    · rename_i kind same
      cases same
      exact absurd rfl (notBreached kind)
    · rfl
  · refine .inr ?_
    have written : .upsertTimer saved ∈ repositories.transactional.pending t.trace := by
      rw [reported.writes]
      exact List.mem_cons_self
    obtain ⟨timer, original, wasRunning, sought, isEnd⟩ := saved_spec run marks.allEnd at_j written
    have isTimer : timer.id = input.timerId := by simpa [Execution.seeks, isMark] using sought
    have isEnd : saved = { timer with breachedAt := some t.job.ambient.now } := by
      simpa [Execution.ended, isMark] using isEnd
    have saves : SavesTimer c j timer.id := ⟨saved, Config.writesOf_eq at_j ▸ written, by rw [isEnd]⟩
    -- nobody else has saved the timer
    have stored : c.db.timers.find? timer.id = some timer := by
      rcases row_of_run run marks.allEnd original with ⟨same, _⟩ | ⟨i, s, ⟨s', out', found', status⟩, _, saves', _⟩
      · exact same
      · have self := one i j s' t timer.id found' at_j (.inr ⟨out', status⟩) (.inl ⟨_, running⟩) saves' saves
        subst self
        cases at_j.symm.trans found'
        cases running.symm.trans status
    have once := Config.onceOnly_of_run marking repositories.deferred_transactional careful run
    have unaudited : c.db.auditLogs.find? entry.id = none := by
      have unmarked := once.running j t _ (.auditLog entry.id) at_j running
        ⟨.insertAuditLog entry, by rw [reported.writes]; simp, List.mem_singleton.mpr rfl⟩
      simpa [Db.marked] using unmarked
    have unsent : c.db.outbox.find? m.id = none := by
      have unmarked := once.running j t _ (.outbox m.id) at_j running
        ⟨.insertOutbox [m], by rw [reported.writes]; simp, List.mem_singleton.mpr rfl⟩
      simpa [Db.marked] using unmarked
    have recorded : BreachRecorded c.db timer t.job.ambient.now _ := .of_writes stored wasRunning unaudited unsent
      (isTimer ▸ reported.audited) (isTimer ▸ reported.announced)
    refine ⟨timer, original, ?_, by rw [isOut]; rfl⟩
    rw [Session.view, reported.writes, isEnd]
    exact recorded

/-- What the messages, the entries and the rows say of a timer that was breached. -/
structure Ledger (db₀ db : Db) : Prop where
  announced : ∀ id, db.announcements id = db₀.announcements id + (becameBreached db₀ db id).toNat
  audited : ∀ id, db.breachEntries id = db₀.breachEntries id + (becameBreached db₀ db id).toNat

theorem Ledger.start (db₀ : Db) : Ledger db₀ db₀ := by
  have unchanged (id : SlaTimerId) : becameBreached db₀ db₀ id = false := by
    unfold becameBreached
    cases found : db₀.timers.find? id with
    | none => rfl
    | some row =>
        have sameId : row.id = id := Table.key_of_find? found
        simp [newlyBreached, sameId, found]
  constructor <;> intro id <;> simp [unchanged]

theorem Ledger.recorded {db db' : Db} {timer : SlaTimer} {breachedAt : Instant} (ledger : Ledger db₀ db)
    (original : timer ∈ db₀.timers.rows) (recorded : BreachRecorded db timer breachedAt db') : Ledger db₀ db' where
  announced id := by
    rw [recorded.announcements, ledger.announced, becameBreached_recorded original recorded, Nat.add_assoc]
  audited id := by
    rw [recorded.breachEntries, ledger.audited, becameBreached_recorded original recorded, Nat.add_assoc]

theorem AllMark.of_later {c' : Config ticketing} (marks : AllMark c') (run : Run Config.step c history c') :
    AllMark c :=
  Config.forall_job_of_later (A := ticketing) (P := fun e => ∃ input, e.useCase = .markSlaBreached input) run marks

theorem ledger_of_run (run : Run Config.step (.start db₀ jobs) history c) (marks : AllMark c)
    (meets : Meets SavesRunning history) : Ledger db₀ c.db := by
  induction run with
  | start => exact .start db₀
  | @step history c c' m run taken ih =>
      rw [meets_append] at meets
      have marks₀ : AllMark c := marks.of_later (.step .start taken)
      have ledger := ih marks₀ meets.1
      cases Config.step_stepped taken with
      | arrive job => exact ledger
      | @call j choice t call next o at_j before answer =>
          have sameDb : repositories.transactional.applyAll o.effects c.db = c.db := by
            rw [repositories.deferred_transactional _ _ _ _ o (List.mem_of_getElem? answer)]
            rfl
          simpa only [sameDb] using ledger
      | @commit j t out at_j before commits =>
          have one := oneSaver_of_meets run marks₀.allEnd meets.1
          rcases commit_cases run marks₀ one at_j before with ⟨same, _⟩ | ⟨timer, original, recorded, _⟩
          · exact same.symm ▸ ledger
          · exact ledger.recorded original recorded
      | rollback at_j before commits => exact ledger
      | abort at_j before => exact ledger

/-- A row that is breached stays as it is. -/
theorem kept_of_run {later : List (Config ticketing × Move ticketing)} {c' : Config ticketing}
    (run : Run Config.step (.start db₀ jobs) history c) (rest : Run Config.step c later c')
    (marks : AllMark c') (one : OneSaver c') {id : SlaTimerId} {row : SlaTimer}
    (stored : c.db.timers.find? id = some row) (ended : row.isRunning = false) :
    c'.db.timers.find? id = some row := by
  have all : AllEnd c' := marks.allEnd
  have all₀ : AllEnd c := all.of_later rest
  obtain ⟨timer, original, rfl⟩ := original_of_row run all₀ stored
  rcases row_of_run run all₀ original with ⟨same, _⟩ | ⟨i, s, ⟨s₁, out, found₁, status⟩, found, saves, same⟩
  · -- it has been so from the start
    cases stored.symm.trans same
    rcases row_of_run (run.append rest) all original with ⟨same', _⟩ | ⟨j, t, _, found', ⟨x, written, sameId⟩, _⟩
    · exact same'
    · obtain ⟨running, _⟩ := saved_eq (run.append rest) all found' (Config.writesOf_eq found' ▸ written) original
        sameId
      exact absurd (ended.symm.trans running) Bool.false_ne_true
  · -- some transaction has ended it, and no other one can
    cases found.symm.trans found₁
    obtain ⟨s', found', later⟩ := Config.later_of_run rest found
    cases later.committed status
    obtain ⟨x, written, sameId⟩ := saves
    have saves' : SavesTimer c' i timer.id := ⟨x, Config.mem_writesOf_of_run rest written, sameId⟩
    rcases row_of_run (run.append rest) all original with
      ⟨_, nobody⟩ | ⟨j, t, ⟨t₁, out', found₂, status'⟩, found'', saves'', same'⟩
    · exact absurd saves' (nobody i ⟨s, out, found', status⟩)
    · cases found''.symm.trans found₂
      have self := one i j s t timer.id found' found'' (.inr ⟨out, status⟩) (.inr ⟨out', status'⟩) saves' saves''
      subst self
      cases found'.symm.trans found''
      rw [same', ← same, stored]

end Transactions

section Sweeps

variable {db₀ : Db} {history : List (Sweeping × SweepMove)} {w : Sweeping}

/-- What a sweep has counted, with what it is about to count of the transaction it waits for. -/
def credit (c : Config ticketing) (sweep : Sweep) : Nat :=
  sweep.incumplidos + (sweep.current.bind fun i => c.sessions[i]?).elim 0 fun s => incumplido s.status

/-- When the state of a transaction at work changes, the sweep that waits for it is credited with what the
    transaction has come to. -/
theorem credit_put {c : Config ticketing} {j : Nat} {s s' : Session ticketing} (found : c.sessions[j]? = some s)
    (running : ∃ rest, s.status = .running rest) (db : Db) (sweep : Sweep) :
    credit { c.put j s' with db := db } sweep = credit c sweep + incumplido s'.status * Sweeping.waits j sweep := by
  obtain ⟨rest, status⟩ := running
  have nothing : incumplido s.status = 0 := by rw [status]; rfl
  unfold credit Sweeping.waits
  cases sweep.current with
  | none => simp
  | some i =>
      change _ + ((c.put j s').sessions[i]?).elim 0 _ = _
      rw [Config.getElem?_put found]
      by_cases same : i = j
      · subst same
        simp [found, nothing]
      · simp [same]

theorem sum_credit_put {c : Config ticketing} {j : Nat} {s : Session ticketing} (s' : Session ticketing)
    (found : c.sessions[j]? = some s) (running : ∃ rest, s.status = .running rest) (db : Db)
    {sweeps : List Sweep} (one : (sweeps.map (Sweeping.waits j)).sum = 1) :
    (sweeps.map (credit { c.put j s' with db := db })).sum = (sweeps.map (credit c)).sum + incumplido s'.status := by
  have each : sweeps.map (credit { c.put j s' with db := db }) =
      sweeps.map fun sweep => credit c sweep + incumplido s'.status * Sweeping.waits j sweep :=
    List.map_congr_left fun sweep _ => credit_put found running db sweep
  rw [each, List.sum_map_add, List.sum_map_mul_left, one, Nat.mul_one]

theorem meets_turnsOf (meets : Meets SweepSavesRunning history) :
    Meets SavesRunning (Sweeping.turnsOf history) := by
  intro entry inside
  obtain ⟨before, member, isEntry⟩ := List.mem_filterMap.mp inside
  obtain ⟨move, isMove, rfl⟩ := Option.map_eq_some_iff.mp isEntry
  exact meets before member move isMove

/-- A sweep that goes on has nothing more to be credited with. -/
theorem sum_credit_marked (tracked : Sweeping.Tracked w) {k : Nat} {fila : DueTimerRow} {ambient : Ambient}
    {vencidos : List DueTimerRow} {incumplidos : Nat}
    (found : w.sweeps[k]? = some ⟨fila :: vencidos, none, incumplidos⟩) :
    ((w.sweeps.set k ⟨vencidos, some w.config.sessions.length, incumplidos⟩).map (credit { w.config with
      sessions := w.config.sessions ++ [.start (SlaSystem.marking fila ambient)] })).sum =
    (w.sweeps.map (credit w.config)).sum := by
  -- the sessions the sweeps wait for are the ones that were there
  have same : w.sweeps.map (credit { w.config with
      sessions := w.config.sessions ++ [.start (SlaSystem.marking fila ambient)] }) =
      w.sweeps.map (credit w.config) := by
    apply List.map_congr_left
    intro sweep inside
    unfold credit
    cases isCurrent : sweep.current with
    | none => rfl
    | some i =>
        have bound := tracked.there sweep inside i isCurrent
        simp [List.getElem?_append_left bound]
  have replaced := Sweeping.sum_map_set found ⟨vencidos, some w.config.sessions.length, incumplidos⟩
    (credit { w.config with
      sessions := w.config.sessions ++ [.start (SlaSystem.marking fila ambient)] })
  have before : credit { w.config with
      sessions := w.config.sessions ++ [.start (SlaSystem.marking fila ambient)] }
      ⟨fila :: vencidos, none, incumplidos⟩ = incumplidos := rfl
  have after : credit { w.config with
      sessions := w.config.sessions ++ [.start (SlaSystem.marking fila ambient)] }
      ⟨vencidos, some w.config.sessions.length, incumplidos⟩ = incumplidos := by
    simp [credit, incumplido]
  rw [same, before, after, Nat.add_right_cancel_iff] at replaced
  exact replaced

/-- A sweep that takes a result counts what it was credited with. -/
theorem sum_credit_settled {k i : Nat} {vencidos : List DueTimerRow} {incumplidos : Nat} {s : Session ticketing}
    (found : w.sweeps[k]? = some ⟨vencidos, some i, incumplidos⟩) (session : w.config.sessions[i]? = some s) :
    ((w.sweeps.set k ⟨vencidos, none, incumplidos + incumplido s.status⟩).map (credit w.config)).sum =
      (w.sweeps.map (credit w.config)).sum := by
  have replaced := Sweeping.sum_map_set found ⟨vencidos, none, incumplidos + incumplido s.status⟩ (credit w.config)
  have before : credit w.config ⟨vencidos, some i, incumplidos⟩ = incumplidos + incumplido s.status := by
    simp [credit, session]
  have after : credit w.config ⟨vencidos, none, incumplidos + incumplido s.status⟩ =
      incumplidos + incumplido s.status := rfl
  rw [before, after, Nat.add_right_cancel_iff] at replaced
  exact replaced

/-- A turn of a transaction credits its sweep with the timer it breaches, if it does. -/
theorem credited_turn (run : Run Sweeping.step (.initial db₀) history w) (meets : Meets SweepSavesRunning history)
    {move : Move ticketing} {config : Config ticketing} (noArrival : ∀ job, move ≠ .arrive job)
    (made : w.config.step move = some config)
    (counted : (w.sweeps.map (credit w.config)).sum = w.config.db.timers.rows.countP (newlyBreached db₀)) :
    (w.sweeps.map (credit config)).sum = config.db.timers.rows.countP (newlyBreached db₀) := by
  have tracked := Sweeping.tracked_of_run run
  cases Config.step_stepped made with
  | arrive job => exact absurd rfl (noArrival job)
  | @call j choice t call next o at_j before answer =>
      have sameDb : repositories.transactional.applyAll o.effects w.config.db = w.config.db := by
        rw [repositories.deferred_transactional _ _ _ _ o (List.mem_of_getElem? answer)]
        rfl
      have sum := sum_credit_put (t.advance ⟨call, o⟩ (next o.reply)) at_j ⟨_, before⟩
        (repositories.transactional.applyAll o.effects w.config.db) (tracked.one j t _ at_j before)
      exact sum.trans (sameDb.symm ▸ counted)
  | @commit j t out at_j before commits =>
      have sum := sum_credit_put { t with status := .committed out } at_j ⟨_, before⟩
        (t.view w.config.db) (tracked.one j t _ at_j before)
      apply sum.trans
      have marks : AllMark w.config := Sweeping.marks_of_run run
      have transactions : Run Config.step (.start db₀ []) _ w.config := Sweeping.config_of_run run
      have one := oneSaver_of_meets transactions marks.allEnd (meets_turnsOf meets)
      rcases commit_cases transactions marks one at_j before with ⟨same, zero⟩ | ⟨_, original, recorded, once⟩
      · rw [zero, Nat.add_zero, counted]
        exact congrArg (fun db : Db => db.timers.rows.countP (newlyBreached db₀)) same.symm
      · rw [once, counted]
        exact (countP_recorded original recorded).symm
  | @rollback j t out at_j before commits =>
      have sum := sum_credit_put { t with status := .rolledBack out } at_j ⟨_, before⟩
        w.config.db (tracked.one j t _ at_j before)
      exact sum.trans counted
  | @abort j t rest at_j before =>
      have sum := sum_credit_put { t with status := .aborted } at_j ⟨_, before⟩
        w.config.db (tracked.one j t _ at_j before)
      exact sum.trans counted

/-- Counted and about to be counted: the timers that became breached. -/
theorem credited_of_run (run : Run Sweeping.step (.initial db₀) history w)
    (meets : Meets SweepSavesRunning history) :
    (w.sweeps.map (credit w.config)).sum = w.config.db.timers.rows.countP (newlyBreached db₀) := by
  induction run with
  | start =>
      have none : ∀ row ∈ db₀.timers.rows, newlyBreached db₀ row = false := by
        intro row inside
        have found : db₀.timers.find? row.id = some row := Table.find?_key inside
        simp [newlyBreached, found]
      exact (List.countP_eq_zero.mpr fun row inside => by simp [none row inside]).symm
  | @step history w w' m run taken ih =>
      rw [meets_append] at meets
      have counted := ih meets.1
      cases Sweeping.step_stepped taken with
      | sweep limit now => simpa [credit] using counted
      | mark found => exact (sum_credit_marked (Sweeping.tracked_of_run run) found).trans counted
      | turn noArrival made => exact credited_turn run meets.1 noArrival made counted
      | settle found session _ => exact (sum_credit_settled found session).trans counted

/-- However many sweeps there are and however they interleave: as long as every save of a timer finds the
    committed row of it still running, they are harmless. -/
theorem sweeps_harmless (run : Run Sweeping.step (.initial db₀) history w)
    (meets : Meets SweepSavesRunning history) : Harmless db₀ history w := by
  have marks : AllMark w.config := Sweeping.marks_of_run run
  have transactions : Run Config.step (.start db₀ []) _ w.config := Sweeping.config_of_run run
  have ledger := ledger_of_run transactions marks (meets_turnsOf meets)
  constructor
  · exact ledger.announced
  · exact ledger.audited
  · intro entry member id row breachedAt stored breached
    obtain ⟨earlier, later, next, before, taken, after, rfl⟩ := run.split member
    have first : Run Config.step (.start db₀ []) _ entry.1.config := Sweeping.config_of_run before
    have rest : Run Config.step entry.1.config _ w.config := Sweeping.config_of_run (Run.step .start taken |>.append after)
    have one := oneSaver_of_meets transactions marks.allEnd (meets_turnsOf meets)
    have ended : row.isRunning = false := by
      simp [SlaTimer.isRunning, breached]
    exact ⟨row, kept_of_run first rest marks one stored ended, breached⟩
  · intro returned
    rw [← credited_of_run run meets]
    refine congrArg List.sum (List.map_congr_left fun sweep inside => ?_)
    simp [credit, returned sweep inside]

end Sweeps

section Example

/-- A HIGH ticket of minute 0 with its timers. -/
def sweptDb : Db :=
  (serve (exampleExecution 1 (.startSlaTimers ⟨102, ⟨1⟩, ⟨100⟩, .HIGH, 0⟩))
    (serve (exampleExecution 0 (.createTicket ⟨⟨1⟩, ⟨2⟩, "Hola", "No entra", .HIGH⟩)) .empty).2).2

/-- Two sweeps of minute 70 are given the RESPONSE timer, and both look at it before either marks it. -/
def twoSweeps : List SweepMove :=
  [.sweep 10 4200000, .sweep 10 4200000, .mark 0 (exampleAmbient 70), .mark 1 (exampleAmbient 71),
    .turn (.call 0 0), .turn (.call 0 0), .turn (.call 1 0), .turn (.call 1 0),
    .turn (.call 0 0), .turn (.call 0 0), .turn (.call 0 0), .turn (.finish 0),
    .turn (.call 1 0), .turn (.call 1 0), .turn (.call 1 0), .turn (.finish 1), .settle 0, .settle 1]

/-- The timer has been announced twice. -/
theorem twoSweeps_lost :
    ∃ (history : List (Sweeping × SweepMove)) (w : Sweeping),
      Run Sweeping.step (.initial sweptDb) history w ∧ ¬Harmless sweptDb history w := by
  have possible : (play Sweeping.step (.initial sweptDb) twoSweeps).map
      (fun w => (w.config.db.announcements ⟨200⟩, w.sweeps.map Sweep.incumplidos)) = some (2, [1, 1]) := by decide
  have before : sweptDb.announcements ⟨200⟩ = 0 := by decide
  obtain ⟨w, played, facts⟩ := Option.map_eq_some_iff.mp possible
  obtain ⟨twice, _⟩ := Prod.mk.inj facts
  refine ⟨_, w, play_run played, fun harmless => ?_⟩
  have announced := harmless.announced ⟨200⟩
  have atMost := Bool.toNat_le (becameBreached sweptDb w.config.db ⟨200⟩)
  omega

/-- Two sweeps that overlap announce one breach twice. -/
theorem overlappingSweeps_harm :
    ¬∀ (db₀ : Db) (history : List (Sweeping × SweepMove)) (w : Sweeping),
      Run Sweeping.step (.initial db₀) history w → Harmless db₀ history w := by
  intro always
  obtain ⟨history, w, run, lost⟩ := twoSweeps_lost
  exact lost (always sweptDb history w run)

/-- The second sweep is given the timer too, but looks at it only after the first one has marked it. -/
def sweepsInTurn : List SweepMove :=
  [.sweep 10 4200000, .sweep 10 4200000, .mark 0 (exampleAmbient 70), .turn (.call 0 0), .turn (.call 0 0),
    .turn (.call 0 0), .turn (.call 0 0), .turn (.call 0 0), .turn (.finish 0), .settle 0,
    .mark 1 (exampleAmbient 71), .turn (.call 1 0), .turn (.finish 1), .settle 1]

theorem sweeps_harmless_inTurn :
    ∃ w, play Sweeping.step (.initial sweptDb) sweepsInTurn = some w ∧
      w.sweeps.map Sweep.incumplidos = [1, 0] ∧
        Harmless sweptDb (playHistory Sweeping.step (.initial sweptDb) sweepsInTurn) w := by
  have possible : (play Sweeping.step (.initial sweptDb) sweepsInTurn).map
      (fun w => w.sweeps.map Sweep.incumplidos) = some [1, 0] := by decide
  have meets : Meets SweepSavesRunning (playHistory Sweeping.step (.initial sweptDb) sweepsInTurn) := by
    unfold Meets
    decide
  obtain ⟨w, played, counts⟩ := Option.map_eq_some_iff.mp possible
  exact ⟨w, played, counts, sweeps_harmless (play_run played) meets⟩

end Example

end Helpdesk
