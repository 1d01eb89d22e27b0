/-
Module: HelpdeskApi.Queue.TimerRuns
Layer: Queue
Purpose: Sessions that end timers, interleaved call by call: what they have found, what they have saved, and
  what the committed rows of the timers look like after any of them have committed. Where every save finds
  the committed row still running, no timer is ended twice.
Trusted boundary: none
Main exports: SavesTimer, SavesRunning, saved_spec, row_of_run, oneSaver_of_meets
-/
import HelpdeskApi.Queue.TimerTraces
import HelpdeskApi.Store.Marks

namespace Helpdesk

open Relational Txn Transition

/-- The `i`-th session has saved the timer. -/
def SavesTimer (c : Config ticketing) (i : Nat) (id : SlaTimerId) : Prop :=
  ∃ t, .upsertTimer t ∈ c.writesOf i ∧ t.id = id

/-- A session that is about to save a timer finds the committed row of it still running. -/
def SavesRunning (c : Config ticketing) : Move ticketing → Prop
  | .call i _ => ∀ (s : Session ticketing) t next, c.sessions[i]? = some s →
      s.status = .running (.call (.timersSave t) next) →
        ∃ row, c.db.timers.find? t.id = some row ∧ row.isRunning = true
  | _ => True

/-- The timer a session is about to save. -/
def aboutToSave (c : Config ticketing) : Move ticketing → Option SlaTimer
  | .call i _ =>
      match c.sessions[i]? with
      | some { status := .running (.call (.timersSave t) _), .. } => some t
      | _ => none
  | _ => none

theorem savesRunning_iff {c : Config ticketing} {m : Move ticketing} : SavesRunning c m ↔
    (aboutToSave c m).all (fun t => (c.db.timers.find? t.id).any SlaTimer.isRunning) = true := by
  cases m with
  | call i choice =>
      simp only [SavesRunning, aboutToSave]
      split
      · rename_i job trace t next found
        rw [Option.all_some, Option.any_eq_true]
        constructor
        · intro saves
          exact saves _ t next found rfl
        · intro stored s t' next' found' status
          cases found.symm.trans found'
          cases status
          exact stored
      · rename_i noSave
        simp only [Option.all_none, iff_true]
        intro s t next found status
        cases s
        cases status
        exact absurd found (noSave _ _ _ _)
  | arrive job => simp [SavesRunning, aboutToSave]
  | finish i => simp [SavesRunning, aboutToSave]
  | abort i => simp [SavesRunning, aboutToSave]

instance (c : Config ticketing) (m : Move ticketing) : Decidable (SavesRunning c m) :=
  decidable_of_iff' _ savesRunning_iff

section Rows

/-- Only timers that are running before the writes are running after writes that end timers. -/
theorem running_after {writes : List Write} {db : Db}
    (ended : ∀ t, .upsertTimer t ∈ writes → t.isRunning = false) {r : SlaTimer}
    (stored : r ∈ (db.after writes).timers.rows) (running : r.isRunning = true) : r ∈ db.timers.rows := by
  induction writes generalizing db with
  | nil => exact stored
  | cons w writes ih =>
      have before := ih (fun t written => ended t (List.mem_cons_of_mem _ written)) stored
      cases w with
      | upsertTimer t =>
          have finished := ended t List.mem_cons_self
          simp only [Write.apply, Table.mem_upsert_iff] at before
          rcases before with ⟨old, _⟩ | same
          · exact old
          · cases stored' : db.timers.find? (Keyed.key t) with
            | none =>
                rw [stored'] at same
                rw [same] at running
                simp [finished] at running
            | some row =>
                rw [stored'] at same
                have sameEnd : r.isRunning = t.isRunning := by rw [same]; rfl
                simp [sameEnd, finished] at running
      | _ => exact before

/-- A row after writes has the id of a row before them, or of one they save. -/
theorem id_of_row_after {writes : List Write} {db : Db} {r : SlaTimer}
    (stored : r ∈ (db.after writes).timers.rows) :
    (∃ r₀ ∈ db.timers.rows, r₀.id = r.id) ∨ ∃ t, .upsertTimer t ∈ writes ∧ t.id = r.id := by
  induction writes generalizing db with
  | nil => exact .inl ⟨r, stored, rfl⟩
  | cons w writes ih =>
      rcases ih stored with ⟨r₀, before, sameId⟩ | ⟨t, written, sameId⟩
      · by_cases isUpsert : ∃ t, w = .upsertTimer t
        · obtain ⟨t, rfl⟩ := isUpsert
          simp only [Write.apply, Table.mem_upsert_iff, key_timer] at before
          rcases before with ⟨old, _⟩ | rfl
          · exact .inl ⟨r₀, old, sameId⟩
          · refine .inr ⟨t, List.mem_cons_self, ?_⟩
            cases stored' : db.timers.find? t.id with
            | none => simpa [stored'] using sameId
            | some row =>
                have rowId : row.id = t.id := Table.key_of_find? stored'
                rw [stored', Option.elim_some] at sameId
                exact rowId.symm.trans sameId
        · rw [timers_apply fun t same => isUpsert ⟨t, same⟩] at before
          exact .inl ⟨r₀, before, sameId⟩
      · exact .inr ⟨t, List.mem_cons_of_mem _ written, sameId⟩

/-- A row that differs from the timer in its end at most. -/
def SlaTimer.EndOf (timer row : SlaTimer) : Prop :=
  updateTimerRow row timer = row

/-- Saving one end of the timer over another leaves the one that was saved. -/
theorem SlaTimer.EndOf.save {timer row saved : SlaTimer} (old : timer.EndOf row) (new : timer.EndOf saved) :
    updateTimerRow saved row = saved := by
  rw [← show updateTimerRow row timer = row from old]
  exact new

theorem SlaTimer.EndOf.id {timer row : SlaTimer} (endOf : timer.EndOf row) : row.id = timer.id := by
  rw [← show updateTimerRow row timer = row from endOf]
  rfl

theorem Execution.ended_endOf (e : Execution) (timer : SlaTimer) : timer.EndOf (e.ended timer) := by
  unfold Execution.ended
  split <;> rfl

theorem Execution.ended_id (e : Execution) (timer : SlaTimer) : (e.ended timer).id = timer.id :=
  (e.ended_endOf timer).id

theorem Execution.ended_over {e : Execution} {r : SlaTimer} (sought : e.seeks r) :
    (e.ended r).isRunning = false := by
  unfold Execution.seeks at sought
  unfold Execution.ended
  split at sought <;> simp_all [SlaTimer.isRunning]

/-- The row of the timer after writes that save nothing of it but one end. -/
theorem row_after {timer saved : SlaTimer} (new : timer.EndOf saved) {writes : List Write}
    (saves : ∀ t, .upsertTimer t ∈ writes → t.id = timer.id → t = saved) {db : Db} {row : SlaTimer}
    (stored : db.timers.find? timer.id = some row) (old : timer.EndOf row) :
    ((db.after writes).timers.find? timer.id = some row ∧ ∀ t, .upsertTimer t ∈ writes → t.id ≠ timer.id) ∨
      ((db.after writes).timers.find? timer.id = some saved ∧
        ∃ t, .upsertTimer t ∈ writes ∧ t.id = timer.id) := by
  induction writes generalizing db row with
  | nil => exact .inl ⟨stored, fun t written => by cases written⟩
  | cons w writes ih =>
      have later (t : SlaTimer) (written : .upsertTimer t ∈ writes) := saves t (List.mem_cons_of_mem _ written)
      by_cases isSave : ∃ t, w = .upsertTimer t ∧ t.id = timer.id
      · obtain ⟨t, rfl, sameId⟩ := isSave
        have same := saves t List.mem_cons_self sameId
        subst same
        have now : ((Write.upsertTimer t).apply db).timers.find? timer.id = some t := by
          simp only [Write.apply, Table.find?_upsert, key_timer, sameId, if_pos, stored, Option.elim_some,
            old.save new]
        refine .inr ⟨?_, t, List.mem_cons_self, sameId⟩
        rcases ih later now new with ⟨kept, _⟩ | ⟨again, _⟩
        · exact kept
        · exact again
      · have stored' : (w.apply db).timers.find? timer.id = some row := by
          by_cases isUpsert : ∃ t, w = .upsertTimer t
          · obtain ⟨t, rfl⟩ := isUpsert
            have other : timer.id ≠ t.id := fun same => isSave ⟨t, rfl, same.symm⟩
            simpa only [Write.apply, Table.find?_upsert, key_timer, if_neg other] using stored
          · rwa [timers_apply fun t same => isUpsert ⟨t, same⟩]
        rcases ih later stored' old with ⟨kept, none⟩ | ⟨done, t, written, sameId⟩
        · refine .inl ⟨kept, fun t written sameId => ?_⟩
          rcases List.mem_cons.mp written with same | rest
          · exact isSave ⟨t, same.symm, sameId⟩
          · exact none t rest sameId
        · exact .inr ⟨done, t, List.mem_cons_of_mem _ written, sameId⟩

end Rows

section Runs

variable {db₀ : Db} {jobs : List Execution} {history : List (Config ticketing × Move ticketing)}
  {c : Config ticketing}

theorem timers_conform (run : Run Config.step (.start db₀ jobs) history c) :
    c.Conforms (fun (e : Execution) trace => e.endsTimers = true → EndsFound e trace) EndsTimer :=
  Config.conforms_of_run Execution.timer_spec run

/-- A call that saves a timer leaves it among the writes of its session. -/
theorem saves_of_step {c' : Config ticketing} {i choice : Nat} {s : Session ticketing} {t : SlaTimer}
    {next : Unit → Proc sig (Except TicketingError Output)} (taken : c.step (.call i choice) = some c')
    (at_i : c.sessions[i]? = some s) (running : s.status = .running (.call (.timersSave t) next)) :
    ∃ s' : Session ticketing, c'.sessions[i]? = some s' ∧ s'.job = s.job ∧ .upsertTimer t ∈ c'.writesOf i := by
  cases Config.step_stepped taken with
  | @call _ _ s₁ call next' o found before answer =>
      cases at_i.symm.trans found
      cases running.symm.trans before
      obtain ⟨_, answered, _⟩ := repositories.mem_inTransaction.mp (List.mem_of_getElem? answer)
      refine ⟨_, (Config.getElem?_put found _ i).trans (if_pos rfl), rfl, ?_⟩
      change _ ∈ (c.put i _).writesOf i
      rw [Config.writesOf_put found, if_pos rfl, Session.advance_trace, Store.pending_append,
        writes_of_timersSave answered]
      exact List.mem_append_right _ (List.mem_singleton.mpr rfl)

/-- All that goes on is timers being ended. -/
def AllEnd (c : Config ticketing) : Prop :=
  ∀ s ∈ c.sessions, s.job.endsTimers = true

theorem AllEnd.of_later {c' : Config ticketing} (all : AllEnd c')
    (run : Run Config.step c history c') : AllEnd c :=
  Config.forall_job_of_later (A := ticketing) (P := fun e => e.endsTimers = true) run all

theorem ends_of_run (run : Run Config.step (.start db₀ jobs) history c) (all : AllEnd c) {i : Nat}
    {s : Session ticketing} (found : c.sessions[i]? = some s) : EndsFound s.job s.trace :=
  (timers_conform run i s found).trace (all s (List.mem_of_getElem? found))

/-- A timer that a session sees running is running in the table. -/
theorem running_view (run : Run Config.step (.start db₀ jobs) history c) (all : AllEnd c) {i : Nat}
    {s : Session ticketing} (found : c.sessions[i]? = some s) {r : SlaTimer}
    (stored : r ∈ (s.view c.db).timers.rows) (running : r.isRunning = true) : r ∈ c.db.timers.rows := by
  refine running_after (fun t written => ?_) stored running
  obtain ⟨r, _, _, sought, rfl⟩ := ends_of_run run all found t written
  exact Execution.ended_over sought

/-- A timer that is running, in the table or where a session has found it, has been there from the start. -/
theorem original_of_run (run : Run Config.step (.start db₀ jobs) history c) (all : AllEnd c) :
    (∀ r ∈ c.db.timers.rows, r.isRunning = true → r ∈ db₀.timers.rows) ∧
      ∀ (i : Nat) (s : Session ticketing), c.sessions[i]? = some s → ∀ r, (∃ ev ∈ s.trace, foundTimer r ev) →
        r.isRunning = true → r ∈ db₀.timers.rows := by
  induction run with
  | start =>
      refine ⟨fun r stored _ => stored, fun i s found r located => ?_⟩
      obtain ⟨job, _, rfl⟩ := Config.start_session found
      obtain ⟨ev, member, _⟩ := located
      cases member
  | @step history c c' m run taken ih =>
      have all₀ : AllEnd c := all.of_later (.step .start taken)
      obtain ⟨rows, reads⟩ := ih all₀
      cases Config.step_stepped taken with
      | arrive job =>
          refine ⟨rows, fun i s found r located running => ?_⟩
          rcases c.getElem?_arrive job i found with old | ⟨_, rfl⟩
          · exact reads i s old r located running
          · obtain ⟨ev, member, _⟩ := located
            cases member
      | @call j choice t call next o at_j before answer =>
          have produced := List.mem_of_getElem? answer
          have sameDb : repositories.transactional.applyAll o.effects c.db = c.db := by
            rw [repositories.deferred_transactional _ _ _ _ o produced]
            rfl
          refine ⟨by simpa only [sameDb] using rows, ?_⟩
          refine Config.forall_put at_j (fun i s found _ => reads i s found) ?_
          intro r located running
          obtain ⟨ev, member, isFound⟩ := located
          rcases List.mem_append.mp member with old | new
          · exact reads j t at_j r ⟨ev, old, isFound⟩ running
          · rw [List.mem_singleton.mp new] at isFound
            obtain ⟨_, answered, _⟩ := repositories.mem_inTransaction.mp produced
            have seen := mem_of_foundTimer answered isFound
            exact rows r (running_view run all₀ at_j seen running) running
      | @commit j t out at_j before commits =>
          refine ⟨fun r stored running => ?_, ?_⟩
          · exact rows r (running_view run all₀ at_j stored running) running
          · exact Config.forall_put at_j (fun i s found _ => reads i s found) (reads j t at_j)
      | @rollback j t out at_j before commits =>
          exact ⟨rows, Config.forall_put at_j (fun i s found _ => reads i s found) (reads j t at_j)⟩
      | @abort j t rest at_j before =>
          exact ⟨rows, Config.forall_put at_j (fun i s found _ => reads i s found) (reads j t at_j)⟩

/-- What a session saves is a timer that was running at the start, with the end the session gives it. -/
theorem saved_spec (run : Run Config.step (.start db₀ jobs) history c) (all : AllEnd c) {i : Nat}
    {s : Session ticketing} (found : c.sessions[i]? = some s) {t : SlaTimer}
    (saved : .upsertTimer t ∈ repositories.transactional.pending s.trace) :
    ∃ r ∈ db₀.timers.rows, r.isRunning = true ∧ s.job.seeks r ∧ t = s.job.ended r := by
  obtain ⟨r, located, running, sought, same⟩ := ends_of_run run all found t saved
  exact ⟨r, (original_of_run run all).2 i s found r located running, running, sought, same⟩

/-- What a session saves of a timer is the timer of the start, with the end the session gives it. -/
theorem saved_eq (run : Run Config.step (.start db₀ jobs) history c) (all : AllEnd c) {i : Nat}
    {s : Session ticketing} (found : c.sessions[i]? = some s) {t timer : SlaTimer}
    (saved : .upsertTimer t ∈ repositories.transactional.pending s.trace) (stored : timer ∈ db₀.timers.rows)
    (sameId : t.id = timer.id) : timer.isRunning = true ∧ s.job.seeks timer ∧ t = s.job.ended timer := by
  obtain ⟨r, original, running, sought, rfl⟩ := saved_spec run all found saved
  cases Table.eq_of_key original stored ((s.job.ended_id r).symm.trans sameId)
  exact ⟨running, sought, rfl⟩

/-- No timer is new. -/
theorem original_of_row (run : Run Config.step (.start db₀ jobs) history c) (all : AllEnd c) {id : SlaTimerId}
    {row : SlaTimer} (stored : c.db.timers.find? id = some row) : ∃ timer ∈ db₀.timers.rows, timer.id = id := by
  have log := Config.commitLog_of_run repositories.deferred_transactional run
  have sameDb : c.db = db₀.after ((Config.commitsOf history).flatMap c.writesOf) := log.db
  have sameId : row.id = id := Table.key_of_find? stored
  rw [sameDb] at stored
  rcases id_of_row_after (Table.mem_of_find? stored) with ⟨r₀, original, same⟩ | ⟨t, written, same⟩
  · exact ⟨r₀, original, same.trans sameId⟩
  · obtain ⟨i, _, ofSession⟩ := List.mem_flatMap.mp written
    obtain ⟨s, found, saved⟩ := Config.session_of_written ofSession
    obtain ⟨r, original, _, _, rfl⟩ := saved_spec run all found saved
    exact ⟨r, original, (s.job.ended_id r).symm.trans (same.trans sameId)⟩

/-- The row of a timer is as it was, or some committed session has saved its end of it. -/
theorem row_of_run (run : Run Config.step (.start db₀ jobs) history c) (all : AllEnd c) {timer : SlaTimer}
    (stored : timer ∈ db₀.timers.rows) :
    (c.db.timers.find? timer.id = some timer ∧ ∀ i, c.Committed i → ¬SavesTimer c i timer.id) ∨
      ∃ (i : Nat) (s : Session ticketing), c.Committed i ∧ c.sessions[i]? = some s ∧ SavesTimer c i timer.id ∧
        c.db.timers.find? timer.id = some (s.job.ended timer) := by
  have log := Config.commitLog_of_run repositories.deferred_transactional run
  have after (l : List Nat) (committed : ∀ i ∈ l, c.Committed i) {db : Db} {row : SlaTimer}
      (located : db.timers.find? timer.id = some row) (old : timer.EndOf row) :
      ((db.after (l.flatMap c.writesOf)).timers.find? timer.id = some row ∧ ∀ i ∈ l, ¬SavesTimer c i timer.id) ∨
        ∃ i ∈ l, ∃ s : Session ticketing, c.sessions[i]? = some s ∧ SavesTimer c i timer.id ∧
          (db.after (l.flatMap c.writesOf)).timers.find? timer.id = some (s.job.ended timer) := by
    induction l generalizing db row with
    | nil => exact .inl ⟨located, fun i member => by cases member⟩
    | cons i l ih =>
        obtain ⟨s, out, found, status⟩ := committed i List.mem_cons_self
        have rest (j : Nat) (member : j ∈ l) := committed j (List.mem_cons_of_mem _ member)
        have own := Config.writesOf_eq found
        rw [List.flatMap_cons, Db.after_append]
        rcases row_after (s.job.ended_endOf timer)
            (fun t written sameId => (saved_eq run all found (own ▸ written) stored sameId).2.2) located old with
          ⟨kept, none⟩ | ⟨saved, some⟩
        · rcases ih rest kept old with ⟨same, nobody⟩ | ⟨j, member, s', found', saves, ended⟩
          · refine .inl ⟨same, fun j member => ?_⟩
            rcases List.mem_cons.mp member with rfl | member
            · exact fun ⟨t, written, sameId⟩ => none t written sameId
            · exact nobody j member
          · exact .inr ⟨j, List.mem_cons_of_mem _ member, s', found', saves, ended⟩
        · rcases ih rest saved (s.job.ended_endOf timer) with ⟨same, _⟩ | ⟨j, member, s', found', saves, ended⟩
          · exact .inr ⟨i, List.mem_cons_self, s, found, some, same⟩
          · exact .inr ⟨j, List.mem_cons_of_mem _ member, s', found', saves, ended⟩
  have sameDb : c.db = db₀.after ((Config.commitsOf history).flatMap c.writesOf) := log.db
  rw [sameDb]
  rcases after _ (fun i member => (log.mem_iff i).mp member) (Table.find?_key stored) rfl with
    ⟨same, nobody⟩ | ⟨i, member, s, rest⟩
  · exact .inl ⟨same, fun i committed => nobody i ((log.mem_iff i).mpr committed)⟩
  · exact .inr ⟨i, s, (log.mem_iff i).mp member, rest⟩

/-- At most one session saves a timer, of those whose writes count. -/
def OneSaver (c : Config ticketing) : Prop :=
  ∀ (i j : Nat) (s t : Session ticketing) (id : SlaTimerId), c.sessions[i]? = some s → c.sessions[j]? = some t →
    s.Alive → t.Alive → SavesTimer c i id → SavesTimer c j id → i = j

/-- A session that is about to save a timer is the first one that does, if it finds the row running. -/
theorem first_saver {c' : Config ticketing} {j choice : Nat} {t : Session ticketing} {x : SlaTimer}
    {next : Unit → Proc sig (Except TicketingError Output)}
    (run : Run Config.step (.start db₀ jobs) history c) (all : AllEnd c)
    (taken : c.step (.call j choice) = some c') (at_j : c.sessions[j]? = some t)
    (before : t.status = .running (.call (.timersSave x) next))
    (alone : ∃ row, c.db.timers.find? x.id = some row ∧ row.isRunning = true) {i : Nat} {s : Session ticketing}
    (at_i : c.sessions[i]? = some s) (different : i ≠ j) (alive : s.Alive) : ¬SavesTimer c i x.id := by
  intro saves
  obtain ⟨y, written, sameId⟩ := saves
  rw [Config.writesOf_eq at_i] at written
  obtain ⟨r, original, _, sought, rfl⟩ := saved_spec run all at_i written
  have isTimer : r.id = x.id := (s.job.ended_id r).symm.trans sameId
  rcases alive with ⟨rest, running⟩ | ⟨out, status⟩
  · -- the other session is still at work, and holds the lock of the row
    have holds : s.holds (.timer x.id) = true := by
      rw [Session.holds_of_running running, locked_of_run run at_i, List.mem_flatMap]
      exact ⟨_, written, sameId ▸ List.mem_cons_self⟩
    cases Config.step_stepped taken with
    | @call _ _ t' call next' o found before' answer =>
        cases at_j.symm.trans found
        cases before.symm.trans before'
        obtain ⟨free, _⟩ := repositories.mem_inTransaction.mp (List.mem_of_getElem? answer)
        have held := (c.heldByOthers_iff j (.timer x.id)).mpr ⟨i, s, different, at_i, holds⟩
        have unheld := free (.timer x.id) List.mem_cons_self
        exact Bool.false_ne_true (unheld.symm.trans held)
  · -- it has committed its end of the timer, so the committed row is not running
    obtain ⟨row, stored, running⟩ := alone
    rw [← isTimer] at stored
    rcases row_of_run run all original with ⟨_, nobody⟩ | ⟨k, s₂, _, at_k, saves, ended⟩
    · exact nobody i ⟨s, out, at_i, status⟩ ⟨_, Config.writesOf_eq at_i ▸ written, s.job.ended_id r⟩
    · cases stored.symm.trans ended
      obtain ⟨y', written', sameId'⟩ := saves
      obtain ⟨_, sought', _⟩ := saved_eq run all at_k (Config.writesOf_eq at_k ▸ written') original sameId'
      exact Bool.false_ne_true ((Execution.ended_over sought').symm.trans running)

/-- A session that has saved a timer had saved it before the step, or saves it now. -/
theorem saver_of_step {c' : Config ticketing} {m : Move ticketing} (taken : c.step m = some c') {i : Nat}
    {s' : Session ticketing} {id : SlaTimerId} (at_i : c'.sessions[i]? = some s') (saves : SavesTimer c' i id) :
    ∃ s : Session ticketing, c.sessions[i]? = some s ∧ s.Later s' ∧
      (SavesTimer c i id ∨ ∃ choice x next, m = .call i choice ∧
        s.status = .running (.call (.timersSave x) next) ∧ x.id = id) := by
  obtain ⟨t, written, sameId⟩ := saves
  have kept (old : .upsertTimer t ∈ c.writesOf i) :
      ∃ s : Session ticketing, c.sessions[i]? = some s ∧ s.Later s' ∧
        (SavesTimer c i id ∨ ∃ choice x next, m = .call i choice ∧
          s.status = .running (.call (.timersSave x) next) ∧ x.id = id) := by
    obtain ⟨s, found, _⟩ := Config.session_of_written old
    obtain ⟨s'', found', later⟩ := Config.later_of_step taken found
    cases at_i.symm.trans found'
    exact ⟨s, found, later, .inl ⟨t, old, sameId⟩⟩
  cases Config.step_stepped taken with
  | arrive job =>
      rcases c.getElem?_arrive job i at_i with old | ⟨_, rfl⟩
      · exact kept (by rwa [Config.writesOf_eq old, ← Config.writesOf_eq at_i])
      · rw [Config.writesOf_eq at_i] at written
        cases written
  | @call j choice u call next o at_j before answer =>
      change .upsertTimer t ∈ (c.put j _).writesOf i at written
      rw [Config.writesOf_put at_j] at written
      by_cases isSelf : i = j
      · subst isSelf
        rw [if_pos rfl, Session.advance_trace, Store.pending_append, List.mem_append] at written
        rcases written with old | new
        · exact kept (Config.writesOf_eq at_j ▸ old)
        · obtain ⟨_, answered, _⟩ := repositories.mem_inTransaction.mp (List.mem_of_getElem? answer)
          cases timersSave_of_upsert answered new
          obtain ⟨s, found', later⟩ := Config.later_of_step taken at_j
          cases at_i.symm.trans found'
          exact ⟨u, at_j, later, .inr ⟨choice, t, next, rfl, before, sameId⟩⟩
      · rw [if_neg isSelf] at written
        exact kept written
  | @commit j u out at_j before commits =>
      change .upsertTimer t ∈ (c.put j _).writesOf i at written
      rw [Config.writesOf_put_status at_j] at written
      exact kept written
  | @rollback j u out at_j before commits =>
      rw [Config.writesOf_put_status at_j] at written
      exact kept written
  | @abort j u rest at_j before =>
      rw [Config.writesOf_put_status at_j] at written
      exact kept written

/-- Where every save finds the timer running, at most one session saves it. -/
theorem oneSaver_of_meets (run : Run Config.step (.start db₀ jobs) history c) (all : AllEnd c)
    (meets : Meets SavesRunning history) : OneSaver c := by
  induction run with
  | start =>
      intro i j s t id found _ _ _ saves _
      obtain ⟨job, _, rfl⟩ := Config.start_session found
      obtain ⟨x, written, _⟩ := saves
      rw [Config.writesOf_eq found] at written
      cases written
  | @step history c c' m run taken ih =>
      rw [meets_append] at meets
      have all₀ : AllEnd c := all.of_later (.step .start taken)
      have one := ih all₀ meets.1
      intro i j s' t' id at_i at_j alive alive' saves saves'
      obtain ⟨s, found, later, first⟩ := saver_of_step taken at_i saves
      obtain ⟨t, found', later', second⟩ := saver_of_step taken at_j saves'
      by_contra different
      rcases first with old | ⟨choice, x, next, rfl, before, rfl⟩
      · rcases second with old' | ⟨choice, x, next, rfl, before, rfl⟩
        · exact different (one i j s t id found found' (later.alive alive) (later'.alive alive') old old')
        · have alone := meets.2 t x next found' before
          exact first_saver run all₀ taken found' before alone found different (later.alive alive) old
      · rcases second with old' | ⟨choice', x', next', same, _⟩
        · have alone := meets.2 s x next found before
          exact first_saver run all₀ taken found before alone found' (Ne.symm different) (later'.alive alive') old'
        · cases same
          exact different rfl

end Runs

end Helpdesk
