/-
Module: HelpdeskApi.Proofs.StopAndBreach
Layer: Proofs
Purpose: One stop and one sweep of the same running timer, interleaved call by call. Both look at the timer
  and then write both of its end columns, so they exclude each other exactly in the runs in which every save
  of the timer finds the committed row still running.
Trusted boundary: none
Main exports: Contested, EndsAgree, EndKept, stopAndBreach_exclusive_iff
-/
import HelpdeskApi.Queue.TimerRuns
import HelpdeskApi.Application.SerialRuns

namespace Helpdesk

open Relational Txn Transition

/-- A timer that is running, one stop for it and one sweep of it. -/
structure Contested (db₀ : Db) (timer : SlaTimer) (stop mark : Execution) (input : StopSlaTimerInput) : Prop where
  stored : timer ∈ db₀.timers.rows
  running : timer.isRunning = true
  /-- The unique index on ticket and kind. -/
  only : ∀ r ∈ db₀.timers.rows, r.ticketId = timer.ticketId → r.kind = timer.kind → r = timer
  unannounced : ∀ m ∈ db₀.outbox.rows, m.breachedTimer ≠ some timer.id
  stops : stop.useCase = .stopSlaTimer input
  ticketId : input.ticketId = timer.ticketId
  kind : input.kind = timer.kind
  marks : mark.useCase = .markSlaBreached { tenantId := timer.tenantId, timerId := timer.id }

/-- The message about the breach, the answer of the stop and the row of the timer agree on how it ended. -/
structure EndsAgree (timer : SlaTimer) (input : StopSlaTimerInput) (out : Except TicketingError Output)
    (db : Db) : Prop where
  announced : (∃ m ∈ db.outbox.rows, m.breachedTimer = some timer.id) ↔
    ∃ row, db.timers.find? timer.id = some row ∧ row.isBreached = true
  returned : (∃ margen, out = .ok (.stopSla (.stopped margen))) ↔
    ∃ row, db.timers.find? timer.id = some row ∧ row.stoppedAt = some input.occurredAt

/-- Whatever end of the timer some state of a run shows, the last state still shows it. -/
def EndKept (timer : SlaTimer) (history : List (Config ticketing × Move ticketing))
    (c : Config ticketing) : Prop :=
  ∀ entry ∈ history, ∀ row, entry.1.db.timers.find? timer.id = some row → row.isRunning = false →
    c.db.timers.find? timer.id = some row

section Runs

variable {db₀ : Db} {timer : SlaTimer} {stop mark : Execution} {input : StopSlaTimerInput}
  {history : List (Config ticketing × Move ticketing)} {c : Config ticketing}

namespace Contested

theorem job_cases (run : Run Config.step (.start db₀ [stop, mark]) history c) (closed : c.sessions.length = 2)
    {i : Nat} {s : Session ticketing} (found : c.sessions[i]? = some s) :
    (i = 0 ∧ s.job = stop) ∨ (i = 1 ∧ s.job = mark) := by
  have job := Config.job_of_run run closed found
  match i with
  | 0 => exact .inl ⟨rfl, (Option.some.inj job).symm⟩
  | 1 => exact .inr ⟨rfl, (Option.some.inj job).symm⟩
  | i + 2 => cases job

variable (contested : Contested db₀ timer stop mark input)
include contested

theorem allEnd (run : Run Config.step (.start db₀ [stop, mark]) history c) (closed : c.sessions.length = 2) :
    AllEnd c := by
  intro s inside
  obtain ⟨i, found⟩ := List.mem_iff_getElem?.mp inside
  rcases job_cases run closed found with ⟨_, isStop⟩ | ⟨_, isMark⟩
  · simp [isStop, Execution.endsTimers, contested.stops]
  · simp [isMark, Execution.endsTimers, contested.marks]

/-- What a session saves is the timer. -/
theorem saved_id (run : Run Config.step (.start db₀ [stop, mark]) history c) (closed : c.sessions.length = 2)
    {i : Nat} {s : Session ticketing} (found : c.sessions[i]? = some s) {t : SlaTimer}
    (saved : .upsertTimer t ∈ repositories.transactional.pending s.trace) : t.id = timer.id := by
  obtain ⟨r, original, _, sought, rfl⟩ := saved_spec run (contested.allEnd run closed) found saved
  rw [s.job.ended_id]
  rcases job_cases run closed found with ⟨_, isStop⟩ | ⟨_, isMark⟩
  · simp only [Execution.seeks, isStop, contested.stops, contested.ticketId, contested.kind] at sought
    rw [contested.only r original sought.1 sought.2]
  · simpa only [Execution.seeks, isMark, contested.marks] using sought

/-- A session that saves anything saves the timer. -/
theorem savesTimer_iff (run : Run Config.step (.start db₀ [stop, mark]) history c)
    (closed : c.sessions.length = 2) (i : Nat) :
    SavesTimer c i timer.id ↔ ∃ t, .upsertTimer t ∈ c.writesOf i := by
  constructor
  · intro saves
    obtain ⟨t, written, _⟩ := saves
    exact ⟨t, written⟩
  · intro saves
    obtain ⟨t, written⟩ := saves
    obtain ⟨s, found, pending⟩ := Config.session_of_written written
    exact ⟨t, written, contested.saved_id run closed found pending⟩

omit contested in
/-- Of two sessions one of each kind, both have saved if two different ones have. -/
theorem both_of_ne (run : Run Config.step (.start db₀ [stop, mark]) history c)
    (closed : c.sessions.length = 2) {i k : Nat} {s t : Session ticketing} (at_i : c.sessions[i]? = some s)
    (at_k : c.sessions[k]? = some t) (different : i ≠ k) (first : SavesTimer c i timer.id)
    (second : SavesTimer c k timer.id) : SavesTimer c 0 timer.id ∧ SavesTimer c 1 timer.id := by
  rcases job_cases run closed at_i with ⟨rfl, _⟩ | ⟨rfl, _⟩
  · rcases job_cases run closed at_k with ⟨rfl, _⟩ | ⟨rfl, _⟩
    · exact absurd rfl different
    · exact ⟨first, second⟩
  · rcases job_cases run closed at_k with ⟨rfl, _⟩ | ⟨rfl, _⟩
    · exact ⟨second, first⟩
    · exact absurd rfl different

/-- Where not both sessions save the timer, the one that does finds it running. -/
theorem meets_of_notBoth (run : Run Config.step (.start db₀ [stop, mark]) history c)
    (closed : c.sessions.length = 2) (notBoth : ¬(SavesTimer c 0 timer.id ∧ SavesTimer c 1 timer.id)) :
    Meets SavesRunning history := by
  intro entry member
  obtain ⟨earlier, later, c', before, taken, after, _⟩ := run.split member
  obtain ⟨c₁, m⟩ := entry
  cases m with
  | call i choice =>
      intro s t next at_i running
      have closed' : c'.sessions.length = 2 := Config.closed_of_later (before.step taken) after closed
      have closed₁ : c₁.sessions.length = 2 := Config.closed_of_later before (.step .start taken) closed'
      obtain ⟨s', at_i', sameJob, written⟩ := saves_of_step taken at_i running
      have sameId := contested.saved_id (before.step taken) closed' at_i' (Config.writesOf_eq at_i' ▸ written)
      rw [sameId]
      rcases row_of_run before (contested.allEnd before closed₁) contested.stored with
        ⟨stored, _⟩ | ⟨k, s₂, committed, at_k, saves, _⟩
      · exact ⟨timer, stored, contested.running⟩
      · refine absurd ?_ notBoth
        have different : i ≠ k := by
          rintro rfl
          obtain ⟨s₃, out, found, status⟩ := committed
          cases at_i.symm.trans found
          cases running.symm.trans status
        obtain ⟨s₃, found₃, _⟩ := Config.later_of_run after at_i'
        obtain ⟨s₄, found₄, _⟩ := Config.later_of_run ((Run.start.step taken).append after) at_k
        obtain ⟨t', written', sameId'⟩ := saves
        exact both_of_ne run closed found₃ found₄ different ⟨t, Config.mem_writesOf_of_run after written, sameId⟩
          ⟨t', Config.mem_writesOf_of_run ((Run.start.step taken).append after) written', sameId'⟩
  | _ => trivial

/-- Where every save finds the timer running, and no session has failed, not both sessions save it. -/
theorem notBoth_of_meets (run : Run Config.step (.start db₀ [stop, mark]) history c)
    (closed : c.sessions.length = 2)
    (alive : ∀ (i : Nat) (s : Session ticketing), c.sessions[i]? = some s → s.Alive)
    (meets : Meets SavesRunning history) : ¬(SavesTimer c 0 timer.id ∧ SavesTimer c 1 timer.id) := by
  rintro ⟨⟨t₀, written₀, sameId₀⟩, t₁, written₁, sameId₁⟩
  obtain ⟨s₀, at₀, _⟩ := Config.session_of_written written₀
  obtain ⟨s₁, at₁, _⟩ := Config.session_of_written written₁
  have same := oneSaver_of_meets run (contested.allEnd run closed) meets 0 1 s₀ s₁ timer.id at₀ at₁
    (alive 0 s₀ at₀) (alive 1 s₁ at₁) ⟨t₀, written₀, sameId₀⟩ ⟨t₁, written₁, sameId₁⟩
  cases same

/-- The stop sends nothing, so every new message is one of the sweep. -/
theorem sent_by_sweep (run : Run Config.step (.start db₀ [stop, mark]) history c) {s₀ : Session ticketing}
    (closed : c.sessions.length = 2) (at₀ : c.sessions[0]? = some s₀) {out₀ : Except TicketingError Output}
    (status₀ : s₀.status = .committed out₀) {m : OutboxRow} (member : m ∈ c.db.outbox.rows) :
    m ∈ db₀.outbox.rows ∨ ∃ rows, .insertOutbox rows ∈ c.writesOf 1 ∧ m ∈ rows := by
  have log := Config.commitLog_of_run repositories.deferred_transactional run
  have isStop : s₀.job = stop := by
    rcases job_cases run closed at₀ with ⟨_, same⟩ | ⟨other, _⟩
    · exact same
    · cases other
  have silent : ∀ rows, .insertOutbox rows ∉ c.writesOf 0 := by
    have ends := ((timers_conform run 0 s₀ at₀).committed out₀ status₀).1
    simp only [EndsTimer, isStop, contested.stops] at ends
    rw [Config.writesOf_eq at₀]
    exact ends.2
  have sameDb : c.db = db₀.after ((Config.commitsOf history).flatMap c.writesOf) := log.db
  rw [sameDb] at member
  rcases mem_outbox_after member with old | ⟨rows, written, inRows⟩
  · exact .inl old
  · obtain ⟨i, _, ofSession⟩ := List.mem_flatMap.mp written
    obtain ⟨s, found, _⟩ := Config.session_of_written ofSession
    rcases job_cases run closed found with ⟨rfl, _⟩ | ⟨rfl, _⟩
    · exact absurd ofSession (silent rows)
    · exact .inr ⟨rows, ofSession, inRows⟩

/-- After both have committed, the breach has been announced exactly if the sweep has saved the timer. -/
theorem announced_iff (run : Run Config.step (.start db₀ [stop, mark]) history c) {s₀ s₁ : Session ticketing}
    (closed : c.sessions.length = 2) (at₀ : c.sessions[0]? = some s₀) (at₁ : c.sessions[1]? = some s₁)
    {out₀ out₁ : Except TicketingError Output} (status₀ : s₀.status = .committed out₀)
    (status₁ : s₁.status = .committed out₁) :
    (∃ m ∈ c.db.outbox.rows, m.breachedTimer = some timer.id) ↔ SavesTimer c 1 timer.id := by
  have isMark : s₁.job = mark := by
    rcases job_cases run closed at₁ with ⟨other, _⟩ | ⟨_, same⟩
    · cases other
    · exact same
  have ends := ((timers_conform run 1 s₁ at₁).committed out₁ status₁).1
  simp only [EndsTimer, isMark, contested.marks] at ends
  have messages (m : OutboxRow) (member : m ∈ c.db.outbox.rows) :=
    contested.sent_by_sweep run closed at₀ status₀ member
  have own : repositories.transactional.pending s₁.trace = c.writesOf 1 := (Config.writesOf_eq at₁).symm
  unfold MarkEnds at ends
  rw [own] at ends
  rcases ends with ⟨nothing, _⟩ | ⟨t, entry, m, kind, ⟨wrote, _, _, announces⟩, _⟩
  · apply iff_of_false
    · rintro ⟨m, member, announces⟩
      rcases messages m member with old | ⟨rows, written, _⟩
      · exact contested.unannounced m old announces
      · rw [nothing] at written
        cases written
    · rw [contested.savesTimer_iff run closed]
      rintro ⟨t, written⟩
      rw [nothing] at written
      cases written
  · refine iff_of_true ?_ ((contested.savesTimer_iff run closed 1).mpr ⟨t, by rw [wrote]; exact List.mem_cons_self⟩)
    have appended : .insertOutbox [m] ∈ c.writesOf 1 := by simp [wrote]
    -- the message is new, so the row with its id is the one the sweep has appended
    have marked : c.MarkedBy Write.marks 1 (.outbox m.id) :=
      ⟨⟨s₁, out₁, at₁, status₁⟩, _, appended, List.mem_singleton.mpr rfl⟩
    have log := Config.commitLog_of_run repositories.deferred_transactional run
    have once := Config.onceOnly_of_run marking repositories.deferred_transactional careful run
    have there := (log.taken_iff marking (.outbox m.id)).mpr (.inr ⟨1, marked⟩)
    obtain ⟨row, stored⟩ := Option.isSome_iff_exists.mp there
    have member := Table.mem_of_find? stored
    have sameId : row.id = m.id := Table.key_of_find? stored
    rcases messages row member with old | ⟨rows, written, inRows⟩
    · refine absurd ?_ (once.fresh 1 (.outbox m.id) marked)
      have before : db₀.outbox.find? m.id = some row := sameId ▸ Table.find?_key old
      simp [Db.marked, before]
    · rw [wrote] at written
      simp only [List.mem_cons, Write.insertOutbox.injEq, List.not_mem_nil, or_false, reduceCtorEq,
        false_or] at written
      rw [written, List.mem_singleton] at inRows
      exact ⟨row, member, by rw [inRows, announces]⟩

/-- The stop says that it has stopped the timer exactly if it has saved it. -/
theorem returned_iff (run : Run Config.step (.start db₀ [stop, mark]) history c) {s₀ : Session ticketing}
    (closed : c.sessions.length = 2) (at₀ : c.sessions[0]? = some s₀)
    {out₀ : Except TicketingError Output} (status₀ : s₀.status = .committed out₀) :
    (∃ margen, out₀ = .ok (.stopSla (.stopped margen))) ↔ SavesTimer c 0 timer.id := by
  have isStop : s₀.job = stop := by
    rcases job_cases run closed at₀ with ⟨_, same⟩ | ⟨other, _⟩
    · exact same
    · cases other
  have ends := ((timers_conform run 0 s₀ at₀).committed out₀ status₀).1
  simp only [EndsTimer, isStop, contested.stops] at ends
  have own : repositories.transactional.pending s₀.trace = c.writesOf 0 := (Config.writesOf_eq at₀).symm
  unfold StopEnds at ends
  rw [own] at ends
  exact ends.1.trans (contested.savesTimer_iff run closed 0).symm

/-- What the row of the timer says in the end: nothing, or what the session says that saved it last. -/
theorem row_cases (run : Run Config.step (.start db₀ [stop, mark]) history c)
    (closed : c.sessions.length = 2) :
    (c.db.timers.find? timer.id = some timer ∧ ∀ i, c.Committed i → ¬SavesTimer c i timer.id) ∨
      (c.Committed 0 ∧ SavesTimer c 0 timer.id ∧
        c.db.timers.find? timer.id = some { timer with stoppedAt := some input.occurredAt }) ∨
      (c.Committed 1 ∧ SavesTimer c 1 timer.id ∧
        c.db.timers.find? timer.id = some { timer with breachedAt := some mark.ambient.now }) := by
  rcases row_of_run run (contested.allEnd run closed) contested.stored with nobody | ⟨i, s, committed, found, saves, stored⟩
  · exact .inl nobody
  · rcases job_cases run closed found with ⟨rfl, isStop⟩ | ⟨rfl, isMark⟩
    · refine .inr (.inl ⟨committed, saves, ?_⟩)
      simpa only [isStop, Execution.ended, contested.stops] using stored
    · refine .inr (.inr ⟨committed, saves, ?_⟩)
      simpa only [isMark, Execution.ended, contested.marks] using stored

/-- Where not both sessions save the timer, everything agrees on which one did. -/
theorem agree_of_notBoth (run : Run Config.step (.start db₀ [stop, mark]) history c)
    {s₀ s₁ : Session ticketing} (closed : c.sessions.length = 2) (at₀ : c.sessions[0]? = some s₀)
    (at₁ : c.sessions[1]? = some s₁) {out₀ out₁ : Except TicketingError Output}
    (status₀ : s₀.status = .committed out₀) (status₁ : s₁.status = .committed out₁)
    (notBoth : ¬(SavesTimer c 0 timer.id ∧ SavesTimer c 1 timer.id)) : EndsAgree timer input out₀ c.db := by
  have announced := contested.announced_iff run closed at₀ at₁ status₀ status₁
  have returned := contested.returned_iff run closed at₀ status₀
  obtain ⟨notStopped, notBreached⟩ := (SlaTimer.isRunning_iff timer).mp contested.running
  rcases contested.row_cases run closed with ⟨stored, nobody⟩ | ⟨_, zero, stored⟩ | ⟨_, one, stored⟩
  · constructor
    · simp only [announced, stored, Option.some.injEq, exists_eq_left']
      exact iff_of_false (nobody 1 ⟨s₁, out₁, at₁, status₁⟩) (by simp [SlaTimer.isBreached, notBreached])
    · simp only [returned, stored, Option.some.injEq, exists_eq_left']
      exact iff_of_false (nobody 0 ⟨s₀, out₀, at₀, status₀⟩) (by simp [notStopped])
  · constructor
    · simp only [announced, stored, Option.some.injEq, exists_eq_left']
      exact iff_of_false (fun one => notBoth ⟨zero, one⟩) (by simp [SlaTimer.isBreached, notBreached])
    · simp only [returned, stored, Option.some.injEq, exists_eq_left']
      exact iff_of_true zero trivial
  · constructor
    · simp only [announced, stored, Option.some.injEq, exists_eq_left']
      exact iff_of_true one (by simp [SlaTimer.isBreached])
    · simp only [returned, stored, Option.some.injEq, exists_eq_left']
      exact iff_of_false (fun zero => notBoth ⟨zero, one⟩) (by simp [notStopped])

/-- Where not both sessions save the timer, the end it has once it keeps. -/
theorem kept_of_notBoth (run : Run Config.step (.start db₀ [stop, mark]) history c)
    (closed : c.sessions.length = 2) (committed₀ : c.Committed 0) (committed₁ : c.Committed 1)
    (notBoth : ¬(SavesTimer c 0 timer.id ∧ SavesTimer c 1 timer.id)) : EndKept timer history c := by
  intro entry member row stored finished
  obtain ⟨earlier, later, c', before, taken, after, _⟩ := run.split member
  have rest := (Run.start.step taken).append after
  have still {i : Nat} (saves : SavesTimer entry.1 i timer.id) : SavesTimer c i timer.id := by
    obtain ⟨t, written, sameId⟩ := saves
    exact ⟨t, Config.mem_writesOf_of_run rest written, sameId⟩
  rcases contested.row_cases before (Config.closed_of_later before rest closed) with
    ⟨initial, _⟩ | ⟨_, zero, ended⟩ | ⟨_, one, ended⟩
  · cases stored.symm.trans initial
    simp [contested.running] at finished
  · rcases contested.row_cases run closed with ⟨_, nobody⟩ | ⟨_, _, last⟩ | ⟨_, one, _⟩
    · exact absurd (still zero) (nobody 0 committed₀)
    · rw [last, ← ended, stored]
    · exact absurd ⟨still zero, one⟩ notBoth
  · rcases contested.row_cases run closed with ⟨_, nobody⟩ | ⟨_, zero, _⟩ | ⟨_, _, last⟩
    · exact absurd (still one) (nobody 1 committed₁)
    · exact absurd ⟨zero, still one⟩ notBoth
    · rw [last, ← ended, stored]

end Contested

/-- After one stop and one sweep of a running timer have both committed, the message, the answer and the row
    agree and the end that was committed first is still there, if and only if every save in the run found
    the committed row running. -/
theorem stopAndBreach_exclusive_iff (contested : Contested db₀ timer stop mark input)
    (run : Run Config.step (.start db₀ [stop, mark]) history c) (closed : c.sessions.length = 2)
    {s₀ s₁ : Session ticketing} (at₀ : c.sessions[0]? = some s₀) (at₁ : c.sessions[1]? = some s₁)
    {out₀ out₁ : Except TicketingError Output} (status₀ : s₀.status = .committed out₀)
    (status₁ : s₁.status = .committed out₁) :
    (EndsAgree timer input out₀ c.db ∧ EndKept timer history c) ↔ Meets SavesRunning history := by
  have announced := contested.announced_iff run closed at₀ at₁ status₀ status₁
  have returned := contested.returned_iff run closed at₀ status₀
  obtain ⟨notStopped, notBreached⟩ := (SlaTimer.isRunning_iff timer).mp contested.running
  have alive (i : Nat) (s : Session ticketing) (found : c.sessions[i]? = some s) : s.Alive := by
    rcases Contested.job_cases run closed found with ⟨rfl, _⟩ | ⟨rfl, _⟩
    · cases at₀.symm.trans found
      exact .inr ⟨_, status₀⟩
    · cases at₁.symm.trans found
      exact .inr ⟨_, status₁⟩
  constructor
  · rintro ⟨agree, _⟩
    apply contested.meets_of_notBoth run closed
    rintro ⟨zero, one⟩
    obtain ⟨row, stored, breached⟩ := agree.announced.mp (announced.mpr one)
    obtain ⟨row', stored', stopped⟩ := agree.returned.mp (returned.mpr zero)
    cases stored.symm.trans stored'
    rcases contested.row_cases run closed with ⟨_, nobody⟩ | ⟨_, _, ended⟩ | ⟨_, _, ended⟩
    · exact nobody 0 ⟨s₀, out₀, at₀, status₀⟩ zero
    · cases stored.symm.trans ended
      simp [SlaTimer.isBreached, notBreached] at breached
    · cases stored.symm.trans ended
      simp [notStopped] at stopped
  · intro meets
    have notBoth := contested.notBoth_of_meets run closed alive meets
    exact ⟨contested.agree_of_notBoth run closed at₀ at₁ status₀ status₁ notBoth,
      contested.kept_of_notBoth run closed ⟨s₀, out₀, at₀, status₀⟩ ⟨s₁, out₁, at₁, status₁⟩ notBoth⟩

end Runs

section Example

/-- A HIGH ticket of minute 0 with its timers. -/
def contestedDb : Db :=
  (serve (exampleExecution 1 (.startSlaTimers ⟨102, ⟨1⟩, ⟨100⟩, .HIGH, 0⟩))
    (serve (exampleExecution 0 (.createTicket ⟨⟨1⟩, ⟨2⟩, "Hola", "No entra", .HIGH⟩)) .empty).2).2

/-- Its RESPONSE timer, due at minute 60. -/
def contestedTimer : SlaTimer where
  id := ⟨200⟩
  tenantId := ⟨1⟩
  ticketId := ⟨100⟩
  kind := .RESPONSE
  startedAt := 0
  dueAt := 3600000
  stoppedAt := none
  breachedAt := none

/-- An answer of minute 10, processed at minute 70. -/
def lateStop : StopSlaTimerInput :=
  ⟨5000, ⟨1⟩, ⟨100⟩, .RESPONSE, 600000⟩

def stopJob : Execution :=
  exampleExecution 70 (.stopSlaTimer lateStop)

/-- The sweep of minute 71. -/
def markJob : Execution :=
  exampleExecution 71 (.markSlaBreached ⟨⟨1⟩, ⟨200⟩⟩)

theorem contested_example : Contested contestedDb contestedTimer stopJob markJob lateStop where
  stored := by decide
  running := rfl
  only := by decide
  unannounced := by decide
  stops := rfl
  ticketId := rfl
  kind := rfl
  marks := rfl

/-- Both look at the timer before either of them saves it. -/
def overlap : List (Move ticketing) :=
  [.call 0 0, .call 0 0, .call 1 0, .call 1 0, .call 0 0, .finish 0, .call 1 0, .call 1 0, .call 1 0, .finish 1]

/-- The stop has claimed its message when the sweep goes in between, and looks at the timer after that. -/
def sweepBetween : List (Move ticketing) :=
  [.call 0 0, .call 1 0, .call 1 0, .call 1 0, .call 1 0, .call 1 0, .finish 1, .call 0 0, .finish 0]

/-- The margin a stop has answered with. -/
def marginOf : Except TicketingError Output → Option Int
  | .ok (.stopSla (.stopped margen)) => some margen
  | _ => none

/-- The stop has answered that it stopped the timer, but the row has lost its end. -/
theorem overlap_lost :
    ∃ (history : List (Config ticketing × Move ticketing)) (c : Config ticketing) (s₀ s₁ : Session ticketing)
      (out₀ out₁ : Except TicketingError Output),
      Run Config.step (.start contestedDb [stopJob, markJob]) history c ∧ c.sessions.length = 2 ∧
        c.sessions[0]? = some s₀ ∧ c.sessions[1]? = some s₁ ∧ s₀.status = .committed out₀ ∧
        s₁.status = .committed out₁ ∧ ¬EndsAgree contestedTimer lateStop out₀ c.db := by
  have possible : (play Config.step (.start (A := ticketing) contestedDb [stopJob, markJob]) overlap).map
      (fun c => (c.sessions.length, (c.sessions[0]?.bind committedOutput).bind marginOf,
        (c.sessions[1]?.bind committedOutput).isSome, c.db.timers.find? ⟨200⟩)) =
      some (2, some 50, true, some { contestedTimer with breachedAt := some 4260000 }) := by decide
  obtain ⟨c, played, facts⟩ := Option.map_eq_some_iff.mp possible
  simp only [Prod.mk.injEq, Option.bind_eq_some_iff, Option.isSome_iff_exists] at facts
  obtain ⟨closed, ⟨out₀, ⟨s₀, at₀, ended₀⟩, margin⟩, ⟨out₁, s₁, at₁, ended₁⟩, row⟩ := facts
  refine ⟨_, c, s₀, s₁, out₀, out₁, play_run played, closed, at₀, at₁, committedOutput_eq_some_iff.mp ended₀,
    committedOutput_eq_some_iff.mp ended₁, fun agree => ?_⟩
  have stopped : ∃ margen, out₀ = .ok (.stopSla (.stopped margen)) := by
    unfold marginOf at margin
    split at margin
    · exact ⟨_, rfl⟩
    · cases margin
  obtain ⟨row', stored, end_⟩ := agree.returned.mp stopped
  cases stored.symm.trans row
  cases end_

/-- The end the stop committed first is gone after the sweep has committed. -/
theorem overlappingEnds_disagree :
    Contested contestedDb contestedTimer stopJob markJob lateStop ∧
      contestedTimer.isOverdue markJob.ambient.now = true ∧
      ∃ (history : List (Config ticketing × Move ticketing)) (c : Config ticketing)
        (s₀ s₁ : Session ticketing) (out₀ out₁ : Except TicketingError Output),
        Run Config.step (.start contestedDb [stopJob, markJob]) history c ∧ c.sessions.length = 2 ∧
          c.sessions[0]? = some s₀ ∧ c.sessions[1]? = some s₁ ∧ s₀.status = .committed out₀ ∧
          s₁.status = .committed out₁ ∧
          ¬(EndsAgree contestedTimer lateStop out₀ c.db ∧ EndKept contestedTimer history c) := by
  refine ⟨contested_example, by decide, ?_⟩
  obtain ⟨history, c, s₀, s₁, out₀, out₁, run, closed, at₀, at₁, ended₀, ended₁, lost⟩ := overlap_lost
  exact ⟨history, c, s₀, s₁, out₀, out₁, run, closed, at₀, at₁, ended₀, ended₁, fun both => lost both.1⟩

/-- Of two runs in which the transactions overlap, one meets the condition, so that the answer, the message and
    the row agree, and the other one does not. -/
theorem stopAndBreach_exclusive_iff_overlapping :
    (∃ (c : Config ticketing) (out₀ : Except TicketingError Output),
      Run Config.step (.start contestedDb [stopJob, markJob])
        (playHistory Config.step (.start contestedDb [stopJob, markJob]) sweepBetween) c ∧
      Meets SavesRunning (playHistory Config.step (.start contestedDb [stopJob, markJob]) sweepBetween) ∧
      EndsAgree contestedTimer lateStop out₀ c.db) ∧
    ∃ (history : List (Config ticketing × Move ticketing)) (c : Config ticketing),
      Run Config.step (.start contestedDb [stopJob, markJob]) history c ∧ ¬Meets SavesRunning history := by
  constructor
  · have possible : (play Config.step (.start (A := ticketing) contestedDb [stopJob, markJob]) sweepBetween).map
        (fun c => (c.sessions.length, (c.sessions[0]?.bind committedOutput).isSome,
          (c.sessions[1]?.bind committedOutput).isSome)) = some (2, true, true) := by decide
    have meets : Meets SavesRunning (playHistory Config.step
        (.start (A := ticketing) contestedDb [stopJob, markJob]) sweepBetween) := by decide
    obtain ⟨c, played, facts⟩ := Option.map_eq_some_iff.mp possible
    simp only [Prod.mk.injEq, Option.bind_eq_some_iff, Option.isSome_iff_exists] at facts
    obtain ⟨closed, ⟨out₀, s₀, at₀, ended₀⟩, ⟨out₁, s₁, at₁, ended₁⟩⟩ := facts
    have iff := stopAndBreach_exclusive_iff contested_example (play_run played) closed at₀ at₁
      (committedOutput_eq_some_iff.mp ended₀) (committedOutput_eq_some_iff.mp ended₁)
    exact ⟨c, out₀, play_run played, meets, (iff.mpr meets).1⟩
  · obtain ⟨history, c, s₀, s₁, out₀, out₁, run, closed, at₀, at₁, ended₀, ended₁, lost⟩ := overlap_lost
    exact ⟨history, c, run, fun meets =>
      lost ((stopAndBreach_exclusive_iff contested_example run closed at₀ at₁ ended₀ ended₁).mpr meets).1⟩

end Example

end Helpdesk
