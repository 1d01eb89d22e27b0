/-
Module: HelpdeskApi.Queue.TimerTraces
Layer: Queue
Purpose: What `StopSlaTimer` and `MarkSlaBreached` leave behind call by call, whatever the database answers
  them: they save a timer only after they have found it running, and each ends it in its own way.
Trusted boundary: none
Main exports: foundTimer, Execution.seeks, Execution.ended, EndsFound, StopSlaTimer.ends, MarkSlaBreached.ends,
  Execution.timer_spec
-/
import HelpdeskApi.Queue.SlaFacts
import HelpdeskApi.Store.Marks
import HelpdeskApi.Library.Traces

namespace Helpdesk

open Relational Txn

/-- A call that answered with a timer. -/
def foundTimer (r : SlaTimer) : repositories.transactional.Event → Prop
  | ⟨.timersFindRunning _ _ _, o⟩ => o.reply = some r
  | ⟨.timersFindById _ _, o⟩ => o.reply = some r
  | _ => False

/-- The timers an execution looks for in order to end them. -/
def Execution.seeks (e : Execution) (r : SlaTimer) : Prop :=
  match e.useCase with
  | .stopSlaTimer input => r.ticketId = input.ticketId ∧ r.kind = input.kind
  | .markSlaBreached input => r.id = input.timerId
  | _ => False

/-- What an execution makes of a timer that is running. -/
def Execution.ended (e : Execution) (r : SlaTimer) : SlaTimer :=
  match e.useCase with
  | .stopSlaTimer input => { r with stoppedAt := some input.occurredAt }
  | .markSlaBreached _ => { r with breachedAt := some e.ambient.now }
  | _ => r

/-- An execution has saved only timers it had found running, and it has ended them. -/
def EndsFound (e : Execution) (trace : List repositories.transactional.Event) : Prop :=
  ∀ t, .upsertTimer t ∈ repositories.transactional.pending trace →
    ∃ r, (∃ ev ∈ trace, foundTimer r ev) ∧ r.isRunning = true ∧ e.seeks r ∧ t = e.ended r

section Answers

variable {ctx : Ctx} {db : Db}

/-- Appending one event of a command. -/
theorem writes_of_outboxAppend {uuid : Nat → Uuid} {event : IntegrationEvent} {reply : Unit}
    {writes : List Write}
    (answered : exec ctx (.outboxAppend (outboxRecords uuid [event])) db = some (reply, writes)) :
    writes = [.insertOutbox [outboxRow (uuid 0) ctx.requestId event]] := by
  simp only [exec] at answered
  split at answered
  · cases answered
    rfl
  · cases answered

/-- A timer a call has found is in the table it was looked up in. -/
theorem mem_of_foundTimer {ev : repositories.transactional.Event}
    (answered : exec ctx ev.call db = some (ev.outcome.reply, ev.outcome.writes)) {r : SlaTimer}
    (found : foundTimer r ev) : r ∈ db.timers.rows := by
  obtain ⟨c, o⟩ := ev
  cases c with
  | timersFindRunning t ticketId kind =>
      have same : o.reply = some r := found
      simp only [same] at answered
      exact (found_of_running answered).1
  | timersFindById t id =>
      have same : o.reply = some r := found
      simp only [same] at answered
      exact (found_of_id answered).1
  | _ => exact found.elim

end Answers

namespace EndsFound

variable {e : Execution} {trace : List repositories.transactional.Event}
  {ev : repositories.transactional.Event}

theorem start (e : Execution) : EndsFound e [] := fun t written => by cases written

/-- A call that saves no timer changes nothing about the saved ones. -/
theorem other (ends : EndsFound e trace) (produced : repositories.transactional.Plausible e.ctx ev)
    (notSave : ∀ t, ev.call ≠ .timersSave t) : EndsFound e (trace ++ [ev]) := by
  intro t written
  rw [Store.pending_append, List.mem_append] at written
  rcases written with old | new
  · obtain ⟨r, ⟨ev', member, found⟩, rest⟩ := ends t old
    exact ⟨r, ⟨ev', List.mem_append_left _ member, found⟩, rest⟩
  · obtain ⟨⟨db, answered⟩, _⟩ := repositories.plausible_transactional produced
    exact absurd (timersSave_of_upsert answered new) (notSave t)

/-- Saving what has been made of a timer that was found. -/
theorem saved (ends : EndsFound e trace) {r : SlaTimer} (found : ∃ ev ∈ trace, foundTimer r ev)
    (running : r.isRunning = true) (sought : e.seeks r)
    (produced : repositories.transactional.Plausible e.ctx ev) (isSave : ev.call = .timersSave (e.ended r)) :
    EndsFound e (trace ++ [ev]) := by
  obtain ⟨ev₀, member, same⟩ := found
  intro t written
  rw [Store.pending_append, List.mem_append] at written
  rcases written with old | new
  · obtain ⟨r', ⟨ev', member', found'⟩, rest⟩ := ends t old
    exact ⟨r', ⟨ev', List.mem_append_left _ member', found'⟩, rest⟩
  · obtain ⟨⟨db, answered⟩, _⟩ := repositories.plausible_transactional produced
    have sameTimer := isSave.symm.trans (timersSave_of_upsert answered new)
    cases sameTimer
    exact ⟨r, ⟨ev₀, List.mem_append_left _ member, same⟩, running, sought, rfl⟩

end EndsFound

/-- How a stop ends: `stopped` exactly if it has saved a timer, and it has appended no message. -/
def StopEnds (trace : List repositories.transactional.Event) (out : Except TicketingError Output) : Prop :=
  ((∃ margen, out = .ok (.stopSla (.stopped margen))) ↔
      ∃ t, .upsertTimer t ∈ repositories.transactional.pending trace) ∧
    ∀ rows, .insertOutbox rows ∉ repositories.transactional.pending trace

theorem StopSlaTimer.ends {e : Execution} {input : StopSlaTimerInput}
    (isStop : e.useCase = .stopSlaTimer input) :
    e.program.Satisfies (repositories.transactional.Plausible e.ctx) (EndsFound e) StopEnds [] := by
  have program : e.program = (·.map .stopSla) <$> execute input := by
    unfold Execution.program
    rw [isStop]
  rw [program, Proc.satisfies_map]
  refine .ask fun o₁ produced₁ => ?_
  obtain ⟨db₁, answered₁⟩ := exec_of_plausible produced₁
  have claimed := (EndsFound.start e).other produced₁ (fun t => Call.noConfusion)
  refine ⟨claimed, ?_⟩
  rcases exec_claim answered₁ with ⟨granted, wrote₁, _⟩ | ⟨denied, wrote₁, _⟩
  · rw [granted, if_pos rfl]
    refine .ask fun o₂ produced₂ => ?_
    obtain ⟨db₂, answered₂⟩ := exec_of_plausible produced₂
    have wrote₂ := writes_of_read (fun _ => rfl) answered₂
    have looked := claimed.other produced₂ (fun t => Call.noConfusion)
    refine ⟨looked, ?_⟩
    cases found : o₂.reply with
    | none =>
        refine ⟨iff_of_false (fun stopped => ?_) (fun saved => ?_), fun rows => ?_⟩
        · obtain ⟨margen, same⟩ := stopped
          cases same
        · simp [wrote₁, wrote₂] at saved
        · simp [wrote₁, wrote₂]
    | some timer =>
        rw [found] at answered₂
        obtain ⟨_, sameTicket, sameKind, running⟩ := found_of_running answered₂
        have stops : timer.stop input.occurredAt = e.ended timer := by
          simp [SlaTimer.stop, running, Execution.ended, isStop]
        have sought : e.seeks timer := by
          simp [Execution.seeks, isStop, sameTicket, sameKind]
        refine .ask fun o₃ produced₃ => ?_
        obtain ⟨db₃, answered₃⟩ := exec_of_plausible produced₃
        have wrote₃ := writes_of_timersSave answered₃
        refine ⟨looked.saved ⟨_, List.mem_append_right _ (List.mem_singleton.mpr rfl), found⟩ running sought
          produced₃ (congrArg Call.timersSave stops), iff_of_true ⟨_, rfl⟩ ⟨timer.stop input.occurredAt, ?_⟩,
          fun rows => ?_⟩
        · simp [wrote₁, wrote₂, wrote₃]
        · simp [wrote₁, wrote₂, wrote₃]
  · rw [denied, if_neg (by simp)]
    refine ⟨iff_of_false (fun stopped => ?_) (fun saved => ?_), fun rows => ?_⟩
    · obtain ⟨margen, same⟩ := stopped
      cases same
    · simp [wrote₁] at saved
    · simp [wrote₁]

/-- A sweep of one timer has saved the timer, audited the breach and appended the message about it. -/
structure MarkReported (input : MarkSlaBreachedInput) (writes : List Write) (t : SlaTimer) (entry : AuditLog)
    (m : OutboxRow) : Prop where
  writes : writes = [.upsertTimer t, .insertAuditLog entry, .insertOutbox [m]]
  timer : t.id = input.timerId
  audited : entry.breachedTimer = some input.timerId
  announced : m.breachedTimer = some input.timerId

/-- How a sweep of one timer ends: it has written nothing, or it has reported the breach and says so. -/
def MarkEnds (input : MarkSlaBreachedInput) (trace : List repositories.transactional.Event)
    (out : Except TicketingError Output) : Prop :=
  (repositories.transactional.pending trace = [] ∧ ∀ kind, out ≠ .ok (.markSla (.breached kind))) ∨
    ∃ t entry m kind, MarkReported input (repositories.transactional.pending trace) t entry m ∧
      out = .ok (.markSla (.breached kind))

theorem MarkSlaBreached.ends {e : Execution} {input : MarkSlaBreachedInput}
    (isMark : e.useCase = .markSlaBreached input) :
    e.program.Satisfies (repositories.transactional.Plausible e.ctx) (EndsFound e) (MarkEnds input) [] := by
  have program : e.program = (·.map .markSla) <$> execute input e.ambient := by
    unfold Execution.program
    rw [isMark]
  rw [program, Proc.satisfies_map]
  refine .ask fun o₁ produced₁ => ?_
  obtain ⟨db₁, answered₁⟩ := exec_of_plausible produced₁
  have wrote₁ := writes_of_read (fun _ => rfl) answered₁
  have looked := (EndsFound.start e).other produced₁ (fun t => Call.noConfusion)
  refine ⟨looked, ?_⟩
  cases found : o₁.reply with
  | none => exact .inl ⟨by simp [wrote₁], fun kind same => by cases same⟩
  | some timer =>
      rw [found] at answered₁
      obtain ⟨_, sameId⟩ := found_of_id answered₁
      by_cases running : timer.isRunning = true
      · by_cases overdue : timer.isOverdue e.ambient.now = true
        · simp only [running, overdue, if_true]
          have marked : (timer.markBreached e.ambient.now).1 =
              { timer with breachedAt := some e.ambient.now } := by simp [SlaTimer.markBreached, running]
          have breaches : { timer with breachedAt := some e.ambient.now } = e.ended timer := by
            simp [Execution.ended, isMark]
          have sought : e.seeks timer := by simp [Execution.seeks, isMark, sameId]
          refine .ask fun o₂ produced₂ => ?_
          obtain ⟨db₂, answered₂⟩ := exec_of_plausible produced₂
          have wrote₂ := writes_of_read (fun _ => rfl) answered₂
          have looked₂ := looked.other produced₂ (fun t => Call.noConfusion)
          refine ⟨looked₂, ?_⟩
          cases located : o₂.reply with
          | none => exact .inl ⟨by simp [wrote₁, wrote₂], fun kind same => by cases same⟩
          | some ticket =>
              rw [located] at answered₂
              obtain ⟨row, _, rfl⟩ := found_ticket answered₂
              simp only [marked]
              refine .ask fun o₃ produced₃ => ?_
              obtain ⟨db₃, answered₃⟩ := exec_of_plausible produced₃
              have wrote₃ := writes_of_timersSave answered₃
              have found₁ : ∃ ev ∈ [] ++ [⟨_, o₁⟩] ++ [⟨_, o₂⟩], foundTimer timer ev :=
                ⟨_, List.mem_append_left _ (List.mem_append_right _ (List.mem_singleton.mpr rfl)), found⟩
              have saved := looked₂.saved found₁ running sought produced₃ (congrArg Call.timersSave breaches)
              refine ⟨saved, ?_⟩
              refine .ask fun o₄ produced₄ => ?_
              obtain ⟨db₄, answered₄⟩ := exec_of_plausible produced₄
              have wrote₄ := writes_of_auditLogsRecord answered₄
              have audited := saved.other produced₄ (fun t => Call.noConfusion)
              refine ⟨audited, ?_⟩
              rw [EventRecorder.record_one (fun i => e.ambient.uuid (1 + i))
                (show ((toTicket row).recordSlaBreach timer.id timer.kind.text timer.dueAt
                  e.ambient.now).domainEvents = [event e.ambient timer row] from rfl)]
              intro o₅ produced₅
              obtain ⟨db₅, answered₅⟩ := exec_of_plausible produced₅
              have wrote₅ := writes_of_outboxAppend answered₅
              refine ⟨audited.other produced₅ (fun t => Call.noConfusion), .inr ?_⟩
              refine ⟨?t, ?entry, ?m, timer.kind, ⟨?wrote, ?timer, ?audited, ?announced⟩, rfl⟩
              case wrote =>
                simp only [List.nil_append, List.cons_append, Store.pending_cons, Store.pending_nil, wrote₁,
                  wrote₂, wrote₃, wrote₄, wrote₅]
                exact rfl
              case timer => exact sameId
              case audited => exact congrArg some sameId
              case announced => exact congrArg some sameId
        · simp only [running, overdue, if_true]
          exact .inl ⟨by simp [wrote₁], fun kind same => by cases same⟩
      · simp only [running]
        exact .inl ⟨by simp [wrote₁], fun kind same => by cases same⟩

/-- Whether an execution is one that ends timers. -/
def Execution.endsTimers (e : Execution) : Bool :=
  match e.useCase with
  | .stopSlaTimer _ | .markSlaBreached _ => true
  | _ => false

/-- How the executions that end timers end themselves. -/
def EndsTimer (e : Execution) (trace : List repositories.transactional.Event)
    (out : Except TicketingError Output) : Prop :=
  match e.useCase with
  | .stopSlaTimer _ => StopEnds trace out
  | .markSlaBreached input => MarkEnds input trace out
  | _ => True

/-- What every execution leaves of the timers it ends. -/
theorem Execution.timer_spec (e : Execution) :
    (e.endsTimers = true → EndsFound e []) ∧
      e.program.Satisfies (repositories.transactional.Plausible e.ctx)
        (fun trace => e.endsTimers = true → EndsFound e trace) (EndsTimer e) [] := by
  refine ⟨fun _ => .start e, ?_⟩
  cases isUseCase : e.useCase with
  | stopSlaTimer input =>
      apply (StopSlaTimer.ends isUseCase).mono (fun _ ends _ => ends)
      intro _ _ ends
      simpa [EndsTimer, isUseCase] using ends
  | markSlaBreached input =>
      apply (MarkSlaBreached.ends isUseCase).mono (fun _ ends _ => ends)
      intro _ _ ends
      simpa [EndsTimer, isUseCase] using ends
  | _ =>
      refine Proc.satisfies_of_forall (fun _ ends => ?_) (fun _ _ => ?_) _ _
      · simp [endsTimers, isUseCase] at ends
      · simp [EndsTimer, isUseCase]

end Helpdesk
