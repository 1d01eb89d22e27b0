/-
Module: HelpdeskApi.Proofs.StartingLate
Layer: Proofs
Purpose: How the deadlines of a ticket depend on when its message is processed while the policy changes. The
  timers start when the ticket was created, whenever that is, and run against the target in force at the time
  of the delivery: two runs that differ only in where it falls agree exactly when that target does.
Trusted boundary: none
Main exports: Db.starts, Db.deadlines, Db.Counts, SlaTarget.deadlines, startAfter, DeadlinesFixed, counts_of_start,
  deadlines_agree_iff
-/
import HelpdeskApi.Proofs.ClosedInTime

namespace Helpdesk

open Relational Transition

/-- When the timers of a ticket started. -/
def Db.starts (db : Db) (id : TicketId) : List (SlaKind × Instant) :=
  (db.timers.rows.filter fun r => r.ticketId = id).map fun r => (r.kind, r.startedAt)

/-- When the timers of a ticket are due. -/
def Db.deadlines (db : Db) (id : TicketId) : List (SlaKind × Instant) :=
  (db.timers.rows.filter fun r => r.ticketId = id).map fun r => (r.kind, r.dueAt)

/-- When the timers of a target that counts from an instant are due. -/
def SlaTarget.deadlines (target : SlaTarget) (since : Instant) : List (SlaKind × Instant) :=
  [(.RESPONSE, CALENDAR_24_7 since target.responseMinutes), (.RESOLUTION, CALENDAR_24_7 since target.resolutionMinutes)]

/-- The two timers of a ticket run from an instant against a target. -/
structure Db.Counts (db : Db) (id : TicketId) (target : SlaTarget) (since : Instant) : Prop where
  starts : db.starts id = SLA_KINDS.map fun kind => (kind, since)
  deadlines : db.deadlines id = target.deadlines since

/-- The database once these requests were served. -/
def Db.served (db : Db) (calls : List Execution) : Db :=
  calls.foldl (fun db e => (serve e db).2) db

/-- Requests, and the delivery of a message after the first `n` of them. -/
def startAfter (messageId : Uuid) (ambient : Ambient) (calls : List Execution) (n : Nat) : List SlaAction :=
  (calls.take n).map .request ++ .deliver messageId ambient :: (calls.drop n).map .request

/-- Wherever the message falls among these requests, the timers of the ticket are due at the same instants. -/
def DeadlinesFixed (w : SlaSystem) (messageId : Uuid) (id : TicketId) (calls : List Execution) : Prop :=
  ∀ n n' ambient ambient' w₁ w₂,
    play SlaSystem.step w (startAfter messageId ambient calls n) = some w₁ →
      play SlaSystem.step w (startAfter messageId ambient' calls n') = some w₂ →
        w₁.db.deadlines id = w₂.db.deadlines id

/-- Targets with the same deadlines are the same. -/
theorem SlaTarget.deadlines_inj {target target' : SlaTarget} {since : Instant} :
    target.deadlines since = target'.deadlines since ↔ target = target' := by
  constructor
  · intro same
    have minutes {m m' : Int} (sameDue : CALENDAR_24_7 since m = CALENDAR_24_7 since m') : m = m' :=
      Int.eq_of_mul_eq_mul_right (by decide) (Int.add_left_cancel sameDue)
    simp only [deadlines, List.cons.injEq, Prod.mk.injEq, true_and, and_true] at same
    have response := minutes same.1
    have resolution := minutes same.2
    cases target
    cases target'
    cases response
    cases resolution
    rfl
  · rintro rfl
    rfl

/-- What a state keeps while requests are served. -/
structure ServedOnly (w w' : SlaSystem) (calls : List Execution) : Prop where
  db : w'.db = w.db.served calls
  delivered : w'.delivered = w.delivered
  timers : w'.db.timers = w.db.timers
  messages : ∀ m ∈ w.db.outbox.rows, m ∈ w'.db.outbox.rows

theorem servedOnly_of_play {calls : List Execution} {w w' : SlaSystem}
    (played : play SlaSystem.step w (calls.map .request) = some w') : ServedOnly w w' calls := by
  induction calls generalizing w with
  | nil =>
      cases played
      exact ⟨rfl, rfl, rfl, fun _ inside => inside⟩
  | cons e calls ih =>
      obtain ⟨w₁, taken, rest⟩ := Option.bind_eq_some_iff.mp played
      have later := ih rest
      cases SlaSystem.step_stepped taken with
      | request isRequest fresh =>
          constructor
          · rw [later.db, ← serve_committed e fresh]
            rfl
          · exact later.delivered
          · exact later.timers.trans (Execution.timers_of_request isRequest w.db)
          · intro m inside
            apply later.messages
            exact (Execution.recorded_of_request isRequest w.db).messagesKept m inside

section Starts

variable {base : Db} {history : List (SlaSystem × SlaAction)} {w : SlaSystem} {messageId : Uuid}
  {message : OutboxRow} {input : StartSlaTimersInput}

/-- A ticket without timers gets those of the target in force when its message is delivered. -/
theorem counts_of_delivery {w' : SlaSystem} {ambient : Ambient} (handled : Handled w.db w.delivered)
    (found : w.db.outbox.find? messageId = some message)
    (dispatched : SlaProcessor.despachar message.job = .run (.startSlaTimers input))
    (vacant : ∀ r ∈ w.db.timers.rows, r.ticketId ≠ input.ticketId)
    (taken : w.step (.deliver messageId ambient) = some w') :
    w'.db.Counts input.ticketId (StartSlaTimers.objetivo input w.db) input.occurredAt := by
  have unclaimed : w.db.processed.find? (START_SLA_CONSUMER, input.eventId) = none := by
    by_contra claimed
    obtain ⟨job, member, isEvent, _⟩ := handled.startMarks _ (Option.isSome_iff_ne_none.mpr claimed)
    have sameEvent := (SlaProcessor.input_of_start dispatched).1
    have sameJob := handled.eq_of_eventId (Table.mem_of_find? found) member (isEvent.trans sameEvent)
    have creates := (Handled.creates_iff dispatched input.ticketId).mpr rfl
    obtain ⟨r, stored, ofTicket, _⟩ := handled.both _ job member (sameJob ▸ creates) .RESPONSE
    exact vacant r stored ofTicket
  cases SlaSystem.step_stepped taken with
  | started found' fresh dispatched' =>
      cases Option.some.inj (found.symm.trans found')
      rw [dispatched] at dispatched'
      cases dispatched'
      obtain ⟨_, occupied⟩ | ⟨_, added⟩ := StartSlaTimers.timers_committed input fresh
      · obtain ⟨r, stored, ofTicket⟩ := occupied unclaimed
        exact absurd ofTicket (vacant r stored)
      · have noneBefore : w.db.timers.rows.filter (fun r => decide (r.ticketId = input.ticketId)) = [] := by
          simpa using vacant
        constructor
        · simp only [Db.starts, added, List.filter_append, noneBefore]
          simp [StartSlaTimers.timer, SlaTimer.start, SLA_KINDS]
        · simp only [Db.deadlines, added, List.filter_append, noneBefore]
          simp [StartSlaTimers.timer, SlaTimer.start, SlaTarget.deadlines, minutosPor]
  | stopped found' dispatched' =>
      cases Option.some.inj (found.symm.trans found')
      simp [dispatched] at dispatched'
  | passed found' idle =>
      cases Option.some.inj (found.symm.trans found')
      exact absurd dispatched (idle _)

/-- The timers of a ticket whose message falls among requests. -/
theorem counts_of_start {calls : List Execution} {n : Nat} {ambient : Ambient} {w₁ : SlaSystem}
    (run : Run SlaSystem.step (.initial base.beforeQueues) history w)
    (found : w.db.outbox.find? messageId = some message)
    (dispatched : SlaProcessor.despachar message.job = .run (.startSlaTimers input))
    (vacant : ∀ r ∈ w.db.timers.rows, r.ticketId ≠ input.ticketId)
    (played : play SlaSystem.step w (startAfter messageId ambient calls n) = some w₁) :
    w₁.db.Counts input.ticketId (StartSlaTimers.objetivo input (w.db.served (calls.take n))) input.occurredAt := by
  rw [startAfter, play_append] at played
  obtain ⟨before, first, rest⟩ := Option.bind_eq_some_iff.mp played
  obtain ⟨after, taken, last⟩ := Option.bind_eq_some_iff.mp rest
  have kept := servedOnly_of_play first
  have handled := (handled_of_run (run.append (play_run first))).2
  have found' : before.db.outbox.find? messageId = some message := by
    have sameId : message.id = messageId := Table.key_of_find? found
    rw [← sameId]
    exact Table.find?_key (kept.messages message (Table.mem_of_find? found))
  have started := counts_of_delivery handled found' dispatched (kept.timers ▸ vacant) taken
  have untouched := (servedOnly_of_play last).timers
  rw [kept.db] at started
  constructor
  · rw [Db.starts, untouched]
    exact started.starts
  · rw [Db.deadlines, untouched]
    exact started.deadlines

/-- In two runs that differ only in where the message of a new ticket falls among the requests, its two timers
    start when it was created, and they are due at the same instants exactly when the target in force for its
    priority is the same at both places. -/
theorem deadlines_agree_iff {calls : List Execution} {n n' : Nat} {ambient ambient' : Ambient}
    {w₁ w₂ : SlaSystem} (run : Run SlaSystem.step (.initial base.beforeQueues) history w)
    (found : w.db.outbox.find? messageId = some message)
    (dispatched : SlaProcessor.despachar message.job = .run (.startSlaTimers input))
    (vacant : ∀ r ∈ w.db.timers.rows, r.ticketId ≠ input.ticketId)
    (played : play SlaSystem.step w (startAfter messageId ambient calls n) = some w₁)
    (played' : play SlaSystem.step w (startAfter messageId ambient' calls n') = some w₂) :
    w₁.db.starts input.ticketId = (SLA_KINDS.map fun kind => (kind, input.occurredAt)) ∧
      w₂.db.starts input.ticketId = (SLA_KINDS.map fun kind => (kind, input.occurredAt)) ∧
      (w₁.db.deadlines input.ticketId = w₂.db.deadlines input.ticketId ↔
        resolvePolicy ((w.db.served (calls.take n)).overridesOf input.tenantId) input.priority =
          resolvePolicy ((w.db.served (calls.take n')).overridesOf input.tenantId) input.priority) := by
  have first := counts_of_start run found dispatched vacant played
  have second := counts_of_start run found dispatched vacant played'
  refine ⟨first.starts, second.starts, ?_⟩
  rw [first.deadlines, second.deadlines]
  exact SlaTarget.deadlines_inj

end Starts

section Example

/-- A ticket of high priority has just been created. -/
def newTicket : SlaSystem :=
  { SlaSystem.initial Db.empty.beforeQueues with
    db := Db.empty.beforeQueues.served
      [exampleExecution 0 (.createTicket ⟨⟨1⟩, ⟨2⟩, "Hola", "No entra", .HIGH⟩)] }

theorem run_newTicket : ∃ history, Run SlaSystem.step (.initial Db.empty.beforeQueues) history newTicket :=
  ⟨_, Run.start.step (l := .request (exampleExecution 0 (.createTicket ⟨⟨1⟩, ⟨2⟩, "Hola", "No entra", .HIGH⟩))) rfl⟩

/-- The target for high priority is tightened, and that is undone. -/
def policyUndone : List Execution :=
  [exampleExecution 1 (.updateSlaPolicy ⟨⟨1⟩, ⟨9⟩, .HIGH, .finite 5, .finite 30⟩),
    exampleExecution 2 (.resetSlaPolicy ⟨⟨1⟩, ⟨9⟩, .HIGH⟩)]

/-- Before and after the detour the timers count from the creation of the ticket and are due at the same instants. -/
theorem deadlines_agree_iff_policyUndone :
    ∃ history w₁ w₂, Run SlaSystem.step (.initial Db.empty.beforeQueues) history newTicket ∧
      play SlaSystem.step newTicket (startAfter 102 (exampleAmbient 3) policyUndone 0) = some w₁ ∧
      play SlaSystem.step newTicket (startAfter 102 (exampleAmbient 3) policyUndone 2) = some w₂ ∧
      w₁.db.starts ⟨100⟩ = [(.RESPONSE, 0), (.RESOLUTION, 0)] ∧
      w₂.db.starts ⟨100⟩ = [(.RESPONSE, 0), (.RESOLUTION, 0)] ∧
      w₁.db.deadlines ⟨100⟩ = w₂.db.deadlines ⟨100⟩ := by
  have early : (play SlaSystem.step newTicket (startAfter 102 (exampleAmbient 3) policyUndone 0)).isSome = true := by
    decide
  have late : (play SlaSystem.step newTicket (startAfter 102 (exampleAmbient 3) policyUndone 2)).isSome = true := by
    decide
  obtain ⟨w₁, played⟩ := Option.isSome_iff_exists.mp early
  obtain ⟨w₂, played'⟩ := Option.isSome_iff_exists.mp late
  obtain ⟨history, run⟩ := run_newTicket
  obtain ⟨message, found, dispatched⟩ : ∃ message, newTicket.db.outbox.find? 102 = some message ∧
      SlaProcessor.despachar message.job = .run (.startSlaTimers ⟨102, ⟨1⟩, ⟨100⟩, .HIGH, 0⟩) := ⟨_, rfl, rfl⟩
  have vacant : ∀ r ∈ newTicket.db.timers.rows, r.ticketId ≠ ⟨100⟩ := by decide
  have sameTarget : resolvePolicy ((newTicket.db.served (policyUndone.take 0)).overridesOf ⟨1⟩) .HIGH =
      resolvePolicy ((newTicket.db.served (policyUndone.take 2)).overridesOf ⟨1⟩) .HIGH := by decide
  obtain ⟨first, second, agree⟩ := deadlines_agree_iff run found dispatched vacant played played'
  exact ⟨history, w₁, w₂, run, played, played', first, second, agree.mpr sameTarget⟩

/-- The deadlines depend on whether the message is processed before the target is tightened or after. -/
theorem deadlines_differ_policyUndone :
    ∃ history, Run SlaSystem.step (.initial Db.empty.beforeQueues) history newTicket ∧
      ¬ DeadlinesFixed newTicket 102 ⟨100⟩ policyUndone := by
  have early : (play SlaSystem.step newTicket (startAfter 102 (exampleAmbient 3) policyUndone 0)).map
      (fun w => w.db.deadlines ⟨100⟩) = some [(.RESPONSE, 3600000), (.RESOLUTION, 28800000)] := by decide
  have tightened : (play SlaSystem.step newTicket (startAfter 102 (exampleAmbient 3) policyUndone 1)).map
      (fun w => w.db.deadlines ⟨100⟩) = some [(.RESPONSE, 300000), (.RESOLUTION, 1800000)] := by decide
  obtain ⟨w₁, played, before⟩ := Option.map_eq_some_iff.mp early
  obtain ⟨w₂, played', after⟩ := Option.map_eq_some_iff.mp tightened
  obtain ⟨history, run⟩ := run_newTicket
  refine ⟨history, run, ?_⟩
  intro fixed
  have same := fixed 0 1 _ _ w₁ w₂ played played'
  rw [before, after] at same
  revert same
  decide

end Example

end Helpdesk
