/-
Module: HelpdeskApi.Proofs.TimerLedger
Layer: Proofs
Purpose: The timers of a ticket and what the outbox and the audit log say about them. A ticket has at most
  one timer of a kind, which counts from the instant the ticket was created; how a timer ended is final, and
  there is one message and one entry about it exactly if it was breached.
Trusted boundary: none
Main exports: SlaTimer.Later, KeepsTimers, SlaLedger, slaLedger_of_run
-/
import HelpdeskApi.Queue.SlaSystem
import HelpdeskApi.Queue.SlaFacts
import HelpdeskApi.Queue.RequestFacts

namespace Helpdesk

open Relational Transition

/-- A database in which nothing has happened yet. There may be members, counters and policies. -/
def Db.beforeService (base : Db) : Db :=
  { base.beforeTickets with timers := .empty }

/-- What may become of a timer: it may end, once, and nothing else. -/
structure SlaTimer.Later (r r' : SlaTimer) : Prop where
  id : r'.id = r.id
  tenantId : r'.tenantId = r.tenantId
  ticketId : r'.ticketId = r.ticketId
  kind : r'.kind = r.kind
  startedAt : r'.startedAt = r.startedAt
  dueAt : r'.dueAt = r.dueAt
  ended : r.stoppedAt ≠ none ∨ r.breachedAt ≠ none → r'.stoppedAt = r.stoppedAt ∧ r'.breachedAt = r.breachedAt

theorem SlaTimer.Later.refl (r : SlaTimer) : r.Later r :=
  ⟨rfl, rfl, rfl, rfl, rfl, rfl, fun _ => ⟨rfl, rfl⟩⟩

theorem SlaTimer.Later.trans {r r' r'' : SlaTimer} (first : r.Later r') (second : r'.Later r'') :
    r.Later r'' where
  id := second.id.trans first.id
  tenantId := second.tenantId.trans first.tenantId
  ticketId := second.ticketId.trans first.ticketId
  kind := second.kind.trans first.kind
  startedAt := second.startedAt.trans first.startedAt
  dueAt := second.dueAt.trans first.dueAt
  ended hasEnded := by
    obtain ⟨sameStop, sameBreach⟩ := first.ended hasEnded
    rw [← sameStop, ← sameBreach] at hasEnded ⊢
    exact second.ended hasEnded

/-- No timer is lost, and each is what may have become of it. -/
def KeepsTimers (db db' : Db) : Prop :=
  ∀ id r, db.timers.find? id = some r → ∃ r', db'.timers.find? id = some r' ∧ r.Later r'

theorem KeepsTimers.of_same {db db' : Db} (same : db'.timers = db.timers) : KeepsTimers db db' :=
  fun _ r found => ⟨r, by rw [same]; exact found, .refl r⟩

theorem KeepsTimers.trans {db db' db'' : Db} (first : KeepsTimers db db') (second : KeepsTimers db' db'') :
    KeepsTimers db db'' := by
  intro id r found
  obtain ⟨r', found', later⟩ := first id r found
  obtain ⟨r'', found'', later'⟩ := second id r' found'
  exact ⟨r'', found'', later.trans later'⟩

/-- The timers by themselves: one of a kind for each ticket, from the creation of the ticket on, with one end at
    most. -/
structure Fitting (db : Db) : Prop where
  unique : ∀ r ∈ db.timers.rows, ∀ r' ∈ db.timers.rows, r.ticketId = r'.ticketId → r.kind = r'.kind → r = r'
  started : ∀ r ∈ db.timers.rows, ∃ t, db.tickets.find? r.ticketId = some t ∧ r.startedAt = t.createdAt
  exclusive : ∀ r ∈ db.timers.rows, r.stoppedAt = none ∨ r.breachedAt = none

/-- The timers, and what is said about them. -/
structure SlaLedger (db : Db) : Prop extends Fitting db where
  announced : ∀ r ∈ db.timers.rows, db.announcements r.id = if r.breachedAt.isSome then 1 else 0
  audited : ∀ r ∈ db.timers.rows, db.breachEntries r.id = if r.breachedAt.isSome then 1 else 0

/-- Whether the timer of an id has been breached, and `false` where there is none. -/
def Db.breached (db : Db) (id : SlaTimerId) : Bool :=
  (db.timers.find? id).any fun r => r.breachedAt.isSome

/-- What carries the ledger through a run: nothing is said about timers that do not exist yet, and the message
    about a new ticket says when it was created. -/
structure Sound (db : Db) : Prop extends Fitting db where
  announced : ∀ id, db.announcements id = (db.breached id).toNat
  audited : ∀ id, db.breachEntries id = (db.breached id).toNat
  created : ∀ m ∈ db.outbox.rows, m.eventName = "ticket.created" →
    ∃ t, db.tickets.find? ⟨m.aggregateId⟩ = some t ∧ t.createdAt = m.occurredAt

theorem Sound.ledger {db : Db} (sound : Sound db) : SlaLedger db where
  toFitting := sound.toFitting
  announced r stored := by
    have found : db.timers.find? r.id = some r := Table.find?_key stored
    rw [sound.announced, Db.breached, found, Option.any_some]
    cases r.breachedAt <;> rfl
  audited r stored := by
    have found : db.timers.find? r.id = some r := Table.find?_key stored
    rw [sound.audited, Db.breached, found, Option.any_some]
    cases r.breachedAt <;> rfl

theorem sound_beforeService (base : Db) : Sound base.beforeService where
  unique _ stored := by cases stored
  started _ stored := by cases stored
  exclusive _ stored := by cases stored
  announced _ := rfl
  audited _ := rfl
  created _ stored := by cases stored

section Steps

variable {db db' : Db}

/-- A change of something else than the timers. -/
theorem Sound.of_sameTimers (sound : Sound db) (timers : db'.timers = db.timers) (places : KeepsPlaces db db')
    (announcements : ∀ id, db'.announcements id = db.announcements id)
    (breachEntries : ∀ id, db'.breachEntries id = db.breachEntries id)
    (created : ∀ m ∈ db'.outbox.rows, m ∈ db.outbox.rows ∨ (m.eventName = "ticket.created" →
      ∃ t, db'.tickets.find? ⟨m.aggregateId⟩ = some t ∧ t.createdAt = m.occurredAt)) : Sound db' where
  unique := timers ▸ sound.unique
  started r stored := by
    rw [timers] at stored
    obtain ⟨t, found, isInstant⟩ := sound.started r stored
    obtain ⟨t', found', sameInstant, _⟩ := places _ t found
    exact ⟨t', found', isInstant.trans sameInstant.symm⟩
  exclusive := timers ▸ sound.exclusive
  announced id := by rw [announcements, sound.announced, Db.breached, Db.breached, timers]
  audited id := by rw [breachEntries, sound.audited, Db.breached, Db.breached, timers]
  created m inside isCreated := by
    rcases created m inside with old | new
    · obtain ⟨t, found, isInstant⟩ := sound.created m old isCreated
      obtain ⟨t', found', sameInstant, _⟩ := places _ t found
      exact ⟨t', found', sameInstant.trans isInstant⟩
    · exact new isCreated

/-- Entries stay in the audit log. -/
theorem mem_auditLogs_after (writes : List Write) {db : Db} {a : AuditLog} (inside : a ∈ db.auditLogs.rows) :
    a ∈ (db.after writes).auditLogs.rows := by
  induction writes generalizing db with
  | nil => exact inside
  | cons w writes ih =>
      apply ih
      cases w with
      | insertAuditLog entry => exact Table.mem_insert_of_mem entry inside
      | _ => exact inside

theorem Sound.of_request (sound : Sound db) {e : Execution} (isRequest : e.useCase.isRequest = true)
    (fresh : e.ambient.freshIn db = true) : Sound (db.after (e.committed db)) := by
  have recorded := Execution.recorded_of_request isRequest db
  apply sound.of_sameTimers (Execution.timers_of_request isRequest db) (keepsPlaces_after _ db)
  · intro id
    refine Table.countP_eq_of_mem fun m about => ⟨fun inside => ?_, recorded.messagesKept m⟩
    rcases recorded.messages m inside with old | ⟨noBreach, _⟩
    · exact old
    · simp [noBreach] at about
  · intro id
    refine Table.countP_eq_of_mem fun a about => ⟨fun inside => ?_, mem_auditLogs_after _⟩
    rcases recorded.entries a inside with old | noBreach
    · exact old
    · simp [noBreach] at about
  · intro m inside
    rcases Execution.described_of_request isRequest fresh m inside with old | ⟨t, found, describes⟩
    · exact .inl old
    · refine .inr fun isCreated => ⟨t, ?_, (describes.occurredAt isCreated).symm⟩
      rw [describes.aggregateId]
      exact found

theorem Db.breached_eq_true {id : SlaTimerId} :
    db.breached id = true ↔ ∃ r ∈ db.timers.rows, r.id = id ∧ r.breachedAt ≠ none := by
  simp only [breached, Option.any_eq_true, Table.find?_eq_some_iff, Option.isSome_iff_ne_none, key_timer,
    and_assoc]

/-- Breaches depend on the breached rows alone. -/
theorem Db.breached_congr (same : ∀ r, r.breachedAt ≠ none → (r ∈ db'.timers.rows ↔ r ∈ db.timers.rows))
    (id : SlaTimerId) : db'.breached id = db.breached id := by
  rw [Bool.eq_iff_iff, breached_eq_true, breached_eq_true]
  apply exists_congr
  intro r
  by_cases unbreached : r.breachedAt = none
  · simp [unbreached]
  · rw [same r unbreached]

/-- Workers start and stop timers and tell nobody. -/
theorem Sound.of_worker (sound : Sound db) (fitting : Fitting db')
    (breached : ∀ r, r.breachedAt ≠ none → (r ∈ db'.timers.rows ↔ r ∈ db.timers.rows))
    (tickets : db'.tickets = db.tickets) (outbox : db'.outbox = db.outbox ∧ db'.auditLogs = db.auditLogs) :
    Sound db' where
  toFitting := fitting
  announced id := by
    rw [Db.breached_congr breached, ← sound.announced, Db.announcements, Db.announcements, outbox.1]
  audited id := by
    rw [Db.breached_congr breached, ← sound.audited, Db.breachEntries, Db.breachEntries, outbox.2]
  created m inside isCreated := by
    rw [tickets]
    exact sound.created m (outbox.1 ▸ inside) isCreated

/-- One timer is replaced by what it may become. -/
theorem Fitting.replaced (fitting : Fitting db) {timer new : SlaTimer} (stored : timer ∈ db.timers.rows)
    (becomes : timer.Later new) (replaced : db.TimerReplaced db' new) (tickets : db'.tickets = db.tickets)
    (exclusive : new.stoppedAt = none ∨ new.breachedAt = none) : Fitting db' where
  unique r member r' member' sameTicket sameKind := by
    -- a row with the ticket and the kind of the new one would have been the old one
    have alone (u : SlaTimer) (old : u ∈ db.timers.rows) (other : u.id ≠ new.id)
        (sameTicket : u.ticketId = new.ticketId) (sameKind : u.kind = new.kind) : False := by
      have isTimer := fitting.unique u old timer stored (sameTicket.trans becomes.ticketId)
        (sameKind.trans becomes.kind)
      exact other ((congrArg SlaTimer.id isTimer).trans becomes.id.symm)
    rcases (replaced r).mp member with ⟨old, other⟩ | rfl
    · rcases (replaced r').mp member' with ⟨old', _⟩ | rfl
      · exact fitting.unique r old r' old' sameTicket sameKind
      · exact (alone r old other sameTicket sameKind).elim
    · rcases (replaced r').mp member' with ⟨old', other'⟩ | rfl
      · exact (alone r' old' other' sameTicket.symm sameKind.symm).elim
      · rfl
  started r member := by
    rw [tickets]
    rcases (replaced r).mp member with ⟨old, _⟩ | rfl
    · exact fitting.started r old
    · obtain ⟨t, found, isInstant⟩ := fitting.started timer stored
      exact ⟨t, becomes.ticketId ▸ found, becomes.startedAt.trans isInstant⟩
  exclusive r member := by
    rcases (replaced r).mp member with ⟨old, _⟩ | rfl
    · exact fitting.exclusive r old
    · exact exclusive

theorem KeepsTimers.replaced {timer new : SlaTimer} (stored : timer ∈ db.timers.rows)
    (becomes : timer.Later new) (replaced : db.TimerReplaced db' new) : KeepsTimers db db' := by
  intro id r found
  by_cases same : r.id = new.id
  · have isTimer : r = timer := Table.eq_of_key (Table.mem_of_find? found) stored (same.trans becomes.id)
    subst isTimer
    have sameKey : new.id = id := becomes.id.trans (Table.key_of_find? found)
    exact ⟨new, sameKey ▸ Table.find?_key ((replaced new).mpr (.inr rfl)), becomes⟩
  · have sameKey : r.id = id := Table.key_of_find? found
    exact ⟨r, sameKey ▸ Table.find?_key ((replaced r).mpr (.inl ⟨Table.mem_of_find? found, same⟩)), .refl r⟩

/-- A running timer may end. -/
theorem SlaTimer.later_of_running {timer : SlaTimer} (running : timer.isRunning = true)
    (stoppedAt breachedAt : Option Instant) :
    timer.Later { timer with stoppedAt := stoppedAt, breachedAt := breachedAt } where
  id := rfl
  tenantId := rfl
  ticketId := rfl
  kind := rfl
  startedAt := rfl
  dueAt := rfl
  ended hasEnded := by
    obtain ⟨notStopped, notBreached⟩ := timer.isRunning_iff.mp running
    rcases hasEnded with stopped | breached
    · exact absurd notStopped stopped
    · exact absurd notBreached breached

theorem Sound.of_stopped (sound : Sound db) (input : StopSlaTimerInput) :
    Sound (db.after (StopSlaTimer.committed input db)) ∧
      KeepsTimers db (db.after (StopSlaTimer.committed input db)) := by
  have tickets := tickets_of_stop db input
  have outbox := outbox_of_stop db input
  cases ends : StopSlaTimer.ending input db with
  | none =>
      have timers := StopSlaTimer.timers_of_idle ends
      refine ⟨sound.of_worker ?_ (fun r _ => by rw [timers]) tickets outbox, .of_same timers⟩
      exact ⟨timers ▸ sound.unique, by rw [timers, tickets]; exact sound.started, timers ▸ sound.exclusive⟩
  | some timer =>
      have replaced := StopSlaTimer.timers_of_ending ends
      obtain ⟨stored, _, _, _, running⟩ := StopSlaTimer.running_spec (StopSlaTimer.ending_spec ends).2
      have unbreached : timer.breachedAt = none := (timer.isRunning_iff.mp running).2
      have becomes := SlaTimer.later_of_running running (some input.occurredAt) timer.breachedAt
      refine ⟨sound.of_worker ?_ ?_ tickets outbox, .replaced stored becomes replaced⟩
      · exact sound.toFitting.replaced stored becomes replaced tickets (.inr unbreached)
      · intro r breached
        rw [replaced r]
        constructor
        · rintro (⟨old, _⟩ | rfl)
          · exact old
          · exact absurd unbreached breached
        · intro old
          refine .inl ⟨old, fun sameId => breached ?_⟩
          rw [Table.eq_of_key old stored sameId]
          exact unbreached

/-- The timers of a ticket start when the message about it says. -/
theorem Sound.of_started (sound : Sound db) {message : OutboxRow} {input : StartSlaTimersInput} {ambient : Ambient}
    (stored : message ∈ db.outbox.rows) (fresh : ambient.freshIn db = true)
    (dispatched : SlaProcessor.despachar message.job = .run (.startSlaTimers input)) :
    Sound (db.after (StartSlaTimers.committed input ambient db)) ∧
      KeepsTimers db (db.after (StartSlaTimers.committed input ambient db)) := by
  have tickets := tickets_of_start db input ambient
  have outbox := outbox_of_start db input ambient
  obtain ⟨t, found, isInstant⟩ : ∃ t, db.tickets.find? input.ticketId = some t ∧
      t.createdAt = input.occurredAt := by
    obtain ⟨_, _, isTicket, isInstant⟩ := SlaProcessor.input_of_start dispatched
    rw [isTicket, isInstant]
    exact sound.created message stored (SlaProcessor.eventName_of_start dispatched)
  rcases StartSlaTimers.timers_committed input fresh with ⟨timers, _⟩ | ⟨vacant, added⟩
  · refine ⟨sound.of_worker ?_ (fun r _ => by rw [timers]) tickets outbox, .of_same timers⟩
    exact ⟨timers ▸ sound.unique, by rw [timers, tickets]; exact sound.started, timers ▸ sound.exclusive⟩
  · have members := StartSlaTimers.mem_timers_of_added added
    refine ⟨sound.of_worker ⟨?_, ?_, ?_⟩ ?_ tickets outbox, ?_⟩
    · intro r member r' member' sameTicket sameKind
      rcases (members r).mp member with old | ⟨kind, rfl⟩
      · rcases (members r').mp member' with old' | ⟨kind', rfl⟩
        · exact sound.unique r old r' old' sameTicket sameKind
        · exact absurd sameTicket (vacant r old)
      · rcases (members r').mp member' with old' | ⟨kind', rfl⟩
        · exact absurd sameTicket.symm (vacant r' old')
        · cases (show kind = kind' from sameKind)
          rfl
    · intro r member
      rw [tickets]
      rcases (members r).mp member with old | ⟨kind, rfl⟩
      · exact sound.started r old
      · exact ⟨t, found, isInstant.symm⟩
    · intro r member
      rcases (members r).mp member with old | ⟨kind, rfl⟩
      · exact sound.exclusive r old
      · exact .inl rfl
    · intro r breached
      constructor
      · intro member
        rcases (members r).mp member with old | ⟨kind, rfl⟩
        · exact old
        · exact absurd rfl breached
      · intro old
        exact (members r).mpr (.inl old)
    · intro id r isRow
      have sameKey : r.id = id := Table.key_of_find? isRow
      exact ⟨r, sameKey ▸ Table.find?_key ((members r).mpr (.inl (Table.mem_of_find? isRow))), .refl r⟩

/-- A sweep that breaches a timer says so once, in a message and in an entry. -/
theorem Sound.of_marked (sound : Sound db) (input : MarkSlaBreachedInput) {ambient : Ambient}
    (requestId : Option String) (fresh : ambient.freshIn db = true) :
    Sound (db.after (MarkSlaBreached.committed input ambient requestId db)) ∧
      KeepsTimers db (db.after (MarkSlaBreached.committed input ambient requestId db)) := by
  cases found : MarkSlaBreached.breaching input ambient db with
  | none =>
      rw [MarkSlaBreached.committed_of_idle found]
      exact ⟨sound, .of_same rfl⟩
  | some pair =>
      obtain ⟨timer, row⟩ := pair
      have replaced := MarkSlaBreached.timers_of_breaching requestId found
      have recorded := MarkSlaBreached.recorded_of_breaching requestId fresh found
      have stored := (MarkSlaBreached.breaching_spec found).1
      have ended := timer.isRunning_iff.mp recorded.running
      have becomes := SlaTimer.later_of_running recorded.running timer.stoppedAt (some ambient.now)
      have breached (id : SlaTimerId) :
          ((db.after (MarkSlaBreached.committed input ambient requestId db)).breached id).toNat
            = (db.breached id).toNat + (decide (timer.id = id)).toNat := by
        rw [Db.breached, recorded.find?_timers]
        by_cases same : id = timer.id
        · rw [if_pos same, same, Db.breached, recorded.stored]
          simp [ended.2]
        · rw [if_neg same]
          simp [Db.breached, Ne.symm same]
      refine ⟨⟨sound.toFitting.replaced stored becomes replaced ?_ (.inl ended.1), ?_, ?_, ?_⟩,
        .replaced stored becomes replaced⟩
      · simp only [MarkSlaBreached.committed, found]
        rfl
      · intro id
        rw [recorded.announcements, sound.announced, breached]
      · intro id
        rw [recorded.breachEntries, sound.audited, breached]
      · intro m inside isCreated
        simp only [MarkSlaBreached.committed, found] at inside ⊢
        rcases Table.mem_of_mem_insert inside with old | rfl
        · exact sound.created m old isCreated
        · simp [MarkSlaBreached.event, outboxRow, OutboxRecord.row, slaBreached, ticketEvent] at isCreated

end Steps

variable {w w' : SlaSystem} {a : SlaAction}

theorem sound_step (sound : Sound w.db) (taken : w.step a = some w') : Sound w'.db ∧ KeepsTimers w.db w'.db := by
  cases SlaSystem.step_stepped taken with
  | request isRequest fresh =>
      exact ⟨sound.of_request isRequest fresh, .of_same (Execution.timers_of_request isRequest _)⟩
  | started found fresh dispatched => exact sound.of_started (Table.mem_of_find? found) fresh dispatched
  | stopped => exact sound.of_stopped _
  | passed => exact ⟨sound, .of_same rfl⟩
  | sweep => exact ⟨sound, .of_same rfl⟩
  | mark pending fresh => exact sound.of_marked _ none fresh

/-- However the deliveries, the sweeps and the requests come, the timers of the tickets fit, what is said about
    them is what is stored, and none was lost or rewritten since any earlier state. -/
theorem slaLedger_of_run {base : Db} {history : List (SlaSystem × SlaAction)}
    (run : Run SlaSystem.step (.initial base.beforeService) history w) :
    SlaLedger w.db ∧ ∀ entry ∈ history, KeepsTimers entry.1.db w.db := by
  have sound_of {history : List (SlaSystem × SlaAction)} {w : SlaSystem}
      (run : Run SlaSystem.step (.initial base.beforeService) history w) : Sound w.db :=
    run.invariant (I := fun w => Sound w.db) (sound_beforeService base) fun _ _ _ before taken =>
      (sound_step before taken).1
  refine ⟨(sound_of run).ledger, ?_⟩
  induction run with
  | start =>
      intro entry member
      cases member
  | step run taken ih =>
      have kept := (sound_step (sound_of run) taken).2
      intro entry member
      rcases List.mem_append.mp member with earlier | last
      · exact (ih entry earlier).trans kept
      · rw [List.mem_singleton.mp last]
        exact kept

section Example

/-- A ticket whose message comes twice. The policy is tightened after its timers were started; it is answered
    in time, and a sweep finds it unresolved after a day. -/
def longDay : List SlaAction :=
  [.request (exampleExecution 0 (.createTicket ⟨⟨1⟩, ⟨2⟩, "Hola", "No entra", .HIGH⟩)),
    .deliver 102 (exampleAmbient 1),
    .request (exampleExecution 2 (.updateSlaPolicy ⟨⟨1⟩, ⟨9⟩, .HIGH, .finite 1, .finite 2⟩)),
    .deliver 102 (exampleAmbient 3),
    .request (exampleExecution 4 (.addComment ⟨⟨1⟩, ⟨3⟩, "AGENT", ⟨100⟩, "Lo miramos"⟩)),
    .deliver 502 (exampleAmbient 5),
    .sweep 10 86400000,
    .mark 0 (exampleAmbient 1440)]

theorem slaLedger_of_run_longDay :
    ∃ history w, Run SlaSystem.step (.initial Db.empty.beforeService) history w ∧
      (w.db.timers.rows.map fun r => (r.startedAt, r.stoppedAt.isSome, r.breachedAt.isSome)) =
        [(0, true, false), (0, false, true)] ∧
      SlaLedger w.db ∧ ∀ entry ∈ history, KeepsTimers entry.1.db w.db := by
  have possible : (play SlaSystem.step (.initial Db.empty.beforeService) longDay).map
      (fun w => w.db.timers.rows.map fun r => (r.startedAt, r.stoppedAt.isSome, r.breachedAt.isSome)) =
        some [(0, true, false), (0, false, true)] := by decide
  obtain ⟨w, played, timers⟩ := Option.map_eq_some_iff.mp possible
  exact ⟨_, w, play_run played, timers, slaLedger_of_run (play_run played)⟩

end Example

end Helpdesk
