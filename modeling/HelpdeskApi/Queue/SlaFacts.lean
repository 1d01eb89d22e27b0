/-
Module: HelpdeskApi.Queue.SlaFacts
Layer: Queue
Purpose: What requests, workers and sweeps leave in the outbox and in the audit log, as far as service
  levels are concerned: which requests record a fact a timer waits for, and that only a sweep reports a
  breach.
Trusted boundary: none
Main exports: OutboxRow.breachedTimer, AuditLog.breachedTimer, BreachRecorded, Execution.fact,
  Execution.recorded_of_request
-/
import HelpdeskApi.Queue.TimerChanges
import HelpdeskApi.Queue.Processors

namespace Helpdesk

open Relational

/-- The timer whose breach a message reports. -/
def OutboxRow.breachedTimer (m : OutboxRow) : Option SlaTimerId :=
  if m.eventName = "sla.breached" then
    match m.payload.field? "timerId" with
    | some (.uuid u) => some ⟨u⟩
    | _ => none
  else none

/-- The timer whose breach an audit entry records. -/
def AuditLog.breachedTimer (a : AuditLog) : Option SlaTimerId :=
  match a.metadata with
  | .slaBreach timerId _ _ => some timerId
  | _ => none

section Breaches

/-- How many messages report the breach of the timer. -/
def Db.announcements (db : Db) (id : SlaTimerId) : Nat :=
  db.outbox.rows.countP fun m => m.breachedTimer = some id

/-- How many audit entries record it. -/
def Db.breachEntries (db : Db) (id : SlaTimerId) : Nat :=
  db.auditLogs.rows.countP fun a => a.breachedTimer = some id

/-- The breach of a running timer is recorded: its row gets the instant, and there is one more message and
    one more entry about it. -/
structure BreachRecorded (db : Db) (timer : SlaTimer) (breachedAt : Instant) (db' : Db) : Prop where
  stored : db.timers.find? timer.id = some timer
  running : timer.isRunning = true
  timers : db'.timers = ((Write.upsertTimer { timer with breachedAt := some breachedAt }).apply db).timers
  announcements : ∀ id, db'.announcements id = db.announcements id + (decide (timer.id = id)).toNat
  breachEntries : ∀ id, db'.breachEntries id = db.breachEntries id + (decide (timer.id = id)).toNat

theorem BreachRecorded.of_writes {db : Db} {timer : SlaTimer} {breachedAt : Instant} {entry : AuditLog}
    {m : OutboxRow} (stored : db.timers.find? timer.id = some timer) (running : timer.isRunning = true)
    (unaudited : db.auditLogs.find? entry.id = none) (unsent : db.outbox.find? m.id = none)
    (audited : entry.breachedTimer = some timer.id) (announced : m.breachedTimer = some timer.id) :
    BreachRecorded db timer breachedAt (db.after
      [.upsertTimer { timer with breachedAt := some breachedAt }, .insertAuditLog entry, .insertOutbox [m]]) where
  stored := stored
  running := running
  timers := rfl
  announcements id := by
    have inserted : (db.outbox.insert m).rows.countP (fun m => decide (m.breachedTimer = some id)) = _ :=
      Table.countP_insert unsent _
    simp only [announced, Option.some.injEq] at inserted
    exact inserted
  breachEntries id := by
    have inserted : (db.auditLogs.insert entry).rows.countP (fun a => decide (a.breachedTimer = some id)) = _ :=
      Table.countP_insert unaudited _
    simp only [audited, Option.some.injEq] at inserted
    exact inserted

/-- The row of the timer afterwards. -/
theorem BreachRecorded.find?_timers {db db' : Db} {timer : SlaTimer} {breachedAt : Instant}
    (recorded : BreachRecorded db timer breachedAt db') (id : SlaTimerId) :
    db'.timers.find? id =
      if id = timer.id then some { timer with breachedAt := some breachedAt } else db.timers.find? id := by
  rw [recorded.timers]
  simp only [Write.apply, Table.find?_upsert, key_timer]
  by_cases isTimer : id = timer.id
  · rw [if_pos isTimer, if_pos isTimer, isTimer, recorded.stored]
    rfl
  · rw [if_neg isTimer, if_neg isTimer]

/-- The timer a sweep is about to breach is running. -/
theorem MarkSlaBreached.running_of_breaching {input : MarkSlaBreachedInput} {ambient : Ambient} {db : Db}
    {timer : SlaTimer} {row : TicketRow} (found : breaching input ambient db = some (timer, row)) :
    timer.isRunning = true := by
  obtain ⟨_, _, _, overdue, _⟩ := breaching_spec found
  have unended := (timer.isOverdue_iff _).mp overdue
  exact timer.isRunning_iff.mpr ⟨unended.1, unended.2.1⟩

/-- What a sweep that breaches a timer records. -/
theorem MarkSlaBreached.recorded_of_breaching {input : MarkSlaBreachedInput} {ambient : Ambient} {db : Db}
    {timer : SlaTimer} {row : TicketRow} (requestId : Option String) (fresh : ambient.freshIn db = true)
    (found : breaching input ambient db = some (timer, row)) :
    BreachRecorded db timer ambient.now (db.after (committed input ambient requestId db)) := by
  obtain ⟨unused₀, unused₁, _⟩ := Ambient.unused_of_freshIn fresh
  simp only [committed, found]
  refine .of_writes (Table.find?_key (breaching_spec found).1) (running_of_breaching found) ?_ ?_ rfl rfl
  · exact unused₀.auditLog
  · exact unused₁.outbox

end Breaches

section Unchanged

variable (db : Db)

/-- Workers write neither messages nor audit entries. -/
theorem outbox_of_start (input : StartSlaTimersInput) (ambient : Ambient) :
    (db.after (StartSlaTimers.committed input ambient db)).outbox = db.outbox ∧
      (db.after (StartSlaTimers.committed input ambient db)).auditLogs = db.auditLogs := by
  unfold StartSlaTimers.committed
  split
  · exact ⟨rfl, rfl⟩
  · split <;> exact ⟨rfl, rfl⟩

theorem outbox_of_stop (input : StopSlaTimerInput) :
    (db.after (StopSlaTimer.committed input db)).outbox = db.outbox ∧
      (db.after (StopSlaTimer.committed input db)).auditLogs = db.auditLogs := by
  unfold StopSlaTimer.committed
  split
  · exact ⟨rfl, rfl⟩
  · split <;> exact ⟨rfl, rfl⟩

/-- Nor do they write tickets. -/
theorem tickets_of_start (input : StartSlaTimersInput) (ambient : Ambient) :
    (db.after (StartSlaTimers.committed input ambient db)).tickets = db.tickets := by
  unfold StartSlaTimers.committed
  split
  · rfl
  · split <;> rfl

theorem tickets_of_stop (input : StopSlaTimerInput) :
    (db.after (StopSlaTimer.committed input db)).tickets = db.tickets := by
  unfold StopSlaTimer.committed
  split
  · rfl
  · split <;> rfl

theorem tickets_of_mark (input : MarkSlaBreachedInput) (ambient : Ambient) (requestId : Option String) :
    (db.after (MarkSlaBreached.committed input ambient requestId db)).tickets = db.tickets := by
  unfold MarkSlaBreached.committed
  split <;> rfl

end Unchanged

/-- The kind of timer that waits for what a request is about to do, with the ticket it does it to. -/
def Execution.fact (e : Execution) (db : Db) : Option (SlaKind × TicketRow) :=
  match e.useCase with
  | .addComment input =>
      if isResponder input.actorRole then
        (AddComment.commentable input db).map fun row => (.RESPONSE, row)
      else none
  | .changeTicketStatus input =>
      if input.status = .RESOLVED then
        (ChangeTicketStatus.transitioning input db).map fun row => (.RESOLUTION, row)
      else none
  | _ => none

/-- A message that records the fact of a request. -/
structure OutboxRow.Records (m : OutboxRow) (e : Execution) (kind : SlaKind) (row : TicketRow) : Prop where
  fulfils : m.job.fulfils kind = true
  tenantId : m.tenantId = row.tenantId
  aggregateId : m.aggregateId = row.id.uuid
  occurredAt : m.occurredAt = e.ambient.now

namespace Execution

variable {e : Execution} {db : Db}

/-- What one request adds to the outbox and to the audit log. -/
structure Recorded (e : Execution) (db db' : Db) : Prop where
  messagesKept : ∀ m ∈ db.outbox.rows, m ∈ db'.outbox.rows
  messages : ∀ m ∈ db'.outbox.rows, m ∈ db.outbox.rows ∨
    (m.breachedTimer = none ∧ ∀ kind, m.job.fulfils kind = true → ∃ row, e.fact db = some (kind, row) ∧
      m.Records e kind row)
  entries : ∀ a ∈ db'.auditLogs.rows, a ∈ db.auditLogs.rows ∨ a.breachedTimer = none

/-- A request that records nothing. -/
theorem Recorded.refl (e : Execution) (db : Db) : e.Recorded db db where
  messagesKept _ member := member
  messages _ member := .inl member
  entries _ member := .inl member

/-- A request that records one entry and one message. -/
theorem Recorded.of_insert {db' : Db} {entry : AuditLog} {message : OutboxRow}
    (audited : db'.auditLogs = db.auditLogs.insert entry) (appended : db'.outbox = db.outbox.insert message)
    (noBreachEntry : entry.breachedTimer = none) (noBreach : message.breachedTimer = none)
    (facts : ∀ kind, message.job.fulfils kind = true → ∃ row, e.fact db = some (kind, row) ∧
      message.Records e kind row) : e.Recorded db db' where
  messagesKept _ member := appended ▸ Table.mem_insert_of_mem message member
  messages m member := by
    rcases Table.mem_of_mem_insert (appended ▸ member) with old | rfl
    · exact .inl old
    · exact .inr ⟨noBreach, facts⟩
  entries a member := by
    rcases Table.mem_of_mem_insert (audited ▸ member) with old | rfl
    · exact .inl old
    · exact .inr noBreachEntry

/-- A request that changes a policy leaves the outbox alone. -/
theorem Recorded.of_entry {db' : Db} {entry : AuditLog} (audited : db'.auditLogs = db.auditLogs.insert entry)
    (same : db'.outbox = db.outbox) (noBreachEntry : entry.breachedTimer = none) : e.Recorded db db' where
  messagesKept _ member := same ▸ member
  messages _ member := .inl (same ▸ member)
  entries a member := by
    rcases Table.mem_of_mem_insert (audited ▸ member) with old | rfl
    · exact .inl old
    · exact .inr noBreachEntry

theorem recorded_comment {input : AddCommentInput} {row : TicketRow} (asked : e.useCase = .addComment input)
    (accepted : AddComment.commentable input db = some row) (kind : SlaKind)
    (fulfilled : (outboxRow (e.ambient.uuid 2) e.requestId (AddComment.event input e.ambient row)).job.fulfils kind =
      true) : e.fact db = some (kind, row) := by
  cases kind with
  | RESPONSE =>
      have responder : isResponder input.actorRole = true := by
        simpa [EventJobData.fulfils, OutboxRow.job, outboxRow, OutboxRecord.row, AddComment.event,
          commentAdded, ticketEvent, Payload.byResponder, Payload.field?, List.lookup_cons] using fulfilled
      simp [fact, asked, responder, accepted]
  | RESOLUTION =>
      simp [EventJobData.fulfils, OutboxRow.job, outboxRow, OutboxRecord.row, AddComment.event,
        commentAdded, ticketEvent] at fulfilled

theorem recorded_move {input : ChangeTicketStatusInput} {row : TicketRow}
    (asked : e.useCase = .changeTicketStatus input)
    (accepted : ChangeTicketStatus.transitioning input db = some row) (kind : SlaKind)
    (fulfilled : (outboxRow (e.ambient.uuid 1) e.requestId
      (ChangeTicketStatus.event input e.ambient row)).job.fulfils kind = true) : e.fact db = some (kind, row) := by
  cases kind with
  | RESPONSE =>
      simp [EventJobData.fulfils, OutboxRow.job, outboxRow, OutboxRecord.row,
        ChangeTicketStatus.event, ticketStatusChanged, ticketEvent] at fulfilled
  | RESOLUTION =>
      have resolved : input.status = .RESOLVED := by
        cases status : input.status <;>
          simp [EventJobData.fulfils, OutboxRow.job, outboxRow, OutboxRecord.row,
            ChangeTicketStatus.event, ticketStatusChanged, ticketEvent, Payload.field?, List.lookup_cons,
            status, TicketStatus.text] at fulfilled ⊢
      simp [fact, asked, resolved, accepted]

/-- What a request leaves in the outbox and in the audit log. -/
theorem recorded_of_request (isRequest : e.useCase.isRequest = true) (db : Db) :
    e.Recorded db (db.after (e.committed db)) := by
  have noFact {m : OutboxRow} (other : ∀ kind, m.job.fulfils kind = false) (kind : SlaKind)
      (fulfilled : m.job.fulfils kind = true) : ∃ row, e.fact db = some (kind, row) ∧ m.Records e kind row := by
    simp [other kind] at fulfilled
  have commits := e.commits db
  generalize e.committed db = writes at commits ⊢
  cases commits with
  | autoMarked asked | autoAssigned asked | started asked | stopMarked asked | stopped asked | breached asked =>
      simp [asked, UseCase.isRequest] at isRequest
  | nothing => exact .refl e db
  | created => exact .of_insert rfl rfl rfl rfl (noFact fun kind => by cases kind <;> rfl)
  | @assigned input =>
      cases requested : input.assigneeId <;>
        exact .of_insert rfl rfl rfl (by simp [AssignTicket.event, requested]; rfl)
          (noFact fun kind => by cases kind <;> simp [AssignTicket.event, requested] <;> rfl)
  | moved asked accepted =>
      exact .of_insert rfl rfl rfl rfl fun kind fulfilled =>
        ⟨_, recorded_move asked accepted kind fulfilled, fulfilled, rfl, rfl, rfl⟩
  | commented asked accepted =>
      exact .of_insert rfl rfl rfl rfl fun kind fulfilled =>
        ⟨_, recorded_comment asked accepted kind fulfilled, fulfilled, rfl, rfl, rfl⟩
  | policyUpdated | policyReset => exact .of_entry rfl rfl rfl

end Execution

end Helpdesk
