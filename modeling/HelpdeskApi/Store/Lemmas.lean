/-
Module: HelpdeskApi.Store.Lemmas
Layer: Store
Purpose: What each repository call does for a transaction of the tenant it names, which is how every use
  case calls it, and which tables each write leaves alone.
Trusted boundary: none
Main exports: Db.ticketOf, Db.after, exec_ticketsFindById, exec_ticketsSave_stored, exec_ticketsSave_fresh,
  exec_auditLogsRecord, exec_outboxAppend, exec_processedClaim_first, exec_processedClaim_again,
  exec_timersSave_stored, exec_timersSave_fresh, exec_timersSave_taken, Call.write?, exec_writes, write_of_exec,
  writes_of_timersSave, timersSave_of_upsert, found_of_running, found_of_id, found_ticket
-/
import HelpdeskApi.Store.Repositories

namespace Helpdesk

open Relational Txn

namespace Db

/-- The ticket a tenant finds under an id. -/
def ticketOf (db : Db) (t : TenantId) (id : TicketId) : Option TicketRow :=
  (db.tickets.find? id).filter fun r => r.tenantId = t

/-- The timer a tenant finds under an id. -/
def timerOf (db : Db) (t : TenantId) (id : SlaTimerId) : Option SlaTimer :=
  (db.timers.find? id).filter fun r => r.tenantId = t

theorem ticketOf_eq_some_iff {db : Db} {t : TenantId} {id : TicketId} {row : TicketRow} :
    db.ticketOf t id = some row ↔ db.tickets.find? id = some row ∧ row.tenantId = t := by
  simp [ticketOf, Option.filter_eq_some_iff]

/-- A ticket a tenant finds is stored. -/
theorem stored_of_ticketOf {db : Db} {t : TenantId} {id : TicketId} {row : TicketRow}
    (located : db.ticketOf t id = some row) : db.tickets.find? row.id = some row :=
  Table.find?_key (Table.mem_of_find? (ticketOf_eq_some_iff.mp located).1)

theorem timerOf_eq_some_iff {db : Db} {t : TenantId} {id : SlaTimerId} {row : SlaTimer} :
    db.timerOf t id = some row ↔ db.timers.find? id = some row ∧ row.tenantId = t := by
  simp [timerOf, Option.filter_eq_some_iff]

theorem visible_tickets_find? (db : Db) (t : TenantId) (id : TicketId) :
    (db.visible (some t)).tickets.find? id = db.ticketOf t id := by
  simp only [visible, Table.find?_filter, ticketOf]
  rfl

theorem visible_timers_find? (db : Db) (t : TenantId) (id : SlaTimerId) :
    (db.visible (some t)).timers.find? id = db.timerOf t id := by
  simp only [visible, Table.find?_filter, timerOf]
  rfl

/-- The database after some writes. -/
def after (db : Db) (writes : List Write) : Db :=
  writes.foldl (fun db w => w.apply db) db

@[simp] theorem after_nil (db : Db) : db.after [] = db := rfl

@[simp] theorem after_cons (db : Db) (w : Write) (writes : List Write) :
    db.after (w :: writes) = (w.apply db).after writes := rfl

@[simp] theorem after_append (db : Db) (ws vs : List Write) :
    db.after (ws ++ vs) = (db.after ws).after vs :=
  List.foldl_append

/-- What the tenant has configured. -/
def overridesOf (db : Db) (t : TenantId) : Overrides :=
  fun p => (db.policies.find? (t, p)).map SlaPolicyRow.target

theorem visible_policies_find? (db : Db) (t : TenantId) (p : TicketPriority) :
    (db.visible (some t)).policies.find? (t, p) = db.policies.find? (t, p) := by
  simp only [visible, Table.find?_filter]
  cases found : db.policies.find? (t, p) with
  | none => rfl
  | some row =>
      have ofTenant : row.tenantId = t := congrArg Prod.fst (Table.key_of_find? found)
      simp [ofTenant]

/-- Whether an id names a row of some table, so that no generator can hand it out again. -/
def usesId (db : Db) (u : Uuid) : Bool :=
  (db.tickets.find? ⟨u⟩).isSome || (db.comments.find? ⟨u⟩).isSome || (db.auditLogs.find? ⟨u⟩).isSome ||
    (db.outbox.find? u).isSome || (db.timers.find? ⟨u⟩).isSome

end Db

section Frames

theorem mem_outbox_insertAll {rows : List OutboxRow} {t : Table OutboxRow} {m : OutboxRow}
    (member : m ∈ (rows.foldl Table.insert t).rows) : m ∈ t.rows ∨ m ∈ rows := by
  induction rows generalizing t with
  | nil => exact .inl member
  | cons row rows ih =>
      rcases ih member with before | later
      · rcases Table.mem_of_mem_insert before with old | rfl
        · exact .inl old
        · exact .inr List.mem_cons_self
      · exact .inr (List.mem_cons_of_mem _ later)

/-- A message that is there stays as it is when others are appended. -/
theorem find?_insertAll {rows : List OutboxRow} {t : Table OutboxRow} {id : Uuid} {m : OutboxRow}
    (stored : t.find? id = some m) : (rows.foldl Table.insert t).find? id = some m := by
  induction rows generalizing t with
  | nil => exact stored
  | cons row rows ih => exact ih (by rw [Table.find?_insert, stored, Option.some_or])

variable (row : ProcessedRow) (db : Db)

@[simp] theorem ticketOf_insertProcessed (t : TenantId) (id : TicketId) :
    ((Write.insertProcessed row).apply db).ticketOf t id = db.ticketOf t id := rfl

@[simp] theorem overridesOf_insertProcessed (t : TenantId) :
    ((Write.insertProcessed row).apply db).overridesOf t = db.overridesOf t := rfl

@[simp] theorem timers_insertProcessed : ((Write.insertProcessed row).apply db).timers = db.timers := rfl

/-- Only saving a timer changes the timers. -/
theorem timers_apply {w : Write} (other : ∀ t, w ≠ .upsertTimer t) (db : Db) :
    (w.apply db).timers = db.timers := by
  cases w with
  | upsertTimer t => exact absurd rfl (other t)
  | _ => rfl

/-- Messages come from the writes that append them. -/
theorem mem_outbox_after {writes : List Write} {db : Db} {m : OutboxRow}
    (member : m ∈ (db.after writes).outbox.rows) :
    m ∈ db.outbox.rows ∨ ∃ rows, .insertOutbox rows ∈ writes ∧ m ∈ rows := by
  induction writes generalizing db with
  | nil => exact .inl member
  | cons w writes ih =>
      rcases ih member with before | ⟨rows, written, inRows⟩
      · cases w with
        | insertOutbox rows =>
            rcases mem_outbox_insertAll before with old | new
            · exact .inl old
            · exact .inr ⟨rows, List.mem_cons_self, new⟩
        | _ => exact .inl before
      · exact .inr ⟨rows, List.mem_cons_of_mem _ written, inRows⟩

/-- What is committed leaves the messages that are there alone. -/
theorem find?_outbox_after (writes : List Write) {db : Db} {id : Uuid} {m : OutboxRow}
    (stored : db.outbox.find? id = some m) : (db.after writes).outbox.find? id = some m := by
  induction writes generalizing db with
  | nil => exact stored
  | cons w writes ih =>
      apply ih
      cases w with
      | insertOutbox rows => exact find?_insertAll stored
      | _ => exact stored

/-- Nor does it undo what has been claimed. -/
theorem find?_processed_after (writes : List Write) {db : Db} {k : String × Uuid} {r : ProcessedRow}
    (stored : db.processed.find? k = some r) : (db.after writes).processed.find? k = some r := by
  induction writes generalizing db with
  | nil => exact stored
  | cons w writes ih =>
      apply ih
      cases w with
      | insertProcessed row => exact (Table.find?_insert db.processed row k).trans (by rw [stored, Option.some_or])
      | _ => exact stored

/-- What a ticket was given when it was opened. -/
structure TicketRow.SameBirth (old new : TicketRow) : Prop where
  id : new.id = old.id
  tenantId : new.tenantId = old.tenantId
  number : new.number = old.number
  requesterId : new.requesterId = old.requesterId
  createdAt : new.createdAt = old.createdAt

theorem TicketRow.SameBirth.refl (row : TicketRow) : row.SameBirth row :=
  ⟨rfl, rfl, rfl, rfl, rfl⟩

theorem TicketRow.SameBirth.trans {row row' row'' : TicketRow} (first : row.SameBirth row')
    (second : row'.SameBirth row'') : row.SameBirth row'' where
  id := second.id.trans first.id
  tenantId := second.tenantId.trans first.tenantId
  number := second.number.trans first.number
  requesterId := second.requesterId.trans first.requesterId
  createdAt := second.createdAt.trans first.createdAt

theorem TicketRow.sameBirth_update (ticket : Ticket) (row : TicketRow) : row.SameBirth (updateTicketRow ticket row) :=
  ⟨rfl, rfl, rfl, rfl, rfl⟩

/-- It has that for good. -/
theorem births_after (writes : List Write) {db : Db} {id : TicketId} {row : TicketRow}
    (stored : db.tickets.find? id = some row) :
    ∃ row', (db.after writes).tickets.find? id = some row' ∧ row.SameBirth row' := by
  induction writes generalizing db row with
  | nil => exact ⟨row, stored, .refl row⟩
  | cons w writes ih =>
      cases w with
      | upsertTicket ticket =>
          have saved : ((Write.upsertTicket ticket).apply db).tickets.find? id =
              some (if id = ticket.id then updateTicketRow ticket row else row) := by
            change (db.tickets.upsert _ _ _).find? id = _
            rw [Table.find?_upsert, stored, key_ticketRow]
            change (if id = ticket.id then _ else _) = _
            split <;> rfl
          obtain ⟨row', stored', sameBirth⟩ := ih saved
          refine ⟨row', stored', .trans ?_ sameBirth⟩
          split
          · exact row.sameBirth_update ticket
          · exact .refl row
      | _ => exact ih stored

end Frames

section Exec

variable {ctx : Ctx} {db : Db} {t : TenantId}

theorem exec_ticketsFindById (own : ctx.tenant = some t) (id : TicketId) :
    exec ctx (.ticketsFindById t id) db = some ((db.ticketOf t id).map toTicket, []) := by
  simp only [exec, own, Db.visible_tickets_find?]
  congr 2
  cases found : db.ticketOf t id with
  | none => rfl
  | some row => simp [(Db.ticketOf_eq_some_iff.mp found).2]

theorem exec_timersFindById (own : ctx.tenant = some t) (id : SlaTimerId) :
    exec ctx (.timersFindById t id) db = some (db.timerOf t id, []) := by
  simp only [exec, own, Db.visible_timers_find?]
  congr 2
  cases found : db.timerOf t id with
  | none => rfl
  | some row => simp [(Db.timerOf_eq_some_iff.mp found).2]

theorem exec_membersIsMember (own : ctx.tenant = some t) (u : UserId) :
    exec ctx (.membersIsMember t u) db =
      some (db.memberships.any fun r => r.tenantId = t ∧ r.userId = u, []) := by
  simp only [exec, own, Db.visible, Table.any, Table.filter, List.any_filter]
  congr 3
  funext r
  by_cases ofTenant : r.tenantId = t <;> simp [ofTenant]

theorem exec_policiesOverridesOf (own : ctx.tenant = some t) :
    exec ctx (.policiesOverridesOf t) db = some (db.overridesOf t, []) := by
  simp only [exec, own, Db.visible_policies_find?]
  rfl

theorem exec_timersFindRunning (own : ctx.tenant = some t) (ticketId : TicketId) (kind : SlaKind) :
    exec ctx (.timersFindRunning t ticketId kind) db =
      some (db.timers.findFirst fun r =>
        r.tenantId = t ∧ r.ticketId = ticketId ∧ r.kind = kind ∧ r.isRunning, []) := by
  simp only [exec, own, Db.visible, Table.findFirst, Table.filter, List.find?_filter]
  congr 3
  funext r
  by_cases ofTenant : r.tenantId = t <;> simp [ofTenant]

/-- Saving a ticket the tenant has is an update. -/
theorem exec_ticketsSave_stored (own : ctx.tenant = some t) {ticket : Ticket} {row : TicketRow}
    (stored : db.ticketOf t ticket.id = some row) :
    exec ctx (.ticketsSave ticket) db = some ((), [.upsertTicket ticket]) := by
  simp only [exec, own, Db.visible_tickets_find?, stored]

/-- Saving a ticket under an id nobody has creates it, if its number is free. -/
theorem exec_ticketsSave_fresh {ticket : Ticket} (own : ctx.tenant = some ticket.tenantId)
    (fresh : db.tickets.find? ticket.id = none)
    (numberFree : ∀ r ∈ db.tickets.rows, r.tenantId = ticket.tenantId → r.number ≠ ticket.number) :
    exec ctx (.ticketsSave ticket) db = some ((), [.upsertTicket ticket]) := by
  have unseen : db.ticketOf ticket.tenantId ticket.id = none := by simp [Db.ticketOf, fresh]
  have unnumbered : db.tickets.any
      (fun r => decide (r.tenantId = ticket.tenantId) && decide (r.number = ticket.number)) = false := by
    simpa [Table.any] using numberFree
  simp [exec, own, Db.visible_tickets_find?, unseen, fresh, unnumbered]

theorem exec_commentsSave {comment : Comment} (own : ctx.tenant = some comment.tenantId)
    (fresh : db.comments.find? comment.id = none) :
    exec ctx (.commentsSave comment) db = some ((), [.insertComment comment]) := by
  simp [exec, own, fresh]

theorem exec_auditLogsRecord {entry : AuditLog} (own : ctx.tenant = some entry.tenantId)
    (fresh : db.auditLogs.find? entry.id = none) :
    exec ctx (.auditLogsRecord entry) db = some ((), [.insertAuditLog entry]) := by
  simp [exec, own, fresh]

/-- Appending one record, the only batch the recorder ever makes of one command. -/
theorem exec_outboxAppend {record : OutboxRecord} (own : ctx.tenant = some record.tenantId)
    (fresh : db.outbox.find? record.id = none) :
    exec ctx (.outboxAppend [record]) db = some ((), [.insertOutbox [record.row ctx.requestId]]) := by
  simp [exec, own, fresh]

/-- The first claim of an event by a consumer leaves its mark. -/
theorem exec_processedClaim_first (own : ctx.tenant = some t) {consumer : String} {eventId : Uuid}
    (unmarked : db.processed.find? (consumer, eventId) = none) :
    exec ctx (.processedClaim consumer eventId t) db =
      some (true, [.insertProcessed { consumer := consumer, eventId := eventId, tenantId := t }]) := by
  simp [exec, own, unmarked]

/-- Every later claim does nothing. -/
theorem exec_processedClaim_again (own : ctx.tenant = some t) {consumer : String} {eventId : Uuid}
    {row : ProcessedRow} (marked : db.processed.find? (consumer, eventId) = some row) :
    exec ctx (.processedClaim consumer eventId t) db = some (false, []) := by
  simp [exec, own, marked]

/-- Saving a timer the tenant has is an update. -/
theorem exec_timersSave_stored (own : ctx.tenant = some t) {timer row : SlaTimer}
    (stored : db.timerOf t timer.id = some row) :
    exec ctx (.timersSave timer) db = some ((), [.upsertTimer timer]) := by
  simp only [exec, own, Db.visible_timers_find?, stored]

/-- Saving a timer under an id nobody has creates it, if its ticket has no timer of its kind. -/
theorem exec_timersSave_fresh {timer : SlaTimer} (own : ctx.tenant = some timer.tenantId)
    (fresh : db.timers.find? timer.id = none)
    (slotFree : ∀ r ∈ db.timers.rows, r.ticketId = timer.ticketId → r.kind ≠ timer.kind) :
    exec ctx (.timersSave timer) db = some ((), [.upsertTimer timer]) := by
  have unseen : db.timerOf timer.tenantId timer.id = none := by simp [Db.timerOf, fresh]
  have vacant : db.timers.any
      (fun r => decide (r.ticketId = timer.ticketId) && decide (r.kind = timer.kind)) = false := by
    simpa [Table.any] using slotFree
  simp [exec, own, Db.visible_timers_find?, unseen, fresh, vacant]

/-- Creating a second timer of one kind for a ticket violates the unique index. -/
theorem exec_timersSave_taken {timer : SlaTimer} (own : ctx.tenant = some t)
    (fresh : db.timers.find? timer.id = none) {r : SlaTimer} (stored : r ∈ db.timers.rows)
    (sameTicket : r.ticketId = timer.ticketId) (sameKind : r.kind = timer.kind) :
    exec ctx (.timersSave timer) db = none := by
  have unseen : db.timerOf t timer.id = none := by simp [Db.timerOf, fresh]
  have occupied : db.timers.any
      (fun r => decide (r.ticketId = timer.ticketId) && decide (r.kind = timer.kind)) = true := by
    simp only [Table.any, List.any_eq_true]
    exact ⟨r, stored, by simp [sameTicket, sameKind]⟩
  simp [exec, own, Db.visible_timers_find?, unseen, occupied]

theorem exec_policiesUpsert (own : ctx.tenant = some t) (priority : TicketPriority) (target : SlaTarget)
    (now : Instant) :
    exec ctx (.policiesUpsert t priority target now) db =
      some ((), [.upsertPolicy
        { tenantId := t
          priority := priority
          responseMinutes := target.responseMinutes
          resolutionMinutes := target.resolutionMinutes
          updatedAt := now }]) := by
  simp [exec, own]

theorem exec_policiesRemove_stored (own : ctx.tenant = some t) {priority : TicketPriority}
    {row : SlaPolicyRow} (stored : db.policies.find? (t, priority) = some row) :
    exec ctx (.policiesRemove t priority) db = some (true, [.deletePolicy t priority]) := by
  simp [exec, own, Db.visible_policies_find?, stored]

theorem exec_policiesRemove_absent (own : ctx.tenant = some t) {priority : TicketPriority}
    (absent : db.policies.find? (t, priority) = none) :
    exec ctx (.policiesRemove t priority) db = some (false, []) := by
  simp [exec, own, Db.visible_policies_find?, absent]

theorem exec_numbersNext (own : ctx.tenant = some t) :
    exec ctx (.numbersNext t) db =
      some ((db.counters.find? t).elim 1 (·.nextNumber), [.bumpCounter t]) := by
  simp [exec, own]

/-- A repository call that succeeds hands its reply on, to the database it has changed. -/
theorem run_exec {α : Type} {c : Call} {next : c.Reply → Proc sig α} {reply : c.Reply} {writes : List Write}
    (answered : exec ctx c db = some (reply, writes)) :
    (Proc.call (S := sig) c next).run repositories ctx db =
      (next reply).run repositories ctx (db.after writes) :=
  Proc.run_call answered

theorem run_exec_failed {α : Type} {c : Call} {next : c.Reply → Proc sig α} (failed : exec ctx c db = none) :
    (Proc.call (S := sig) c next).run repositories ctx db = none :=
  Proc.run_call_failed failed

end Exec

section Writes

/-- The one write a call can make. -/
def Call.write? (requestId : Option String) : Call → Option Write
  | .numbersNext tenantId => some (.bumpCounter tenantId)
  | .ticketsSave ticket => some (.upsertTicket ticket)
  | .commentsSave comment => some (.insertComment comment)
  | .auditLogsRecord entry => some (.insertAuditLog entry)
  | .outboxAppend records => some (.insertOutbox (records.map (·.row requestId)))
  | .processedClaim consumer eventId tenantId =>
      some (.insertProcessed { consumer := consumer, eventId := eventId, tenantId := tenantId })
  | .policiesUpsert tenantId priority target now =>
      some (.upsertPolicy
        { tenantId := tenantId
          priority := priority
          responseMinutes := target.responseMinutes
          resolutionMinutes := target.resolutionMinutes
          updatedAt := now })
  | .policiesRemove tenantId priority => some (.deletePolicy tenantId priority)
  | .timersSave timer => some (.upsertTimer timer)
  | _ => none

/-- A call writes that, or nothing. -/
theorem exec_writes {ctx : Ctx} {c : Call} {db : Db} {reply : c.Reply} {writes : List Write}
    (answered : exec ctx c db = some (reply, writes)) :
    writes = [] ∨ ∃ w, c.write? ctx.requestId = some w ∧ writes = [w] := by
  cases c with
  | membersIsMember | membersAgentsOf | ticketsFindById | policiesOverridesOf | timersFindById
  | timersFindRunning | ticketsFindMany | ticketsFindWithRelations | auditLogsFindMany =>
      cases answered
      exact .inl rfl
  | numbersNext | commentsSave | auditLogsRecord | policiesUpsert =>
      simp only [exec] at answered
      split at answered
      · cases answered
        exact .inr ⟨_, rfl, rfl⟩
      · cases answered
  | outboxAppend records =>
      simp only [exec] at answered
      split at answered
      · cases answered
        split
        · exact .inl rfl
        · exact .inr ⟨_, rfl, rfl⟩
      · cases answered
  | processedClaim consumer eventId tenantId =>
      simp only [exec] at answered
      split at answered
      · split at answered
        · cases answered
          exact .inl rfl
        · cases answered
          exact .inr ⟨_, rfl, rfl⟩
      · cases answered
  | policiesRemove tenantId priority =>
      simp only [exec] at answered
      split at answered
      · cases answered
        exact .inr ⟨_, rfl, rfl⟩
      · cases answered
        exact .inl rfl
  | ticketsSave | timersSave =>
      simp only [exec] at answered
      split at answered
      · cases answered
        exact .inr ⟨_, rfl, rfl⟩
      · split at answered
        · cases answered
          exact .inr ⟨_, rfl, rfl⟩
        · cases answered

/-- The write of a call that made one. -/
theorem write_of_exec {ctx : Ctx} {c : Call} {db : Db} {reply : c.Reply} {writes : List Write}
    (answered : exec ctx c db = some (reply, writes)) {w : Write} (written : w ∈ writes) :
    c.write? ctx.requestId = some w := by
  rcases exec_writes answered with rfl | ⟨w', made, rfl⟩
  · cases written
  · exact List.mem_singleton.mp written ▸ made

variable {ctx : Ctx} {db : Db}

/-- What an event of a transaction was computed from. -/
theorem exec_of_plausible {c : Call} {o : Outcome sig Write RowKey c}
    (produced : repositories.transactional.Plausible ctx ⟨c, o⟩) :
    ∃ db, exec ctx c db = some (o.reply, o.writes) :=
  (repositories.plausible_transactional produced).1

/-- A read writes nothing. -/
theorem writes_of_read {c : Call} (isRead : ∀ requestId, c.write? requestId = none) {reply : c.Reply}
    {writes : List Write} (answered : exec ctx c db = some (reply, writes)) : writes = [] := by
  apply (exec_writes answered).resolve_right
  rintro ⟨w, made, _⟩
  cases (isRead _).symm.trans made

theorem writes_of_timersSave {timer : SlaTimer} {reply : Unit} {writes : List Write}
    (answered : exec ctx (.timersSave timer) db = some (reply, writes)) : writes = [.upsertTimer timer] := by
  simp only [exec] at answered
  split at answered
  · cases answered
    rfl
  · split at answered
    · cases answered
      rfl
    · cases answered

theorem writes_of_ticketsSave {ticket : Ticket} {reply : Unit} {writes : List Write}
    (answered : exec ctx (.ticketsSave ticket) db = some (reply, writes)) : writes = [.upsertTicket ticket] := by
  simp only [exec] at answered
  split at answered
  · cases answered
    rfl
  · split at answered
    · cases answered
      rfl
    · cases answered

theorem writes_of_auditLogsRecord {entry : AuditLog} {reply : Unit} {writes : List Write}
    (answered : exec ctx (.auditLogsRecord entry) db = some (reply, writes)) :
    writes = [.insertAuditLog entry] := by
  simp only [exec] at answered
  split at answered
  · cases answered
    rfl
  · cases answered

/-- Saving is the only way to write a timer. -/
theorem timersSave_of_upsert {c : Call} {reply : c.Reply} {writes : List Write}
    (answered : exec ctx c db = some (reply, writes)) {t : SlaTimer} (written : .upsertTimer t ∈ writes) :
    c = .timersSave t := by
  have made := write_of_exec answered written
  cases c with
  | timersSave timer =>
      cases made
      rfl
  | _ => cases made

/-- Saving is the only way to write a ticket. -/
theorem ticketsSave_of_upsert {c : Call} {reply : c.Reply} {writes : List Write}
    (answered : exec ctx c db = some (reply, writes)) {ticket : Ticket}
    (written : .upsertTicket ticket ∈ writes) : c = .ticketsSave ticket := by
  have made := write_of_exec answered written
  cases c with
  | ticketsSave ticket' =>
      cases made
      rfl
  | _ => cases made

theorem writes_of_numbersNext {t : TenantId} {reply : Int} {writes : List Write}
    (answered : exec ctx (.numbersNext t) db = some (reply, writes)) : writes = [.bumpCounter t] := by
  simp only [exec] at answered
  split at answered
  · cases answered
    rfl
  · cases answered

/-- Taking a number is the only way to bump a counter. -/
theorem numbersNext_of_bump {c : Call} {reply : c.Reply} {writes : List Write}
    (answered : exec ctx c db = some (reply, writes)) {t : TenantId} (written : .bumpCounter t ∈ writes) :
    c = .numbersNext t := by
  have made := write_of_exec answered written
  cases c with
  | numbersNext t' =>
      cases made
      rfl
  | _ => cases made

/-- What a search for a running timer finds. -/
theorem found_of_running {t : TenantId} {ticketId : TicketId} {kind : SlaKind} {r : SlaTimer}
    {writes : List Write} (answered : exec ctx (.timersFindRunning t ticketId kind) db = some (some r, writes)) :
    r ∈ db.timers.rows ∧ r.ticketId = ticketId ∧ r.kind = kind ∧ r.isRunning = true := by
  simp only [exec, Option.some.injEq, Prod.mk.injEq] at answered
  have found := Table.findFirst_mem answered.1
  simp only [Db.visible, Table.filter, List.mem_filter, decide_eq_true_eq] at found
  exact ⟨found.1.1, found.2.2.1, found.2.2.2.1, found.2.2.2.2⟩

/-- What a search by id finds. -/
theorem found_of_id {t : TenantId} {id : SlaTimerId} {r : SlaTimer} {writes : List Write}
    (answered : exec ctx (.timersFindById t id) db = some (some r, writes)) :
    r ∈ db.timers.rows ∧ r.id = id := by
  simp only [exec, Option.some.injEq, Prod.mk.injEq] at answered
  obtain ⟨shown, _⟩ := Option.filter_eq_some_iff.mp answered.1
  have member := Table.mem_of_find? shown
  simp only [Db.visible, Table.filter, List.mem_filter] at member
  exact ⟨member.1, Table.key_of_find? shown⟩

/-- A ticket that is found comes from a row. -/
theorem found_ticket {t : TenantId} {id : TicketId} {ticket : Ticket} {writes : List Write}
    (answered : exec ctx (.ticketsFindById t id) db = some (some ticket, writes)) :
    ∃ row, db.tickets.find? id = some row ∧ ticket = toTicket row := by
  simp only [exec, Option.some.injEq, Prod.mk.injEq, Option.map_eq_some_iff] at answered
  obtain ⟨⟨row, located, same⟩, _⟩ := answered
  obtain ⟨shown, _⟩ := Option.filter_eq_some_iff.mp located
  simp only [Db.visible, Table.find?_filter, Option.filter_eq_some_iff] at shown
  exact ⟨row, shown.1, same.symm⟩

end Writes

end Helpdesk
