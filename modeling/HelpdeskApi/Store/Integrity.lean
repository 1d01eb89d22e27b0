/-
Module: HelpdeskApi.Store.Integrity
Layer: Store
Purpose: What the foreign keys of the tables say, and what they do not say: whoever and whatever a row refers to is
  there, in the organisation of the row. A write that refers to what is there keeps this up (`Db.Linked.apply`),
  and so do writes that wait for their commit, if the rows they are about are locked until then (`Waiting.later`).
Trusted boundary: none
Main exports: Db.Knows, Db.Has, Db.Linked, Db.Onwards, Write.Linked, Waiting, Db.Linked.apply, Waiting.later,
  Waiting.linked, Waiting.others
-/
import HelpdeskApi.Store.ReadSets
import HelpdeskApi.Store.Tenants

namespace Helpdesk

open Relational Txn

namespace Db

/-- Somebody is a member of an organisation. -/
def Knows (db : Db) (t : TenantId) (u : UserId) : Prop :=
  ∃ m ∈ db.memberships.rows, m.tenantId = t ∧ m.userId = u

/-- An organisation has a ticket. -/
def Has (db : Db) (t : TenantId) (id : TicketId) : Prop :=
  ∃ row, db.tickets.find? id = some row ∧ row.tenantId = t

/-- Whoever and whatever a row refers to is there, in the organisation of the row. -/
structure Linked (db : Db) : Prop where
  requesters : ∀ r ∈ db.tickets.rows, db.Knows r.tenantId r.requesterId
  assignees : ∀ r ∈ db.tickets.rows, ∀ u, r.assigneeId = some u → db.Knows r.tenantId u
  authors : ∀ c ∈ db.comments.rows, db.Knows c.tenantId c.authorId
  commented : ∀ c ∈ db.comments.rows, db.Has c.tenantId c.ticketId
  actors : ∀ a ∈ db.auditLogs.rows, a.actorId = SYSTEM_ACTOR_ID ∨ db.Knows a.tenantId a.actorId
  audited : ∀ a ∈ db.auditLogs.rows, a.entityType = "ticket" → db.Has a.tenantId ⟨a.entityId⟩
  announced : ∀ m ∈ db.outbox.rows, db.Has m.tenantId ⟨m.aggregateId⟩
  timed : ∀ r ∈ db.timers.rows, db.Has r.tenantId r.ticketId

/-- Nobody leaves, and no ticket goes away or to another organisation. -/
structure Onwards (db db' : Db) : Prop where
  knows : ∀ {t u}, db.Knows t u → db'.Knows t u
  has : ∀ {t id}, db.Has t id → db'.Has t id

variable {db db' db₁ db₂ db₃ : Db}

theorem Onwards.refl (db : Db) : db.Onwards db := ⟨id, id⟩

theorem Onwards.trans (first : db₁.Onwards db₂) (second : db₂.Onwards db₃) : db₁.Onwards db₃ :=
  ⟨fun known => second.knows (first.knows known), fun had => second.has (first.has had)⟩

/-- Where the rows are the same, and nobody is gone whom they refer to, they are linked still. -/
theorem Linked.onwards (linked : db.Linked) (goes : db.Onwards db') (tickets : db'.tickets = db.tickets)
    (comments : db'.comments = db.comments) (auditLogs : db'.auditLogs = db.auditLogs)
    (outbox : db'.outbox = db.outbox) (timers : db'.timers = db.timers) : db'.Linked where
  requesters r inside := goes.knows (linked.requesters r (tickets ▸ inside))
  assignees r inside u assigned := goes.knows (linked.assignees r (tickets ▸ inside) u assigned)
  authors c inside := goes.knows (linked.authors c (comments ▸ inside))
  commented c inside := goes.has (linked.commented c (comments ▸ inside))
  actors a inside := (linked.actors a (auditLogs ▸ inside)).imp_right goes.knows
  audited a inside isTicket := goes.has (linked.audited a (auditLogs ▸ inside) isTicket)
  announced m inside := goes.has (linked.announced m (outbox ▸ inside))
  timed r inside := goes.has (linked.timed r (timers ▸ inside))

end Db

/-- What a write refers to is there, in its organisation. -/
def Write.Linked (t : TenantId) (db : Db) : Write → Prop
  | .upsertTicket ticket =>
      ticket.tenantId = t ∧ db.Knows t ticket.requesterId ∧ ∀ u, ticket.assigneeId = .value u → db.Knows t u
  | .insertComment comment => db.Knows t comment.authorId ∧ db.Has t comment.ticketId
  | .insertAuditLog entry =>
      (entry.actorId = SYSTEM_ACTOR_ID ∨ db.Knows t entry.actorId) ∧
        (entry.entityType = "ticket" → db.Has t ⟨entry.entityId⟩)
  | .insertOutbox rows => ∀ m ∈ rows, db.Has t ⟨m.aggregateId⟩
  | .upsertTimer timer => timer.tenantId = t ∧ db.Has t timer.ticketId
  | _ => True

section Applied

variable {t : TenantId} {db db' : Db} {w : Write}

theorem Write.Linked.onwards (linked : w.Linked t db) (goes : db.Onwards db') : w.Linked t db' := by
  cases w with
  | upsertTicket ticket => exact ⟨linked.1, goes.knows linked.2.1, fun u assigned => goes.knows (linked.2.2 u assigned)⟩
  | insertComment comment => exact ⟨goes.knows linked.1, goes.has linked.2⟩
  | insertAuditLog entry => exact ⟨linked.1.imp_right goes.knows, fun isTicket => goes.has (linked.2 isTicket)⟩
  | insertOutbox rows => exact fun m inside => goes.has (linked m inside)
  | upsertTimer timer => exact ⟨linked.1, goes.has linked.2⟩
  | bumpCounter | insertProcessed | upsertPolicy | deletePolicy => trivial

theorem memberships_apply (w : Write) (db : Db) : (w.apply db).memberships = db.memberships :=
  memberships_after [w] db

/-- The row of a ticket that is saved. -/
theorem find?_saved (ticket : Ticket) (id : TicketId) :
    ((Write.upsertTicket ticket).apply db).tickets.find? id =
      if id = ticket.id then some ((db.tickets.find? id).elim (createTicketRow ticket) (updateTicketRow ticket))
      else db.tickets.find? id :=
  Table.find?_upsert _ _ _ _ id

/-- A ticket that is saved is one of the organisation. -/
theorem has_saved {ticket : Ticket} (own : (Write.upsertTicket ticket).Own t db) :
    ((Write.upsertTicket ticket).apply db).Has t ticket.id := by
  refine ⟨_, (find?_saved ticket ticket.id).trans (if_pos rfl), ?_⟩
  cases found : db.tickets.find? ticket.id with
  | none =>
      simp only [Write.Own, found, Option.elim_none] at own
      exact own
  | some row =>
      simp only [Write.Own, found, Option.elim_some] at own
      exact own

/-- The rows when a ticket has been saved: one that was there keeps its organisation and its requester. -/
theorem mem_saved {ticket : Ticket} (own : (Write.upsertTicket ticket).Own t db) {r : TicketRow}
    (inside : r ∈ ((Write.upsertTicket ticket).apply db).tickets.rows) :
    r ∈ db.tickets.rows ∨ r = createTicketRow ticket ∨
      ∃ old ∈ db.tickets.rows, old.tenantId = t ∧ r = updateTicketRow ticket old := by
  rcases (Table.mem_upsert_iff _ _ _ _ r).mp inside with ⟨old, _⟩ | rfl
  · exact .inl old
  · right
    cases found : db.tickets.find? ticket.id with
    | none =>
        left
        change (db.tickets.find? ticket.id).elim _ _ = _
        rw [found]
        rfl
    | some old =>
        simp only [Write.Own, found, Option.elim_some] at own
        refine .inr ⟨old, Table.mem_of_find? found, own, ?_⟩
        change (db.tickets.find? ticket.id).elim _ _ = _
        rw [found]
        rfl

/-- A write takes nothing away that others refer to. -/
theorem onwards_apply (w : Write) (db : Db) : db.Onwards (w.apply db) where
  knows := by
    rintro t u ⟨m, inside, isMember⟩
    exact ⟨m, memberships_apply w db ▸ inside, isMember⟩
  has := by
    rintro t id ⟨row, found, ofTenant⟩
    cases w with
    | upsertTicket ticket =>
        by_cases same : id = ticket.id
        · refine ⟨_, (find?_saved ticket id).trans (if_pos same), ?_⟩
          rw [found]
          exact ofTenant
        · exact ⟨row, ((find?_saved ticket id).trans (if_neg same)).trans found, ofTenant⟩
    | _ => exact ⟨row, found, ofTenant⟩

/-- Saving a ticket whose people are there. -/
theorem Db.Linked.saved (before : db.Linked) {ticket : Ticket} (own : (Write.upsertTicket ticket).Own t db)
    (linked : (Write.upsertTicket ticket).Linked t db) : ((Write.upsertTicket ticket).apply db).Linked := by
  have goes := onwards_apply (.upsertTicket ticket) db
  obtain ⟨ofTenant, requester, assignee⟩ := linked.onwards goes
  refine ⟨?_, ?_, fun c inside => goes.knows (before.authors c inside),
    fun c inside => goes.has (before.commented c inside), fun a inside => (before.actors a inside).imp_right goes.knows,
    fun a inside isTicket => goes.has (before.audited a inside isTicket),
    fun m inside => goes.has (before.announced m inside), fun r inside => goes.has (before.timed r inside)⟩
  · intro r inside
    rcases mem_saved own inside with old | rfl | ⟨old, there, _, rfl⟩
    · exact goes.knows (before.requesters r old)
    · change Db.Knows _ ticket.tenantId _
      rw [ofTenant]
      exact requester
    · exact goes.knows (before.requesters old there)
  · intro r inside u assigned
    rcases mem_saved own inside with old | rfl | ⟨old, there, isOld, rfl⟩
    · exact goes.knows (before.assignees r old u assigned)
    · change Db.Knows _ ticket.tenantId u
      change ticket.assigneeId.toColumn none = some u at assigned
      rw [ofTenant]
      cases isAssignee : ticket.assigneeId with
      | undefined | null => simp [isAssignee, Nullable.toColumn] at assigned
      | value v =>
          simp only [isAssignee, Nullable.toColumn, Option.some.injEq] at assigned
          exact assigned ▸ assignee v isAssignee
    · change Db.Knows _ old.tenantId u
      change ticket.assigneeId.toColumn old.assigneeId = some u at assigned
      cases isAssignee : ticket.assigneeId with
      | undefined =>
          rw [isAssignee] at assigned
          exact goes.knows (before.assignees old there u assigned)
      | null => simp [isAssignee, Nullable.toColumn] at assigned
      | value v =>
          simp only [isAssignee, Nullable.toColumn, Option.some.injEq] at assigned
          rw [isOld]
          exact assigned ▸ assignee v isAssignee

/-- A write of an organisation that refers to what is there leaves everything linked. -/
theorem Db.Linked.apply (before : db.Linked) (own : w.Own t db) (linked : w.Linked t db) : (w.apply db).Linked := by
  cases w with
  | upsertTicket ticket => exact before.saved own linked
  | insertComment comment =>
      refine { before with authors := ?_, commented := ?_ }
      · intro c inside
        rcases Table.mem_of_mem_insert inside with old | rfl
        · exact before.authors c old
        · rw [own.1]
          exact linked.1
      · intro c inside
        rcases Table.mem_of_mem_insert inside with old | rfl
        · exact before.commented c old
        · rw [own.1]
          exact linked.2
  | insertAuditLog entry =>
      refine { before with actors := ?_, audited := ?_ }
      · intro a inside
        rcases Table.mem_of_mem_insert inside with old | rfl
        · exact before.actors a old
        · rw [own.1]
          exact linked.1
      · intro a inside isTicket
        rcases Table.mem_of_mem_insert inside with old | rfl
        · exact before.audited a old isTicket
        · rw [own.1]
          exact linked.2 isTicket
  | insertOutbox rows =>
      refine { before with announced := ?_ }
      intro m inside
      rcases mem_outbox_insertAll inside with old | new
      · exact before.announced m old
      · rw [(own.1 m new).1]
        exact linked m new
  | upsertTimer timer =>
      refine { before with timed := ?_ }
      intro r inside
      rcases (Table.mem_upsert_iff _ _ _ _ r).mp inside with ⟨old, _⟩ | rfl
      · exact before.timed r old
      · change db.Has ((db.timers.find? timer.id).elim timer (updateTimerRow timer)).tenantId
          ((db.timers.find? timer.id).elim timer (updateTimerRow timer)).ticketId
        cases found : db.timers.find? timer.id with
        | none =>
            rw [Option.elim_none, linked.1]
            exact linked.2
        | some old => exact before.timed old (Table.mem_of_find? found)
  | bumpCounter | insertProcessed | upsertPolicy | deletePolicy =>
      exact before.onwards (onwards_apply _ db) rfl rfl rfl rfl rfl

end Applied

section Waits

variable {t : TenantId} {db db' : Db} {w : Write} {writes : List Write}

/-- Writes that wait for their commit: each is about a row of the organisation and refers to what is there, once the
    ones before it have been made. -/
def Waiting (t : TenantId) : List Write → Db → Prop
  | [], _ => True
  | w :: writes, db => w.Own t db ∧ w.Linked t db ∧ Waiting t writes (w.apply db)

theorem Waiting.concat (waiting : Waiting t writes db) (own : w.Own t (db.after writes))
    (linked : w.Linked t (db.after writes)) : Waiting t (writes ++ [w]) db := by
  induction writes generalizing db with
  | nil => exact ⟨own, linked, trivial⟩
  | cons first writes ih => exact ⟨waiting.1, waiting.2.1, ih waiting.2.2 own linked⟩

theorem Waiting.linked (waiting : Waiting t writes db) (before : db.Linked) : (db.after writes).Linked := by
  induction writes generalizing db with
  | nil => exact before
  | cons w writes ih => exact ih waiting.2.2 (before.apply waiting.1 waiting.2.1)

theorem onwards_after (writes : List Write) (db : Db) : db.Onwards (db.after writes) := by
  induction writes generalizing db with
  | nil => exact .refl db
  | cons w writes ih => exact (onwards_apply w db).trans (ih (w.apply db))

/-- They are no concern of any other organisation. -/
theorem Waiting.others (waiting : Waiting t writes db) {t' : TenantId} (other : t' ≠ t) :
    (db.after writes).visible (some t') = db.visible (some t') := by
  induction writes generalizing db with
  | nil => rfl
  | cons w writes ih => exact (ih waiting.2.2).trans (visible_apply_other other waiting.1)

/-- Whether a write is the organisation's own is decided by the rows it locks. -/
theorem Write.Own.congr (own : w.Own t db) (same : ∀ k ∈ w.keys, db'.at (.row k) = db.at (.row k)) : w.Own t db' := by
  cases w with
  | upsertTicket ticket =>
      have row : db'.tickets.find? ticket.id = db.tickets.find? ticket.id := same (.ticket ticket.id) List.mem_cons_self
      simp only [Write.Own, row]
      exact own
  | insertComment comment =>
      exact ⟨own.1, (same (.comment comment.id) List.mem_cons_self).trans own.2⟩
  | insertAuditLog entry =>
      exact ⟨own.1, (same (.auditLog entry.id) List.mem_cons_self).trans own.2⟩
  | insertOutbox rows =>
      refine ⟨fun r inside => ⟨(own.1 r inside).1, ?_⟩, own.2⟩
      exact (same (.outbox r.id) (List.mem_map.mpr ⟨r, inside, rfl⟩)).trans (own.1 r inside).2
  | insertProcessed row =>
      exact ⟨own.1, (same (.processed row.consumer row.eventId) List.mem_cons_self).trans own.2⟩
  | upsertTimer timer =>
      have row : db'.timers.find? timer.id = db.timers.find? timer.id := same (.timer timer.id) List.mem_cons_self
      simp only [Write.Own, row]
      exact own
  | bumpCounter | upsertPolicy | deletePolicy => exact own

theorem locked_of_asks {p : Place} (asked : p ∈ w.asks) : ∃ k ∈ w.keys, p = .row k := by
  cases w with
  | upsertTicket | insertComment | insertAuditLog | upsertTimer =>
      exact ⟨_, List.mem_cons_self, List.mem_singleton.mp asked⟩
  | bumpCounter | insertOutbox | insertProcessed | upsertPolicy | deletePolicy => cases asked

/-- What is alike under the keys of a write, and has gone on elsewhere, has gone on after the write. -/
theorem Db.Onwards.apply (goes : db.Onwards db') (same : ∀ k ∈ w.keys, db'.at (.row k) = db.at (.row k)) :
    (w.apply db).Onwards (w.apply db') where
  knows := by
    rintro t u ⟨m, inside, isMember⟩
    obtain ⟨m', inside', isMember'⟩ := goes.knows ⟨m, memberships_apply w db ▸ inside, isMember⟩
    exact ⟨m', (memberships_apply w db').symm ▸ inside', isMember'⟩
  has := by
    rintro t id ⟨row, found, ofTenant⟩
    cases w with
    | upsertTicket ticket =>
        by_cases isSaved : id = ticket.id
        · have taken : db'.tickets.find? id = db.tickets.find? id := by
            rw [isSaved]
            exact same (.ticket ticket.id) List.mem_cons_self
          refine ⟨row, ?_, ofTenant⟩
          rw [find?_saved] at found ⊢
          rw [taken]
          exact found
        · have found' := (find?_saved ticket id).symm.trans found
          rw [if_neg isSaved] at found'
          obtain ⟨row', there, ofTenant'⟩ := goes.has ⟨row, found', ofTenant⟩
          exact ⟨row', ((find?_saved ticket id).trans (if_neg isSaved)).trans there, ofTenant'⟩
    | _ => exact goes.has ⟨row, found, ofTenant⟩

/-- Writes can wait while others are at work, if the rows they are about are locked. -/
theorem Waiting.later (waiting : Waiting t writes db) (goes : db.Onwards db')
    (same : ∀ w ∈ writes, ∀ k ∈ w.keys, db'.at (.row k) = db.at (.row k)) :
    Waiting t writes db' ∧ (db.after writes).Onwards (db'.after writes) := by
  induction writes generalizing db db' with
  | nil => exact ⟨trivial, goes⟩
  | cons w writes ih =>
      have here := same w List.mem_cons_self
      have onwards := goes.apply here
      obtain ⟨waits, goesOn⟩ := ih waiting.2.2 onwards fun w' later k key =>
        Db.at_apply (fun p asked => by
          obtain ⟨k', locked, rfl⟩ := locked_of_asks asked
          exact here k' locked) (same w' (List.mem_cons_of_mem _ later) k key)
      exact ⟨⟨waiting.1.congr here, waiting.2.1.onwards goes, waits⟩, goesOn⟩

end Waits

end Helpdesk
