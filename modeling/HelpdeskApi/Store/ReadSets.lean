/-
Module: HelpdeskApi.Store.ReadSets
Layer: Store
Purpose: What the calls of the repositories read: rows and values of unique indexes, the memberships, and for the
  three queries of the read model everything that is shown to a tenant. A call that reads the same answers the
  same, and what it writes does not tell places apart that are alike.
Trusted boundary: none
Main exports: Place, Place.Value, Db.at, Call.reads, Db.at_apply, readSets, Db.at_row_apply
-/
import HelpdeskApi.Library.Serializability
import HelpdeskApi.Store.Marks

namespace Relational.Table

variable {R K : Type} [Keyed R K] [DecidableEq K] {t t' : Table R} {test : R → Bool}

/-- Tables that are alike in a key stay alike in it. -/
theorem find?_upsert_congr {create : R} {update : R → R} {keeps : ∀ r, Keyed.key (update r) = Keyed.key r} {k : K}
    (same : t'.find? k = t.find? k) :
    (t'.upsert create update keeps).find? k = (t.upsert create update keeps).find? k := by
  rw [find?_upsert, find?_upsert, same]

theorem find?_insert_congr {r : R} {k : K} (same : t'.find? k = t.find? k) :
    (t'.insert r).find? k = (t.insert r).find? k := by
  rw [find?_insert, find?_insert, same]

theorem find?_insert_of_ne {r : R} {k : K} (other : Keyed.key r ≠ k) : (t.insert r).find? k = t.find? k := by
  rw [find?_insert, if_neg other, Option.or_none]

theorem find?_insertAll_of_ne {rows : List R} {k : K} (others : ∀ r ∈ rows, Keyed.key r ≠ k) :
    (rows.foldl insert t).find? k = t.find? k := by
  induction rows generalizing t with
  | nil => rfl
  | cons r rows ih =>
      exact (ih fun r' later => others r' (List.mem_cons_of_mem _ later)).trans
        (find?_insert_of_ne (others r List.mem_cons_self))

theorem find?_insertAll_congr {rows : List R} {k : K} (same : t'.find? k = t.find? k) :
    (rows.foldl insert t').find? k = (rows.foldl insert t).find? k := by
  induction rows generalizing t t' with
  | nil => exact same
  | cons r rows ih => exact ih (find?_insert_congr same)

/-- Tables with the same rows of a kind have them after an insertion for which both have the place, or neither. -/
theorem filter_insert_congr {r : R} (taken : t'.find? (Keyed.key r) = t.find? (Keyed.key r))
    (same : t'.filter test = t.filter test) : (t'.insert r).filter test = (t.insert r).filter test := by
  cases found : t.find? (Keyed.key r) with
  | none =>
      have rows : t'.rows.filter test = t.rows.filter test := congrArg rows same
      apply ext_rows
      change (t'.insert r).rows.filter test = (t.insert r).rows.filter test
      rw [rows_insert_of_free found, rows_insert_of_free (taken.trans found), List.filter_append, List.filter_append,
        rows]
  | some old => rw [insert_of_taken found, insert_of_taken (taken.trans found), same]

theorem filter_upsert_congr {create : R} {update : R → R} {keeps : ∀ r, Keyed.key (update r) = Keyed.key r}
    (unmoved : ∀ r, test (update r) = test r) (taken : t'.find? (Keyed.key create) = t.find? (Keyed.key create))
    (same : t'.filter test = t.filter test) :
    (t'.upsert create update keeps).filter test = (t.upsert create update keeps).filter test := by
  cases found : t.find? (Keyed.key create) with
  | none =>
      rw [upsert_of_free found, upsert_of_free (taken.trans found)]
      exact filter_insert_congr taken same
  | some old =>
      rw [upsert_of_taken found, upsert_of_taken (taken.trans found), filter_modify _ _ _ _ unmoved,
        filter_modify _ _ _ _ unmoved, same]

/-- Whether some row passes a test, after an upsert. -/
theorem any_upsert {create : R} {update : R → R} {keeps : ∀ r, Keyed.key (update r) = Keyed.key r}
    (unmoved : ∀ r, test (update r) = test r) :
    (t.upsert create update keeps).any test =
      (t.any test || ((t.find? (Keyed.key create)).isNone && test create)) := by
  cases found : t.find? (Keyed.key create) with
  | none =>
      rw [upsert_of_free found, any, rows_insert_of_free found, List.any_append]
      simp [any]
  | some old =>
      rw [upsert_of_taken found]
      have same : (test ∘ fun r => if Keyed.key r = Keyed.key create then update r else r) = test := by
        funext r
        by_cases hit : Keyed.key r = Keyed.key create <;> simp [hit, unmoved]
      simp [any, modify, List.any_map, same]

theorem any_upsert_congr {create : R} {update : R → R} {keeps : ∀ r, Keyed.key (update r) = Keyed.key r}
    (unmoved : ∀ r, test (update r) = test r) (taken : t'.find? (Keyed.key create) = t.find? (Keyed.key create))
    (same : t'.any test = t.any test) :
    (t'.upsert create update keeps).any test = (t.upsert create update keeps).any test := by
  rw [any_upsert unmoved, any_upsert unmoved, taken, same]

/-- An upsert of a row that fails a test does not show in it. -/
theorem any_upsert_of_fail {create : R} {update : R → R} {keeps : ∀ r, Keyed.key (update r) = Keyed.key r}
    (unmoved : ∀ r, test (update r) = test r) (fails : test create = false) :
    (t.upsert create update keeps).any test = t.any test := by
  rw [any_upsert unmoved, fails, Bool.and_false, Bool.or_false]

end Relational.Table

namespace Helpdesk

open Relational Txn

/-- What a call can read: a row, whether a unique index has a value, the memberships, the timers of one kind that
    a ticket has, or what the read model looks through. -/
inductive Place where
  | row (k : RowKey)
  | memberships
  | timers (ticketId : TicketId) (kind : SlaKind)
  | shown (tenant : Option TenantId)

/-- What is found at a place. -/
@[reducible] def Place.Value : Place → Type
  | .row (.ticket _) => Option TicketRow
  | .row (.ticketNumber _ _) => Bool
  | .row (.comment _) => Option Comment
  | .row (.counter _) => Option CounterRow
  | .row (.auditLog _) => Option AuditLog
  | .row (.outbox _) => Option OutboxRow
  | .row (.processed _ _) => Option ProcessedRow
  | .row (.policy _ _) => Option SlaPolicyRow
  | .row (.timer _) => Option SlaTimer
  | .row (.timerSlot _ _) => Bool
  | .memberships => Table MembershipRow
  | .timers _ _ => Table SlaTimer
  | .shown _ => Table TicketRow × Table Comment × Table SlaTimer × Table AuditLog

def Db.at (db : Db) : (p : Place) → p.Value
  | .row (.ticket id) => db.tickets.find? id
  | .row (.ticketNumber tenantId number) => db.tickets.any fun r => r.tenantId = tenantId ∧ r.number = number
  | .row (.comment id) => db.comments.find? id
  | .row (.counter tenantId) => db.counters.find? tenantId
  | .row (.auditLog id) => db.auditLogs.find? id
  | .row (.outbox id) => db.outbox.find? id
  | .row (.processed consumer eventId) => db.processed.find? (consumer, eventId)
  | .row (.policy tenantId priority) => db.policies.find? (tenantId, priority)
  | .row (.timer id) => db.timers.find? id
  | .row (.timerSlot ticketId kind) => db.timers.any fun r => r.ticketId = ticketId ∧ r.kind = kind
  | .memberships => db.memberships
  | .timers ticketId kind => db.timers.filter fun r => r.ticketId = ticketId ∧ r.kind = kind
  | .shown tenant =>
      ((db.visible tenant).tickets, (db.visible tenant).comments, (db.visible tenant).timers,
        (db.visible tenant).auditLogs)

/-- The places a call reads. -/
def Call.reads (ctx : Ctx) : Call → List Place
  | .membersIsMember _ _ | .membersAgentsOf _ => [.memberships]
  | .numbersNext tenantId => [.row (.counter tenantId)]
  | .ticketsFindById _ id => [.row (.ticket id)]
  | .ticketsSave ticket => [.row (.ticket ticket.id), .row (.ticketNumber ticket.tenantId ticket.number)]
  | .commentsSave comment => [.row (.comment comment.id)]
  | .auditLogsRecord entry => [.row (.auditLog entry.id)]
  | .outboxAppend records => records.map fun r => .row (.outbox r.id)
  | .processedClaim consumer eventId _ => [.row (.processed consumer eventId)]
  | .policiesOverridesOf tenantId =>
      [.row (.policy tenantId .LOW), .row (.policy tenantId .NORMAL), .row (.policy tenantId .HIGH),
        .row (.policy tenantId .URGENT)]
  | .policiesUpsert _ _ _ _ => []
  | .policiesRemove tenantId priority => [.row (.policy tenantId priority)]
  | .timersSave timer => [.row (.timer timer.id), .row (.timerSlot timer.ticketId timer.kind)]
  | .timersFindById _ id => [.row (.timer id)]
  | .timersFindRunning _ ticketId kind => [.timers ticketId kind]
  | .ticketsFindMany _ _ _ _ _ _ | .ticketsFindWithRelations _ _ | .auditLogsFindMany _ _ _ => [.shown ctx.tenant]

/-- What decides whether a write inserts a row or finds it there. -/
def Write.asks : Write → List Place
  | .upsertTicket ticket => [.row (.ticket ticket.id)]
  | .insertComment comment => [.row (.comment comment.id)]
  | .insertAuditLog entry => [.row (.auditLog entry.id)]
  | .upsertTimer timer => [.row (.timer timer.id)]
  | _ => []

section Writes

variable {ctx : Ctx} {db db' : Db}

/-- A place that is alike in two databases is alike in them after a write that finds its row in both, or in
    neither. -/
theorem Db.at_apply {w : Write} (asks : ∀ p ∈ w.asks, db'.at p = db.at p) {p : Place} (same : db'.at p = db.at p) :
    (w.apply db').at p = (w.apply db).at p := by
  cases w with
  | upsertTicket ticket =>
      have taken : db'.tickets.find? ticket.id = db.tickets.find? ticket.id := asks _ List.mem_cons_self
      cases p with
      | memberships | timers => exact same
      | shown tenant =>
          simp only [Db.at, Db.visible, Prod.mk.injEq] at same
          simp only [Db.at, Db.visible, Write.apply, Prod.mk.injEq]
          exact ⟨Table.filter_upsert_congr (fun _ => rfl) taken same.1, same.2⟩
      | row k =>
          cases k with
          | ticket id => exact Table.find?_upsert_congr same
          | ticketNumber tenantId number => exact Table.any_upsert_congr (fun _ => rfl) taken same
          | _ => exact same
  | insertComment comment =>
      have taken : db'.comments.find? comment.id = db.comments.find? comment.id := asks _ List.mem_cons_self
      cases p with
      | memberships | timers => exact same
      | shown tenant =>
          simp only [Db.at, Db.visible, Prod.mk.injEq] at same
          simp only [Db.at, Db.visible, Write.apply, Prod.mk.injEq]
          exact ⟨same.1, Table.filter_insert_congr taken same.2.1, same.2.2⟩
      | row k =>
          cases k with
          | comment id => exact Table.find?_insert_congr same
          | _ => exact same
  | insertAuditLog entry =>
      have taken : db'.auditLogs.find? entry.id = db.auditLogs.find? entry.id := asks _ List.mem_cons_self
      cases p with
      | memberships | timers => exact same
      | shown tenant =>
          simp only [Db.at, Db.visible, Prod.mk.injEq] at same
          simp only [Db.at, Db.visible, Write.apply, Prod.mk.injEq]
          exact ⟨same.1, same.2.1, same.2.2.1, Table.filter_insert_congr taken same.2.2.2⟩
      | row k =>
          cases k with
          | auditLog id => exact Table.find?_insert_congr same
          | _ => exact same
  | upsertTimer timer =>
      have taken : db'.timers.find? timer.id = db.timers.find? timer.id := asks _ List.mem_cons_self
      cases p with
      | memberships => exact same
      | timers ticketId kind => exact Table.filter_upsert_congr (fun _ => rfl) taken same
      | shown tenant =>
          simp only [Db.at, Db.visible, Prod.mk.injEq] at same
          simp only [Db.at, Db.visible, Write.apply, Prod.mk.injEq]
          exact ⟨same.1, same.2.1, Table.filter_upsert_congr (fun _ => rfl) taken same.2.2.1, same.2.2.2⟩
      | row k =>
          cases k with
          | timer id => exact Table.find?_upsert_congr same
          | timerSlot ticketId kind => exact Table.any_upsert_congr (fun _ => rfl) taken same
          | _ => exact same
  | bumpCounter tenantId =>
      cases p with
      | row k =>
          cases k with
          | counter tenantId => exact Table.find?_upsert_congr same
          | _ => exact same
      | _ => exact same
  | insertOutbox rows =>
      cases p with
      | row k =>
          cases k with
          | outbox id => exact Table.find?_insertAll_congr same
          | _ => exact same
      | _ => exact same
  | insertProcessed row =>
      cases p with
      | row k =>
          cases k with
          | processed consumer eventId => exact Table.find?_insert_congr same
          | _ => exact same
      | _ => exact same
  | upsertPolicy row =>
      cases p with
      | row k =>
          cases k with
          | policy tenantId priority => exact Table.find?_upsert_congr same
          | _ => exact same
      | _ => exact same
  | deletePolicy tenantId priority =>
      cases p with
      | row k =>
          cases k with
          | policy tenantId' priority' =>
              have same' : db'.policies.find? (tenantId', priority') = db.policies.find? (tenantId', priority') := same
              change (db'.policies.filter _).find? _ = (db.policies.filter _).find? _
              rw [Table.find?_filter, Table.find?_filter, same']
          | _ => exact same
      | _ => exact same

/-- What a write asks is among what its call has read. -/
theorem asks_of_exec {c : Call} {reply : c.Reply} {writes : List Write}
    (answered : exec ctx c db = some (reply, writes)) {w : Write} (written : w ∈ writes) {p : Place} (asked : p ∈ w.asks) :
    p ∈ c.reads ctx := by
  have made := write_of_exec answered written
  cases c with
  | ticketsSave | commentsSave | auditLogsRecord | timersSave =>
      cases made
      exact List.mem_cons.mpr (.inl (List.mem_singleton.mp asked))
  | numbersNext | outboxAppend | processedClaim | policiesUpsert | policiesRemove =>
      cases made
      cases asked
  | _ => cases made

theorem Db.at_after {writes : List Write} (asks : ∀ w ∈ writes, ∀ p ∈ w.asks, db'.at p = db.at p) {p : Place}
    (same : db'.at p = db.at p) : (repositories.applyAll writes db').at p = (repositories.applyAll writes db).at p := by
  induction writes generalizing db db' with
  | nil => exact same
  | cons w writes ih =>
      have first := asks w List.mem_cons_self
      exact ih (fun w' later p' asked => at_apply first (asks w' (List.mem_cons_of_mem _ later) p' asked))
        (at_apply first same)

/-- No use case changes who is a member. -/
theorem memberships_after (writes : List Write) (db : Db) : (db.after writes).memberships = db.memberships := by
  induction writes generalizing db with
  | nil => rfl
  | cons w writes ih =>
      refine (ih (w.apply db)).trans ?_
      cases w <;> rfl

/-- A row and a value of a unique index are only changed under their lock. -/
theorem Db.at_row_apply {k : RowKey} {w : Write} (unlocked : k ∉ w.keys) (db : Db) :
    (w.apply db).at (.row k) = db.at (.row k) := by
  cases w with
  | upsertTicket ticket =>
      simp only [Write.keys, List.mem_cons, List.not_mem_nil, or_false, not_or] at unlocked
      cases k with
      | ticket id =>
          exact (Table.find?_upsert _ _ _ _ id).trans (if_neg fun same => unlocked.1 (congrArg RowKey.ticket same))
      | ticketNumber tenantId number =>
          refine Table.any_upsert_of_fail (fun _ => rfl) (decide_eq_false fun same => unlocked.2 ?_)
          rw [← same.1, ← same.2]
          rfl
      | _ => rfl
  | insertComment comment =>
      cases k with
      | comment id => exact Table.find?_insert_of_ne fun same => unlocked (same ▸ List.mem_singleton_self _)
      | _ => rfl
  | bumpCounter tenantId =>
      cases k with
      | counter tenantId' =>
          refine (Table.find?_upsert _ _ _ _ tenantId').trans (if_neg ?_)
          rintro rfl
          exact unlocked (List.mem_singleton_self _)
      | _ => rfl
  | insertAuditLog entry =>
      cases k with
      | auditLog id => exact Table.find?_insert_of_ne fun same => unlocked (same ▸ List.mem_singleton_self _)
      | _ => rfl
  | insertOutbox rows =>
      cases k with
      | outbox id =>
          refine Table.find?_insertAll_of_ne fun r inside same => unlocked ?_
          exact List.mem_map.mpr ⟨r, inside, congrArg RowKey.outbox same⟩
      | _ => rfl
  | insertProcessed row =>
      cases k with
      | processed consumer eventId =>
          refine Table.find?_insert_of_ne fun same => unlocked ?_
          cases same
          exact List.mem_singleton_self _
      | _ => rfl
  | upsertPolicy row =>
      cases k with
      | policy tenantId priority =>
          refine (Table.find?_upsert _ _ _ _ (tenantId, priority)).trans (if_neg fun same => unlocked ?_)
          cases same
          exact List.mem_singleton_self _
      | _ => rfl
  | deletePolicy tenantId priority =>
      cases k with
      | policy tenantId' priority' =>
          refine (Table.find?_filter _ _ _).trans ?_
          change _ = db.policies.find? (tenantId', priority')
          cases found : db.policies.find? (tenantId', priority') with
          | none => rfl
          | some r =>
              have key := Table.key_of_find? found
              refine Option.filter_some_pos ?_
              rw [Bool.not_eq_true', decide_eq_false_iff_not]
              rintro ⟨rfl, rfl⟩
              cases key
              exact unlocked (List.mem_singleton_self _)
      | _ => rfl
  | upsertTimer timer =>
      simp only [Write.keys, List.mem_cons, List.not_mem_nil, or_false, not_or] at unlocked
      cases k with
      | timer id =>
          exact (Table.find?_upsert _ _ _ _ id).trans (if_neg fun same => unlocked.1 (congrArg RowKey.timer same))
      | timerSlot ticketId kind =>
          refine Table.any_upsert_of_fail (fun _ => rfl) (decide_eq_false fun same => unlocked.2 ?_)
          rw [← same.1, ← same.2]
      | _ => rfl

/-- A call comes out the same in databases that are alike where it reads. -/
theorem exec_eq_of_reads {c : Call} (same : ∀ p ∈ c.reads ctx, db'.at p = db.at p) : exec ctx c db' = exec ctx c db := by
  cases c with
  | membersIsMember tenantId userId | membersAgentsOf tenantId =>
      have members : db'.memberships = db.memberships := same .memberships List.mem_cons_self
      simp only [exec, Db.visible, members]
  | numbersNext tenantId =>
      have counter : db'.counters.find? tenantId = db.counters.find? tenantId :=
        same (.row (.counter tenantId)) List.mem_cons_self
      simp only [exec, counter]
  | ticketsFindById tenantId id =>
      have ticket : db'.tickets.find? id = db.tickets.find? id := same (.row (.ticket id)) List.mem_cons_self
      simp only [exec, Db.visible, Table.find?_filter, ticket]
  | ticketsSave t =>
      have ticket : db'.tickets.find? t.id = db.tickets.find? t.id := same (.row (.ticket t.id)) List.mem_cons_self
      have number : db'.tickets.any (fun r => r.tenantId = t.tenantId ∧ r.number = t.number) =
          db.tickets.any fun r => r.tenantId = t.tenantId ∧ r.number = t.number :=
        same (.row (.ticketNumber t.tenantId t.number)) (List.mem_cons_of_mem _ List.mem_cons_self)
      simp only [exec, Db.visible, Table.find?_filter, ticket, number]
  | commentsSave c =>
      have comment : db'.comments.find? c.id = db.comments.find? c.id := same (.row (.comment c.id)) List.mem_cons_self
      simp only [exec, comment]
  | auditLogsRecord e =>
      have entry : db'.auditLogs.find? e.id = db.auditLogs.find? e.id := same (.row (.auditLog e.id)) List.mem_cons_self
      simp only [exec, entry]
  | outboxAppend records =>
      have free : (∀ r ∈ records, db'.outbox.find? r.id = none) ↔ ∀ r ∈ records, db.outbox.find? r.id = none := by
        refine forall₂_congr fun r inside => ?_
        have message : db'.outbox.find? r.id = db.outbox.find? r.id :=
          same (.row (.outbox r.id)) (List.mem_map.mpr ⟨r, inside, rfl⟩)
        rw [message]
      simp only [exec, free]
  | processedClaim consumer eventId tenantId =>
      have mark : db'.processed.find? (consumer, eventId) = db.processed.find? (consumer, eventId) :=
        same (.row (.processed consumer eventId)) List.mem_cons_self
      simp only [exec, mark]
  | policiesOverridesOf tenantId =>
      have policies : ∀ p : TicketPriority, db'.policies.find? (tenantId, p) = db.policies.find? (tenantId, p) := by
        intro p
        refine same (.row (.policy tenantId p)) ?_
        cases p <;> simp [Call.reads]
      simp only [exec, Db.visible, Table.find?_filter, policies]
  | policiesUpsert => rfl
  | policiesRemove tenantId priority =>
      have policy : db'.policies.find? (tenantId, priority) = db.policies.find? (tenantId, priority) :=
        same (.row (.policy tenantId priority)) List.mem_cons_self
      simp only [exec, Db.visible, Table.find?_filter, policy]
  | timersSave t =>
      have timer : db'.timers.find? t.id = db.timers.find? t.id := same (.row (.timer t.id)) List.mem_cons_self
      have slot : db'.timers.any (fun r => r.ticketId = t.ticketId ∧ r.kind = t.kind) =
          db.timers.any fun r => r.ticketId = t.ticketId ∧ r.kind = t.kind :=
        same (.row (.timerSlot t.ticketId t.kind)) (List.mem_cons_of_mem _ List.mem_cons_self)
      simp only [exec, Db.visible, Table.find?_filter, timer, slot]
  | timersFindById tenantId id =>
      have timer : db'.timers.find? id = db.timers.find? id := same (.row (.timer id)) List.mem_cons_self
      simp only [exec, Db.visible, Table.find?_filter, timer]
  | timersFindRunning tenantId ticketId kind =>
      have timers : db'.timers.filter (fun r => r.ticketId = ticketId ∧ r.kind = kind) =
          db.timers.filter fun r => r.ticketId = ticketId ∧ r.kind = kind :=
        same (.timers ticketId kind) List.mem_cons_self
      have narrow (d : Db) : ((d.visible ctx.tenant).timers.findFirst fun r =>
          r.tenantId = tenantId ∧ r.ticketId = ticketId ∧ r.kind = kind ∧ r.isRunning) =
          ((d.timers.filter fun r => r.ticketId = ticketId ∧ r.kind = kind).filter fun r =>
            some r.tenantId == ctx.tenant).findFirst fun r => r.tenantId = tenantId ∧ r.isRunning := by
        simp only [Db.visible, Table.findFirst, Table.filter, List.find?_filter]
        congr 1
        funext r
        grind
      simp only [exec, narrow, timers]
  | ticketsFindMany | ticketsFindWithRelations | auditLogsFindMany =>
      have shown := same (.shown ctx.tenant) List.mem_cons_self
      simp only [Db.at, Prod.mk.injEq] at shown
      simp only [exec, ticketPage, shown.1, shown.2.1, shown.2.2.1, shown.2.2.2]

/-- What the calls of the repositories depend on. -/
def readSets : repositories.Footprint where
  Place := Place
  Value := Place.Value
  value p db := db.at p
  reads ctx c := { p | p ∈ c.reads ctx }
  exec_eq same := exec_eq_of_reads same
  after_eq same answered _ alike :=
    Db.at_after (fun _ written _ asked => same _ (asks_of_exec answered written asked)) alike

end Writes

end Helpdesk
