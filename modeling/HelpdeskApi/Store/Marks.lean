/-
Module: HelpdeskApi.Store.Marks
Layer: Store
Purpose: The locks of the repositories, and the tables that only grow: a call waits for every lock its
  writes take, and a row of `comments`, `audit_logs`, `outbox_messages` or `processed_messages` is inserted
  at most once.
Trusted boundary: none
Main exports: careful, Write.marks, Db.marked, exec_claim, claim_of_mark, marking
-/
import HelpdeskApi.Store.Lemmas
import HelpdeskApi.Library.OnceOnly

namespace Helpdesk

open Relational Txn

variable {ctx : Ctx} {db : Db}

/-- A delete that happens has found its row. -/
theorem isSome_of_visible_policy {t : TenantId} {p : TicketPriority} {row : SlaPolicyRow}
    (shown : (db.visible ctx.tenant).policies.find? (t, p) = some row) :
    (db.policies.find? (t, p)).isSome = true := by
  simp only [Db.visible, Table.find?_filter, Option.filter_eq_some_iff] at shown
  rw [shown.1]
  rfl

/-- Every lock a write takes is one its call has waited for. -/
theorem keys_wanted {c : Call} {reply : c.Reply} {writes : List Write}
    (answered : exec ctx c db = some (reply, writes)) {w : Write} (written : w ∈ writes) {k : RowKey}
    (key : k ∈ w.keys) : k ∈ c.wants db := by
  have made := write_of_exec answered written
  cases c with
  | numbersNext | ticketsSave | commentsSave | auditLogsRecord | processedClaim | policiesUpsert
  | timersSave =>
      cases made
      exact key
  | outboxAppend records =>
      cases made
      simpa [Write.keys, Call.wants, OutboxRecord.row] using key
  | policiesRemove tenantId priority =>
      cases made
      simp only [exec] at answered
      split at answered
      · rename_i row shown
        rw [Call.wants, isSome_of_visible_policy shown, if_pos rfl]
        exact key
      · cases answered
        cases written
  | _ => cases made

theorem careful : repositories.transactional.Careful :=
  repositories.careful_transactional fun _ _ _ _ _ answered _ written _ key => keys_wanted answered written key

/-- The rows a write inserts into the tables that only grow. -/
def Write.marks : Write → List RowKey
  | .insertComment comment => [.comment comment.id]
  | .insertAuditLog entry => [.auditLog entry.id]
  | .insertOutbox rows => rows.map fun r => .outbox r.id
  | .insertProcessed row => [.processed row.consumer row.eventId]
  | _ => []

/-- Whether such a row is there. -/
def Db.marked : RowKey → Db → Prop
  | .comment id, db => (db.comments.find? id).isSome = true
  | .auditLog id, db => (db.auditLogs.find? id).isSome = true
  | .outbox id, db => (db.outbox.find? id).isSome = true
  | .processed consumer eventId, db => (db.processed.find? (consumer, eventId)).isSome = true
  | _, _ => False

/-- What a claim does: it sets the mark, or it finds it set. -/
theorem exec_claim {consumer : String} {eventId : Uuid} {t : TenantId} {reply : Bool} {writes : List Write}
    (answered : exec ctx (.processedClaim consumer eventId t) db = some (reply, writes)) :
    (reply = true ∧ writes = [.insertProcessed { consumer := consumer, eventId := eventId, tenantId := t }] ∧
        db.processed.find? (consumer, eventId) = none) ∨
      (reply = false ∧ writes = [] ∧ (db.processed.find? (consumer, eventId)).isSome = true) := by
  simp only [exec] at answered
  split at answered
  · split at answered
    · rename_i row found
      cases answered
      exact .inr ⟨rfl, rfl, by rw [found]; rfl⟩
    · rename_i absent
      cases answered
      exact .inl ⟨rfl, rfl, absent⟩
  · cases answered

/-- An insert finds none of its rows there. -/
theorem unmarked_of_exec {c : Call} {reply : c.Reply} {writes : List Write}
    (answered : exec ctx c db = some (reply, writes)) {w : Write} (written : w ∈ writes) {k : RowKey}
    (mark : k ∈ w.marks) : ¬Db.marked k db := by
  have made := write_of_exec answered written
  cases c with
  | commentsSave comment =>
      cases made
      cases List.mem_singleton.mp mark
      simp only [exec] at answered
      split at answered
      · rename_i free
        simp [Db.marked, free.2]
      · cases answered
  | auditLogsRecord entry =>
      cases made
      cases List.mem_singleton.mp mark
      simp only [exec] at answered
      split at answered
      · rename_i free
        simp [Db.marked, free.2]
      · cases answered
  | outboxAppend records =>
      cases made
      simp only [Write.marks, List.map_map, List.mem_map, Function.comp_apply] at mark
      obtain ⟨record, member, rfl⟩ := mark
      simp only [exec] at answered
      split at answered
      · rename_i free
        simp [Db.marked, OutboxRecord.row, free.2.1 record member]
      · cases answered
  | processedClaim consumer eventId t =>
      cases made
      cases List.mem_singleton.mp mark
      rcases exec_claim answered with ⟨_, _, absent⟩ | ⟨_, wrote, _⟩
      · simp [Db.marked, absent]
      · rw [wrote] at written
        cases written
  | numbersNext | ticketsSave | policiesUpsert | policiesRemove | timersSave =>
      cases made
      cases mark
  | _ => cases made

theorem keys_of_marks {w : Write} {k : RowKey} (mark : k ∈ w.marks) : k ∈ w.keys := by
  cases w with
  | insertComment | insertAuditLog | insertOutbox | insertProcessed => exact mark
  | _ => cases mark

theorem isSome_find?_insertAll (rows : List OutboxRow) (t : Table OutboxRow) (id : Uuid) :
    ((rows.foldl Table.insert t).find? id).isSome = true ↔
      (t.find? id).isSome = true ∨ id ∈ rows.map (·.id) := by
  induction rows generalizing t with
  | nil => simp
  | cons row rows ih =>
      rw [List.foldl_cons, ih, Table.isSome_find?_insert, List.map_cons, List.mem_cons, key_outboxRow, or_assoc]

theorem marked_apply_iff (w : Write) (db : Db) (k : RowKey) :
    Db.marked k (w.apply db) ↔ Db.marked k db ∨ k ∈ w.marks := by
  cases w with
  | insertComment comment =>
      cases k <;> simp [Db.marked, Write.apply, Table.isSome_find?_insert, Write.marks]
  | insertAuditLog entry =>
      cases k <;> simp [Db.marked, Write.apply, Table.isSome_find?_insert, Write.marks]
  | insertOutbox rows =>
      cases k <;> simp [Db.marked, Write.apply, isSome_find?_insertAll, Write.marks]
  | insertProcessed row =>
      cases k <;> simp [Db.marked, Write.apply, Table.isSome_find?_insert, Write.marks]
  | _ => cases k <;> simp [Db.marked, Write.apply, Write.marks]

/-- Rows of the tables that only grow are inserted at most once. -/
theorem marking : repositories.transactional.Marking Write.marks Db.marked where
  apply_iff := marked_apply_iff
  first := fun ctx held c db o produced w written k mark => by
    obtain ⟨_, answered, _, locks⟩ := repositories.mem_inTransaction.mp produced
    refine ⟨unmarked_of_exec answered written mark, ?_⟩
    rw [locks, List.mem_flatMap]
    exact ⟨w, written, keys_of_marks mark⟩

/-- Only a claim sets the mark of an event. -/
theorem claim_of_mark {c : Call} {reply : c.Reply} {writes : List Write}
    (answered : exec ctx c db = some (reply, writes)) {w : Write} (written : w ∈ writes) {consumer : String}
    {eventId : Uuid} (mark : .processed consumer eventId ∈ w.marks) :
    ∃ t, c = .processedClaim consumer eventId t := by
  have made := write_of_exec answered written
  cases c with
  | processedClaim consumer' eventId' t =>
      cases made
      cases List.mem_singleton.mp mark
      exact ⟨t, rfl⟩
  | outboxAppend records =>
      cases made
      simp [Write.marks] at mark
  | numbersNext | ticketsSave | commentsSave | auditLogsRecord | policiesUpsert | policiesRemove
  | timersSave =>
      cases made
      simp [Write.marks] at mark
  | _ => cases made

end Helpdesk
