/-
Module: HelpdeskApi.Store.Tenants
Layer: Store
Purpose: What row level security buys. Whatever a repository call writes for a tenant is about that
  tenant's rows (`exec_own`); such a write does to the rows the tenant sees what it does to the database,
  and nothing to the rows any other tenant sees. A call that uses no id of another tenant's row answers
  from the tenant's rows alone (`exec_agree`).
Trusted boundary: none
Main exports: Write.Own, exec_own, visible_apply_own, visible_apply_other, Db.NoForeign, Call.Confined,
  exec_agree
-/
import HelpdeskApi.Store.Lemmas

namespace Helpdesk

open Relational Txn

/-- A write that creates or changes a row of this tenant. -/
def Write.Own (t : TenantId) (db : Db) : Write → Prop
  | .upsertTicket ticket => (db.tickets.find? ticket.id).elim ticket.tenantId (·.tenantId) = t
  | .insertComment comment => comment.tenantId = t ∧ db.comments.find? comment.id = none
  | .bumpCounter tenantId => tenantId = t
  | .insertAuditLog entry => entry.tenantId = t ∧ db.auditLogs.find? entry.id = none
  | .insertOutbox rows =>
      (∀ r ∈ rows, r.tenantId = t ∧ db.outbox.find? r.id = none) ∧ (rows.map (·.id)).Nodup
  | .insertProcessed row =>
      row.tenantId = t ∧ db.processed.find? (row.consumer, row.eventId) = none
  | .upsertPolicy row => row.tenantId = t
  | .deletePolicy tenantId _ => tenantId = t
  | .upsertTimer timer => (db.timers.find? timer.id).elim timer.tenantId (·.tenantId) = t

section Own

variable {ctx : Ctx} {db : Db} {t : TenantId}

theorem own_upsertTicket {ticket : Ticket}
    (saved : (db.ticketOf t ticket.id).isSome = true ∨
      (some ticket.tenantId = some t ∧ db.tickets.find? ticket.id = none)) :
    (Write.upsertTicket ticket).Own t db := by
  rcases saved with stored | ⟨ofTenant, free⟩
  · obtain ⟨row, located⟩ := Option.isSome_iff_exists.mp stored
    obtain ⟨found, ofTenant⟩ := Db.ticketOf_eq_some_iff.mp located
    simpa [Write.Own, found] using ofTenant
  · simpa [Write.Own, free] using ofTenant

theorem own_upsertTimer {timer : SlaTimer}
    (saved : (db.timerOf t timer.id).isSome = true ∨
      (some timer.tenantId = some t ∧ db.timers.find? timer.id = none)) :
    (Write.upsertTimer timer).Own t db := by
  rcases saved with stored | ⟨ofTenant, free⟩
  · obtain ⟨row, located⟩ := Option.isSome_iff_exists.mp stored
    obtain ⟨found, ofTenant⟩ := Db.timerOf_eq_some_iff.mp located
    simpa [Write.Own, found] using ofTenant
  · simpa [Write.Own, free] using ofTenant

/-- Under row level security a call writes rows of its tenant only. -/
theorem exec_own (own : ctx.tenant = some t) {c : Call} {reply : c.Reply} {writes : List Write}
    (answered : exec ctx c db = some (reply, writes)) :
    writes = [] ∨ ∃ w, writes = [w] ∧ w.Own t db := by
  cases c with
  | numbersNext tenantId =>
      simp only [exec, own] at answered
      split at answered
      · rename_i ofTenant
        cases answered
        exact .inr ⟨_, rfl, Option.some.inj ofTenant⟩
      · cases answered
  | ticketsSave ticket =>
      simp only [exec, own, Db.visible_tickets_find?] at answered
      split at answered
      · rename_i row located
        cases answered
        exact .inr ⟨_, rfl, own_upsertTicket (.inl (by simp [located]))⟩
      · split at answered
        · rename_i allowed
          cases answered
          exact .inr ⟨_, rfl, own_upsertTicket (.inr ⟨allowed.1, allowed.2.1⟩)⟩
        · cases answered
  | commentsSave comment =>
      simp only [exec, own] at answered
      split at answered
      · rename_i allowed
        cases answered
        exact .inr ⟨_, rfl, Option.some.inj allowed.1, allowed.2⟩
      · cases answered
  | auditLogsRecord entry =>
      simp only [exec, own] at answered
      split at answered
      · rename_i allowed
        cases answered
        exact .inr ⟨_, rfl, Option.some.inj allowed.1, allowed.2⟩
      · cases answered
  | outboxAppend records =>
      simp only [exec, own] at answered
      split at answered
      · rename_i allowed
        obtain ⟨ofTenant, free, distinct⟩ := allowed
        cases answered
        by_cases empty : records = []
        · exact .inl (if_pos empty)
        · refine .inr ⟨_, if_neg empty, fun r member => ?_, by rw [List.map_map]; exact distinct⟩
          obtain ⟨record, inside, rfl⟩ := List.mem_map.mp member
          exact ⟨Option.some.inj (ofTenant record inside), free record inside⟩
      · cases answered
  | processedClaim consumer eventId tenantId =>
      simp only [exec, own] at answered
      split at answered
      · rename_i ofTenant
        split at answered
        · cases answered
          exact .inl rfl
        · rename_i unclaimed
          cases answered
          exact .inr ⟨_, rfl, Option.some.inj ofTenant, unclaimed⟩
      · cases answered
  | policiesUpsert tenantId priority target now =>
      simp only [exec, own] at answered
      split at answered
      · rename_i ofTenant
        cases answered
        exact .inr ⟨_, rfl, Option.some.inj ofTenant⟩
      · cases answered
  | policiesRemove tenantId priority =>
      simp only [exec, own] at answered
      split at answered
      · rename_i row found
        cases answered
        refine .inr ⟨_, rfl, ?_⟩
        simp only [Db.visible, Table.find?_filter, Option.filter_eq_some_iff] at found
        have ofTenant : row.tenantId = t := by simpa using found.2
        exact (congrArg Prod.fst (Table.key_of_find? found.1)).symm.trans ofTenant
      · cases answered
        exact .inl rfl
  | timersSave timer =>
      simp only [exec, own, Db.visible_timers_find?] at answered
      split at answered
      · rename_i row located
        cases answered
        exact .inr ⟨_, rfl, own_upsertTimer (.inl (by simp [located]))⟩
      · split at answered
        · rename_i allowed
          cases answered
          exact .inr ⟨_, rfl, own_upsertTimer (.inr ⟨allowed.1, allowed.2.1⟩)⟩
        · cases answered
  | _ =>
      cases answered
      exact .inl rfl

end Own

section Visible

variable {db : Db} {t : TenantId} {w : Write}

/-- Appending messages of the tenant, to the messages it sees. -/
theorem filter_insertAll {rows : List OutboxRow} {outbox : Table OutboxRow}
    (own : ∀ r ∈ rows, r.tenantId = t ∧ outbox.find? r.id = none) (distinct : (rows.map (·.id)).Nodup) :
    (rows.foldl Table.insert outbox).filter (fun r => some r.tenantId == some t) =
      rows.foldl Table.insert (outbox.filter fun r => some r.tenantId == some t) := by
  induction rows generalizing outbox with
  | nil => rfl
  | cons r rows ih =>
      obtain ⟨ofTenant, free⟩ := own r (by simp)
      simp only [List.map_cons, List.nodup_cons] at distinct
      rw [List.foldl_cons, List.foldl_cons, ih ?_ distinct.2,
        Table.filter_insert_of_pass (r := r) free (by simp [ofTenant])]
      intro r' member
      obtain ⟨ofTenant', free'⟩ := own r' (by simp [member])
      have other : r.id ≠ r'.id := fun same => distinct.1 (same ▸ List.mem_map_of_mem member)
      refine ⟨ofTenant', ?_⟩
      rw [Table.find?_insert, free']
      simp [other]

theorem filter_insertAll_other {t' : TenantId} (other : t' ≠ t) {rows : List OutboxRow}
    {outbox : Table OutboxRow} (own : ∀ r ∈ rows, r.tenantId = t) :
    (rows.foldl Table.insert outbox).filter (fun r => some r.tenantId == some t') =
      outbox.filter fun r => some r.tenantId == some t' := by
  induction rows generalizing outbox with
  | nil => rfl
  | cons r rows ih =>
      rw [List.foldl_cons, ih fun r' member => own r' (by simp [member]),
        Table.filter_insert_of_fail (by simp [own r (by simp), Ne.symm other])]

/-- A write of a tenant does to the rows the tenant sees what it does to the database. -/
theorem visible_apply_own (own : w.Own t db) :
    (w.apply db).visible (some t) = w.apply (db.visible (some t)) := by
  cases w with
  | upsertTicket ticket =>
      simp only [Write.apply, Db.visible]
      rw [Table.filter_upsert_of_pass]
      · exact fun _ => rfl
      · cases found : db.tickets.find? ticket.id <;>
          simpa [Write.Own, found, createTicketRow] using own
  | insertComment comment =>
      simp only [Write.apply, Db.visible]
      rw [Table.filter_insert_of_pass own.2 (by simp [own.1])]
  | bumpCounter tenantId =>
      simp only [Write.apply, Db.visible]
      rw [Table.filter_upsert_of_pass]
      · exact fun _ => rfl
      · cases found : db.counters.find? tenantId with
        | none => simpa [Write.Own, found] using own
        | some row =>
            have sameTenant : row.tenantId = tenantId := Table.key_of_find? found
            simpa [Write.Own, found, sameTenant] using own
  | insertAuditLog entry =>
      simp only [Write.apply, Db.visible]
      rw [Table.filter_insert_of_pass own.2 (by simp [own.1])]
  | insertOutbox rows =>
      simp only [Write.apply, Db.visible]
      rw [filter_insertAll own.1 own.2]
  | insertProcessed row =>
      simp only [Write.apply, Db.visible]
      rw [Table.filter_insert_of_pass own.2 (by simp [own.1])]
  | upsertPolicy row =>
      simp only [Write.apply, Db.visible]
      rw [Table.filter_upsert_of_pass]
      · exact fun _ => rfl
      · cases found : db.policies.find? (row.tenantId, row.priority) with
        | none => simpa [Write.Own, found] using own
        | some old =>
            have sameTenant : old.tenantId = row.tenantId := congrArg Prod.fst (Table.key_of_find? found)
            simpa [Write.Own, found, sameTenant] using own
  | deletePolicy tenantId priority =>
      simp only [Write.apply, Db.visible]
      rw [Table.filter_deleteWhere]
  | upsertTimer timer =>
      simp only [Write.apply, Db.visible]
      rw [Table.filter_upsert_of_pass]
      · exact fun _ => rfl
      · cases found : db.timers.find? timer.id <;> simpa [Write.Own, found] using own

/-- A write of a tenant does nothing to the rows another tenant sees. -/
theorem visible_apply_other {t' : TenantId} (other : t' ≠ t) (own : w.Own t db) :
    (w.apply db).visible (some t') = db.visible (some t') := by
  have hidden : t ≠ t' := Ne.symm other
  cases w with
  | upsertTicket ticket =>
      simp only [Write.apply, Db.visible]
      rw [Table.filter_upsert_of_fail]
      · exact fun _ => rfl
      · cases found : db.tickets.find? ticket.id <;> simp_all [Write.Own, createTicketRow]
  | insertComment comment =>
      simp only [Write.apply, Db.visible]
      rw [Table.filter_insert_of_fail (by simp [own.1, hidden])]
  | bumpCounter tenantId =>
      simp only [Write.apply, Db.visible]
      rw [Table.filter_upsert_of_fail]
      · exact fun _ => rfl
      · cases found : db.counters.find? tenantId with
        | none => simp_all [Write.Own]
        | some row =>
            have sameTenant : row.tenantId = tenantId := Table.key_of_find? found
            simp_all [Write.Own]
  | insertAuditLog entry =>
      simp only [Write.apply, Db.visible]
      rw [Table.filter_insert_of_fail (by simp [own.1, hidden])]
  | insertOutbox rows =>
      simp only [Write.apply, Db.visible]
      rw [filter_insertAll_other other fun r member => (own.1 r member).1]
  | insertProcessed row =>
      simp only [Write.apply, Db.visible]
      rw [Table.filter_insert_of_fail (by simp [own.1, hidden])]
  | upsertPolicy row =>
      simp only [Write.apply, Db.visible]
      rw [Table.filter_upsert_of_fail]
      · exact fun _ => rfl
      · cases found : db.policies.find? (row.tenantId, row.priority) with
        | none => simp_all [Write.Own]
        | some old =>
            have sameTenant : old.tenantId = row.tenantId := congrArg Prod.fst (Table.key_of_find? found)
            simp_all [Write.Own]
  | deletePolicy tenantId priority =>
      simp only [Write.apply, Db.visible]
      rw [Table.filter_deleteWhere, Table.deleteWhere_of_none fun r member => ?_]
      have ofOther : r.tenantId = t' := by simpa using (List.mem_filter.mp member).2
      have deletes : tenantId = t := own
      simp [ofOther, deletes, other]
  | upsertTimer timer =>
      simp only [Write.apply, Db.visible]
      rw [Table.filter_upsert_of_fail]
      · exact fun _ => rfl
      · cases found : db.timers.find? timer.id <;> simp_all [Write.Own]

end Visible

/-- No row of another tenant has this id: what the tenant sees under it is all there is. -/
structure Db.NoForeign (db : Db) (t : TenantId) (u : Uuid) : Prop where
  tickets : db.tickets.find? ⟨u⟩ = (db.visible (some t)).tickets.find? ⟨u⟩
  comments : db.comments.find? ⟨u⟩ = (db.visible (some t)).comments.find? ⟨u⟩
  auditLogs : db.auditLogs.find? ⟨u⟩ = (db.visible (some t)).auditLogs.find? ⟨u⟩
  outbox : db.outbox.find? u = (db.visible (some t)).outbox.find? u

/-- A call that inserts rows under ids of `mine` only, or saves a ticket the tenant has. Claims and timers
    are left out: their unique keys span the tenants. -/
def Call.Confined (t : TenantId) (mine : Uuid → Prop) (db : Db) : Call → Prop
  | .ticketsSave ticket => (db.ticketOf t ticket.id).isSome = true ∨ mine ticket.id.uuid
  | .commentsSave comment => mine comment.id.uuid
  | .auditLogsRecord entry => mine entry.id.uuid
  | .outboxAppend records => ∀ r ∈ records, mine r.id
  | .processedClaim _ _ _ => False
  | .timersSave _ => False
  | _ => True

section Agreement

variable {db db₁ db₂ : Db} {t : TenantId}

/-- A ticket number is looked for among the tenant's tickets only. -/
theorem visible_tickets_any (db : Db) (t : TenantId) (number : Int) :
    (db.visible (some t)).tickets.any (fun r => decide (r.tenantId = t ∧ r.number = number)) =
      db.tickets.any fun r => decide (r.tenantId = t ∧ r.number = number) := by
  simp only [Db.visible, Table.any, Table.filter, List.any_filter]
  congr 1
  funext r
  by_cases ofTenant : r.tenantId = t <;> simp [ofTenant]

theorem visible_counters_find? (db : Db) (t : TenantId) :
    (db.visible (some t)).counters.find? t = db.counters.find? t := by
  simp only [Db.visible, Table.find?_filter]
  cases found : db.counters.find? t with
  | none => rfl
  | some row =>
      have ofTenant : row.tenantId = t := Table.key_of_find? found
      simp [ofTenant]

/-- Where the rows of a tenant agree, a confined call answers the same and writes the same. -/
theorem exec_agree {ctx : Ctx} (own : ctx.tenant = some t) {mine : Uuid → Prop}
    (agree : db₁.visible (some t) = db₂.visible (some t)) (noForeign₁ : ∀ u, mine u → db₁.NoForeign t u)
    (noForeign₂ : ∀ u, mine u → db₂.NoForeign t u) {c : Call} (confined : c.Confined t mine db₁) :
    exec ctx c db₁ = exec ctx c db₂ := by
  cases c with
  | numbersNext tenantId =>
      simp only [exec, own]
      by_cases ofTenant : some tenantId = some t
      · cases ofTenant
        rw [← visible_counters_find? db₁, ← visible_counters_find? db₂, agree]
      · simp only [if_neg ofTenant]
  | ticketsSave ticket =>
      simp only [exec, own, agree]
      split
      · rfl
      · rename_i unseen
        by_cases ofTenant : ticket.tenantId = t
        · have unseen₁ : db₁.ticketOf t ticket.id = none := by
            rw [← Db.visible_tickets_find?, agree]
            exact unseen
          have isMine : mine ticket.id.uuid := by
            rcases confined with stored | isMine
            · simp [unseen₁] at stored
            · exact isMine
          have free : db₁.tickets.find? ticket.id = db₂.tickets.find? ticket.id := by
            rw [(noForeign₁ _ isMine).tickets, (noForeign₂ _ isMine).tickets, agree]
          have numbered := visible_tickets_any db₁ t ticket.number
          rw [agree, visible_tickets_any] at numbered
          simp only [free, ofTenant, numbered]
        · simp [ofTenant]
  | commentsSave comment =>
      have free : db₁.comments.find? comment.id = db₂.comments.find? comment.id := by
        rw [(noForeign₁ _ confined).comments, (noForeign₂ _ confined).comments, agree]
      simp only [exec, own, free]
  | auditLogsRecord entry =>
      have free : db₁.auditLogs.find? entry.id = db₂.auditLogs.find? entry.id := by
        rw [(noForeign₁ _ confined).auditLogs, (noForeign₂ _ confined).auditLogs, agree]
      simp only [exec, own, free]
  | outboxAppend records =>
      have free : (∀ r ∈ records, db₁.outbox.find? r.id = none) ↔
          ∀ r ∈ records, db₂.outbox.find? r.id = none := by
        apply forall₂_congr
        intro r member
        have isMine := confined r member
        rw [(noForeign₁ _ isMine).outbox, (noForeign₂ _ isMine).outbox, agree]
      simp only [exec, own, free]
  | processedClaim consumer eventId tenantId => exact confined.elim
  | timersSave timer => exact confined.elim
  | policiesUpsert tenantId priority target now => rfl
  | _ => simp only [exec, own, agree]

/-- A key that was free, in a table where only rows of one tenant have changed since, finds a row of that
    tenant if it finds any. -/
theorem find?_of_owned {R K : Type} [Keyed R K] [DecidableEq K] (tenantOf : R → TenantId)
    {table base : Table R} {k : K}
    (unchanged : ∀ t', t' ≠ t → table.filter (fun r => some (tenantOf r) == some t') =
      base.filter fun r => some (tenantOf r) == some t') (free : base.find? k = none) :
    table.find? k = (table.filter fun r => some (tenantOf r) == some t).find? k := by
  rw [Table.find?_filter]
  cases found : table.find? k with
  | none => rfl
  | some r =>
      by_cases ofTenant : tenantOf r = t
      · rw [Option.filter_some, if_pos (by simp [ofTenant])]
      · have seen := congrArg (fun table => table.find? k) (unchanged (tenantOf r) ofTenant)
        simp [Table.find?_filter, found, free] at seen

/-- Ids that nobody had used stay free of the rows of tenants that have done nothing since. -/
theorem Db.noForeign_of_unchanged {base : Db} {u : Uuid}
    (unchanged : ∀ t', t' ≠ t → db.visible (some t') = base.visible (some t'))
    (tickets : base.tickets.find? ⟨u⟩ = none) (comments : base.comments.find? ⟨u⟩ = none)
    (auditLogs : base.auditLogs.find? ⟨u⟩ = none) (outbox : base.outbox.find? u = none) :
    db.NoForeign t u where
  tickets := find?_of_owned TicketRow.tenantId
    (fun t' other => congrArg Db.tickets (unchanged t' other)) tickets
  comments := find?_of_owned Comment.tenantId
    (fun t' other => congrArg Db.comments (unchanged t' other)) comments
  auditLogs := find?_of_owned AuditLog.tenantId
    (fun t' other => congrArg Db.auditLogs (unchanged t' other)) auditLogs
  outbox := find?_of_owned OutboxRow.tenantId
    (fun t' other => congrArg Db.outbox (unchanged t' other)) outbox

end Agreement

end Helpdesk
