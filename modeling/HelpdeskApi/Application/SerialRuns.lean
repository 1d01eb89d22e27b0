/-
Module: HelpdeskApi.Application.SerialRuns
Layer: Application
Purpose: The use cases run in one piece, one after the other, and what each leaves is compared with the
  writes `Serial` says it commits. Every proof follows the branches of its use case; the branches that
  commit end in the same three calls (save, audit, record), which are run once.
Trusted boundary: none
Main exports: settle, serve_committed, serially, serially_eq_some_iff
-/
import HelpdeskApi.Application.Serial

namespace Helpdesk

open Txn Relational

namespace Db

/-- No row of any table has this id. -/
structure Unused (db : Db) (u : Uuid) : Prop where
  ticket : db.tickets.find? ⟨u⟩ = none
  comment : db.comments.find? ⟨u⟩ = none
  auditLog : db.auditLogs.find? ⟨u⟩ = none
  outbox : db.outbox.find? u = none
  timer : db.timers.find? ⟨u⟩ = none

theorem unused_of_usesId {db : Db} {u : Uuid} (unused : db.usesId u = false) : db.Unused u := by
  simp only [usesId, Bool.or_eq_false_iff, Option.isSome_eq_false_iff, Option.isNone_iff_eq_none] at unused
  exact ⟨unused.1.1.1.1, unused.1.1.1.2, unused.1.1.2, unused.1.2, unused.2⟩

/-- There are always ids that no row has. -/
theorem exists_unused_from (db : Db) : ∃ bound : Nat, ∀ u : Nat, bound ≤ u → db.usesId u = false := by
  obtain ⟨b₁, tickets⟩ := db.tickets.exists_free_from (f := TicketId.mk) fun _ _ same => TicketId.mk.inj same
  obtain ⟨b₂, comments⟩ := db.comments.exists_free_from (f := CommentId.mk) fun _ _ same => CommentId.mk.inj same
  obtain ⟨b₃, entries⟩ := db.auditLogs.exists_free_from (f := AuditLogId.mk) fun _ _ same => AuditLogId.mk.inj same
  obtain ⟨b₄, messages⟩ := db.outbox.exists_free_from (f := id) fun _ _ same => same
  obtain ⟨b₅, timers⟩ := db.timers.exists_free_from (f := SlaTimerId.mk) fun _ _ same => SlaTimerId.mk.inj same
  refine ⟨b₁ + b₂ + b₃ + b₄ + b₅, fun u large => ?_⟩
  have message : db.outbox.find? u = none := messages u (by omega)
  simp only [usesId, tickets u (by omega), comments u (by omega), entries u (by omega), message,
    timers u (by omega), Option.isSome_none, Bool.or_self]

end Db

namespace Ambient

variable {ambient : Ambient} {db : Db}

theorem unused_of_freshIn (fresh : ambient.freshIn db = true) :
    db.Unused (ambient.uuid 0) ∧ db.Unused (ambient.uuid 1) ∧ db.Unused (ambient.uuid 2) := by
  simp only [freshIn, List.all_cons, List.all_nil, Bool.and_true, Bool.and_eq_true,
    Bool.not_eq_true'] at fresh
  exact ⟨Db.unused_of_usesId fresh.2.1, Db.unused_of_usesId fresh.2.2.1,
    Db.unused_of_usesId fresh.2.2.2⟩

/-- The generator can hand out new ids at any time. -/
theorem exists_freshIn (db : Db) (now : Instant) : ∃ ambient : Ambient, ambient.now = now ∧ ambient.freshIn db = true := by
  obtain ⟨bound, unused⟩ := db.exists_unused_from
  refine ⟨{ now := now, uuid := fun i => bound + i }, rfl, ?_⟩
  simp [freshIn, unused]

theorem distinct_of_freshIn (fresh : ambient.freshIn db = true) : ambient.uuid 0 ≠ ambient.uuid 1 := by
  simp only [freshIn, Bool.and_eq_true, decide_eq_true_eq, List.nodup_cons, List.mem_cons,
    not_or] at fresh
  exact fresh.1.1.1

end Ambient

section Settle

variable {ctx : Ctx} {db : Db} {t : TenantId} {α β : Type}

/-- The database a use case leaves when it runs in one piece. -/
def settle (ctx : Ctx) (p : Proc sig (Except TicketingError α)) (db : Db) : Db :=
  (repositories.transact ctx commitsResult p db).2

variable {p : Proc sig (Except TicketingError α)}

theorem settle_ok {a : α} {db' : Db} (ran : p.run repositories ctx db = some (.ok a, db')) :
    settle ctx p db = db' := by
  rw [settle, Handler.transact_of_commit ran rfl]

theorem settle_error (db' : Db) {e : TicketingError}
    (ran : p.run repositories ctx db = some (.error e, db')) : settle ctx p db = db := by
  rw [settle, Handler.transact_of_rollback ran rfl]

theorem settle_exception (ran : p.run repositories ctx db = none) : settle ctx p db = db := by
  rw [settle, Handler.transact_of_exception ran]

theorem settle_map (f : α → β) : settle ctx ((·.map f) <$> p) db = settle ctx p db := by
  simp only [settle, Handler.transact, Proc.run_map]
  cases p.run repositories ctx db with
  | none => rfl
  | some result =>
      obtain ⟨out, db'⟩ := result
      cases out <;> rfl

/-- What a read that cannot fail leaves. -/
theorem settle_read {q : Proc sig α} {a : α} {db' : Db} (f : α → β)
    (ran : q.run repositories ctx db = some (a, db')) :
    settle ctx ((fun x => .ok (f x)) <$> q) db = db' :=
  settle_ok (a := f a) (by rw [Proc.run_map, ran]; rfl)

section Claiming

variable {consumer : String} {eventId : Uuid} {next : Bool → Proc sig (Except TicketingError α)}

/-- A consumer that sees an event for the first time goes on from its own mark. -/
theorem settle_first {a : α} {db' : Db} (own : ctx.tenant = some t)
    (unmarked : db.processed.find? (consumer, eventId) = none)
    (ran : (next true).run repositories ctx (db.after
      [.insertProcessed { consumer := consumer, eventId := eventId, tenantId := t }]) = some (.ok a, db')) :
    settle ctx (.call (S := sig) (.processedClaim consumer eventId t) next) db = db' := by
  refine settle_ok (a := a) ?_
  rw [run_exec (exec_processedClaim_first own unmarked)]
  exact ran

/-- Where the rest fails, the mark goes too. -/
theorem settle_first_exception (own : ctx.tenant = some t)
    (unmarked : db.processed.find? (consumer, eventId) = none)
    (ran : (next true).run repositories ctx (db.after
      [.insertProcessed { consumer := consumer, eventId := eventId, tenantId := t }]) = none) :
    settle ctx (.call (S := sig) (.processedClaim consumer eventId t) next) db = db := by
  apply settle_exception
  rw [run_exec (exec_processedClaim_first own unmarked)]
  exact ran

/-- A consumer that has seen the event leaves everything as it is. -/
theorem settle_again {a : α} {old : ProcessedRow} (own : ctx.tenant = some t)
    (marked : db.processed.find? (consumer, eventId) = some old) (ends : next false = .done (.ok a)) :
    settle ctx (.call (S := sig) (.processedClaim consumer eventId t) next) db = db := by
  refine settle_ok (a := a) ?_
  rw [run_exec (exec_processedClaim_again own marked), ends]
  rfl

end Claiming

section Recording

variable {entry : AuditLog} {event : IntegrationEvent} {uuid : Nat → Uuid}

/-- Audit, then record one event. -/
theorem run_auditRecord {result : α} (own : ctx.tenant = some t) (ownEntry : entry.tenantId = t)
    (freshEntry : db.auditLogs.find? entry.id = none) (ownEvent : event.tenantId = t)
    (freshRow : db.outbox.find? (uuid 0) = none) :
    (Proc.call (S := sig) (.auditLogsRecord entry) fun _ =>
      .call (.outboxAppend (outboxRecords uuid [event])) fun _ => .done result).run repositories ctx db =
    some (result, db.after [.insertAuditLog entry, .insertOutbox [outboxRow (uuid 0) ctx.requestId event]]) := by
  subst ownEntry
  have appended : exec ctx (.outboxAppend (outboxRecords uuid [event])) (db.after [.insertAuditLog entry]) =
      some ((), [.insertOutbox [outboxRow (uuid 0) ctx.requestId event]]) :=
    exec_outboxAppend (own.trans (congrArg some ownEvent.symm)) freshRow
  rw [run_exec (exec_auditLogsRecord own freshEntry)]
  exact run_exec appended

/-- The end of every command on a stored ticket: save it, audit it, record its event. -/
theorem run_saveAuditRecord {result : α} {ticket : Ticket} {row : TicketRow} (own : ctx.tenant = some t)
    (stored : db.ticketOf t ticket.id = some row) (ownEntry : entry.tenantId = t)
    (freshEntry : db.auditLogs.find? entry.id = none) (ownEvent : event.tenantId = t)
    (freshRow : db.outbox.find? (uuid 0) = none) :
    (Proc.call (S := sig) (.ticketsSave ticket) fun _ => .call (.auditLogsRecord entry) fun _ =>
      .call (.outboxAppend (outboxRecords uuid [event])) fun _ => .done result).run repositories ctx db =
    some (result, db.after [.upsertTicket ticket, .insertAuditLog entry,
      .insertOutbox [outboxRow (uuid 0) ctx.requestId event]]) := by
  rw [run_exec (exec_ticketsSave_stored own stored)]
  exact run_auditRecord own ownEntry freshEntry ownEvent freshRow

end Recording

variable {ambient : Ambient}

namespace AddComment

theorem registerComment_changed (input : AddCommentInput) {row : TicketRow} (opened : row.status ≠ .CLOSED) :
    (toTicket row).registerComment ⟨ambient.uuid 0⟩ input.actorId input.actorRole ambient.now =
      .ok (changed input ambient row) := by
  simp [Ticket.registerComment, Ticket.acceptsComments, opened]
  rfl

theorem settle_committed (input : AddCommentInput) (own : ctx.tenant = some input.tenantId)
    (fresh : ambient.freshIn db = true) :
    settle ctx (execute input ambient) db = db.after (committed input ambient ctx.requestId db) := by
  obtain ⟨unused₀, unused₁, unused₂⟩ := Ambient.unused_of_freshIn fresh
  cases located : db.ticketOf input.tenantId input.ticketId with
  | none =>
      have rejected : commentable input db = none := by simp [commentable, located]
      rw [committed, rejected]
      exact settle_error db (e := .ticketNotFound)
        (by simp [execute, run_exec (exec_ticketsFindById own input.ticketId), located])
  | some row =>
      obtain ⟨stored, ofTenant⟩ := Db.ticketOf_eq_some_iff.mp located
      have sameId : row.id = input.ticketId := Table.key_of_find? stored
      by_cases closed : row.status = .CLOSED
      · have rejected : commentable input db = none := by simp [commentable, located, closed]
        rw [committed, rejected]
        exact settle_error db (e := .ticketClosed)
          (by simp [execute, run_exec (exec_ticketsFindById own input.ticketId), located,
            Ticket.acceptsComments, closed])
      · by_cases body : jsLength (trim input.body) = 0 ∨ BODY_MAX < jsLength (trim input.body)
        · have rejected : commentable input db = none := by
            simp only [commentable, located, Option.filter_some, decide_eq_true_eq]
            rw [if_neg (by omega)]
          rw [committed, rejected]
          exact settle_error db (e := .emptyComment)
            (by simp [execute, run_exec (exec_ticketsFindById own input.ticketId), located,
              Ticket.acceptsComments, closed, Comment.write, body])
        · have accepted : commentable input db = some row := by
            simp only [commentable, located, Option.filter_some, decide_eq_true_eq]
            rw [if_pos ⟨closed, by omega⟩]
          have accepts : (toTicket row).acceptsComments = true := by simp [Ticket.acceptsComments, closed]
          have recorded := EventRecorder.record_one (fun i => ambient.uuid (2 + i))
            (show (changed input ambient row).domainEvents = [event input ambient row] from rfl)
          simp only [committed, accepted]
          apply settle_ok (a := comment input ambient)
          simp only [execute, TicketRepository.findById, CommentRepository.save, TicketRepository.save,
            AuditRecorder.record, Proc.ask, Proc.call_bind, Proc.done_bind]
          rw [run_exec (exec_ticketsFindById own input.ticketId), located]
          simp only [Option.map_some, accepts, if_true, Comment.write, body, if_false,
            registerComment_changed input closed, recorded, Proc.call_bind, Proc.done_bind,
            Proc.pure_eq_done]
          rw [Db.after_nil, run_exec (exec_commentsSave own unused₀.comment), run_saveAuditRecord own]
          · rfl
          · exact sameId ▸ located
          · rfl
          · exact unused₁.auditLog
          · exact ofTenant
          · exact unused₂.outbox

end AddComment

namespace ChangeTicketStatus

theorem changeStatus_changed (input : ChangeTicketStatusInput) {row : TicketRow}
    (legal : canTransition row.status input.status = true) :
    (toTicket row).changeStatus input.status ambient.now = .ok (changed input ambient row) := by
  simp only [Ticket.changeStatus, toTicket_status, if_neg (ne_of_canTransition legal), legal, if_true]
  rfl

@[simp] theorem changed_id (input : ChangeTicketStatusInput) (row : TicketRow) :
    (changed input ambient row).id = row.id := by
  simp [changed]

theorem settle_committed (input : ChangeTicketStatusInput)
    (own : ctx.tenant = some input.tenantId) (fresh : ambient.freshIn db = true) :
    settle ctx (execute input ambient) db = db.after (committed input ambient ctx.requestId db) := by
  obtain ⟨unused₀, unused₁, _⟩ := Ambient.unused_of_freshIn fresh
  cases located : db.ticketOf input.tenantId input.ticketId with
  | none =>
      have rejected : transitioning input db = none := by simp [transitioning, located]
      rw [committed, rejected]
      exact settle_error db (e := .ticketNotFound)
        (by simp [execute, run_exec (exec_ticketsFindById own input.ticketId), located])
  | some row =>
      obtain ⟨stored, ofTenant⟩ := Db.ticketOf_eq_some_iff.mp located
      have sameId : row.id = input.ticketId := Table.key_of_find? stored
      by_cases legal : canTransition row.status input.status = true
      · have moved : row.status ≠ input.status := ne_of_canTransition legal
        have accepted : transitioning input db = some row := by simp [transitioning, located, legal]
        have recorded := EventRecorder.record_one (fun i => ambient.uuid (1 + i))
          (show (changed input ambient row).domainEvents = [event input ambient row] from by simp [changed])
        simp only [committed, accepted]
        apply settle_ok (a := (changed input ambient row).pullDomainEvents.2)
        simp only [execute, TicketRepository.findById, TicketRepository.save, AuditRecorder.record,
          Proc.ask, Proc.call_bind, Proc.done_bind]
        rw [run_exec (exec_ticketsFindById own input.ticketId), located]
        simp only [Option.map_some, toTicket_status, changeStatus_changed input legal, if_neg moved,
          recorded, Proc.call_bind, Proc.done_bind, Proc.pure_eq_done]
        rw [Db.after_nil, run_saveAuditRecord own]
        · rw [changed_id]
          rfl
        · simpa [sameId] using located
        · rfl
        · exact unused₀.auditLog
        · exact ofTenant
        · exact unused₁.outbox
      · have rejected : transitioning input db = none := by simp [transitioning, located, legal]
        rw [committed, rejected]
        by_cases same : row.status = input.status
        · exact settle_ok (a := toTicket row)
            (by simp [execute, run_exec (exec_ticketsFindById own input.ticketId), located,
              Ticket.changeStatus, same])
        · exact settle_error db (e := .invalidTicketTransition row.status input.status)
            (by simp [execute, run_exec (exec_ticketsFindById own input.ticketId), located,
              Ticket.changeStatus, same, legal])

end ChangeTicketStatus

namespace CreateTicket

theorem opened_of_opening {input : CreateTicketInput} {ticket : Ticket}
    (opens : opening input ambient db = .ok ticket) :
    ticket.id = ⟨ambient.uuid 0⟩ ∧ ticket.tenantId = input.tenantId ∧ ticket.number = number input db ∧
      ticket.priority = input.priority ∧
      ticket.domainEvents = [ticketCreated ⟨ambient.uuid 0⟩ input.tenantId ambient.now (number input db)
        (trim input.subject) input.priority .OPEN input.actorId] := by
  rw [Ticket.opened_eq opens]
  exact ⟨rfl, rfl, rfl, rfl, rfl⟩

theorem settle_committed (input : CreateTicketInput) (own : ctx.tenant = some input.tenantId)
    (fresh : ambient.freshIn db = true) :
    settle ctx (execute input ambient) db = db.after (committed input ambient ctx.requestId db) := by
  obtain ⟨unused₀, unused₁, unused₂⟩ := Ambient.unused_of_freshIn fresh
  cases opens : opening input ambient db with
  | error e =>
      simp only [committed, opens]
      refine settle_error (db.after [.bumpCounter input.tenantId]) (e := e) ?_
      simp only [execute, TicketNumberGenerator.next, Proc.ask, Proc.call_bind, Proc.done_bind]
      rw [run_exec (exec_numbersNext own)]
      simp only [opening, number] at opens
      rw [opens]
      rfl
  | ok ticket =>
      obtain ⟨sameId, ofTenant, sameNumber, samePriority, events⟩ := opened_of_opening opens
      have recorded := EventRecorder.record_one (fun i => ambient.uuid (2 + i)) events
      have started :
          (execute input ambient).run repositories ctx db =
            (Proc.call (S := sig) (.ticketsSave ticket) fun _ =>
              .call (.auditLogsRecord (ticketEntry (ambient.uuid 1) input.tenantId input.actorId
                .ticketCreated ticket.id (.ticketCreated ticket.number ticket.priority) ambient.now))
              fun _ => .call (.outboxAppend (outboxRecords (fun i => ambient.uuid (2 + i))
                [ticketCreated ⟨ambient.uuid 0⟩ input.tenantId ambient.now (number input db)
                  (trim input.subject) input.priority .OPEN input.actorId])) fun _ =>
              .done (.ok ticket.pullDomainEvents.2)).run repositories ctx
              (db.after [.bumpCounter input.tenantId]) := by
        simp only [execute, TicketNumberGenerator.next, TicketRepository.save, AuditRecorder.record,
          Proc.ask, Proc.call_bind, Proc.done_bind]
        rw [run_exec (exec_numbersNext own)]
        have opens' := opens
        simp only [opening, number] at opens'
        rw [opens']
        simp only [recorded, Proc.call_bind, Proc.done_bind, Proc.pure_eq_done]
        rfl
      by_cases clash : db.tickets.any
          (fun r => r.tenantId = input.tenantId ∧ r.number = number input db) = true
      · simp only [committed, opens, clash, if_true]
        apply settle_exception
        rw [started]
        apply run_exec_failed
        have unseen : (db.after [.bumpCounter input.tenantId]).ticketOf input.tenantId ticket.id = none := by
          simp [Db.ticketOf, Write.apply, sameId, unused₀.ticket]
        simp only [exec, own, Db.visible_tickets_find?, unseen, ofTenant, sameNumber]
        rw [if_neg]
        rintro ⟨_, _, free⟩
        exact absurd clash (by simpa [Write.apply] using free)
      · simp only [committed, opens, clash]
        refine settle_ok (a := ticket.pullDomainEvents.2) ?_
        have saved : exec ctx (.ticketsSave ticket) (db.after [.bumpCounter input.tenantId]) =
            some ((), [.upsertTicket ticket]) := by
          refine exec_ticketsSave_fresh (own.trans (congrArg some ofTenant.symm))
            (by rw [sameId]; exact unused₀.ticket) ?_
          simpa [Table.any, ofTenant, sameNumber, Write.apply] using clash
        rw [started, run_exec saved, run_auditRecord own]
        · rw [sameId, sameNumber, samePriority]
          rfl
        · rfl
        · exact unused₁.auditLog
        · rfl
        · exact unused₂.outbox

end CreateTicket

namespace AssignTicket

theorem apply_changed (input : AssignTicketInput) {row : TicketRow} (opened : row.status ≠ .CLOSED) :
    apply (toTicket row) ambient.now input.assigneeId = .ok (changed input ambient row) := by
  obtain ⟨tenantId, actorId, ticketId, assigneeId⟩ := input
  cases assigneeId <;> simp [apply, Ticket.unassign, Ticket.assignTo, opened] <;> rfl

theorem apply_closed (input : AssignTicketInput) {row : TicketRow} (closed : row.status = .CLOSED) :
    apply (toTicket row) ambient.now input.assigneeId = .error .ticketClosed := by
  cases input.assigneeId <;> simp [apply, Ticket.unassign, Ticket.assignTo, closed]

@[simp] theorem event_tenantId (input : AssignTicketInput) (row : TicketRow) :
    (event input ambient row).tenantId = row.tenantId := by
  unfold event
  cases input.assigneeId <;> rfl

/-- What `assigneeExists` decides. -/
theorem run_assigneeExists (input : AssignTicketInput) (own : ctx.tenant = some input.tenantId)
    (next : Bool → Proc sig α) :
    (assigneeExists input.tenantId input.assigneeId >>= next).run repositories ctx db =
      (next (decide (∀ u ∈ input.assigneeId,
        db.memberships.any (fun m => m.tenantId = input.tenantId ∧ m.userId = u)))).run
        repositories ctx db := by
  cases requested : input.assigneeId with
  | none => simp [assigneeExists]
  | some u =>
      simp only [assigneeExists, MemberDirectory.isMember, Proc.ask, Proc.call_bind, Proc.done_bind]
      rw [run_exec (exec_membersIsMember own u)]
      simp

theorem settle_committed (input : AssignTicketInput) (own : ctx.tenant = some input.tenantId)
    (fresh : ambient.freshIn db = true) :
    settle ctx (execute input ambient) db = db.after (committed input ambient ctx.requestId db) := by
  obtain ⟨unused₀, unused₁, _⟩ := Ambient.unused_of_freshIn fresh
  cases located : db.ticketOf input.tenantId input.ticketId with
  | none =>
      have rejected : assignable input db = none := by simp [assignable, located]
      rw [committed, rejected]
      exact settle_error db (e := .ticketNotFound)
        (by simp [execute, run_exec (exec_ticketsFindById own input.ticketId), located])
  | some row =>
      obtain ⟨stored, ofTenant⟩ := Db.ticketOf_eq_some_iff.mp located
      have sameId : row.id = input.ticketId := Table.key_of_find? stored
      by_cases known : ∀ u ∈ input.assigneeId,
          db.memberships.any (fun m => m.tenantId = input.tenantId ∧ m.userId = u) = true
      · by_cases closed : row.status = .CLOSED
        · have rejected : assignable input db = none := by simp [assignable, located, closed]
          rw [committed, rejected]
          refine settle_error db (e := .ticketClosed) ?_
          simp only [execute, TicketRepository.findById, Proc.ask, Proc.call_bind, Proc.done_bind]
          rw [run_exec (exec_ticketsFindById own input.ticketId), located]
          simp only [Option.map_some]
          rw [run_assigneeExists input own, Db.after_nil, decide_eq_true known, if_pos rfl,
            apply_closed input closed]
          rfl
        · have accepted : assignable input db = some row := by
            simp only [assignable, located, Option.filter_some, decide_eq_true_eq]
            rw [if_pos ⟨closed, known⟩]
          have recorded := EventRecorder.record_one (fun i => ambient.uuid (1 + i))
            (show (changed input ambient row).domainEvents = [event input ambient row] from rfl)
          simp only [committed, accepted]
          apply settle_ok (a := (changed input ambient row).pullDomainEvents.2)
          simp only [execute, TicketRepository.findById, TicketRepository.save, AuditRecorder.record,
            Proc.ask, Proc.call_bind, Proc.done_bind]
          rw [run_exec (exec_ticketsFindById own input.ticketId), located]
          simp only [Option.map_some]
          rw [run_assigneeExists input own, Db.after_nil, decide_eq_true known, if_pos rfl,
            apply_changed input closed]
          simp only [recorded, Proc.call_bind, Proc.done_bind, Proc.pure_eq_done]
          rw [run_saveAuditRecord own]
          · rfl
          · exact sameId ▸ located
          · rfl
          · exact unused₀.auditLog
          · exact (event_tenantId input row).trans ofTenant
          · exact unused₁.outbox
      · have rejected : assignable input db = none := by
          simp only [assignable, located, Option.filter_some, decide_eq_true_eq]
          rw [if_neg (fun accepted => known accepted.2)]
        rw [committed, rejected]
        refine settle_error db (e := .assigneeNotFound) ?_
        simp only [execute, TicketRepository.findById, Proc.ask, Proc.call_bind, Proc.done_bind]
        rw [run_exec (exec_ticketsFindById own input.ticketId), located]
        simp only [Option.map_some]
        rw [run_assigneeExists input own, Db.after_nil, decide_eq_false known]
        rfl

end AssignTicket

namespace AutoAssignTicket

theorem assignTo_changed (input : AutoAssignTicketInput) {row : TicketRow} (opened : row.status ≠ .CLOSED) :
    (toTicket row).assignTo (elegido input db) ambient.now = .ok (changed input ambient db row) := by
  simp [Ticket.assignTo, opened]
  rfl

theorem exec_agents (input : AutoAssignTicketInput) (own : ctx.tenant = some input.tenantId) :
    exec ctx (.membersAgentsOf input.tenantId) db = some (agents input db, []) := by
  simp only [exec, own]
  rfl

@[simp] theorem agents_insertProcessed (input : AutoAssignTicketInput) (row : ProcessedRow) :
    agents input ((Write.insertProcessed row).apply db) = agents input db := rfl

/-- What the use case answers. -/
def outcome (input : AutoAssignTicketInput) (db : Db) : AutoAssignOutcome :=
  match db.processed.find? (AUTO_ASSIGN_CONSUMER, input.eventId), db.ticketOf input.tenantId input.ticketId with
  | some _, _ => .skipped .alreadyProcessed
  | none, none => .skipped .ticketNotFound
  | none, some row =>
      if row.assigneeId ≠ none then .skipped .alreadyAssigned
      else if agents input db = [] then .skipped .noAgents
      else if row.status = .CLOSED then .skipped .notAssignable
      else .assigned (elegido input db)

/-- The use case never fails when it runs in one piece. -/
theorem run_execute (input : AutoAssignTicketInput) (own : ctx.tenant = some input.tenantId)
    (fresh : ambient.freshIn db = true) :
    (execute input ambient).run repositories ctx db =
      some (.ok (outcome input db), db.after (committed input ambient ctx.requestId db)) := by
  obtain ⟨unused₀, unused₁, _⟩ := Ambient.unused_of_freshIn fresh
  simp only [execute, ProcessedMessages.claim, TicketRepository.findById, MemberDirectory.agentsOf,
    TicketRepository.save, AuditRecorder.record, Proc.ask, Proc.call_bind, Proc.done_bind]
  cases marked : db.processed.find? (AUTO_ASSIGN_CONSUMER, input.eventId) with
  | some old =>
      rw [run_exec (exec_processedClaim_again own marked)]
      simp [outcome, committed, marked]
  | none =>
      rw [run_exec (exec_processedClaim_first own marked), if_pos rfl,
        run_exec (exec_ticketsFindById own input.ticketId)]
      cases located : db.ticketOf input.tenantId input.ticketId with
      | none =>
          have rejected : assignable input db = none := by simp [assignable, located]
          simp [outcome, committed, marked, located, rejected]
      | some row =>
          obtain ⟨stored, ofTenant⟩ := Db.ticketOf_eq_some_iff.mp located
          have sameId : row.id = input.ticketId := Table.key_of_find? stored
          by_cases unassigned : row.assigneeId = none
          · simp only [Db.after_cons, Db.after_nil, ticketOf_insertProcessed, located, Option.map_some,
              toTicket_assigneeId, unassigned]
            rw [if_neg (by simp [Nullable.ofColumn]), run_exec (exec_agents input own)]
            by_cases nobody : agents input db = []
            · have rejected : assignable input db = none := by simp [assignable, located, nobody]
              simp [outcome, committed, marked, located, rejected, unassigned, nobody]
            · by_cases closed : row.status = .CLOSED
              · have rejected : assignable input db = none := by simp [assignable, located, closed]
                simp [outcome, committed, marked, located, rejected, unassigned, nobody, Ticket.assignTo, closed]
              · have accepted : assignable input db = some row := by
                  simp [assignable, located, unassigned, nobody, closed]
                have answered : outcome input db = .assigned (elegido input db) := by
                  simp [outcome, marked, located, unassigned, nobody, closed]
                have recorded := EventRecorder.record_one (fun i => ambient.uuid (1 + i))
                  (show (changed input ambient db row).domainEvents = [event input ambient db row] from rfl)
                have some_agent : ¬(agents input db).length = 0 := by simpa using nobody
                have assigned : (toTicket row).assignTo (elegido input db) ambient.now =
                    .ok (changed input ambient db row) := assignTo_changed input closed
                rw [answered]
                simp only [elegido] at assigned
                simp only [committed, marked, accepted, agents_insertProcessed, some_agent, if_false, assigned,
                  recorded, Proc.call_bind, Proc.done_bind, Proc.pure_eq_done]
                rw [Db.after_nil, run_saveAuditRecord own]
                · rfl
                · exact sameId ▸ located
                · rfl
                · exact unused₀.auditLog
                · exact ofTenant
                · exact unused₁.outbox
          · have rejected : assignable input db = none := by simp [assignable, located, unassigned]
            obtain ⟨u, assigned⟩ := Option.ne_none_iff_exists'.mp unassigned
            simp [outcome, committed, marked, located, rejected, assigned, Nullable.ofColumn]

theorem settle_committed (input : AutoAssignTicketInput) (own : ctx.tenant = some input.tenantId)
    (fresh : ambient.freshIn db = true) :
    settle ctx (execute input ambient) db = db.after (committed input ambient ctx.requestId db) :=
  settle_ok (run_execute input own fresh)

end AutoAssignTicket

namespace StartSlaTimers

section Loop

variable {input : StartSlaTimersInput} {objetivo : SlaTarget} {id₀ id₁ : Uuid} {result : α}

/-- The rows of the timers once the first of the two is saved. -/
theorem rows_afterFirst (fresh : db.timers.find? ⟨id₀⟩ = none) (kind : SlaKind) :
    (db.after [.upsertTimer (timer input objetivo id₀ kind)]).timers.rows =
      db.timers.rows ++ [timer input objetivo id₀ kind] :=
  Table.rows_upsert_of_free fresh

theorem find?_afterFirst (distinct : id₀ ≠ id₁) (kind : SlaKind) :
    (db.after [.upsertTimer (timer input objetivo id₀ kind)]).timers.find? ⟨id₁⟩ = db.timers.find? ⟨id₁⟩ := by
  have other : (⟨id₁⟩ : SlaTimerId) ≠ (timer input objetivo id₀ kind).id :=
    fun same => distinct (congrArg SlaTimerId.uuid same).symm
  simp only [Db.after_cons, Db.after_nil, Write.apply, Table.find?_upsert, key_timer, if_neg other]

/-- Both timers of a ticket without timers are created. -/
theorem run_saveBoth (own : ctx.tenant = some input.tenantId) (fresh₀ : db.timers.find? ⟨id₀⟩ = none)
    (fresh₁ : db.timers.find? ⟨id₁⟩ = none) (distinct : id₀ ≠ id₁)
    (vacant : ∀ r ∈ db.timers.rows, r.ticketId ≠ input.ticketId) :
    (Proc.call (S := sig) (.timersSave (timer input objetivo id₀ .RESPONSE)) fun _ =>
      .call (.timersSave (timer input objetivo id₁ .RESOLUTION)) fun _ => .done result).run
        repositories ctx db =
    some (result, db.after [.upsertTimer (timer input objetivo id₀ .RESPONSE),
      .upsertTimer (timer input objetivo id₁ .RESOLUTION)]) := by
  have fresh : (db.after [.upsertTimer (timer input objetivo id₀ .RESPONSE)]).timers.find? ⟨id₁⟩ = none :=
    (find?_afterFirst distinct .RESPONSE).trans fresh₁
  rw [run_exec (exec_timersSave_fresh own fresh₀ fun r stored same => absurd same (vacant r stored))]
  refine run_exec (exec_timersSave_fresh own fresh fun r stored same => ?_)
  rw [rows_afterFirst fresh₀, List.mem_append, List.mem_singleton] at stored
  rcases stored with old | rfl
  · exact absurd same (vacant r old)
  · exact SlaKind.noConfusion

/-- A ticket that has a timer already makes one of the two inserts fail. -/
theorem run_saveBoth_failed (own : ctx.tenant = some input.tenantId)
    (fresh₀ : db.timers.find? ⟨id₀⟩ = none) (fresh₁ : db.timers.find? ⟨id₁⟩ = none) (distinct : id₀ ≠ id₁)
    {r : SlaTimer} (stored : r ∈ db.timers.rows) (sameTicket : r.ticketId = input.ticketId) :
    (Proc.call (S := sig) (.timersSave (timer input objetivo id₀ .RESPONSE)) fun _ =>
      .call (.timersSave (timer input objetivo id₁ .RESOLUTION)) fun _ => .done result).run
        repositories ctx db = none := by
  by_cases responding : ∃ r ∈ db.timers.rows, r.ticketId = input.ticketId ∧ r.kind = .RESPONSE
  · obtain ⟨r, stored, sameTicket, sameKind⟩ := responding
    exact run_exec_failed (exec_timersSave_taken own fresh₀ stored sameTicket sameKind)
  · have resolving : r.kind = .RESOLUTION := by
      cases kind : r.kind with
      | RESPONSE => exact absurd ⟨r, stored, sameTicket, kind⟩ responding
      | RESOLUTION => rfl
    have fresh : (db.after [.upsertTimer (timer input objetivo id₀ .RESPONSE)]).timers.find? ⟨id₁⟩ = none :=
      (find?_afterFirst distinct .RESPONSE).trans fresh₁
    have kept : r ∈ (db.after [.upsertTimer (timer input objetivo id₀ .RESPONSE)]).timers.rows := by
      rw [rows_afterFirst fresh₀]
      exact List.mem_append_left _ stored
    rw [run_exec (exec_timersSave_fresh own fresh₀
      fun r stored sameTicket sameKind => responding ⟨r, stored, sameTicket, sameKind⟩)]
    exact run_exec_failed (exec_timersSave_taken own fresh kept sameTicket resolving)

end Loop

theorem settle_committed (input : StartSlaTimersInput) (own : ctx.tenant = some input.tenantId)
    (fresh : ambient.freshIn db = true) :
    settle ctx (execute input ambient) db = db.after (committed input ambient db) := by
  obtain ⟨unused₀, unused₁, _⟩ := Ambient.unused_of_freshIn fresh
  simp only [execute, ProcessedMessages.claim, SlaPolicyRepository.overridesOf, SLA_KINDS, saveAll,
    SlaTimerRepository.save, Proc.ask, Proc.call_bind, Proc.done_bind, Proc.pure_eq_done]
  cases marked : db.processed.find? (START_SLA_CONSUMER, input.eventId) with
  | some old =>
      simp only [committed, marked]
      exact settle_again own marked rfl
  | none =>
      have distinct := Ambient.distinct_of_freshIn fresh
      by_cases taken : db.timers.any (fun r => r.ticketId = input.ticketId) = true
      · simp only [committed, marked, taken, if_true]
        obtain ⟨r, stored, sameTicket⟩ := List.any_eq_true.mp taken
        apply settle_first_exception own marked
        rw [if_pos rfl, run_exec (exec_policiesOverridesOf own), Db.after_nil]
        exact run_saveBoth_failed own unused₀.timer unused₁.timer distinct stored
          (of_decide_eq_true sameTicket)
      · simp only [committed, marked, taken]
        refine settle_first own marked (a := .started 2) ?_
        rw [if_pos rfl, run_exec (exec_policiesOverridesOf own), Db.after_nil]
        exact run_saveBoth own unused₀.timer unused₁.timer distinct (by simpa [Table.any] using taken)

end StartSlaTimers

namespace StopSlaTimer

theorem settle_committed (input : StopSlaTimerInput) (own : ctx.tenant = some input.tenantId) :
    settle ctx (execute input) db = db.after (committed input db) := by
  simp only [execute, ProcessedMessages.claim, SlaTimerRepository.findRunning, SlaTimerRepository.save,
    Proc.ask, Proc.call_bind, Proc.done_bind, Proc.pure_eq_done]
  cases marked : db.processed.find? (stopSlaConsumer input.kind, input.eventId) with
  | some old =>
      simp only [committed, marked]
      exact settle_again own marked rfl
  | none =>
      cases found : running input db with
      | none =>
          simp only [committed, marked, found]
          refine settle_first own marked (a := .noRunningTimer) ?_
          rw [if_pos rfl, run_exec (exec_timersFindRunning own _ _)]
          simp only [running] at found
          simp only [Db.after_cons, Db.after_nil, timers_insertProcessed, found]
          rfl
      | some timer =>
          simp only [committed, marked, found]
          refine settle_first own marked (a := .stopped (timer.remainingMinutesAt input.occurredAt)) ?_
          rw [if_pos rfl, run_exec (exec_timersFindRunning own _ _)]
          obtain ⟨stored, wanted⟩ := Table.findFirst_mem found
          obtain ⟨ofTenant, _⟩ := of_decide_eq_true wanted
          simp only [running] at found
          simp only [Db.after_cons, Db.after_nil, timers_insertProcessed, found]
          have saved : (db.after [.insertProcessed
              { consumer := stopSlaConsumer input.kind, eventId := input.eventId,
                tenantId := input.tenantId }]).timerOf input.tenantId (timer.stop input.occurredAt).id
              = some timer := by
            rw [SlaTimer.stop_id]
            exact Db.timerOf_eq_some_iff.mpr ⟨Table.find?_key stored, ofTenant⟩
          exact run_exec (exec_timersSave_stored own saved)

end StopSlaTimer

namespace MarkSlaBreached

theorem settle_committed (input : MarkSlaBreachedInput) (own : ctx.tenant = some input.tenantId)
    (fresh : ambient.freshIn db = true) :
    settle ctx (execute input ambient) db = db.after (committed input ambient ctx.requestId db) := by
  obtain ⟨unused₀, unused₁, _⟩ := Ambient.unused_of_freshIn fresh
  simp only [execute, SlaTimerRepository.findById, SlaTimerRepository.save, TicketRepository.findById,
    AuditRecorder.record, Proc.ask, Proc.call_bind, Proc.done_bind]
  cases found : db.timerOf input.tenantId input.timerId with
  | none =>
      have skipped : breaching input ambient db = none := by simp [breaching, found]
      simp only [committed, skipped]
      refine settle_ok (a := .skipped .notFound) ?_
      rw [run_exec (exec_timersFindById own _), found]
      rfl
  | some timer =>
      obtain ⟨stored, ofTenant⟩ := Db.timerOf_eq_some_iff.mp found
      have sameTimer : timer.id = input.timerId := Table.key_of_find? stored
      by_cases running : timer.isRunning = true
      · by_cases overdue : timer.isOverdue ambient.now = true
        · cases located : db.ticketOf input.tenantId timer.ticketId with
          | none =>
              have skipped : breaching input ambient db = none := by
                simp [breaching, found, overdue, located, Option.filter_some]
              simp only [committed, skipped]
              refine settle_ok (a := .skipped .ticketNotFound) ?_
              rw [run_exec (exec_timersFindById own _), found]
              simp only [running, overdue, if_true, Db.after_nil]
              rw [run_exec (exec_ticketsFindById own _), located]
              rfl
          | some row =>
              have breached : breaching input ambient db = some (timer, row) := by
                simp [breaching, found, overdue, located, Option.filter_some]
              have marked : (timer.markBreached ambient.now).1
                  = { timer with breachedAt := some ambient.now } := by
                simp [SlaTimer.markBreached, running]
              have recorded := EventRecorder.record_one (fun i => ambient.uuid (1 + i))
                (show ((toTicket row).recordSlaBreach timer.id timer.kind.text timer.dueAt
                  ambient.now).domainEvents = [event ambient timer row] from rfl)
              have saved : db.timerOf input.tenantId { timer with breachedAt := some ambient.now }.id
                  = some timer := by
                simpa [sameTimer] using found
              simp only [committed, breached]
              refine settle_ok (a := .breached timer.kind) ?_
              rw [run_exec (exec_timersFindById own _), found]
              simp only [running, overdue, if_true, Db.after_nil]
              rw [run_exec (exec_ticketsFindById own _), located]
              simp only [Option.map_some, Db.after_nil]
              rw [marked]
              simp only [recorded, Proc.call_bind, Proc.done_bind, Proc.pure_eq_done]
              rw [run_exec (exec_timersSave_stored own saved), run_auditRecord own]
              · rfl
              · rfl
              · exact unused₀.auditLog
              · exact (Db.ticketOf_eq_some_iff.mp located).2
              · exact unused₁.outbox
        · have skipped : breaching input ambient db = none := by simp [breaching, found, overdue, Option.filter_some]
          simp only [committed, skipped]
          refine settle_ok (a := .skipped .notOverdue) ?_
          rw [run_exec (exec_timersFindById own _), found]
          simp [running, overdue]
      · have notOverdue : timer.isOverdue ambient.now = false := by simp [SlaTimer.isOverdue, running]
        have skipped : breaching input ambient db = none := by simp [breaching, found, notOverdue, Option.filter_some]
        simp only [committed, skipped]
        refine settle_ok (a := .skipped .notRunning) ?_
        rw [run_exec (exec_timersFindById own _), found]
        simp [running]

end MarkSlaBreached

namespace UpdateSlaPolicy

theorem run_accepted (input : UpdateSlaPolicyInput) (own : ctx.tenant = some input.tenantId)
    (fresh : ambient.freshIn db = true) {target : SlaTarget}
    (valid : makeSlaTarget input.responseMinutes input.resolutionMinutes = .ok target) :
    (execute input ambient).run repositories ctx db =
      some (.ok (effectivePolicy fun p => if p = input.priority then some target else db.overridesOf input.tenantId p),
        db.after (committed input ambient db)) := by
  obtain ⟨unused₀, _, _⟩ := Ambient.unused_of_freshIn fresh
  simp only [execute, SlaPolicyRepository.overridesOf, SlaPolicyRepository.upsert, AuditRecorder.record,
    Proc.ask, Proc.call_bind, Proc.done_bind, valid, committed]
  rw [run_exec (exec_policiesOverridesOf own), Db.after_nil, run_exec (exec_policiesUpsert own _ _ _)]
  exact run_exec (exec_auditLogsRecord own unused₀.auditLog)

theorem settle_committed (input : UpdateSlaPolicyInput) (own : ctx.tenant = some input.tenantId)
    (fresh : ambient.freshIn db = true) :
    settle ctx (execute input ambient) db = db.after (committed input ambient db) := by
  cases valid : makeSlaTarget input.responseMinutes input.resolutionMinutes with
  | error e =>
      simp only [execute, committed, valid]
      exact settle_error db (e := e) rfl
  | ok target => exact settle_ok (run_accepted input own fresh valid)

end UpdateSlaPolicy

namespace ResetSlaPolicy

/-- Deleting an override leaves the others. -/
theorem overridesOf_deletePolicy (input : ResetSlaPolicyInput) :
    (db.after [.deletePolicy input.tenantId input.priority]).overridesOf input.tenantId
      = remaining input db := by
  funext p
  simp only [Db.overridesOf, remaining, Db.after_cons, Db.after_nil, Write.apply, Table.deleteWhere,
    Table.find?_filter]
  cases found : db.policies.find? (input.tenantId, p) with
  | none => simp
  | some row =>
      have sameKey := Table.key_of_find? found
      simp only [key_policyRow, Prod.mk.injEq] at sameKey
      by_cases same : p = input.priority <;> simp [sameKey, same]

theorem run_committed (input : ResetSlaPolicyInput) (own : ctx.tenant = some input.tenantId)
    (fresh : ambient.freshIn db = true) :
    (execute input ambient).run repositories ctx db =
      some (effectivePolicy (remaining input db), db.after (committed input ambient db)) := by
  obtain ⟨unused₀, _, _⟩ := Ambient.unused_of_freshIn fresh
  simp only [execute, SlaPolicyRepository.overridesOf, SlaPolicyRepository.remove, AuditRecorder.record,
    Proc.ask, Proc.call_bind, Proc.done_bind]
  cases stored : db.policies.find? (input.tenantId, input.priority) with
  | none =>
      have unchanged : db.overridesOf input.tenantId = remaining input db := by
        funext p
        by_cases same : p = input.priority
        · simp [remaining, Db.overridesOf, same, stored]
        · simp [remaining, same]
      simp only [committed, stored]
      rw [run_exec (exec_policiesOverridesOf own), Db.after_nil,
        run_exec (exec_policiesRemove_absent own stored), Db.after_nil,
        run_exec (exec_policiesOverridesOf own), Db.after_nil, unchanged]
      rfl
  | some row =>
      simp only [committed, stored]
      rw [run_exec (exec_policiesOverridesOf own), Db.after_nil,
        run_exec (exec_policiesRemove_stored own stored), run_exec (exec_policiesOverridesOf own), Db.after_nil,
        overridesOf_deletePolicy]
      exact run_exec (exec_auditLogsRecord own unused₀.auditLog)

theorem settle_committed (input : ResetSlaPolicyInput) (own : ctx.tenant = some input.tenantId)
    (fresh : ambient.freshIn db = true) :
    settle ctx ((fun p => .ok (Output.policy p)) <$> execute input ambient) db
      = db.after (committed input ambient db) :=
  settle_read Output.policy (run_committed input own fresh)

end ResetSlaPolicy

end Settle

/-- Serving an execution is applying the writes it commits. -/
theorem serve_committed (e : Execution) {db : Db} (fresh : e.ambient.freshIn db = true) :
    (serve e db).2 = db.after (e.committed db) := by
  obtain ⟨useCase, ambient, requestId⟩ := e
  change settle _ (Execution.program _) db = _
  cases useCase with
  | createTicket input => exact (settle_map _).trans (CreateTicket.settle_committed input rfl fresh)
  | assignTicket input => exact (settle_map _).trans (AssignTicket.settle_committed input rfl fresh)
  | autoAssignTicket input => exact (settle_map _).trans (AutoAssignTicket.settle_committed input rfl fresh)
  | changeTicketStatus input =>
      exact (settle_map _).trans (ChangeTicketStatus.settle_committed input rfl fresh)
  | addComment input => exact (settle_map _).trans (AddComment.settle_committed input rfl fresh)
  | startSlaTimers input => exact (settle_map _).trans (StartSlaTimers.settle_committed input rfl fresh)
  | stopSlaTimer input => exact (settle_map _).trans (StopSlaTimer.settle_committed input rfl)
  | markSlaBreached input => exact (settle_map _).trans (MarkSlaBreached.settle_committed input rfl fresh)
  | getSlaPolicy tenantId => exact settle_read Output.policy (run_exec (exec_policiesOverridesOf rfl))
  | updateSlaPolicy input => exact (settle_map _).trans (UpdateSlaPolicy.settle_committed input rfl fresh)
  | resetSlaPolicy input => exact ResetSlaPolicy.settle_committed input rfl fresh
  | listTickets input => exact settle_read Output.page rfl
  | ticketDetail tenantId ticketId => exact settle_read Output.detail rfl
  | ticketHistory tenantId ticketId => exact settle_read Output.history rfl

/-- Executions served one after the other. The generator never hands out an id that is in use, so an
    execution with such an id cannot happen. -/
def serially (db : Db) (e : Execution) : Option Db :=
  if e.ambient.freshIn db then some (serve e db).2 else none

theorem serially_eq_some_iff {db db' : Db} {e : Execution} :
    serially db e = some db' ↔ e.ambient.freshIn db = true ∧ db' = db.after (e.committed db) := by
  unfold serially
  by_cases fresh : e.ambient.freshIn db = true
  · simp [fresh, serve_committed e fresh, eq_comm]
  · simp [fresh]

/-- Ids and a clock for the `n`-th execution of an example. -/
def exampleAmbient (n : Nat) : Ambient where
  now := 60000 * n
  uuid i := 100 * (n + 1) + i

/-- An execution of an example. -/
def exampleExecution (n : Nat) (useCase : UseCase) : Execution where
  useCase := useCase
  ambient := exampleAmbient n
  requestId := none

/-- What a session has committed. -/
def committedOutput (s : Session ticketing) : Option (Except TicketingError Output) :=
  match s.status with
  | .committed out => some out
  | _ => none

theorem committedOutput_eq_some_iff {s : Session ticketing} {out : Except TicketingError Output} :
    committedOutput s = some out ↔ s.status = .committed out := by
  unfold committedOutput
  cases s.status <;> simp

end Helpdesk
