/-
Module: HelpdeskApi.Proofs.TenantIsolation
Layer: Proofs
Purpose: Tenant noninterference. Every call a request makes is confined: it inserts rows under its own new
  ids only, and saves a ticket only after it has found it. So two runs of a request on databases that agree
  on the tenant's rows answer the same and leave the same rows, whatever the rows of other tenants are, and
  they leave those alone.
Trusted boundary: none
Main exports: SameForTenant, confined_of_request, requests_noninterfering
-/
import HelpdeskApi.Application.SerialRuns
import HelpdeskApi.Store.Tenants
import HelpdeskApi.Library.TwoRuns

namespace Helpdesk

open Relational Txn

/-- The ids an execution may insert rows under. -/
def Ambient.owns (ambient : Ambient) (u : Uuid) : Prop :=
  u = ambient.uuid 0 ∨ u = ambient.uuid 1 ∨ u = ambient.uuid 2

section Confined

variable {ctx : Ctx} {t : TenantId} {ambient : Ambient} {db : Db} {α : Type}

/-- The calls a run for a tenant makes are confined. -/
abbrev RunConfined (ctx : Ctx) (t : TenantId) (ambient : Ambient) (p : Proc sig α) (db : Db) : Prop :=
  p.Along repositories ctx (fun c db => c.Confined t ambient.owns db) db

/-- A call of a run, with what it can have answered. -/
theorem runConfined_call {c : Call} {next : c.Reply → Proc sig α} (confined : c.Confined t ambient.owns db)
    (rest : ∀ reply writes, exec ctx c db = some (reply, writes) →
      RunConfined ctx t ambient (next reply) (db.after writes)) :
    RunConfined ctx t ambient (.call (S := sig) c next) db :=
  ⟨confined, rest⟩

/-- Looking a ticket up finds what the tenant has, and changes nothing. -/
theorem runConfined_findById (own : ctx.tenant = some t) {id : TicketId}
    {next : Option Ticket → Proc sig α}
    (rest : RunConfined ctx t ambient (next ((db.ticketOf t id).map toTicket)) db) :
    RunConfined ctx t ambient (.call (S := sig) (.ticketsFindById t id) next) db := by
  refine runConfined_call trivial fun reply writes answered => ?_
  rw [exec_ticketsFindById own] at answered
  cases answered
  exact rest

/-- The end of every command on a ticket: audit it, then record its event. -/
theorem runConfined_auditRecord {entry : AuditLog} {event : IntegrationEvent} {uuid : Nat → Uuid} {result : α}
    (ownEntry : ambient.owns entry.id.uuid) (ownMessage : ambient.owns (uuid 0)) :
    RunConfined ctx t ambient (.call (S := sig) (.auditLogsRecord entry) fun _ =>
      .call (.outboxAppend (outboxRecords uuid [event])) fun _ => .done result) db := by
  refine runConfined_call ownEntry fun _ _ _ => runConfined_call ?_ fun _ _ _ => trivial
  intro r member
  simp only [outboxRecords, List.mapIdx_cons, List.mapIdx_nil, List.mem_singleton] at member
  exact member ▸ ownMessage

theorem runConfined_saveAuditRecord {ticket : Ticket} {entry : AuditLog} {event : IntegrationEvent}
    {uuid : Nat → Uuid} {result : α}
    (saved : (db.ticketOf t ticket.id).isSome = true ∨ ambient.owns ticket.id.uuid)
    (ownEntry : ambient.owns entry.id.uuid) (ownMessage : ambient.owns (uuid 0)) :
    RunConfined ctx t ambient (.call (S := sig) (.ticketsSave ticket) fun _ =>
      .call (.auditLogsRecord entry) fun _ =>
      .call (.outboxAppend (outboxRecords uuid [event])) fun _ => .done result) db :=
  runConfined_call saved fun _ _ _ => runConfined_auditRecord ownEntry ownMessage

theorem CreateTicket.runConfined (input : CreateTicketInput) (own : input.tenantId = t) :
    RunConfined ctx t ambient (execute input ambient) db := by
  subst own
  simp only [execute, TicketNumberGenerator.next, TicketRepository.save, AuditRecorder.record, Proc.ask,
    Proc.call_bind, Proc.done_bind]
  refine runConfined_call trivial fun number writes _ => ?_
  split
  · trivial
  · rename_i ticket opened
    obtain ⟨sameId, event, events⟩ := Ticket.opened_records opened
    rw [EventRecorder.record_one _ events]
    exact runConfined_saveAuditRecord (.inr (sameId ▸ .inl rfl)) (.inr (.inl rfl)) (.inr (.inr rfl))

/-- What a command on a ticket the tenant has found saves is that ticket. -/
theorem saved_of_commanded {id : TicketId} {row : TicketRow} {ticket : Ticket}
    (located : db.ticketOf t id = some row) (commanded : (toTicket row).Commanded ticket) :
    (db.ticketOf t ticket.id).isSome = true := by
  have sameId : row.id = id := Table.key_of_find? (Db.ticketOf_eq_some_iff.mp located).1
  simp [commanded.id, sameId, located]

/-- Asking whether the assignee is acceptable. -/
theorem runConfined_assigneeExists {assigneeId : Option UserId} {next : Bool → Proc sig α}
    (own : ctx.tenant = some t) (rest : ∀ acceptable, RunConfined ctx t ambient (next acceptable) db) :
    RunConfined ctx t ambient (AssignTicket.assigneeExists t assigneeId >>= next) db := by
  cases assigneeId with
  | none => exact rest true
  | some assigneeId =>
      refine runConfined_call trivial fun reply writes answered => ?_
      rw [exec_membersIsMember own] at answered
      cases answered
      exact rest _

theorem AssignTicket.apply_commanded {row : TicketRow} {ticket : Ticket} {now : Instant}
    {assigneeId : Option UserId} (applied : apply (toTicket row) now assigneeId = .ok ticket) :
    (toTicket row).Commanded ticket := by
  unfold AssignTicket.apply at applied
  split at applied
  · exact (Ticket.unassign_commanded applied).1
  · exact (Ticket.assignTo_commanded applied).1

theorem AssignTicket.runConfined (input : AssignTicketInput) (own : input.tenantId = t)
    (ownCtx : ctx.tenant = some t) : RunConfined ctx t ambient (execute input ambient) db := by
  subst own
  simp only [execute, TicketRepository.findById, Proc.ask, Proc.call_bind, Proc.done_bind]
  apply runConfined_findById ownCtx
  cases located : db.ticketOf input.tenantId input.ticketId with
  | none => trivial
  | some row =>
      apply runConfined_assigneeExists ownCtx
      intro acceptable
      split
      · split
        · trivial
        · rename_i ticket applied
          have commanded := AssignTicket.apply_commanded applied
          obtain ⟨event, events⟩ := commanded.records
          simp only [TicketRepository.save, AuditRecorder.record, Proc.ask, Proc.call_bind, Proc.done_bind]
          rw [EventRecorder.record_one _ events]
          exact runConfined_saveAuditRecord (.inl (saved_of_commanded located commanded)) (.inl rfl)
            (.inr (.inl rfl))
      · trivial

theorem ChangeTicketStatus.runConfined (input : ChangeTicketStatusInput) (own : input.tenantId = t)
    (ownCtx : ctx.tenant = some t) : RunConfined ctx t ambient (execute input ambient) db := by
  subst own
  simp only [execute, TicketRepository.findById, Proc.ask, Proc.call_bind, Proc.done_bind]
  apply runConfined_findById ownCtx
  cases located : db.ticketOf input.tenantId input.ticketId with
  | none => trivial
  | some row =>
      simp only [Option.map_some]
      split
      · trivial
      · rename_i ticket changed
        split
        · trivial
        · rename_i moves
          have commanded := (Ticket.changeStatus_commanded moves changed).1
          obtain ⟨event, events⟩ := commanded.records
          simp only [TicketRepository.save, AuditRecorder.record, Proc.ask, Proc.call_bind, Proc.done_bind]
          rw [EventRecorder.record_one _ events]
          exact runConfined_saveAuditRecord (.inl (saved_of_commanded located commanded)) (.inl rfl)
            (.inr (.inl rfl))

theorem AddComment.runConfined (input : AddCommentInput) (own : input.tenantId = t)
    (ownCtx : ctx.tenant = some t) : RunConfined ctx t ambient (execute input ambient) db := by
  subst own
  simp only [execute, TicketRepository.findById, Proc.ask, Proc.call_bind, Proc.done_bind]
  apply runConfined_findById ownCtx
  cases located : db.ticketOf input.tenantId input.ticketId with
  | none => trivial
  | some row =>
      simp only [Option.map_some]
      split
      · split
        · trivial
        · rename_i comment written
          split
          · trivial
          · rename_i ticket commented
            have commanded := (Ticket.registerComment_commanded commented).1
            obtain ⟨event, events⟩ := commanded.records
            simp only [CommentRepository.save, TicketRepository.save, AuditRecorder.record, Proc.ask,
              Proc.call_bind, Proc.done_bind]
            rw [EventRecorder.record_one _ events]
            refine runConfined_call (.inl (congrArg CommentId.uuid (Comment.write_id written))) ?_
            intro reply writes answered
            -- a comment leaves the tickets alone
            have sameTickets : (db.after writes).ticketOf input.tenantId ticket.id =
                db.ticketOf input.tenantId ticket.id := by
              simp only [exec] at answered
              split at answered
              · cases answered
                rfl
              · cases answered
            exact runConfined_saveAuditRecord
              (.inl (sameTickets ▸ saved_of_commanded located commanded)) (.inr (.inl rfl)) (.inr (.inr rfl))
      · trivial

theorem UpdateSlaPolicy.runConfined (input : UpdateSlaPolicyInput) :
    RunConfined ctx t ambient (execute input ambient) db := by
  unfold execute
  split
  · trivial
  · exact runConfined_call trivial fun _ _ _ => runConfined_call trivial fun _ _ _ =>
      runConfined_call (.inl rfl) fun _ _ _ => trivial

theorem ResetSlaPolicy.runConfined (input : ResetSlaPolicyInput) :
    RunConfined ctx t ambient (execute input ambient) db := by
  unfold execute
  refine runConfined_call trivial fun _ _ _ => runConfined_call trivial fun removed _ _ =>
    runConfined_call trivial fun _ _ _ => ?_
  cases removed with
  | true => exact runConfined_call (.inl rfl) fun _ _ _ => trivial
  | false => trivial

end Confined

/-- The calls of a request are confined to its tenant. -/
theorem confined_of_request {e : Execution} (isRequest : e.useCase.isRequest = true) (db : Db) :
    RunConfined e.ctx e.useCase.tenantId e.ambient e.program db := by
  obtain ⟨useCase, ambient, requestId⟩ := e
  cases useCase with
  | createTicket input => exact (Proc.along_map _ _ _).mpr (CreateTicket.runConfined input rfl)
  | assignTicket input => exact (Proc.along_map _ _ _).mpr (AssignTicket.runConfined input rfl rfl)
  | changeTicketStatus input => exact (Proc.along_map _ _ _).mpr (ChangeTicketStatus.runConfined input rfl rfl)
  | addComment input => exact (Proc.along_map _ _ _).mpr (AddComment.runConfined input rfl rfl)
  | getSlaPolicy tenantId => exact runConfined_call trivial fun _ _ _ => trivial
  | updateSlaPolicy input => exact (Proc.along_map _ _ _).mpr (UpdateSlaPolicy.runConfined input)
  | resetSlaPolicy input => exact (Proc.along_map _ _ _).mpr (ResetSlaPolicy.runConfined input)
  | listTickets input => exact runConfined_call trivial fun _ _ _ => trivial
  | ticketDetail tenantId ticketId => exact runConfined_call trivial fun _ _ _ => trivial
  | ticketHistory tenantId ticketId => exact runConfined_call trivial fun _ _ _ => trivial
  | autoAssignTicket input => cases isRequest
  | startSlaTimers input => cases isRequest
  | stopSlaTimer input => cases isRequest
  | markSlaBreached input => cases isRequest

/-- How two runs for a tenant stay related: they agree on the tenant's rows, and the rows of every other
    tenant are in each what they were at its start. -/
structure SameForTenant (t : TenantId) (base₁ base₂ db₁ db₂ : Db) : Prop where
  agree : db₁.visible (some t) = db₂.visible (some t)
  others₁ : ∀ t', t' ≠ t → db₁.visible (some t') = base₁.visible (some t')
  others₂ : ∀ t', t' ≠ t → db₂.visible (some t') = base₂.visible (some t')

section TwoRuns

variable {t : TenantId} {ambient : Ambient} {base₁ base₂ db₁ db₂ : Db}

theorem noForeign_of_fresh {base db : Db} (fresh : ambient.freshIn base = true)
    (others : ∀ t', t' ≠ t → db.visible (some t') = base.visible (some t')) {u : Uuid}
    (isOwn : ambient.owns u) : db.NoForeign t u := by
  obtain ⟨unused₀, unused₁, unused₂⟩ := Ambient.unused_of_freshIn fresh
  have unused : base.Unused u := by
    rcases isOwn with rfl | rfl | rfl <;> assumption
  exact Db.noForeign_of_unchanged others unused.ticket unused.comment unused.auditLog unused.outbox

/-- The writes of a call keep two runs related. -/
theorem SameForTenant.kept {ctx : Ctx} (same : SameForTenant t base₁ base₂ db₁ db₂)
    (own : ctx.tenant = some t) {c : Call} {reply : c.Reply} {writes : List Write}
    (first : exec ctx c db₁ = some (reply, writes)) (second : exec ctx c db₂ = some (reply, writes)) :
    SameForTenant t base₁ base₂ (db₁.after writes) (db₂.after writes) := by
  rcases exec_own own first with rfl | ⟨w, rfl, own₁⟩
  · exact same
  · obtain ⟨w', same', own₂⟩ := (exec_own own second).resolve_left (by simp)
    cases same'
    constructor
    · rw [Db.after_cons, Db.after_cons, Db.after_nil, Db.after_nil, visible_apply_own own₁,
        visible_apply_own own₂, same.agree]
    · exact fun t' other => (visible_apply_other other own₁).trans (same.others₁ t' other)
    · exact fun t' other => (visible_apply_other other own₂).trans (same.others₂ t' other)

end TwoRuns

/-- Executed for a tenant on two databases that agree on the tenant's rows, a request answers the same and
    leaves the same rows of the tenant, and in both it changes no row of another tenant. -/
theorem requests_noninterfering (e : Execution) (isRequest : e.useCase.isRequest = true) {db₁ db₂ : Db}
    (agree : db₁.visible (some e.useCase.tenantId) = db₂.visible (some e.useCase.tenantId))
    (fresh₁ : e.ambient.freshIn db₁ = true) (fresh₂ : e.ambient.freshIn db₂ = true) :
    (serve e db₁).1 = (serve e db₂).1 ∧
      (serve e db₁).2.visible (some e.useCase.tenantId) = (serve e db₂).2.visible (some e.useCase.tenantId) ∧
      ∀ t', t' ≠ e.useCase.tenantId →
        (serve e db₁).2.visible (some t') = db₁.visible (some t') ∧
          (serve e db₂).2.visible (some t') = db₂.visible (some t') := by
  have start : SameForTenant e.useCase.tenantId db₁ db₂ db₁ db₂ :=
    ⟨agree, fun _ _ => rfl, fun _ _ => rfl⟩
  have sameRun : SameRun (SameForTenant e.useCase.tenantId db₁ db₂) (e.program.run repositories e.ctx db₁)
      (e.program.run repositories e.ctx db₂) := by
    refine Proc.run_same (fun c d₁ d₂ same confined => ?_)
      (fun c d₁ d₂ reply writes same _ first second => ?_) e.program start (confined_of_request isRequest db₁)
    · exact exec_agree rfl same.agree (fun _ isOwn => noForeign_of_fresh fresh₁ same.others₁ isOwn)
        (fun _ isOwn => noForeign_of_fresh fresh₂ same.others₂ isOwn) confined
    · exact same.kept rfl first second
  obtain ⟨sameAnswer, related⟩ := Handler.transact_same commitsResult start sameRun
  exact ⟨sameAnswer, related.agree, fun t' other => ⟨related.others₁ t' other, related.others₂ t' other⟩⟩

section Example

/-- Another tenant's ticket, which a request tries to assign. -/
def foreignTicket : Db :=
  (serve (exampleExecution 0 (.createTicket ⟨⟨9⟩, ⟨2⟩, "Hola", "No entra", .HIGH⟩)) .empty).2

theorem requests_noninterfering_foreignTicket :
    (serve (exampleExecution 1 (.assignTicket ⟨⟨1⟩, ⟨3⟩, ⟨100⟩, none⟩)) .empty).1 =
      (serve (exampleExecution 1 (.assignTicket ⟨⟨1⟩, ⟨3⟩, ⟨100⟩, none⟩)) foreignTicket).1 :=
  (requests_noninterfering (exampleExecution 1 (.assignTicket ⟨⟨1⟩, ⟨3⟩, ⟨100⟩, none⟩)) rfl (by rfl)
    (by decide) (by decide)).1

end Example

end Helpdesk
