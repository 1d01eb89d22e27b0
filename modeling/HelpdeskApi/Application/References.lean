/-
Module: HelpdeskApi.Application.References
Layer: Application
Purpose: Every use case refers to what is there, whatever others do between its calls: it saves tickets that it has
  found with the people they had, assigns them to members only, and records everything under the ticket it is
  about, in the name of its actor or of the system.
Trusted boundary: none
Main exports: Orderly, orderly_call, UseCase.actorId, UseCase.reads, program_of_reads,
  Execution.KnownIn, orderly_of_known
-/
import HelpdeskApi.Application.Jobs
import HelpdeskApi.Domain.Commands
import HelpdeskApi.Store.Integrity

namespace Helpdesk

open Txn Relational

/-- Whatever goes on around it, what a program writes refers to what is there. -/
def Orderly {α : Type} (ctx : Ctx) (t : TenantId) : Proc sig α → Db → Prop
  | .done _, _ => True
  | .call c next, db => ∀ later, db.Onwards later → later.Linked → ∀ reply writes,
      exec ctx c later = some (reply, writes) →
        (∀ w ∈ writes, w.Linked t later) ∧ Orderly ctx t (next reply) (later.after writes)

section Calls

variable {ctx : Ctx} {t : TenantId} {α β : Type} {db : Db}

theorem Orderly.map (f : α → β) {p : Proc sig α} (orderly : Orderly ctx t p db) : Orderly ctx t (f <$> p) db := by
  induction p generalizing db with
  | done a => trivial
  | call c next ih =>
      intro later goes linked reply writes answered
      obtain ⟨refers, rest⟩ := orderly later goes linked reply writes answered
      exact ⟨refers, ih reply rest⟩

/-- A call writes what it can write, or nothing. -/
theorem orderly_call {c : Call} {next : c.Reply → Proc sig α}
    (refers : ∀ w, c.write? ctx.requestId = some w → ∀ later, db.Onwards later → w.Linked t later)
    (rest : ∀ later reply writes, db.Onwards later → later.Linked → exec ctx c later = some (reply, writes) →
      Orderly ctx t (next reply) (later.after writes)) : Orderly ctx t (.call (S := sig) c next) db := by
  intro later goes linked reply writes answered
  refine ⟨fun w written => refers w (write_of_exec answered written) later goes, ?_⟩
  exact rest later reply writes goes linked answered

/-- A call that does not write. -/
theorem orderly_ask {c : Call} {next : c.Reply → Proc sig α} (quiet : c.write? ctx.requestId = none)
    (rest : ∀ later reply, db.Onwards later → later.Linked → exec ctx c later = some (reply, []) →
      Orderly ctx t (next reply) later) : Orderly ctx t (.call (S := sig) c next) db := by
  refine orderly_call (fun w written => by rw [quiet] at written; cases written) ?_
  intro later reply writes goes linked answered
  rcases exec_writes answered with rfl | ⟨w, written, _⟩
  · exact rest later reply goes linked answered
  · rw [quiet] at written
    cases written

/-- A call that writes what refers to nothing. -/
theorem orderly_note {c : Call} {next : c.Reply → Proc sig α}
    (refers : ∀ w, c.write? ctx.requestId = some w → ∀ later, w.Linked t later)
    (rest : ∀ reply later, db.Onwards later → Orderly ctx t (next reply) later) :
    Orderly ctx t (.call (S := sig) c next) db :=
  orderly_call (fun w written later _ => refers w written later) fun _ reply writes goes _ _ =>
    rest reply _ (goes.trans (onwards_after writes _))

/-- A ticket with the people it has: it is of this organisation, and they are members. -/
abbrev Peopled (t : TenantId) (db : Db) (ticket : Ticket) : Prop :=
  (Write.upsertTicket ticket).Linked t db

/-- What is found under the id of a ticket. -/
theorem orderly_find (own : ctx.tenant = some t) {id : TicketId} {next : Option Ticket → Proc sig α}
    (missing : ∀ later, Orderly ctx t (next none) later)
    (found : ∀ ticket later, db.Onwards later → Peopled t later ticket → later.Has t ticket.id → ticket.id = id →
      ticket.domainEvents = [] → Orderly ctx t (next (some ticket)) later) :
    Orderly ctx t (.call (S := sig) (.ticketsFindById t id) next) db := by
  refine orderly_ask rfl fun later reply goes linked answered => ?_
  rw [exec_ticketsFindById own] at answered
  cases located : later.ticketOf t id with
  | none =>
      rw [located] at answered
      cases answered
      exact missing later
  | some row =>
      rw [located] at answered
      cases answered
      obtain ⟨isRow, ofTenant⟩ := Db.ticketOf_eq_some_iff.mp located
      have inside := Table.mem_of_find? isRow
      have isId : row.id = id := Table.key_of_find? isRow
      refine found (toTicket row) later goes ⟨ofTenant, ?_, ?_⟩ ⟨row, ?_, ofTenant⟩ isId rfl
      · exact ofTenant ▸ linked.requesters row inside
      · intro u assigned
        rw [toTicket_assigneeId] at assigned
        refine ofTenant ▸ linked.assignees row inside u ?_
        cases isAssignee : row.assigneeId with
        | none => simp [isAssignee, Nullable.ofColumn] at assigned
        | some v =>
            rw [isAssignee] at assigned
            exact congrArg some (Nullable.value.inj assigned)
      · rw [toTicket_id, isId]
        exact isRow

/-- A ticket is saved with people who are there, and is there afterwards. -/
theorem orderly_save (own : ctx.tenant = some t) {ticket : Ticket} {next : Unit → Proc sig α}
    (people : Peopled t db ticket)
    (rest : ∀ later, db.Onwards later → later.Has t ticket.id → Orderly ctx t (next ()) later) :
    Orderly ctx t (.call (S := sig) (.ticketsSave ticket) next) db := by
  refine orderly_call (fun w written later goes => ?_) fun later reply writes goes linked answered => ?_
  · cases written
    exact people.onwards goes
  · rcases exec_own own answered with rfl | ⟨w, rfl, isOwn⟩
    · simp only [exec] at answered
      split at answered
      · cases answered
      · split at answered <;> cases answered
    · cases write_of_exec answered List.mem_cons_self
      exact rest _ (goes.trans (onwards_after _ later)) (has_saved isOwn)

/-- An entry of the audit log names its actor, and the ticket it is about. -/
theorem orderly_record {entry : AuditLog} {next : Unit → Proc sig α}
    (actor : entry.actorId = SYSTEM_ACTOR_ID ∨ db.Knows t entry.actorId)
    (entity : entry.entityType = "ticket" → db.Has t ⟨entry.entityId⟩)
    (rest : ∀ later, db.Onwards later → Orderly ctx t (next ()) later) :
    Orderly ctx t (.call (S := sig) (.auditLogsRecord entry) next) db := by
  refine orderly_call (fun w written later goes => ?_) fun later reply writes goes linked answered => ?_
  · cases written
    exact ⟨actor.imp_right goes.knows, fun isTicket => goes.has (entity isTicket)⟩
  · exact rest _ (goes.trans (onwards_after writes later))

/-- The events of a ticket are announced under its id. -/
theorem orderly_announce {uuid : Nat → Uuid} {ticket : Ticket} {result : α}
    (about : ∀ e ∈ ticket.domainEvents, db.Has t ⟨e.aggregateId⟩) :
    Orderly ctx t (EventRecorder.record uuid ticket >>= fun _ => .done result) db := by
  unfold EventRecorder.record
  dsimp only
  split
  · trivial
  · refine orderly_call (fun w written later goes => ?_) fun _ _ _ _ _ _ => trivial
    cases written
    intro m inside
    obtain ⟨record, appended, rfl⟩ := List.mem_map.mp inside
    obtain ⟨i, inRange, rfl⟩ := List.mem_mapIdx.mp appended
    exact goes.has (about _ (List.getElem_mem inRange))

end Calls

section Commands

variable {ctx : Ctx} {t : TenantId} {α : Type} {db : Db} {ticket ticket' : Ticket} {now : Instant} {command : Ticket.Command}

/-- A command leaves the people of a ticket alone, unless it assigns it. -/
theorem people_of_perform (done : ticket.perform now command = .ok ticket') :
    ticket'.requesterId = ticket.requesterId ∧
      (ticket'.assigneeId = ticket.assigneeId ∨ ticket'.assigneeId = .null ∨
        ∃ assigneeId, command = .assignTo assigneeId ∧ ticket'.assigneeId = assigneeId) := by
  cases command with
  | changeStatus next =>
      simp only [Ticket.perform, Ticket.changeStatus] at done
      split at done
      · cases done
        exact ⟨rfl, .inl rfl⟩
      · split at done
        · cases done
          cases next <;> exact ⟨rfl, .inl rfl⟩
        · cases done
  | assignTo assigneeId =>
      simp only [Ticket.perform, Ticket.assignTo] at done
      split at done
      · cases done
      · cases done
        exact ⟨rfl, .inr (.inr ⟨_, rfl, rfl⟩)⟩
  | unassign =>
      simp only [Ticket.perform, Ticket.unassign] at done
      split at done
      · cases done
      · cases done
        exact ⟨rfl, .inr (.inl rfl)⟩
  | registerComment commentId authorId authorRole =>
      simp only [Ticket.perform, Ticket.registerComment] at done
      split at done
      · cases done
        exact ⟨rfl, .inl rfl⟩
      · cases done
  | recordSlaBreach timerId kind dueAt =>
      cases done
      exact ⟨rfl, .inl rfl⟩

/-- A ticket keeps its people under a command, if it is assigned to members only. -/
theorem peopled_of_perform (people : Peopled t db ticket) (done : ticket.perform now command = .ok ticket')
    (assigns : ∀ u, command = .assignTo (.value u) → db.Knows t u) : Peopled t db ticket' := by
  obtain ⟨_, sameTenant, _⟩ := Ticket.perform_recorded done
  obtain ⟨sameRequester, assignee⟩ := people_of_perform done
  refine ⟨sameTenant.trans people.1, sameRequester ▸ people.2.1, fun u assigned => ?_⟩
  rcases assignee with same | gone | ⟨assigneeId, rfl, now⟩
  · exact people.2.2 u (same ▸ assigned)
  · rw [gone] at assigned
    cases assigned
  · exact assigns u (by rw [← now, assigned])

/-- What a command on a new ticket announces is about the ticket. -/
theorem about_of_perform (new : ticket.domainEvents = []) (done : ticket.perform now command = .ok ticket') :
    ∀ e ∈ ticket'.domainEvents, e.aggregateId = ticket.id.uuid := by
  intro e recorded
  obtain ⟨_, _, nothing | ⟨fact, one⟩⟩ := Ticket.perform_recorded done
  · rw [nothing, new] at recorded
    cases recorded
  · rw [one, new, List.nil_append, List.mem_singleton] at recorded
    subst recorded
    cases fact <;> rfl

theorem about_of_breach (new : ticket.domainEvents = []) {timerId : SlaTimerId} {kind : String} {dueAt : Instant} :
    ∀ e ∈ (ticket.recordSlaBreach timerId kind dueAt now).domainEvents, e.aggregateId = ticket.id.uuid := by
  have done : ticket.perform now (.recordSlaBreach timerId kind dueAt) =
      .ok (ticket.recordSlaBreach timerId kind dueAt now) := rfl
  exact about_of_perform new done

/-- The end of a command: the ticket is saved, the audit log told, and the event announced. -/
theorem orderly_told (own : ctx.tenant = some t) {entry : AuditLog} {uuid : Nat → Uuid} {result : α}
    (people : Peopled t db ticket) (about : ∀ e ∈ ticket.domainEvents, e.aggregateId = ticket.id.uuid)
    (actor : entry.actorId = SYSTEM_ACTOR_ID ∨ db.Knows t entry.actorId) (entity : entry.entityId = ticket.id.uuid) :
    Orderly ctx t (.call (S := sig) (.ticketsSave ticket) fun _ => .call (.auditLogsRecord entry) fun _ =>
      EventRecorder.record uuid ticket >>= fun _ => .done result) db := by
  refine orderly_save own people fun later goes there => ?_
  refine orderly_record (actor.imp_right goes.knows) (fun _ => entity ▸ there) fun later' goesOn => ?_
  exact orderly_announce fun e recorded => about e recorded ▸ goesOn.has there

theorem CreateTicket.orderly {input : CreateTicketInput} (ambient : Ambient) (own : ctx.tenant = some input.tenantId)
    (known : db.Knows input.tenantId input.actorId) : Orderly ctx input.tenantId (execute input ambient) db := by
  simp only [execute, TicketNumberGenerator.next, TicketRepository.save, AuditRecorder.record, Proc.ask, Proc.call_bind,
    Proc.done_bind]
  refine orderly_note (fun w written later => ?_) fun number later goes => ?_
  · cases written
    trivial
  · split
    · trivial
    · rename_i ticket opened
      have isTicket := Ticket.opened_eq opened
      refine orderly_told own ?_ ?_ (.inr (goes.knows known)) rfl
      · rw [isTicket]
        exact ⟨rfl, goes.knows known, nofun⟩
      · rw [isTicket]
        intro e recorded
        cases List.mem_singleton.mp recorded
        rfl

/-- Whoever is accepted as an assignee is a member. -/
theorem orderly_assigneeExists {assigneeId : Option UserId} {next : Bool → Proc sig α} (own : ctx.tenant = some t)
    (accepted : ∀ later, db.Onwards later → (∀ u, assigneeId = some u → later.Knows t u) → Orderly ctx t (next true) later)
    (refused : ∀ later, Orderly ctx t (next false) later) :
    Orderly ctx t (AssignTicket.assigneeExists t assigneeId >>= next) db := by
  cases assigneeId with
  | none => exact accepted db (.refl db) nofun
  | some u =>
      refine orderly_ask rfl fun later reply goes linked answered => ?_
      rw [exec_membersIsMember own] at answered
      cases answered
      cases isMember : later.memberships.any fun r => r.tenantId = t ∧ r.userId = u with
      | false => exact refused later
      | true =>
          refine accepted later goes fun v same => ?_
          obtain ⟨m, inside, wanted⟩ := List.any_eq_true.mp isMember
          cases same
          exact ⟨m, inside, of_decide_eq_true wanted⟩

end Commands

section UseCases

variable {ctx : Ctx} {db : Db} {ambient : Ambient}

/-- An assignment as the command it is. -/
def AssignTicket.command : Option UserId → Ticket.Command
  | none => .unassign
  | some u => .assignTo (.value u)

theorem AssignTicket.perform_command (ticket : Ticket) (now : Instant) (assigneeId : Option UserId) :
    ticket.perform now (command assigneeId) = apply ticket now assigneeId := by
  cases assigneeId <;> rfl

theorem AssignTicket.orderly {input : AssignTicketInput} (own : ctx.tenant = some input.tenantId)
    (known : db.Knows input.tenantId input.actorId) : Orderly ctx input.tenantId (execute input ambient) db := by
  simp only [execute, TicketRepository.findById, TicketRepository.save, AuditRecorder.record, Proc.ask, Proc.call_bind,
    Proc.done_bind]
  refine orderly_find own (fun _ => trivial) fun ticket later goes people there isTicket new => ?_
  refine orderly_assigneeExists own (fun later' goesOn members => ?_) fun _ => trivial
  rw [if_pos rfl]
  split
  · trivial
  · rename_i ticket' applied
    rw [← perform_command] at applied
    obtain ⟨sameId, _⟩ := Ticket.perform_recorded applied
    refine orderly_told own (peopled_of_perform (people.onwards goesOn) applied fun u assigns => ?_)
      (fun e recorded => ?_) (.inr (goesOn.knows (goes.knows known))) rfl
    · cases isAssignee : input.assigneeId with
      | none => simp [isAssignee, command] at assigns
      | some v =>
          simp only [isAssignee, command, Ticket.Command.assignTo.injEq, Nullable.value.injEq] at assigns
          exact assigns ▸ members v isAssignee
    · rw [sameId]
      exact about_of_perform new applied e recorded

theorem ChangeTicketStatus.orderly {input : ChangeTicketStatusInput} (own : ctx.tenant = some input.tenantId)
    (known : db.Knows input.tenantId input.actorId) : Orderly ctx input.tenantId (execute input ambient) db := by
  simp only [execute, TicketRepository.findById, TicketRepository.save, AuditRecorder.record, Proc.ask, Proc.call_bind,
    Proc.done_bind]
  refine orderly_find own (fun _ => trivial) fun ticket later goes people there isTicket new => ?_
  dsimp only
  split
  · trivial
  · rename_i ticket' changed
    split
    · trivial
    · have done : ticket.perform ambient.now (.changeStatus input.status) = .ok ticket' := changed
      obtain ⟨sameId, _⟩ := Ticket.perform_recorded done
      refine orderly_told own (peopled_of_perform people done nofun) (fun e recorded => ?_)
        (.inr (goes.knows known)) rfl
      rw [sameId]
      exact about_of_perform new done e recorded

theorem AddComment.orderly {input : AddCommentInput} (own : ctx.tenant = some input.tenantId)
    (known : db.Knows input.tenantId input.actorId) : Orderly ctx input.tenantId (execute input ambient) db := by
  simp only [execute, TicketRepository.findById, TicketRepository.save, CommentRepository.save, AuditRecorder.record,
    Proc.ask, Proc.call_bind, Proc.done_bind]
  refine orderly_find own (fun _ => trivial) fun ticket later goes people there isTicket new => ?_
  dsimp only
  split
  · split
    · trivial
    · rename_i comment written
      split
      · trivial
      · rename_i ticket' commented
        have done : ticket.perform ambient.now (.registerComment comment.id input.actorId input.actorRole) =
            .ok ticket' := commented
        obtain ⟨sameId, _⟩ := Ticket.perform_recorded done
        have isComment : comment.authorId = input.actorId ∧ comment.ticketId = input.ticketId := by
          unfold Comment.write at written
          split at written
          · cases written
          · cases written
            exact ⟨rfl, rfl⟩
        refine orderly_call (fun w isWrite later' goesOn => ?_) fun later' _ writes goesOn _ _ => ?_
        · cases isWrite
          refine ⟨isComment.1 ▸ goesOn.knows (goes.knows known), ?_⟩
          rw [isComment.2, ← isTicket]
          exact goesOn.has there
        · have onwards := goesOn.trans (onwards_after writes later')
          refine orderly_told own (peopled_of_perform (people.onwards onwards) done nofun) (fun e recorded => ?_)
            (.inr (onwards.knows (goes.knows known))) rfl
          rw [sameId]
          exact about_of_perform new done e recorded
  · trivial

theorem policy_ne_ticket : "SlaPolicy" ≠ "ticket" := by decide

theorem UpdateSlaPolicy.orderly {input : UpdateSlaPolicyInput} (known : db.Knows input.tenantId input.actorId) :
    Orderly ctx input.tenantId (execute input ambient) db := by
  unfold execute
  split
  · trivial
  · refine orderly_ask rfl fun later _ goes _ _ => ?_
    refine orderly_note (fun w written _ => ?_) fun _ later' goesOn => ?_
    · cases written
      trivial
    · exact orderly_record (.inr (goesOn.knows (goes.knows known))) (fun isTicket => absurd isTicket policy_ne_ticket)
        fun _ _ => trivial

theorem ResetSlaPolicy.orderly {input : ResetSlaPolicyInput} (known : db.Knows input.tenantId input.actorId) :
    Orderly ctx input.tenantId (execute input ambient) db := by
  unfold execute
  refine orderly_ask rfl fun later _ goes _ _ => ?_
  refine orderly_note (fun w written _ => ?_) fun removed later' goesOn => ?_
  · cases written
    trivial
  · refine orderly_ask rfl fun later'' _ goesOn' _ _ => ?_
    cases removed with
    | false => trivial
    | true =>
        exact orderly_record (.inr (goesOn'.knows (goesOn.knows (goes.knows known))))
          (fun isTicket => absurd isTicket policy_ne_ticket) fun _ _ => trivial

/-- The agents of an organisation are members. -/
theorem knows_of_agentsOf {t : TenantId} {ctx : Ctx} (own : ctx.tenant = some t) {agentes : List UserId}
    {writes : List Write} (answered : exec ctx (.membersAgentsOf t) db = some (agentes, writes)) {u : UserId}
    (isAgent : u ∈ agentes) : db.Knows t u := by
  simp only [exec, own] at answered
  cases answered
  obtain ⟨m, listed, rfl⟩ := List.mem_map.mp isAgent
  have inside := (List.perm_insertionSort _ _).mem_iff.mp listed
  obtain ⟨shown, wanted⟩ := List.mem_filter.mp inside
  exact ⟨m, (List.mem_filter.mp shown).1, (of_decide_eq_true wanted).1, rfl⟩

theorem AutoAssignTicket.orderly {input : AutoAssignTicketInput} (own : ctx.tenant = some input.tenantId) :
    Orderly ctx input.tenantId (execute input ambient) db := by
  simp only [execute, ProcessedMessages.claim, TicketRepository.findById, MemberDirectory.agentsOf, TicketRepository.save,
    AuditRecorder.record, Proc.ask, Proc.call_bind, Proc.done_bind]
  refine orderly_note (fun w written _ => ?_) fun claimed later goes => ?_
  · cases written
    trivial
  · cases claimed with
    | false => trivial
    | true =>
        refine orderly_find own (fun _ => trivial) fun ticket later' goesOn people there isTicket new => ?_
        dsimp only
        split
        · trivial
        · refine orderly_ask rfl fun later'' agentes goesOn' _ answered => ?_
          split
          · trivial
          · split
            · trivial
            · rename_i ticket' assigned
              have done : ticket.perform ambient.now (.assignTo _) = .ok ticket' := assigned
              obtain ⟨sameId, _⟩ := Ticket.perform_recorded done
              refine orderly_told own (peopled_of_perform (people.onwards goesOn') done fun u assigns => ?_)
                (fun e recorded => ?_) (.inl rfl) rfl
              · have isChosen := Ticket.Command.assignTo.inj assigns
                refine knows_of_agentsOf own answered ?_
                unfold elementAt at isChosen
                split at isChosen
                · split at isChosen
                  · rename_i found
                    exact Nullable.value.inj isChosen ▸ List.mem_of_getElem? found
                  · cases isChosen
                · cases isChosen
              · rw [sameId]
                exact about_of_perform new done e recorded

/-- Timers are started for a ticket that is there. -/
theorem StartSlaTimers.orderly {input : StartSlaTimersInput} (there : db.Has input.tenantId input.ticketId) :
    Orderly ctx input.tenantId (execute input ambient) db := by
  have saves (objetivo : SlaTarget) (result : Except TicketingError StartSlaOutcome) (kinds : List SlaKind) :
      ∀ (i : Nat) (later : Db), db.Onwards later →
        Orderly ctx input.tenantId (saveAll input objetivo ambient.uuid kinds i >>= fun _ => .done result) later := by
    induction kinds with
    | nil => exact fun _ _ _ => trivial
    | cons kind kinds ih =>
        intro i later goes
        refine orderly_call (fun w written later' goesOn => ?_) fun later' _ writes goesOn _ _ => ?_
        · cases written
          exact ⟨rfl, goesOn.has (goes.has there)⟩
        · exact ih (i + 1) _ ((goes.trans goesOn).trans (onwards_after writes later'))
  simp only [execute, ProcessedMessages.claim, Proc.ask, Proc.call_bind, Proc.done_bind]
  refine orderly_note (fun w written _ => ?_) fun claimed later goes => ?_
  · cases written
    trivial
  · cases claimed with
    | false => trivial
    | true => exact orderly_ask rfl fun later' overrides goesOn _ _ => saves _ _ SLA_KINDS 0 later' (goes.trans goesOn)

/-- A timer stays with its ticket when it ends. -/
theorem place_stop (timer : SlaTimer) (now : Instant) :
    (timer.stop now).tenantId = timer.tenantId ∧ (timer.stop now).ticketId = timer.ticketId := by
  unfold SlaTimer.stop
  split <;> exact ⟨rfl, rfl⟩

theorem place_markBreached (timer : SlaTimer) (now : Instant) :
    (timer.markBreached now).1.tenantId = timer.tenantId ∧ (timer.markBreached now).1.ticketId = timer.ticketId := by
  unfold SlaTimer.markBreached
  split <;> exact ⟨rfl, rfl⟩

theorem StopSlaTimer.orderly {input : StopSlaTimerInput} (own : ctx.tenant = some input.tenantId) :
    Orderly ctx input.tenantId (execute input) db := by
  simp only [execute, ProcessedMessages.claim, SlaTimerRepository.findRunning, SlaTimerRepository.save, Proc.ask,
    Proc.call_bind, Proc.done_bind]
  refine orderly_note (fun w written _ => ?_) fun claimed later goes => ?_
  · cases written
    trivial
  · cases claimed with
    | false => trivial
    | true =>
        refine orderly_ask rfl fun later' running goesOn linked answered => ?_
        rw [exec_timersFindRunning own] at answered
        obtain ⟨found, _⟩ := Prod.mk.inj (Option.some.inj answered)
        cases running with
        | none => trivial
        | some timer =>
            obtain ⟨inside, wanted⟩ := Table.findFirst_mem found
            have ofTenant : timer.tenantId = input.tenantId := (of_decide_eq_true wanted).1
            obtain ⟨sameTenant, sameTicket⟩ := place_stop timer input.occurredAt
            refine orderly_call (fun w written later'' goesOn' => ?_) fun _ _ _ _ _ _ => trivial
            cases written
            refine ⟨sameTenant.trans ofTenant, goesOn'.has ?_⟩
            rw [sameTicket, ← ofTenant]
            exact linked.timed timer inside

theorem MarkSlaBreached.orderly {input : MarkSlaBreachedInput} (own : ctx.tenant = some input.tenantId) :
    Orderly ctx input.tenantId (execute input ambient) db := by
  simp only [execute, SlaTimerRepository.findById, SlaTimerRepository.save, TicketRepository.findById,
    AuditRecorder.record, Proc.ask, Proc.call_bind, Proc.done_bind]
  refine orderly_ask rfl fun later found goes linked answered => ?_
  rw [exec_timersFindById own] at answered
  obtain ⟨isFound, _⟩ := Prod.mk.inj (Option.some.inj answered)
  cases found with
  | none => trivial
  | some timer =>
      obtain ⟨stored, ofTenant⟩ := Db.timerOf_eq_some_iff.mp isFound
      have timed := linked.timed timer (Table.mem_of_find? stored)
      dsimp only
      split
      · split
        · refine orderly_find own (fun _ => trivial) fun ticket later' goesOn people there isTicket new => ?_
          obtain ⟨sameTenant, sameTicket⟩ := place_markBreached timer ambient.now
          refine orderly_call (fun w written later'' goesOn' => ?_) fun later'' _ writes goesOn' _ _ => ?_
          · cases written
            refine ⟨sameTenant.trans ofTenant, goesOn'.has (goesOn.has ?_)⟩
            rw [sameTicket, ← ofTenant]
            exact timed
          · have onwards := goesOn'.trans (onwards_after writes later'')
            refine orderly_record (.inl rfl) (fun _ => onwards.has there) fun last goesLast => ?_
            refine orderly_announce fun e recorded => ?_
            rw [about_of_breach new e recorded]
            exact goesLast.has (onwards.has there)
        · trivial
      · trivial

end UseCases

section Executions

/-- In whose name a use case acts. -/
def UseCase.actorId : UseCase → Option UserId
  | .createTicket input => some input.actorId
  | .assignTicket input => some input.actorId
  | .changeTicketStatus input => some input.actorId
  | .addComment input => some input.actorId
  | .updateSlaPolicy input => some input.actorId
  | .resetSlaPolicy input => some input.actorId
  | _ => none

/-- The ticket a use case takes for granted. -/
def UseCase.startsFor : UseCase → Option TicketId
  | .startSlaTimers input => some input.ticketId
  | _ => none

/-- The queries. -/
def UseCase.reads : UseCase → Bool
  | .getSlaPolicy _ | .listTickets _ | .ticketDetail _ _ | .ticketHistory _ _ => true
  | _ => false

/-- A query makes something of one answer. -/
theorem program_of_reads {e : Execution} (isQuery : e.useCase.reads = true) :
    ∃ (c : Call) (f : c.Reply → Except TicketingError Output), c.write? e.requestId = none ∧
      e.program = .call c fun reply => .done (f reply) := by
  obtain ⟨useCase, ambient, requestId⟩ := e
  cases useCase with
  | getSlaPolicy | listTickets | ticketDetail | ticketHistory => exact ⟨_, _, rfl, rfl⟩
  | createTicket | assignTicket | autoAssignTicket | changeTicketStatus | addComment | startSlaTimers | stopSlaTimer
  | markSlaBreached | updateSlaPolicy | resetSlaPolicy => cases isQuery

/-- Whoever acts is a member, and what is taken for granted is there. -/
structure Execution.KnownIn (e : Execution) (db : Db) : Prop where
  actor : ∀ u, e.useCase.actorId = some u → db.Knows e.useCase.tenantId u
  ticket : ∀ id, e.useCase.startsFor = some id → db.Has e.useCase.tenantId id

/-- Every use case is orderly. -/
theorem orderly_of_known {e : Execution} {db : Db} (known : e.KnownIn db) :
    Orderly e.ctx e.useCase.tenantId e.program db := by
  obtain ⟨useCase, ambient, requestId⟩ := e
  obtain ⟨actor, ticket⟩ := known
  cases useCase with
  | createTicket input => exact (CreateTicket.orderly ambient rfl (actor _ rfl)).map _
  | assignTicket input => exact (AssignTicket.orderly rfl (actor _ rfl)).map _
  | autoAssignTicket input => exact (AutoAssignTicket.orderly rfl).map _
  | changeTicketStatus input => exact (ChangeTicketStatus.orderly rfl (actor _ rfl)).map _
  | addComment input => exact (AddComment.orderly rfl (actor _ rfl)).map _
  | startSlaTimers input => exact (StartSlaTimers.orderly (ticket _ rfl)).map _
  | stopSlaTimer input => exact (StopSlaTimer.orderly rfl).map _
  | markSlaBreached input => exact (MarkSlaBreached.orderly rfl).map _
  | updateSlaPolicy input => exact (UpdateSlaPolicy.orderly (actor _ rfl)).map _
  | resetSlaPolicy input => exact (ResetSlaPolicy.orderly (actor _ rfl)).map _
  | getSlaPolicy | listTickets | ticketDetail | ticketHistory =>
      exact orderly_ask rfl fun _ _ _ _ _ => trivial

end Executions

end Helpdesk
