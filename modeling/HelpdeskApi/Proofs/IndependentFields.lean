/-
Module: HelpdeskApi.Proofs.IndependentFields
Layer: Proofs
Purpose: Somebody assigns a ticket while somebody else changes its status. Each of the two saves the whole
  ticket it has loaded, the field of the other one included, so that the later commit can take the earlier
  one back, of which an audit entry and a message remain.
Trusted boundary: none
Main exports: Call.AgreesWith, BothKept, OthersCurrent, independentFields_kept_iff
-/
import HelpdeskApi.Application.TicketPairs
import HelpdeskApi.Proofs.StatusMoves

namespace Helpdesk

open Relational Txn Transition

/-- What a message of an assignment or of a change of status says of a ticket is what its row says. -/
structure IntegrationEvent.AgreesWith (event : IntegrationEvent) (row : TicketRow) : Prop where
  assigned : event.eventName = "ticket.assigned" →
    event.payload.field? "assigneeId" = row.assigneeId.map fun u => .uuid u.uuid
  unassigned : event.eventName = "ticket.unassigned" → row.assigneeId = none
  moved : event.eventName = "ticket.status_changed" → event.payload.field? "to" = some (.str row.status.text)

/-- What an audit entry says of a ticket is what its row says. -/
def AuditMetadata.AgreesWith (metadata : AuditMetadata) (row : TicketRow) : Prop :=
  match metadata with
  | .ticketAssignment assigneeId => row.assigneeId = assigneeId
  | .statusChange _ target => row.status = target
  | _ => True

/-- What a call records in the audit log or in the outbox is what the row of the ticket says. -/
def Call.AgreesWith (call : Call) (row : TicketRow) : Prop :=
  match call with
  | .auditLogsRecord log => log.metadata.AgreesWith row
  | .outboxAppend records => ∀ r ∈ records, r.toIntegrationEvent.AgreesWith row
  | _ => True

/-- The row has what an execution has asked for. -/
def Execution.Granted (e : Execution) (row : TicketRow) : Prop :=
  match e.useCase with
  | .assignTicket input => row.assigneeId = input.assigneeId
  | .changeTicketStatus input => row.status = input.status
  | _ => False

/-- What an execution records agrees with every row that has what it has asked for. -/
def Execution.AgreesWith (e : Execution) (row : TicketRow)
    (trace : List repositories.transactional.Event) : Prop :=
  e.Granted row → ∀ ev ∈ trace, ev.call.AgreesWith row

/-- The row has the assignee one of the two has asked for, and the status the other one has asked for with the
    times of it. -/
structure BothKept (assignment : AssignTicketInput) (move : ChangeTicketStatusInput)
    (out : Except TicketingError Output) (row : TicketRow) : Prop where
  assigneeId : row.assigneeId = assignment.assigneeId
  status : row.status = move.status
  stamps : ∀ ticket, out = .ok (.ticket ticket) →
    row.resolvedAt = ticket.resolvedAt ∧ row.closedAt = ticket.closedAt

/-- The fields of the other one, which a command writes back as it has loaded them, are those of the committed
    row. A change to the status the ticket is in already writes nothing. -/
def OthersCurrent (e : Execution) (_ : Db) (loaded : Ticket) (row : TicketRow) : Prop :=
  match e.useCase with
  | .assignTicket _ => loaded.status = row.status ∧ loaded.resolvedAt = row.resolvedAt ∧ loaded.closedAt = row.closedAt
  | .changeTicketStatus input => loaded.status ≠ input.status → loaded.assigneeId = .ofColumn row.assigneeId
  | _ => True

section Records

variable {row : TicketRow} {loaded saved : Ticket} {now : Instant}

theorem ticketAssigned_agrees {id : TicketId} {tenantId : TenantId} {status : TicketStatus} {u : UserId}
    (granted : row.assigneeId = some u) :
    (ticketAssigned id tenantId now (.value u) status).AgreesWith row := by
  constructor <;> simp [ticketAssigned, ticketEvent, userIdValue, Payload.optional, Payload.field?, granted]

theorem ticketUnassigned_agrees {id : TicketId} {tenantId : TenantId} {status : TicketStatus}
    (granted : row.assigneeId = none) : (ticketUnassigned id tenantId now status).AgreesWith row := by
  constructor <;> simp [ticketUnassigned, ticketEvent, granted]

theorem ticketStatusChanged_agrees {id : TicketId} {tenantId : TenantId} {source : TicketStatus}
    {assigneeId : Nullable UserId} :
    (ticketStatusChanged id tenantId now source row.status assigneeId).AgreesWith row := by
  constructor
  · simp [ticketStatusChanged, ticketEvent]
  · simp [ticketStatusChanged, ticketEvent]
  · exact fun _ => rfl

theorem AssignTicket.agrees {assigneeId : Option UserId} (granted : row.assigneeId = assigneeId)
    (fresh : loaded.domainEvents = []) (applied : apply loaded now assigneeId = .ok saved) :
    ∀ event ∈ saved.domainEvents, event.AgreesWith row := by
  intro event recorded
  cases assigneeId with
  | none =>
      rw [apply, Ticket.unassign] at applied
      split at applied
      · cases applied
      · cases applied
        rw [Ticket.addDomainEvent_domainEvents, Ticket.touch, fresh] at recorded
        cases List.mem_singleton.mp recorded
        exact ticketUnassigned_agrees granted
  | some assigneeId =>
      rw [apply, Ticket.assignTo] at applied
      split at applied
      · cases applied
      · cases applied
        rw [Ticket.addDomainEvent_domainEvents, Ticket.touch, fresh] at recorded
        cases List.mem_singleton.mp recorded
        exact ticketAssigned_agrees granted

theorem ChangeTicketStatus.agrees (fresh : loaded.domainEvents = [])
    (changed : loaded.changeStatus row.status now = .ok saved) :
    ∀ event ∈ saved.domainEvents, event.AgreesWith row := by
  intro event recorded
  rw [Ticket.changeStatus] at changed
  split at changed
  · cases changed
    rw [fresh] at recorded
    cases recorded
  · split at changed
    · cases changed
      rw [Ticket.addDomainEvent_domainEvents, Ticket.touch, Ticket.applyLifecycleTimestamps_domainEvents,
        fresh] at recorded
      cases List.mem_singleton.mp recorded
      exact ticketStatusChanged_agrees
    · cases changed

/-- The recorder of events records nothing but the events of the ticket. -/
theorem within_record_agrees {uuid : Nat → Uuid} {next : Unit → Proc sig (Except TicketingError Ticket)}
    (agrees : ∀ event ∈ saved.domainEvents, event.AgreesWith row)
    (rest : (next ()).Within (fun c : Call => c.AgreesWith row) fun _ => True) :
    (EventRecorder.record uuid saved >>= next).Within (fun c : Call => c.AgreesWith row) fun _ => True := by
  unfold EventRecorder.record
  simp only
  split
  · exact rest
  · refine ⟨?_, fun _ => rest⟩
    intro r appended
    obtain ⟨i, inside, rfl⟩ := List.mem_mapIdx.mp appended
    exact agrees _ (List.getElem_mem inside)

variable {e : Execution}

/-- A use case on a ticket, from what it has found on. -/
theorem agrees_of_found {tenantId : TenantId} {ticketId : TicketId}
    {f : Option Ticket → Proc sig (Except TicketingError Ticket)}
    (absent : (f none).Within (fun c : Call => c.AgreesWith row) fun _ => True)
    (found : ∀ ticket : Ticket, ticket.domainEvents = [] →
      (f (some ticket)).Within (fun c : Call => c.AgreesWith row) fun _ => True) :
    (TicketRepository.findById tenantId ticketId >>= f).Satisfies (repositories.transactional.Plausible e.ctx)
      (fun trace => ∀ ev ∈ trace, ev.call.AgreesWith row) (fun _ _ => True) [] := by
  have kept (trace : List repositories.transactional.Event) (ev : repositories.transactional.Event)
      (agrees : ev.call.AgreesWith row) (before : ∀ earlier ∈ trace, earlier.call.AgreesWith row) :
      ∀ other ∈ trace ++ [ev], other.call.AgreesWith row := by
    intro other inside
    rcases List.mem_append.mp inside with earlier | last
    · exact before other earlier
    · cases List.mem_singleton.mp last
      exact agrees
  refine .ask fun o produced => ?_
  have first : ∀ ev ∈ [(⟨_, o⟩ : repositories.transactional.Event)], ev.call.AgreesWith row := by
    intro ev inside
    cases List.mem_singleton.mp inside
    trivial
  refine ⟨first, ?_⟩
  have within : (f o.reply).Within (fun c : Call => c.AgreesWith row) fun _ => True := by
    cases isReply : o.reply with
    | none => exact absent
    | some ticket =>
        obtain ⟨db, answered⟩ := exec_of_plausible produced
        obtain ⟨stored, _, isRow⟩ := found_ticket (isReply ▸ answered)
        exact found ticket (isRow ▸ rfl)
  exact (within.satisfies (fun trace ev _ agrees before => kept trace ev agrees before) first).mono
    (fun _ now => now) fun _ _ _ => trivial

/-- Whatever the database answers: an execution records what it has been asked for. -/
theorem Execution.agrees_spec (row : TicketRow) (e : Execution) :
    e.AgreesWith row [] ∧
      e.program.Satisfies (repositories.transactional.Plausible e.ctx) (e.AgreesWith row) (fun _ _ => True) [] := by
  have nothing : e.AgreesWith row [] := fun _ _ inside => by cases inside
  refine ⟨nothing, ?_⟩
  have weaken (p : e.Granted row → e.program.Satisfies (repositories.transactional.Plausible e.ctx)
      (fun trace => ∀ ev ∈ trace, ev.call.AgreesWith row) (fun _ _ => True) []) :
      e.program.Satisfies (repositories.transactional.Plausible e.ctx) (e.AgreesWith row) (fun _ _ => True) [] := by
    by_cases granted : e.Granted row
    · exact (p granted).mono (fun _ agrees _ => agrees) fun _ _ done => done
    · exact Proc.satisfies_of_forall (fun _ grants => absurd grants granted) (fun _ _ => trivial) _ _
  apply weaken
  intro granted
  unfold Granted at granted
  unfold program
  split at granted
  · rename_i input isAssign
    rw [isAssign]
    rw [Proc.satisfies_map]
    refine agrees_of_found trivial fun ticket fresh => ?_
    simp only
    have asked (f : Bool → Proc sig (Except TicketingError Ticket))
        (rest : ∀ acceptable, (f acceptable).Within (fun c : Call => c.AgreesWith row) fun _ => True) :
        (AssignTicket.assigneeExists input.tenantId input.assigneeId >>= f).Within
          (fun c : Call => c.AgreesWith row) fun _ => True := by
      cases input.assigneeId with
      | none => exact rest true
      | some assigneeId => exact .ask trivial rest
    apply asked _
    intro acceptable
    split
    · split
      · trivial
      · rename_i saved applied
        exact .ask trivial fun _ => .ask granted fun _ =>
          within_record_agrees (AssignTicket.agrees granted fresh applied) trivial
    · trivial
  · rename_i input isChange
    rw [isChange]
    rw [Proc.satisfies_map]
    refine agrees_of_found trivial fun ticket fresh => ?_
    simp only
    split
    · trivial
    · rename_i saved changed
      split
      · trivial
      · rw [← granted] at changed
        exact .ask trivial fun _ => .ask granted fun _ =>
          within_record_agrees (ChangeTicketStatus.agrees fresh changed) trivial
  · cases granted

end Records

section Runs

variable {db₀ : Db} {assign change : Execution} {assignment : AssignTicketInput} {move : ChangeTicketStatusInput}
  {history : List (Config ticketing × Move ticketing)} {c : Config ticketing} {s₀ s₁ : Session ticketing}
  {now : Instant} {output : Output}

/-- The assignment commits first. -/
theorem bothKept_iff_assignedFirst (run : Run Config.step (.start db₀ [assign, change]) history c)
    (order : Config.commitsOf history = [0, 1]) (at₀ : c.sessions[0]? = some s₀) (at₁ : c.sessions[1]? = some s₁)
    (isAssign : s₀.job.useCase = .assignTicket assignment) (isChange : s₁.job.useCase = .changeTicketStatus move)
    (sameId : move.ticketId = assignment.ticketId)
    (did₀ : AssignTicket.Did assignment now s₀.trace) {now' : Instant}
    (did₁ : ChangeTicketStatus.Did move now' s₁.trace output) :
    (∃ row, c.db.tickets.find? assignment.ticketId = some row ∧ BothKept assignment move (.ok output) row) ↔
      Meets (CommitsOnto OthersCurrent) history := by
  obtain ⟨loaded, saved, saving, sought, applied⟩ := did₀
  obtain ⟨loaded', changed, loads, sought', moved, saves, ticket, rfl, resolvedAt, closedAt⟩ := did₁
  have commands₀ : s₀.job.commands = true := by simp [Execution.commands, isAssign]
  have commands₁ : s₁.job.commands = true := by simp [Execution.commands, isChange]
  obtain ⟨r₀, rfl, first, _⟩ :=
    loaded_of_pair run order at₀ commands₀ (saving.loaded ▸ List.mem_singleton_self loaded)
  obtain ⟨r, rfl, _, second⟩ := loaded_of_pair run order at₁ commands₁ (loads ▸ List.mem_singleton_self loaded')
  have savedId : saved.id = assignment.ticketId := (AssignTicket.keeps_id applied).trans sought
  have stored₀ : db₀.tickets.find? assignment.ticketId = some r₀ := sought ▸ first rfl
  have stored₁ : (saveTicket db₀.tickets saved).find? assignment.ticketId = some (updateTicketRow saved r₀) :=
    find?_saveTicket_of_stored savedId stored₀
  rw [savedBy_eq at₀, saving.saved, sought', sameId, stored₀, List.foldl_cons, List.foldl_nil, stored₁] at second
  have assigned := AssignTicket.writes_assignee applied r₀
  have left := AssignTicket.keeps_status applied
  have fits₀ : OthersCurrent s₀.job db₀ (toTicket r₀) r₀ := by
    rw [OthersCurrent, isAssign]
    exact ⟨rfl, rfl, rfl⟩
  have stored₁' : (db₀.after (c.writesOf 0)).tickets.find? assignment.ticketId = some (updateTicketRow saved r₀) := by
    rw [tickets_of_first, savedBy_eq at₀, saving.saved]
    exact stored₁
  -- whichever row the change has loaded, the assignment has left its status and its times alone
  have found : r.status = (updateTicketRow saved r₀).status ∧
      r.resolvedAt = (updateTicketRow saved r₀).resolvedAt ∧ r.closedAt = (updateTicketRow saved r₀).closedAt := by
    rcases second rfl with same | same
    · cases same
      exact ⟨left.1.symm, left.2.1.symm, left.2.2.symm⟩
    · cases same
      exact ⟨rfl, rfl, rfl⟩
  obtain ⟨movedId, status, sameAssignee, still⟩ := ChangeTicketStatus.moved moved
  have changedId : changed.id = assignment.ticketId := movedId.trans (sought'.trans sameId)
  rw [tickets_of_pair run order, commitsOnto_iff run order at₀ at₁, savedBy_eq at₀, savedBy_eq at₁, saving.saved,
    saves, findsLoaded_iff saving.loaded sought stored₀, findsLoaded_iff loads (sought'.trans sameId) stored₁',
    List.foldl_cons, List.foldl_nil]
  by_cases already : (toTicket r).status = move.status
  · rw [if_pos already, List.foldl_nil]
    have unchanged := still already
    refine iff_of_true ⟨_, stored₁, assigned, found.1.symm.trans already, ?_⟩ ⟨fits₀, ?_⟩
    · intro answer isAnswer
      cases isAnswer
      rw [resolvedAt, closedAt, unchanged]
      exact ⟨found.2.1.symm, found.2.2.symm⟩
    · rw [OthersCurrent, isChange]
      exact fun moves => absurd already moves
  · have stored₂ : (saveTicket (saveTicket db₀.tickets saved) changed).find? assignment.ticketId =
        some (updateTicketRow changed (updateTicketRow saved r₀)) :=
      find?_saveTicket_of_stored changedId stored₁
    rw [if_neg already, List.foldl_cons, List.foldl_nil, stored₂]
    constructor
    · intro kept
      obtain ⟨row, isRow, kept⟩ := kept
      cases isRow
      refine ⟨fits₀, ?_⟩
      have written : (updateTicketRow changed (updateTicketRow saved r₀)).assigneeId = r.assigneeId := by
        simp [updateTicketRow, sameAssignee]
      rw [OthersCurrent, isChange]
      exact fun _ => congrArg Nullable.ofColumn <| written.symm.trans <| kept.assigneeId.trans assigned.symm
    · intro fits
      have same := fits.2
      rw [OthersCurrent, isChange] at same
      have written : (updateTicketRow changed (updateTicketRow saved r₀)).assigneeId =
          (updateTicketRow saved r₀).assigneeId := by
        rw [updateTicketRow, sameAssignee, same already, Nullable.toColumn_ofColumn]
      refine ⟨_, rfl, written.trans assigned, status, ?_⟩
      intro answer isAnswer
      cases isAnswer
      exact ⟨resolvedAt.symm, closedAt.symm⟩

/-- The change of status commits first. -/
theorem bothKept_iff_changedFirst (run : Run Config.step (.start db₀ [assign, change]) history c)
    (order : Config.commitsOf history = [1, 0]) (at₀ : c.sessions[0]? = some s₀) (at₁ : c.sessions[1]? = some s₁)
    (isAssign : s₀.job.useCase = .assignTicket assignment) (isChange : s₁.job.useCase = .changeTicketStatus move)
    (sameId : move.ticketId = assignment.ticketId)
    (did₀ : AssignTicket.Did assignment now s₀.trace) {now' : Instant}
    (did₁ : ChangeTicketStatus.Did move now' s₁.trace output) :
    (∃ row, c.db.tickets.find? assignment.ticketId = some row ∧ BothKept assignment move (.ok output) row) ↔
      Meets (CommitsOnto OthersCurrent) history := by
  obtain ⟨loaded, saved, saving, sought, applied⟩ := did₀
  obtain ⟨loaded', changed, loads, sought', moved, saves, ticket, rfl, resolvedAt, closedAt⟩ := did₁
  have commands₀ : s₀.job.commands = true := by simp [Execution.commands, isAssign]
  have commands₁ : s₁.job.commands = true := by simp [Execution.commands, isChange]
  obtain ⟨r₀, rfl, first, _⟩ := loaded_of_pair run order at₁ commands₁ (loads ▸ List.mem_singleton_self loaded')
  obtain ⟨r, rfl, _, second⟩ :=
    loaded_of_pair run order at₀ commands₀ (saving.loaded ▸ List.mem_singleton_self loaded)
  have savedId : saved.id = assignment.ticketId := (AssignTicket.keeps_id applied).trans sought
  have stored₀ : db₀.tickets.find? assignment.ticketId = some r₀ := sameId ▸ sought' ▸ first rfl
  obtain ⟨movedId, status, sameAssignee, still⟩ := ChangeTicketStatus.moved moved
  have changedId : changed.id = assignment.ticketId := movedId.trans (sought'.trans sameId)
  have assigned := AssignTicket.writes_assignee applied
  have written : saved.status = r.status ∧ saved.resolvedAt = r.resolvedAt ∧ saved.closedAt = r.closedAt := by
    rw [AssignTicket.applied applied]
    exact ⟨rfl, rfl, rfl⟩
  have fits₁ : OthersCurrent s₁.job db₀ (toTicket r₀) r₀ := by
    rw [OthersCurrent, isChange]
    exact fun _ => rfl
  have tickets₁ := tickets_of_first c db₀ 1
  rw [savedBy_eq at₁, saves] at tickets₁
  rw [savedBy_eq at₁, saves, sought, stored₀] at second
  rw [tickets_of_pair run order, commitsOnto_iff run order at₁ at₀, savedBy_eq at₀, savedBy_eq at₁, saving.saved,
    saves, findsLoaded_iff loads (sought'.trans sameId) stored₀, List.foldl_cons, List.foldl_nil]
  by_cases already : (toTicket r₀).status = move.status
  · -- nothing has been saved, so the assignment has loaded the row as it is
    rw [if_pos already, List.foldl_nil] at second tickets₁ ⊢
    have isRow : r = r₀ := by
      rcases second rfl with same | same
      · exact (Option.some.inj same).symm
      · exact (Option.some.inj (stored₀.symm.trans same)).symm
    have stored₁ : (saveTicket db₀.tickets saved).find? assignment.ticketId = some (updateTicketRow saved r₀) :=
      find?_saveTicket_of_stored savedId stored₀
    have left := AssignTicket.keeps_status (isRow ▸ applied)
    have unchanged := still already
    rw [findsLoaded_iff saving.loaded sought (tickets₁ ▸ stored₀)]
    refine iff_of_true ⟨_, stored₁, assigned r₀, left.1.trans already, ?_⟩ ⟨fits₁, ?_⟩
    · intro answer isAnswer
      cases isAnswer
      rw [resolvedAt, closedAt, unchanged]
      exact left.2
    · rw [OthersCurrent, isAssign, isRow]
      exact ⟨rfl, rfl, rfl⟩
  · have stored₁ : (saveTicket db₀.tickets changed).find? assignment.ticketId = some (updateTicketRow changed r₀) :=
      find?_saveTicket_of_stored changedId stored₀
    have stored₂ : (saveTicket (saveTicket db₀.tickets changed) saved).find? assignment.ticketId =
        some (updateTicketRow saved (updateTicketRow changed r₀)) :=
      find?_saveTicket_of_stored savedId stored₁
    rw [if_neg already, List.foldl_cons, List.foldl_nil] at tickets₁
    rw [if_neg already, List.foldl_cons, List.foldl_nil, stored₂,
      findsLoaded_iff saving.loaded sought (tickets₁ ▸ stored₁)]
    constructor
    · intro kept
      obtain ⟨row, isRow, kept⟩ := kept
      cases isRow
      refine ⟨fits₁, ?_⟩
      obtain ⟨resolves, closes⟩ := kept.stamps ticket rfl
      rw [OthersCurrent, isAssign]
      exact ⟨written.1.symm.trans (kept.status.trans status.symm),
        written.2.1.symm.trans (resolves.trans resolvedAt), written.2.2.symm.trans (closes.trans closedAt)⟩
    · intro fits
      have same := fits.2
      rw [OthersCurrent, isAssign] at same
      refine ⟨_, rfl, assigned _, written.1.trans (same.1.trans status), ?_⟩
      intro answer isAnswer
      cases isAnswer
      exact ⟨written.2.1.trans (same.2.1.trans resolvedAt.symm), written.2.2.trans (same.2.2.trans closedAt.symm)⟩

/-- After an assignment and a change of status of one ticket have both committed, the row has the assignee the
    one asked for and the status the other one asked for with its times, and agrees with the audit entries and
    the messages of both, if and only if each commit that writes the ticket finds the fields of the other one as
    it has loaded them. -/
theorem independentFields_kept_iff (assigns : assign.useCase = .assignTicket assignment)
    (changes : change.useCase = .changeTicketStatus move) (sameId : move.ticketId = assignment.ticketId)
    (run : Run Config.step (.start db₀ [assign, change]) history c) (closed : c.sessions.length = 2)
    (at₀ : c.sessions[0]? = some s₀) (at₁ : c.sessions[1]? = some s₁)
    {out₀ out₁ : Except TicketingError Output} (status₀ : s₀.status = .committed out₀)
    (status₁ : s₁.status = .committed out₁) :
    (∃ row, c.db.tickets.find? assignment.ticketId = some row ∧ BothKept assignment move out₁ row ∧
        ∀ ev ∈ s₀.trace ++ s₁.trace, ev.call.AgreesWith row) ↔
      Meets (CommitsOnto OthersCurrent) history := by
  have isAssign : s₀.job.useCase = .assignTicket assignment :=
    (Option.some.inj (Config.job_of_run run closed at₀)) ▸ assigns
  have isChange : s₁.job.useCase = .changeTicketStatus move :=
    (Option.some.inj (Config.job_of_run run closed at₁)) ▸ changes
  obtain ⟨output₀, isOk₀⟩ := ok_of_committed run at₀ status₀
  obtain ⟨output₁, rfl⟩ := ok_of_committed run at₁ status₁
  have did₀ := did_of_run run at₀ status₀ output₀ isOk₀
  rw [isAssign] at did₀
  have did₁ := did_of_run run at₁ status₁ output₁ rfl
  rw [isChange] at did₁
  have agrees (row : TicketRow) (kept : BothKept assignment move (.ok output₁) row) :
      ∀ ev ∈ s₀.trace ++ s₁.trace, ev.call.AgreesWith row := by
    have conforms := Config.conforms_of_run (Execution.agrees_spec row) run
    have granted₀ : s₀.job.Granted row := by
      rw [Execution.Granted, isAssign]
      exact kept.assigneeId
    have granted₁ : s₁.job.Granted row := by
      rw [Execution.Granted, isChange]
      exact kept.status
    intro ev inside
    rcases List.mem_append.mp inside with first | second
    · exact (conforms 0 s₀ at₀).trace granted₀ ev first
    · exact (conforms 1 s₁ at₁).trace granted₁ ev second
  have fields : (∃ row, c.db.tickets.find? assignment.ticketId = some row ∧
      BothKept assignment move (.ok output₁) row) ↔ Meets (CommitsOnto OthersCurrent) history := by
    rcases Config.commitsOf_pair repositories.deferred_transactional run closed ⟨s₀, out₀, at₀, status₀⟩
      ⟨s₁, _, at₁, status₁⟩ with order | order
    · exact bothKept_iff_assignedFirst run order at₀ at₁ isAssign isChange sameId did₀ did₁
    · exact bothKept_iff_changedFirst run order at₀ at₁ isAssign isChange sameId did₀ did₁
  rw [← fields]
  constructor
  · intro all
    obtain ⟨row, stored, kept, _⟩ := all
    exact ⟨row, stored, kept⟩
  · intro some
    obtain ⟨row, stored, kept⟩ := some
    exact ⟨row, stored, kept, agrees row kept⟩

end Runs

section Example

/-- An open ticket. -/
def openDb : Db :=
  (serve (exampleExecution 0 (.createTicket ⟨⟨1⟩, ⟨2⟩, "Hola", "No entra", .HIGH⟩)) .empty).2

def unassignment : AssignTicketInput :=
  ⟨⟨1⟩, ⟨3⟩, ⟨100⟩, none⟩

def unassignJob : Execution :=
  exampleExecution 1 (.assignTicket unassignment)

def resolution : ChangeTicketStatusInput :=
  ⟨⟨1⟩, ⟨4⟩, ⟨100⟩, .RESOLVED⟩

def resolveJob : Execution :=
  exampleExecution 2 (.changeTicketStatus resolution)

/-- The two commands begin. -/
def commandsStart : Config ticketing :=
  .start openDb [unassignJob, resolveJob]

/-- The ticket is loaded to be unassigned, and resolved before it is saved. -/
def resolvedBetween : List (Move ticketing) :=
  [.call 0 0, .call 1 0, .call 1 0, .call 1 0, .call 1 0, .finish 1, .call 0 0, .call 0 0, .call 0 0, .finish 0]

/-- The ticket is loaded to be resolved, and unassigned before it is saved. Nobody was assigned anyway. -/
def unassignedBetween : List (Move ticketing) :=
  [.call 1 0, .call 0 0, .call 0 0, .call 0 0, .call 0 0, .finish 0, .call 1 0, .call 1 0, .call 1 0, .finish 1]

/-- What is known of a schedule that ends with both committed. -/
theorem committed_of_commands (schedule : List (Move ticketing)) (status : TicketStatus)
    (possible : (play Config.step commandsStart schedule).map (fun c => (c.sessions.length,
      (c.sessions[0]?.bind committedOutput).isSome, (c.sessions[1]?.bind committedOutput).isSome,
      (c.db.tickets.find? ⟨100⟩).map TicketRow.status)) = some (2, true, true, some status)) :
    ∃ (c : Config ticketing) (s₀ s₁ : Session ticketing) (out₀ out₁ : Except TicketingError Output) (row : TicketRow),
      play Config.step commandsStart schedule = some c ∧ c.sessions.length = 2 ∧
        c.sessions[0]? = some s₀ ∧ c.sessions[1]? = some s₁ ∧ s₀.status = .committed out₀ ∧
        s₁.status = .committed out₁ ∧ c.db.tickets.find? ⟨100⟩ = some row ∧ row.status = status := by
  obtain ⟨c, played, facts⟩ := Option.map_eq_some_iff.mp possible
  simp only [Prod.mk.injEq, Option.bind_eq_some_iff, Option.isSome_iff_exists, Option.map_eq_some_iff] at facts
  obtain ⟨closed, ⟨out₀, s₀, at₀, ended₀⟩, ⟨out₁, s₁, at₁, ended₁⟩, row, stored, isStatus⟩ := facts
  exact ⟨c, s₀, s₁, out₀, out₁, row, played, closed, at₀, at₁, committedOutput_eq_some_iff.mp ended₀,
    committedOutput_eq_some_iff.mp ended₁, stored, isStatus⟩

/-- The ticket is open again after both have committed. -/
theorem resolution_lost :
    ∃ (c : Config ticketing) (s₀ s₁ : Session ticketing) (out₀ out₁ : Except TicketingError Output),
      Run Config.step commandsStart (playHistory Config.step commandsStart resolvedBetween) c ∧
        c.sessions.length = 2 ∧ c.sessions[0]? = some s₀ ∧ c.sessions[1]? = some s₁ ∧
        s₀.status = .committed out₀ ∧ s₁.status = .committed out₁ ∧
        ¬∃ row, c.db.tickets.find? ⟨100⟩ = some row ∧ BothKept unassignment resolution out₁ row ∧
          ∀ ev ∈ s₀.trace ++ s₁.trace, ev.call.AgreesWith row := by
  obtain ⟨c, s₀, s₁, out₀, out₁, row, played, closed, at₀, at₁, ended₀, ended₁, stored, isOpen⟩ :=
    committed_of_commands resolvedBetween .OPEN (by decide)
  refine ⟨c, s₀, s₁, out₀, out₁, play_run played, closed, at₀, at₁, ended₀, ended₁, ?_⟩
  intro kept
  obtain ⟨row', stored', both, _⟩ := kept
  cases stored.symm.trans stored'
  cases isOpen.symm.trans both.status

/-- A resolution of the ticket between the load and the commit of somebody who unassigns it does not last. -/
theorem independentFields_lost :
    unassignJob.useCase = .assignTicket unassignment ∧ resolveJob.useCase = .changeTicketStatus resolution ∧
      resolution.ticketId = unassignment.ticketId ∧
      ∃ (history : List (Config ticketing × Move ticketing)) (c : Config ticketing) (s₀ s₁ : Session ticketing)
        (out₀ out₁ : Except TicketingError Output),
        Run Config.step (.start openDb [unassignJob, resolveJob]) history c ∧ c.sessions.length = 2 ∧
          c.sessions[0]? = some s₀ ∧ c.sessions[1]? = some s₁ ∧ s₀.status = .committed out₀ ∧
          s₁.status = .committed out₁ ∧
          ¬∃ row, c.db.tickets.find? ⟨100⟩ = some row ∧ BothKept unassignment resolution out₁ row ∧
            ∀ ev ∈ s₀.trace ++ s₁.trace, ev.call.AgreesWith row :=
  ⟨rfl, rfl, rfl, _, resolution_lost⟩

instance (e : Execution) (db : Db) (loaded : Ticket) (row : TicketRow) : Decidable (OthersCurrent e db loaded row) :=
  match e with
  | ⟨.assignTicket _, _, _⟩ => inferInstanceAs (Decidable (_ ∧ _ ∧ _))
  | ⟨.changeTicketStatus _, _, _⟩ => inferInstanceAs (Decidable (_ → _))
  | ⟨.createTicket _, _, _⟩ | ⟨.autoAssignTicket _, _, _⟩ | ⟨.addComment _, _, _⟩ | ⟨.startSlaTimers _, _, _⟩
  | ⟨.stopSlaTimer _, _, _⟩ | ⟨.markSlaBreached _, _, _⟩ | ⟨.getSlaPolicy _, _, _⟩ | ⟨.updateSlaPolicy _, _, _⟩
  | ⟨.resetSlaPolicy _, _, _⟩ | ⟨.listTickets _, _, _⟩ | ⟨.ticketDetail _ _, _, _⟩ | ⟨.ticketHistory _ _, _, _⟩ =>
      .isTrue trivial

/-- Of two runs in which the transactions overlap, one meets the condition, so that the row has both fields, and
    the other one does not. -/
theorem independentFields_kept_iff_overlapping :
    (∃ (c : Config ticketing) (s₀ s₁ : Session ticketing) (out₁ : Except TicketingError Output),
      Run Config.step commandsStart (playHistory Config.step commandsStart unassignedBetween) c ∧
      Meets (CommitsOnto OthersCurrent) (playHistory Config.step commandsStart unassignedBetween) ∧
      ∃ row, c.db.tickets.find? ⟨100⟩ = some row ∧ BothKept unassignment resolution out₁ row ∧
        ∀ ev ∈ s₀.trace ++ s₁.trace, ev.call.AgreesWith row) ∧
    ∃ c, Run Config.step commandsStart (playHistory Config.step commandsStart resolvedBetween) c ∧
      ¬Meets (CommitsOnto OthersCurrent) (playHistory Config.step commandsStart resolvedBetween) := by
  constructor
  · have meets : Meets (CommitsOnto OthersCurrent) (playHistory Config.step commandsStart unassignedBetween) := by
      decide
    obtain ⟨c, s₀, s₁, out₀, out₁, row, played, closed, at₀, at₁, ended₀, ended₁, stored, _⟩ :=
      committed_of_commands unassignedBetween .RESOLVED (by decide)
    have iff := independentFields_kept_iff rfl rfl rfl (play_run played) closed at₀ at₁ ended₀ ended₁
    exact ⟨c, s₀, s₁, out₁, play_run played, meets, iff.mpr meets⟩
  · obtain ⟨c, s₀, s₁, out₀, out₁, run, closed, at₀, at₁, ended₀, ended₁, lost⟩ := resolution_lost
    have iff := independentFields_kept_iff rfl rfl rfl run closed at₀ at₁ ended₀ ended₁
    exact ⟨c, run, fun meets => lost (iff.mpr meets)⟩

end Example

end Helpdesk
