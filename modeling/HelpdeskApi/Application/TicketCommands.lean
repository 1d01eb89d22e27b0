/-
Module: HelpdeskApi.Application.TicketCommands
Layer: Application
Purpose: What assignments and changes of status have done to a ticket when they answer `Ok`, and where the
  ticket comes from that they work on: they load it before they save anything, so that it is a row that was
  committed at that time.
Trusted boundary: none
Main exports: Execution.Did, did_of_run, loaded_of_run
-/
import HelpdeskApi.Application.TicketTraces
import HelpdeskApi.Library.CommitLog

namespace Helpdesk

open Relational Txn Transition

/-- A ticket is not loaded after one has been saved. -/
def LoadsFirst (trace : List repositories.transactional.Event) : Prop :=
  ∀ before ev, trace = before ++ [ev] → (loadedTicket? ev).isSome = true → savedTickets before = []

/-- The transaction has loaded one ticket and saved one. -/
structure Saving (loaded saved : Ticket) (trace : List repositories.transactional.Event) : Prop where
  loaded : loadedTickets trace = [loaded]
  saved : savedTickets trace = [saved]

/-- Whether an execution assigns a ticket or changes its status. -/
def Execution.commands (e : Execution) : Bool :=
  match e.useCase with
  | .assignTicket _ | .autoAssignTicket _ | .changeTicketStatus _ => true
  | _ => false

/-- What an assignment has done that answers `Ok`. -/
def AssignTicket.Did (input : AssignTicketInput) (now : Instant)
    (trace : List repositories.transactional.Event) : Prop :=
  ∃ loaded saved, Saving loaded saved trace ∧ loaded.id = input.ticketId ∧
    AssignTicket.apply loaded now input.assigneeId = .ok saved

/-- The transaction has been told who the agents of the tenant are. -/
def Consulted (tenantId : TenantId) (agentes : List UserId) (trace : List repositories.transactional.Event) : Prop :=
  ∃ o : Outcome sig Write RowKey (.membersAgentsOf tenantId), o.reply = agentes ∧ ⟨_, o⟩ ∈ trace

/-- What an automatic assignment has done that answers `Ok`: it has assigned the ticket, which it found
    unassigned, to the agent whose turn it is, or it had a reason to skip it. -/
inductive AutoAssignTicket.Did (input : AutoAssignTicketInput) (now : Instant)
    (trace : List repositories.transactional.Event) : Prop where
  | skipped (saved : savedTickets trace = []) (sought : ∀ loaded ∈ loadedTickets trace, loaded.id = input.ticketId)
      (reason : ∀ loaded ∈ loadedTickets trace, loaded.assigneeId = .null →
        loaded.status = .CLOSED ∨ Consulted input.tenantId [] trace)
  | assigned {loaded saved : Ticket} {agentes : List UserId} (saving : Saving loaded saved trace)
      (sought : loaded.id = input.ticketId) (unassigned : loaded.assigneeId = .null)
      (consulted : Consulted input.tenantId agentes trace)
      (assigns : loaded.assignTo (elementAt agentes ((input.ticketNumber - 1).tmod agentes.length)) now = .ok saved)

/-- What a change of status has done that answers `Ok`: it saves no ticket that is in the status already. -/
def ChangeTicketStatus.Did (input : ChangeTicketStatusInput) (now : Instant)
    (trace : List repositories.transactional.Event) (out : Output) : Prop :=
  ∃ loaded changed, loadedTickets trace = [loaded] ∧ loaded.id = input.ticketId ∧
    loaded.changeStatus input.status now = .ok changed ∧
    savedTickets trace = (if loaded.status = input.status then [] else [changed]) ∧
    ∃ ticket, out = .ticket ticket ∧ ticket.resolvedAt = changed.resolvedAt ∧ ticket.closedAt = changed.closedAt

/-- What an execution has done that answers `Ok`. -/
def Execution.Did (e : Execution) (trace : List repositories.transactional.Event)
    (out : Except TicketingError Output) : Prop :=
  ∀ output, out = .ok output →
    match e.useCase with
    | .assignTicket input => AssignTicket.Did input e.ambient.now trace
    | .autoAssignTicket input => AutoAssignTicket.Did input e.ambient.now trace
    | .changeTicketStatus input => ChangeTicketStatus.Did input e.ambient.now trace output
    | _ => True

/-- An automatic assignment loads no ticket but its own. -/
theorem AutoAssignTicket.Did.sought {input : AutoAssignTicketInput} {now : Instant}
    {trace : List repositories.transactional.Event} (did : Did input now trace) :
    ∀ loaded ∈ loadedTickets trace, loaded.id = input.ticketId := by
  cases did with
  | skipped _ sought _ => exact sought
  | assigned saving sought _ _ _ =>
      intro ticket loads
      rw [saving.loaded] at loads
      exact List.mem_singleton.mp loads ▸ sought

section Events

variable {e : Execution} {trace : List repositories.transactional.Event}
  {ev : repositories.transactional.Event} {tickets : List Ticket} {loaded saved : Ticket} {α β : Type}
  {Q : List repositories.transactional.Event → α → Prop}

theorem LoadsFirst.nil : LoadsFirst [] := by
  intro before ev whole
  simp at whole

theorem loadsFirst_append (none : loadedTicket? ev = none) : LoadsFirst (trace ++ [ev]) := by
  intro before ev' whole loads
  cases (List.append_inj' whole rfl).2
  rw [none] at loads
  cases loads

theorem Holding.loadsFirst (tickets : List Ticket) (trace : List repositories.transactional.Event)
    (holding : Holding tickets trace) : LoadsFirst trace := by
  intro before ev whole _
  have nothing := holding.saved
  rw [whole, savedTickets_append] at nothing
  exact (List.append_eq_nil_iff.mp nothing).1

theorem loadedTicket?_of_offTickets (off : ev.call.isOffTickets = true) : loadedTicket? ev = none := by
  obtain ⟨c, o⟩ := ev
  cases c <;> first | rfl | cases off

/-- Saving a ticket, and then no more of tickets. -/
theorem Holding.saves {f : Unit → Proc sig α} {V : α → Prop} (holding : Holding [loaded] trace)
    (rest : ∀ u, (f u).Within (fun c : Call => c.isOffTickets = true) V) :
    (TicketRepository.save saved >>= f).Satisfies (repositories.transactional.Plausible e.ctx) LoadsFirst
      (fun trace a => Saving loaded saved trace ∧ V a) trace := by
  refine .ask fun o produced => ?_
  obtain ⟨db, answered⟩ := exec_of_plausible produced
  have wrote := writes_of_ticketsSave answered
  have saving : Saving loaded saved (trace ++ [⟨_, o⟩]) := by
    constructor
    · rw [loadedTickets_append, holding.loaded]
      rfl
    · rw [savedTickets_append, holding.saved, wrote]
      rfl
  have kept (trace : List repositories.transactional.Event) (ev : repositories.transactional.Event)
      (produced : repositories.transactional.Plausible e.ctx ev) (off : ev.call.isOffTickets = true)
      (both : LoadsFirst trace ∧ Saving loaded saved trace) :
      LoadsFirst (trace ++ [ev]) ∧ Saving loaded saved (trace ++ [ev]) := by
    obtain ⟨sameSaved, sameLoaded⟩ := appended_of_offTickets trace produced off
    exact ⟨loadsFirst_append (loadedTicket?_of_offTickets off), sameLoaded.trans both.2.loaded,
      sameSaved.trans both.2.saved⟩
  have first : LoadsFirst (trace ++ [⟨_, o⟩]) := loadsFirst_append rfl
  refine ⟨first, ?_⟩
  have later := (rest o.reply).satisfies (I := fun trace => LoadsFirst trace ∧ Saving loaded saved trace) kept ⟨first, saving⟩
  exact later.mono (fun _ both => both.1) fun _ _ both => ⟨both.1.2, both.2⟩

/-- The recorder of events neither loads nor saves a ticket. -/
theorem within_record {uuid : Nat → Uuid} {aggregate : Ticket} {next : Unit → Proc sig α} {V : α → Prop}
    (rest : (next ()).Within (fun c : Call => c.isOffTickets = true) V) :
    (EventRecorder.record uuid aggregate >>= next).Within (fun c : Call => c.isOffTickets = true) V := by
  unfold EventRecorder.record
  simp only
  split
  · exact rest
  · exact ⟨rfl, fun _ => rest⟩

end Events

section UseCases

variable {e : Execution}

theorem AssignTicket.did {input : AssignTicketInput} (isAssign : e.useCase = .assignTicket input) :
    e.program.Satisfies (repositories.transactional.Plausible e.ctx) LoadsFirst e.Did [] := by
  have program : e.program = (·.map .ticket) <$> execute input e.ambient := by
    unfold Execution.program
    rw [isAssign]
  have failed (trace : List repositories.transactional.Event) (error : TicketingError) :
      e.Did trace (.error error) := by
    intro output isOk
    cases isOk
  rw [program, Proc.satisfies_map]
  apply Holding.start.find Holding.loadsFirst
  intro trace located holding sought
  cases located with
  | none => exact failed trace _
  | some ticket =>
      have asked : OffTickets (assigneeExists input.tenantId input.assigneeId) := by
        cases input.assigneeId with
        | none => trivial
        | some assigneeId => exact ⟨rfl, fun _ => trivial⟩
      apply holding.through Holding.loadsFirst asked
      intro trace acceptable holding
      split
      · split
        · exact failed trace _
        · rename_i saved applied
          refine Proc.Satisfies.mono (holding.saves (V := fun _ => True) fun _ => ?_) (fun _ first => first) ?_
          · exact .ask rfl fun _ => offTickets_record trivial
          · intro trace out both output _
            rw [isAssign]
            exact ⟨ticket, saved, both.1, sought ticket rfl, applied⟩
      · exact failed trace _

theorem AutoAssignTicket.did {input : AutoAssignTicketInput} (isAssign : e.useCase = .autoAssignTicket input) :
    e.program.Satisfies (repositories.transactional.Plausible e.ctx) LoadsFirst e.Did [] := by
  have program : e.program = (·.map .autoAssign) <$> execute input e.ambient := by
    unfold Execution.program
    rw [isAssign]
  have unseen {trace : List repositories.transactional.Event} (holding : Holding [] trace)
      (out : Except TicketingError Output) : e.Did trace out := by
    intro output _
    rw [isAssign]
    refine .skipped holding.saved ?_ ?_ <;> simp [holding.loaded]
  have skipped {ticket : Ticket} {trace : List repositories.transactional.Event} (holding : Holding [ticket] trace)
      (sought : ticket.id = input.ticketId)
      (reason : ticket.assigneeId = .null → ticket.status = .CLOSED ∨ Consulted input.tenantId [] trace)
      (out : Except TicketingError Output) : e.Did trace out := by
    intro output _
    rw [isAssign]
    refine .skipped holding.saved ?_ ?_ <;> simpa [holding.loaded]
  rw [program, Proc.satisfies_map]
  refine Holding.start.through Holding.loadsFirst ⟨rfl, fun _ => trivial⟩ fun trace claimed holding => ?_
  cases claimed with
  | false => exact unseen holding _
  | true =>
      apply holding.find Holding.loadsFirst
      intro trace located holding sought
      cases located with
      | none => exact unseen holding _
      | some ticket =>
          have isTicket : ticket.id = input.ticketId := sought ticket rfl
          simp only
          split
          · rename_i assigned
            exact skipped holding isTicket (fun unassigned => absurd unassigned assigned) _
          · rename_i unassigned
            refine .ask fun o produced => ?_
            have listed := holding.offTickets produced rfl
            have consulted : Consulted input.tenantId o.reply (trace ++ [⟨_, o⟩]) :=
              ⟨o, rfl, List.mem_append_right _ List.mem_cons_self⟩
            refine ⟨listed.loadsFirst, ?_⟩
            split
            · rename_i nobody
              rw [List.length_eq_zero_iff.mp nobody] at consulted
              exact skipped listed isTicket (fun _ => .inr consulted) _
            · split
              · rename_i rejected
                refine skipped listed isTicket (fun _ => .inl ?_) _
                by_contra opened
                simp [Ticket.assignTo, opened] at rejected
              · rename_i saved assigns
                refine Proc.Satisfies.mono (listed.saves (V := fun _ => True) fun _ => ?_).onwards
                  (fun _ first => first) ?_
                · exact .ask rfl fun _ => offTickets_record trivial
                · intro trace' out both output _
                  obtain ⟨⟨saving, _⟩, isPrefix⟩ := both
                  obtain ⟨o, isReply, inside⟩ := consulted
                  rw [isAssign]
                  exact .assigned saving isTicket (not_not.mp unassigned) ⟨o, isReply, isPrefix.subset inside⟩ assigns

theorem ChangeTicketStatus.did {input : ChangeTicketStatusInput}
    (isChange : e.useCase = .changeTicketStatus input) :
    e.program.Satisfies (repositories.transactional.Plausible e.ctx) LoadsFirst e.Did [] := by
  have program : e.program = (·.map .ticket) <$> execute input e.ambient := by
    unfold Execution.program
    rw [isChange]
  have failed (trace : List repositories.transactional.Event) (error : TicketingError) :
      e.Did trace (.error error) := by
    intro output isOk
    cases isOk
  rw [program, Proc.satisfies_map]
  apply Holding.start.find Holding.loadsFirst
  intro trace located holding sought
  cases located with
  | none => exact failed trace _
  | some ticket =>
      simp only
      split
      · exact failed trace _
      · rename_i saved changed
        split
        · rename_i already
          intro output isOk
          cases isOk
          rw [isChange]
          refine ⟨ticket, saved, holding.loaded, sought ticket rfl, changed, ?_, saved, rfl, rfl, rfl⟩
          rw [if_pos already]
          exact holding.saved
        · rename_i moves
          refine Proc.Satisfies.mono (holding.saves (V := fun out => out = .ok saved.pullDomainEvents.2) fun _ => ?_)
            (fun _ first => first) ?_
          · exact .ask rfl fun _ => within_record rfl
          · intro trace out both output isOk
            obtain ⟨saving, rfl⟩ := both
            cases isOk
            rw [isChange]
            refine ⟨ticket, saved, saving.loaded, sought ticket rfl, changed, ?_, _, rfl, rfl, rfl⟩
            rw [if_neg moves]
            exact saving.saved

/-- Whatever the database answers: a command loads its ticket first, and has done its part when it answers
    `Ok`. -/
theorem Execution.did_spec (e : Execution) :
    (e.commands = true → LoadsFirst []) ∧
      e.program.Satisfies (repositories.transactional.Plausible e.ctx) (fun trace => e.commands = true → LoadsFirst trace)
        e.Did [] := by
  refine ⟨fun _ => .nil, ?_⟩
  have weaken (p : e.program.Satisfies (repositories.transactional.Plausible e.ctx) LoadsFirst e.Did []) :
      e.program.Satisfies (repositories.transactional.Plausible e.ctx) (fun trace => e.commands = true → LoadsFirst trace)
        e.Did [] :=
    p.mono (fun _ first _ => first) fun _ _ did => did
  cases isUseCase : e.useCase with
  | assignTicket input => exact weaken (AssignTicket.did isUseCase)
  | autoAssignTicket input => exact weaken (AutoAssignTicket.did isUseCase)
  | changeTicketStatus input => exact weaken (ChangeTicketStatus.did isUseCase)
  | _ =>
      refine Proc.satisfies_of_forall (fun _ commands => ?_) (fun _ _ => ?_) _ _
      · simp [Execution.commands, isUseCase] at commands
      · intro output _
        rw [isUseCase]
        trivial

end UseCases

/-- An assignment changes the assignee of a ticket, and the time of its last change. -/
theorem AssignTicket.applied {loaded saved : Ticket} {now : Instant} {assigneeId : Option UserId}
    (applied : AssignTicket.apply loaded now assigneeId = .ok saved) :
    saved = { loaded with
      assigneeId := .ofColumn assigneeId, updatedAt := now, domainEvents := saved.domainEvents } := by
  unfold AssignTicket.apply at applied
  cases assigneeId with
  | none =>
      simp only [Ticket.unassign] at applied
      split at applied
      · cases applied
      · cases applied
        rfl
  | some assigneeId =>
      simp only [Ticket.assignTo] at applied
      split at applied
      · cases applied
      · cases applied
        rfl

theorem AssignTicket.keeps_id {loaded saved : Ticket} {now : Instant} {assigneeId : Option UserId}
    (applied : AssignTicket.apply loaded now assigneeId = .ok saved) : saved.id = loaded.id := by
  rw [AssignTicket.applied applied]

/-- The row an assignment writes has the assignee it asks for. -/
theorem AssignTicket.writes_assignee {loaded saved : Ticket} {now : Instant} {assigneeId : Option UserId}
    (applied : AssignTicket.apply loaded now assigneeId = .ok saved) (row : TicketRow) :
    (updateTicketRow saved row).assigneeId = assigneeId := by
  rw [AssignTicket.applied applied]
  simp [updateTicketRow]

/-- An assignment leaves the status of the row it has loaded alone, and the times of it. -/
theorem AssignTicket.keeps_status {row : TicketRow} {saved : Ticket} {now : Instant} {assigneeId : Option UserId}
    (applied : AssignTicket.apply (toTicket row) now assigneeId = .ok saved) :
    (updateTicketRow saved row).status = row.status ∧ (updateTicketRow saved row).resolvedAt = row.resolvedAt ∧
      (updateTicketRow saved row).closedAt = row.closedAt := by
  rw [AssignTicket.applied applied]
  exact ⟨rfl, rfl, rfl⟩

/-- A change of status leaves the ticket in the status it asks for, and its assignee alone. -/
theorem ChangeTicketStatus.moved {loaded changed : Ticket} {now : Instant} {status : TicketStatus}
    (done : loaded.changeStatus status now = .ok changed) :
    changed.id = loaded.id ∧ changed.status = status ∧ changed.assigneeId = loaded.assigneeId ∧
      (loaded.status = status → changed = loaded) := by
  by_cases already : loaded.status = status
  · rw [Ticket.changeStatus, if_pos already] at done
    cases done
    exact ⟨rfl, already, rfl, fun _ => rfl⟩
  · obtain ⟨commanded, isStatus⟩ := Ticket.changeStatus_commanded already done
    refine ⟨commanded.id, isStatus, ?_, fun same => absurd same already⟩
    rw [Ticket.changeStatus, if_neg already] at done
    split at done
    · cases done
      exact Ticket.applyLifecycleTimestamps_assigneeId _ status now
    · cases done

section Runs

variable {db₀ : Db} {jobs : List Execution} {history : List (Config ticketing × Move ticketing)}
  {c : Config ticketing} {i : Nat} {s : Session ticketing}

theorem did_conform (run : Run Config.step (.start db₀ jobs) history c) :
    c.Conforms (fun (e : Execution) trace => e.commands = true → LoadsFirst trace) Execution.Did :=
  Config.conforms_of_run Execution.did_spec run

/-- A session that has committed has done its part. -/
theorem did_of_run (run : Run Config.step (.start db₀ jobs) history c) (found : c.sessions[i]? = some s)
    {out : Except TicketingError Output} (committed : s.status = .committed out) : s.job.Did s.trace out :=
  ((did_conform run i s found).committed out committed).1

/-- A session that has committed has answered `Ok`. -/
theorem ok_of_committed (run : Run Config.step (.start db₀ jobs) history c) (found : c.sessions[i]? = some s)
    {out : Except TicketingError Output} (committed : s.status = .committed out) : ∃ output, out = .ok output := by
  have commits := ((did_conform run i s found).committed out committed).2
  cases out with
  | ok output => exact ⟨output, rfl⟩
  | error error => cases commits

/-- A ticket that is loaded is a row. -/
theorem row_of_load {ev : repositories.transactional.Event} {ticket : Ticket} (loads : loadedTicket? ev = some ticket)
    {ctx : Ctx} {db : Db} (answered : exec ctx ev.call db = some (ev.outcome.reply, ev.outcome.writes)) :
    ∃ row, db.tickets.find? ticket.id = some row ∧ ticket = toTicket row := by
  obtain ⟨call, o⟩ := ev
  cases call with
  | ticketsFindById tenantId id =>
      have isReply : o.reply = some ticket := loads
      obtain ⟨row, stored, isRow⟩ := found_ticket (isReply ▸ answered)
      have sameId : row.id = id := Table.key_of_find? stored
      refine ⟨row, ?_, isRow⟩
      rw [isRow, toTicket_id, sameId]
      exact stored
  | _ => cases loads

/-- What a command has loaded was committed at that time, and the command was at work. -/
theorem loaded_of_run (run : Run Config.step (.start db₀ jobs) history c) (found : c.sessions[i]? = some s)
    (commands : s.job.commands = true) {ticket : Ticket} (loaded : ticket ∈ loadedTickets s.trace) :
    ∃ earlier later c₁ row, Run Config.step (.start db₀ jobs) earlier c₁ ∧ Run Config.step c₁ later c ∧
      history = earlier ++ later ∧ ¬c₁.Committed i ∧ c₁.db.tickets.find? ticket.id = some row ∧ ticket = toTicket row := by
  induction run generalizing s with
  | start =>
      obtain ⟨job, _, rfl⟩ := Config.start_session found
      cases loaded
  | @step history c c' m run taken ih =>
      have further (s₀ : Session ticketing) (found₀ : c.sessions[i]? = some s₀) (sameJob : s₀.job = s.job)
          (before : ticket ∈ loadedTickets s₀.trace) :
          ∃ earlier later c₁ row, Run Config.step (.start db₀ jobs) earlier c₁ ∧ Run Config.step c₁ later c' ∧
            history ++ [(c, m)] = earlier ++ later ∧ ¬c₁.Committed i ∧ c₁.db.tickets.find? ticket.id = some row ∧
              ticket = toTicket row := by
        obtain ⟨earlier, later, c₁, row, first, rest, whole, facts⟩ := ih found₀ (sameJob ▸ commands) before
        exact ⟨earlier, later ++ [(c, m)], c₁, row, first, rest.step taken, by rw [whole, List.append_assoc], facts⟩
      rcases Config.trace_of_step taken found with (nothing | ⟨s₀, found₀, sameJob, same⟩) |
        ⟨s₀, rest, ev, found₀, sameJob, running, same, answered⟩
      · rw [nothing] at loaded
        cases loaded
      · exact further s₀ found₀ sameJob.symm (same ▸ loaded)
      · rw [same, loadedTickets_append, List.mem_append] at loaded
        rcases loaded with before | now
        · exact further s₀ found₀ sameJob.symm before
        · refine ⟨history, [(c, m)], c, ?_⟩
          have loads : loadedTicket? ev = some ticket := Option.mem_toList.mp now
          have first : LoadsFirst s.trace := (did_conform (run.step taken) i s found).trace commands
          have unsaved : savedTickets s₀.trace = [] := first s₀.trace ev same (by rw [loads]; rfl)
          have view : (s₀.view c.db).tickets = c.db.tickets := by
            have after := Db.after_tickets c.db (repositories.transactional.pending s₀.trace)
            rw [← savedTickets, unsaved] at after
            exact after
          have uncommitted : ¬c.Committed i := by
            intro committed
            obtain ⟨s₁, out, found₁, status⟩ := committed
            cases found₀.symm.trans found₁
            cases running.symm.trans status
          obtain ⟨row, stored, isRow⟩ := row_of_load loads (repositories.mem_inTransaction.mp answered).2.1
          rw [view] at stored
          exact ⟨row, run, .step .start taken, rfl, uncommitted, stored, isRow⟩

end Runs

end Helpdesk
