/-
Module: HelpdeskApi.Application.TicketTraces
Layer: Application
Purpose: What the use cases on an existing ticket leave behind call by call, whatever the database answers
  them: they load the ticket once, check their command against what they loaded, and save all of it. Every
  use case that neither changes nor creates a ticket saves none.
Trusted boundary: none
Main exports: savedTickets, loadedTickets, Db.after_tickets, Execution.target, Snapshot, SavesSnapshot,
  Execution.opensTicket, Execution.ticket_spec
-/
import HelpdeskApi.Application.Jobs
import HelpdeskApi.Store.Lemmas
import HelpdeskApi.Library.Traces

namespace Helpdesk

open Relational Txn

/-- The ticket a write saves. -/
def Write.savedTicket? : Write → Option Ticket
  | .upsertTicket ticket => some ticket
  | _ => none

/-- The table of tickets after saving one. -/
def saveTicket (tickets : Table TicketRow) (ticket : Ticket) : Table TicketRow :=
  tickets.upsert (createTicketRow ticket) (updateTicketRow ticket) (key_updateTicketRow ticket)

/-- The tickets that were saved, in order, are what the writes change the table by. -/
theorem Db.after_tickets (db : Db) (writes : List Write) :
    (db.after writes).tickets = (writes.filterMap Write.savedTicket?).foldl saveTicket db.tickets := by
  induction writes generalizing db with
  | nil => rfl
  | cons w writes ih =>
      rw [Db.after_cons, ih]
      cases w <;> rfl

/-- The tickets a transaction has saved so far. -/
def savedTickets (trace : List repositories.transactional.Event) : List Ticket :=
  (repositories.transactional.pending trace).filterMap Write.savedTicket?

/-- The ticket a call has loaded. -/
def loadedTicket? : repositories.transactional.Event → Option Ticket
  | ⟨.ticketsFindById _ _, o⟩ => o.reply
  | _ => none

/-- The tickets a transaction has loaded so far. -/
def loadedTickets (trace : List repositories.transactional.Event) : List Ticket :=
  trace.filterMap loadedTicket?

/-- The status a transaction leaves the ticket in that it has loaded. -/
def Execution.target (e : Execution) (loaded : Ticket) : TicketStatus :=
  match e.useCase with
  | .changeTicketStatus input => input.status
  | _ => loaded.status

/-- What is saved is what was loaded, in a status that was checked against the loaded one. -/
structure Snapshot (e : Execution) (loaded saved : Ticket) : Prop where
  id : saved.id = loaded.id
  status : saved.status = e.target loaded
  checked : (e.target loaded = loaded.status ∧ loaded.status ≠ .CLOSED) ∨
    canTransition loaded.status (e.target loaded) = true
  closedAt : saved.status = .CLOSED → saved.closedAt.isSome = true

/-- An execution has saved nothing, or the one ticket it had loaded. -/
def SavesSnapshot (e : Execution) (trace : List repositories.transactional.Event) : Prop :=
  savedTickets trace = [] ∨
    ∃ loaded saved, loadedTickets trace = [loaded] ∧ savedTickets trace = [saved] ∧ Snapshot e loaded saved

/-- A call that neither loads nor saves a ticket. -/
def Call.isOffTickets : Call → Bool
  | .ticketsFindById _ _ | .ticketsSave _ => false
  | _ => true

/-- A program that neither loads nor saves a ticket. -/
abbrev OffTickets {α : Type} (p : Proc sig α) : Prop :=
  p.Within (fun c : Call => c.isOffTickets = true) fun _ => True

/-- The transaction has loaded these tickets and saved nothing. -/
structure Holding (tickets : List Ticket) (trace : List repositories.transactional.Event) : Prop where
  saved : savedTickets trace = []
  loaded : loadedTickets trace = tickets

section Events

variable {e : Execution} {trace : List repositories.transactional.Event}
  {ev : repositories.transactional.Event} {tickets : List Ticket} {α β : Type}

theorem savedTickets_append : savedTickets (trace ++ [ev]) =
    savedTickets trace ++ ev.outcome.writes.filterMap Write.savedTicket? := by
  simp [savedTickets]

theorem loadedTickets_append :
    loadedTickets (trace ++ [ev]) = loadedTickets trace ++ (loadedTicket? ev).toList := by
  simp only [loadedTickets, List.filterMap_append, List.filterMap_cons, List.filterMap_nil]
  cases loadedTicket? ev <;> rfl

/-- Saving is the only way to have saved a ticket. -/
theorem saved_of_notSave (produced : repositories.transactional.Plausible e.ctx ev)
    (notSave : ∀ ticket, ev.call ≠ .ticketsSave ticket) :
    ev.outcome.writes.filterMap Write.savedTicket? = [] := by
  obtain ⟨⟨db, answered⟩, _⟩ := repositories.plausible_transactional produced
  rw [List.filterMap_eq_nil_iff]
  intro w written
  cases w with
  | upsertTicket ticket => exact absurd (ticketsSave_of_upsert answered written) (notSave ticket)
  | _ => rfl

theorem appended_of_offTickets (trace : List repositories.transactional.Event)
    (produced : repositories.transactional.Plausible e.ctx ev) (off : ev.call.isOffTickets = true) :
    savedTickets (trace ++ [ev]) = savedTickets trace ∧ loadedTickets (trace ++ [ev]) = loadedTickets trace := by
  have notSave (ticket : Ticket) : ev.call ≠ .ticketsSave ticket := fun isSave => by
    rw [isSave] at off
    cases off
  have unloaded : loadedTicket? ev = none := by
    obtain ⟨c, o⟩ := ev
    cases c <;> first | rfl | cases off
  rw [savedTickets_append, loadedTickets_append, saved_of_notSave produced notSave, unloaded]
  simp

theorem Holding.start : Holding [] [] := ⟨rfl, rfl⟩

theorem Holding.savesSnapshot (e : Execution) (tickets : List Ticket)
    (trace : List repositories.transactional.Event) (holding : Holding tickets trace) : SavesSnapshot e trace :=
  .inl holding.saved

theorem Holding.offTickets (holding : Holding tickets trace)
    (produced : repositories.transactional.Plausible e.ctx ev) (off : ev.call.isOffTickets = true) :
    Holding tickets (trace ++ [ev]) := by
  obtain ⟨sameSaved, sameLoaded⟩ := appended_of_offTickets trace produced off
  exact ⟨sameSaved.trans holding.saved, sameLoaded.trans holding.loaded⟩

theorem Holding.load {tenantId : TenantId} {ticketId : TicketId}
    {o : Outcome sig Write RowKey (.ticketsFindById tenantId ticketId)} (holding : Holding tickets trace)
    (produced : repositories.transactional.Plausible e.ctx ⟨_, o⟩) :
    Holding (tickets ++ o.reply.toList) (trace ++ [⟨_, o⟩]) := by
  constructor
  · rw [savedTickets_append, saved_of_notSave produced (fun _ => Call.noConfusion), holding.saved]
    rfl
  · rw [loadedTickets_append, holding.loaded]
    rfl

theorem SavesSnapshot.offTickets (saves : SavesSnapshot e trace)
    (produced : repositories.transactional.Plausible e.ctx ev) (off : ev.call.isOffTickets = true) :
    SavesSnapshot e (trace ++ [ev]) := by
  obtain ⟨sameSaved, sameLoaded⟩ := appended_of_offTickets trace produced off
  unfold SavesSnapshot
  rw [sameSaved, sameLoaded]
  exact saves

/-- The rest of a program that is done with tickets. -/
theorem SavesSnapshot.rest {p : Proc sig α} (saves : SavesSnapshot e trace) (off : OffTickets p) :
    p.Satisfies (repositories.transactional.Plausible e.ctx) (SavesSnapshot e) (fun _ _ => True) trace :=
  (off.satisfies (fun _ _ produced off saves => saves.offTickets produced off) saves).mono
    (fun _ saves => saves) fun _ _ _ => trivial

/-- A part of a program that leaves the loaded tickets alone, where `R` holds as long as nothing is saved. -/
theorem Holding.through {R : List repositories.transactional.Event → Prop}
    {Q : List repositories.transactional.Event → β → Prop} (unsaved : ∀ tickets trace, Holding tickets trace → R trace)
    {p : Proc sig α} {f : α → Proc sig β} (holding : Holding tickets trace) (off : OffTickets p)
    (rest : ∀ trace a, Holding tickets trace →
      (f a).Satisfies (repositories.transactional.Plausible e.ctx) R Q trace) :
    (p >>= f).Satisfies (repositories.transactional.Plausible e.ctx) R Q trace := by
  have kept (trace : List repositories.transactional.Event) (ev : repositories.transactional.Event)
      (produced : repositories.transactional.Plausible e.ctx ev) (off : ev.call.isOffTickets = true)
      (holding : Holding tickets trace) : Holding tickets (trace ++ [ev]) :=
    holding.offTickets produced off
  have first := off.satisfies kept holding
  refine (first.mono (fun trace holding => unsaved tickets trace holding) fun _ _ both => both.1).bind ?_
  exact fun trace a holding => rest trace a holding

/-- Looking for the ticket, and then what its presence selects. -/
theorem Holding.find {R : List repositories.transactional.Event → Prop}
    {Q : List repositories.transactional.Event → α → Prop} (unsaved : ∀ tickets trace, Holding tickets trace → R trace)
    {tenantId : TenantId} {ticketId : TicketId} {f : Option Ticket → Proc sig α} (holding : Holding [] trace)
    (rest : ∀ trace located, Holding located.toList trace → (∀ t ∈ located, t.id = ticketId) →
      (f located).Satisfies (repositories.transactional.Plausible e.ctx) R Q trace) :
    (TicketRepository.findById tenantId ticketId >>= f).Satisfies
      (repositories.transactional.Plausible e.ctx) R Q trace := by
  refine .ask fun o produced => ?_
  have loaded := holding.load produced
  refine ⟨unsaved _ _ loaded, rest _ o.reply loaded fun t located => ?_⟩
  obtain ⟨db, answered⟩ := exec_of_plausible produced
  obtain ⟨row, stored, rfl⟩ := found_ticket (located ▸ answered)
  exact Table.key_of_find? stored

/-- Saving what has been made of the ticket, and then no more of tickets. -/
theorem Holding.save {loaded saved : Ticket} {f : Unit → Proc sig α} (holding : Holding [loaded] trace)
    (snapshot : Snapshot e loaded saved) (rest : ∀ u, OffTickets (f u)) :
    (TicketRepository.save saved >>= f).Satisfies (repositories.transactional.Plausible e.ctx)
      (SavesSnapshot e) (fun _ _ => True) trace := by
  refine .ask fun o produced => ?_
  obtain ⟨db, answered⟩ := exec_of_plausible produced
  have wrote := writes_of_ticketsSave answered
  have saves : SavesSnapshot e (trace ++ [⟨_, o⟩]) := by
    refine .inr ⟨loaded, saved, ?_, ?_, snapshot⟩
    · rw [loadedTickets_append, holding.loaded]
      rfl
    · rw [savedTickets_append, holding.saved, wrote]
      rfl
  exact ⟨saves, saves.rest (rest o.reply)⟩

/-- The recorder of events neither loads nor saves a ticket. -/
theorem offTickets_record {uuid : Nat → Uuid} {aggregate : Ticket} {next : Unit → Proc sig α}
    (rest : OffTickets (next ())) : OffTickets (EventRecorder.record uuid aggregate >>= next) := by
  unfold EventRecorder.record
  simp only
  split
  · exact rest
  · exact ⟨rfl, fun _ => rest⟩

end Events

section Commands

variable {e : Execution} {loaded saved : Ticket}

/-- A command that leaves the status alone, on a ticket that is not closed. -/
theorem Snapshot.of_commanded (commanded : loaded.Commanded saved) (same : saved.status = loaded.status)
    (notClosed : loaded.status ≠ .CLOSED) (keeps : e.target loaded = loaded.status) :
    Snapshot e loaded saved where
  id := commanded.id
  status := same.trans keeps.symm
  checked := .inl ⟨keeps, notClosed⟩
  closedAt closed := absurd (same.symm.trans closed) notClosed

theorem AssignTicket.snapshot {assigneeId : Option UserId} {now : Instant}
    (applied : AssignTicket.apply loaded now assigneeId = .ok saved)
    (keeps : e.target loaded = loaded.status) : Snapshot e loaded saved := by
  cases assigneeId with
  | none =>
      obtain ⟨commanded, same, _⟩ := Ticket.unassign_commanded applied
      exact .of_commanded commanded same (Ticket.notClosed_of_unassign applied) keeps
  | some assigneeId =>
      obtain ⟨commanded, same, _⟩ := Ticket.assignTo_commanded applied
      exact .of_commanded commanded same (Ticket.notClosed_of_assignTo applied) keeps

theorem ChangeTicketStatus.snapshot {input : ChangeTicketStatusInput} {now : Instant}
    (isChange : e.useCase = .changeTicketStatus input) (moves : loaded.status ≠ input.status)
    (changed : loaded.changeStatus input.status now = .ok saved) : Snapshot e loaded saved := by
  have target : e.target loaded = input.status := by simp [Execution.target, isChange]
  obtain ⟨commanded, same⟩ := Ticket.changeStatus_commanded moves changed
  obtain ⟨legal, closes⟩ := Ticket.changeStatus_checked moves changed
  constructor
  · exact commanded.id
  · exact same.trans target.symm
  · exact .inr (target ▸ legal)
  · intro closed
    rw [closes (same.symm.trans closed)]
    rfl

end Commands

section UseCases

variable {e : Execution}

theorem AssignTicket.savesSnapshot {input : AssignTicketInput} (isAssign : e.useCase = .assignTicket input) :
    e.program.Satisfies (repositories.transactional.Plausible e.ctx) (SavesSnapshot e) (fun _ _ => True)
      [] := by
  have keeps (loaded : Ticket) : e.target loaded = loaded.status := by simp [Execution.target, isAssign]
  have program : e.program = (·.map .ticket) <$> execute input e.ambient := by
    unfold Execution.program
    rw [isAssign]
  rw [program, Proc.satisfies_map]
  apply Holding.start.find (Holding.savesSnapshot e)
  intro trace located holding _
  cases located with
  | none => trivial
  | some ticket =>
      have asked : OffTickets (assigneeExists input.tenantId input.assigneeId) := by
        cases input.assigneeId with
        | none => trivial
        | some assigneeId => exact ⟨rfl, fun _ => trivial⟩
      apply holding.through (Holding.savesSnapshot e) asked
      intro trace acceptable holding
      split
      · split
        · trivial
        · rename_i applied
          exact holding.save (AssignTicket.snapshot applied (keeps ticket)) fun _ =>
            .ask rfl fun _ => offTickets_record trivial
      · trivial

theorem AutoAssignTicket.savesSnapshot {input : AutoAssignTicketInput}
    (isAssign : e.useCase = .autoAssignTicket input) :
    e.program.Satisfies (repositories.transactional.Plausible e.ctx) (SavesSnapshot e) (fun _ _ => True)
      [] := by
  have keeps (loaded : Ticket) : e.target loaded = loaded.status := by simp [Execution.target, isAssign]
  have program : e.program = (·.map .autoAssign) <$> execute input e.ambient := by
    unfold Execution.program
    rw [isAssign]
  rw [program, Proc.satisfies_map]
  refine Holding.start.through (Holding.savesSnapshot e) ⟨rfl, fun _ => trivial⟩ fun trace claimed holding => ?_
  cases claimed with
  | false => trivial
  | true =>
      apply holding.find (Holding.savesSnapshot e)
      intro trace located holding _
      cases located with
      | none => trivial
      | some ticket =>
          simp only
          split
          · trivial
          · refine holding.through (Holding.savesSnapshot e) ⟨rfl, fun _ => trivial⟩ fun trace agentes holding => ?_
            split
            · trivial
            · split
              · trivial
              · rename_i assigned
                obtain ⟨commanded, same, _⟩ := Ticket.assignTo_commanded assigned
                have snapshot : Snapshot e ticket _ :=
                  .of_commanded commanded same (Ticket.notClosed_of_assignTo assigned) (keeps ticket)
                exact holding.save snapshot fun _ => .ask rfl fun _ => offTickets_record trivial

theorem ChangeTicketStatus.savesSnapshot {input : ChangeTicketStatusInput}
    (isChange : e.useCase = .changeTicketStatus input) :
    e.program.Satisfies (repositories.transactional.Plausible e.ctx) (SavesSnapshot e) (fun _ _ => True)
      [] := by
  have program : e.program = (·.map .ticket) <$> execute input e.ambient := by
    unfold Execution.program
    rw [isChange]
  rw [program, Proc.satisfies_map]
  apply Holding.start.find (Holding.savesSnapshot e)
  intro trace located holding _
  cases located with
  | none => trivial
  | some ticket =>
      simp only
      split
      · trivial
      · rename_i changed
        split
        · trivial
        · rename_i moves
          exact holding.save (ChangeTicketStatus.snapshot isChange moves changed) fun _ =>
            .ask rfl fun _ => offTickets_record trivial

theorem AddComment.savesSnapshot {input : AddCommentInput} (isComment : e.useCase = .addComment input) :
    e.program.Satisfies (repositories.transactional.Plausible e.ctx) (SavesSnapshot e) (fun _ _ => True)
      [] := by
  have keeps (loaded : Ticket) : e.target loaded = loaded.status := by simp [Execution.target, isComment]
  have program : e.program = (·.map .comment) <$> execute input e.ambient := by
    unfold Execution.program
    rw [isComment]
  rw [program, Proc.satisfies_map]
  apply Holding.start.find (Holding.savesSnapshot e)
  intro trace located holding _
  cases located with
  | none => trivial
  | some ticket =>
      simp only
      split
      · split
        · trivial
        · split
          · trivial
          · rename_i commented
            obtain ⟨commanded, same, _⟩ := Ticket.registerComment_commanded commented
            have snapshot : Snapshot e ticket _ :=
              .of_commanded commanded same (Ticket.notClosed_of_registerComment commented) (keeps ticket)
            refine holding.through (Holding.savesSnapshot e) ⟨rfl, fun _ => trivial⟩ fun trace _ holding => ?_
            exact holding.save snapshot fun _ => .ask rfl fun _ => offTickets_record trivial
      · trivial

/-- The sweep looks at the ticket of a timer and leaves it as it is. -/
theorem MarkSlaBreached.savesSnapshot {input : MarkSlaBreachedInput}
    (isMark : e.useCase = .markSlaBreached input) :
    e.program.Satisfies (repositories.transactional.Plausible e.ctx) (SavesSnapshot e) (fun _ _ => True)
      [] := by
  have program : e.program = (·.map .markSla) <$> execute input e.ambient := by
    unfold Execution.program
    rw [isMark]
  rw [program, Proc.satisfies_map]
  refine Holding.start.through (Holding.savesSnapshot e) ⟨rfl, fun _ => trivial⟩ fun trace found holding => ?_
  cases found with
  | none => trivial
  | some timer =>
      simp only
      split
      · split
        · apply holding.find (Holding.savesSnapshot e)
          intro trace located holding _
          cases located with
          | none => trivial
          | some ticket =>
              exact (Holding.savesSnapshot e _ _ holding).rest <| .ask rfl fun _ => .ask rfl fun _ => offTickets_record trivial
        · trivial
      · trivial

theorem StartSlaTimers.offTickets_saveAll (input : StartSlaTimersInput) (objetivo : SlaTarget)
    (uuid : Nat → Uuid) (kinds : List SlaKind) (i : Nat) : OffTickets (saveAll input objetivo uuid kinds i) := by
  induction kinds generalizing i with
  | nil => trivial
  | cons kind kinds ih => exact .ask rfl fun _ => ih (i + 1)

/-- Whether a use case works on a ticket: creates, changes or looks at one. -/
def UseCase.onTicket : UseCase → Bool
  | .createTicket _ | .assignTicket _ | .autoAssignTicket _ | .changeTicketStatus _ | .addComment _
  | .markSlaBreached _ => true
  | _ => false

/-- The other use cases neither load nor save a ticket. -/
theorem Execution.offTickets (elsewhere : e.useCase.onTicket = false) : OffTickets e.program := by
  obtain ⟨useCase, ambient, requestId⟩ := e
  cases useCase with
  | startSlaTimers input =>
      refine (Proc.within_map _ _).mpr (.ask rfl fun claimed => ?_)
      cases claimed with
      | false => trivial
      | true =>
          exact .ask rfl fun overrides =>
            (StartSlaTimers.offTickets_saveAll input _ ambient.uuid SLA_KINDS 0).bind fun _ _ => trivial
  | stopSlaTimer input =>
      refine (Proc.within_map _ _).mpr (.ask rfl fun claimed => ?_)
      cases claimed with
      | false => trivial
      | true =>
          refine .ask rfl fun found => ?_
          cases found with
          | none => trivial
          | some timer => exact .ask rfl fun _ => trivial
  | updateSlaPolicy input =>
      apply (Proc.within_map _ _).mpr
      unfold UpdateSlaPolicy.execute
      split
      · trivial
      · exact .ask rfl fun _ => .ask rfl fun _ => .ask rfl fun _ => trivial
  | resetSlaPolicy input =>
      refine (Proc.within_map _ _).mpr (.ask rfl fun _ => .ask rfl fun habia => .ask rfl fun _ => ?_)
      cases habia with
      | false => trivial
      | true => exact .ask rfl fun _ => trivial
  | getSlaPolicy tenantId => exact (Proc.within_map _ _).mpr (.ask rfl fun _ => trivial)
  | listTickets input => exact (Proc.within_map _ _).mpr (.ask rfl fun _ => trivial)
  | ticketDetail tenantId ticketId => exact (Proc.within_map _ _).mpr (.ask rfl fun _ => trivial)
  | ticketHistory tenantId ticketId => exact (Proc.within_map _ _).mpr (.ask rfl fun _ => trivial)
  | _ => cases elsewhere

/-- Whether an execution opens a new ticket. -/
def Execution.opensTicket (e : Execution) : Bool :=
  match e.useCase with
  | .createTicket _ => true
  | _ => false

/-- Whatever does not open a ticket saves nothing but the ticket it has loaded. -/
theorem Execution.ticket_spec (e : Execution) :
    (e.opensTicket = false → SavesSnapshot e []) ∧
      e.program.Satisfies (repositories.transactional.Plausible e.ctx)
        (fun trace => e.opensTicket = false → SavesSnapshot e trace) (fun _ _ => True) [] := by
  refine ⟨fun _ => Holding.savesSnapshot e _ _ .start, ?_⟩
  have weaken (p : e.program.Satisfies (repositories.transactional.Plausible e.ctx) (SavesSnapshot e)
      (fun _ _ => True) []) : e.program.Satisfies (repositories.transactional.Plausible e.ctx)
        (fun trace => e.opensTicket = false → SavesSnapshot e trace) (fun _ _ => True) [] :=
    p.mono (fun _ saves _ => saves) fun _ _ all => all
  cases isUseCase : e.useCase with
  | createTicket input =>
      refine Proc.satisfies_of_forall (fun _ existing => ?_) (fun _ _ => trivial) _ _
      simp [opensTicket, isUseCase] at existing
  | assignTicket input => exact weaken (AssignTicket.savesSnapshot isUseCase)
  | autoAssignTicket input => exact weaken (AutoAssignTicket.savesSnapshot isUseCase)
  | changeTicketStatus input => exact weaken (ChangeTicketStatus.savesSnapshot isUseCase)
  | addComment input => exact weaken (AddComment.savesSnapshot isUseCase)
  | markSlaBreached input => exact weaken (MarkSlaBreached.savesSnapshot isUseCase)
  | _ => exact weaken ((Holding.savesSnapshot e _ _ .start).rest (e.offTickets (by simp [isUseCase, UseCase.onTicket])))

end UseCases

end Helpdesk
