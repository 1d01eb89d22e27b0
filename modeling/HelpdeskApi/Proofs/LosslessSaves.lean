/-
Module: HelpdeskApi.Proofs.LosslessSaves
Layer: Proofs
Purpose: What saving a ticket or a timer writes is enough. The two clauses of `save` list the columns by hand,
  and the one for a row that is there leaves some out; these are the ones no command changes. Loading,
  commanding and saving any number of times brings back what the commands make of the aggregate in memory,
  but for its events, which go to the outbox.
Trusted boundary: none
Main exports: Ticket.Command.WellTyped, Ticket.birth, SlaTimer.Command, ticketStore, timerStore, toTicket_update,
  nothing_lost_by_saving
-/
import HelpdeskApi.Application.Ports
import HelpdeskApi.Domain.Methods
import HelpdeskApi.Library.Persistence
import HelpdeskApi.Queue.RequestFacts

namespace Helpdesk

open Relational Txn Persistence

/-- What the types of the commands ask for: a ticket is assigned to somebody. -/
def Ticket.Command.WellTyped : Ticket.Command → Prop
  | .assignTo assigneeId => ∃ u, assigneeId = .value u
  | _ => True

/-- What a ticket is given when it is opened. -/
def Ticket.birth (t : Ticket) : TicketId × TenantId × Int × UserId × Instant :=
  (t.id, t.tenantId, t.number, t.requesterId, t.createdAt)

/-- What a timer is given when it is started. -/
def SlaTimer.birth (t : SlaTimer) : SlaTimerId × TenantId × TicketId × SlaKind × Instant × Instant :=
  (t.id, t.tenantId, t.ticketId, t.kind, t.startedAt, t.dueAt)

inductive SlaTimer.Command where
  | stop (now : Instant)
  | markBreached (now : Instant)

/-- What a command on a timer returns, and the timer afterwards. -/
def SlaTimer.called (t : SlaTimer) : SlaTimer.Command → Option Bool × SlaTimer
  | .stop now => (none, t.stop now)
  | .markBreached now => (some (t.markBreached now).2, (t.markBreached now).1)

/-- The repository of the tickets, and their commands. -/
def ticketStore (tenantId : TenantId) (id : TicketId) : Repository sig Ticket Ticket.Call (Except TicketingError Unit) where
  find := TicketRepository.findById tenantId id
  save := TicketRepository.save
  perform := Ticket.called

/-- The repository of the timers, and their commands. -/
def timerStore (tenantId : TenantId) (id : SlaTimerId) : Repository sig SlaTimer SlaTimer.Command (Option Bool) where
  find := SlaTimerRepository.findById tenantId id
  save := SlaTimerRepository.save
  perform := SlaTimer.called

namespace Ticket

variable {t t' : Ticket}

/-- The fields a call can change, and whom it can assign the ticket to. -/
theorem called_fields (t : Ticket) (c : Call) : ∃ status assigneeId updatedAt resolvedAt closedAt domainEvents,
    (t.called c).2 =
      { t with
        status := status
        assigneeId := assigneeId
        updatedAt := updatedAt
        resolvedAt := resolvedAt
        closedAt := closedAt
        domainEvents := domainEvents } ∧
      (assigneeId = t.assigneeId ∨ assigneeId = .null ∨ c.command = .assignTo assigneeId) := by
  rw [called_eq]
  cases done : t.perform c.now c.command with
  | error e => exact ⟨_, _, _, _, _, _, rfl, .inl rfl⟩
  | ok t' =>
      simp only [allOrNothing]
      cases ofCommand : c.command with
      | changeStatus next =>
          simp only [ofCommand, perform, changeStatus] at done
          split at done
          · cases done
            exact ⟨_, _, _, _, _, _, rfl, .inl rfl⟩
          · split at done
            · cases done
              cases next <;> exact ⟨_, _, _, _, _, _, rfl, .inl rfl⟩
            · cases done
      | assignTo assigneeId =>
          simp only [ofCommand, perform, assignTo] at done
          split at done <;> cases done
          exact ⟨_, _, _, _, _, _, rfl, .inr (.inr rfl)⟩
      | unassign =>
          simp only [ofCommand, perform, unassign] at done
          split at done <;> cases done
          exact ⟨_, _, _, _, _, _, rfl, .inr (.inl rfl)⟩
      | registerComment commentId authorId authorRole =>
          simp only [ofCommand, perform, registerComment] at done
          split at done <;> cases done
          exact ⟨_, _, _, _, _, _, rfl, .inl rfl⟩
      | recordSlaBreach timerId kind dueAt =>
          simp only [ofCommand, perform] at done
          cases done
          exact ⟨_, _, _, _, _, _, rfl, .inl rfl⟩

/-- No command changes what a ticket was given when it was opened. -/
theorem called_birth (t : Ticket) (c : Call) : (t.called c).2.birth = t.birth := by
  obtain ⟨_, _, _, _, _, _, after, _⟩ := t.called_fields c
  rw [after]
  rfl

/-- A ticket is assigned to somebody or nobody, and stays so. -/
theorem called_assignee {c : Call} (typed : c.command.WellTyped) (assigned : t.assigneeId ≠ .undefined) :
    (t.called c).2.assigneeId ≠ .undefined := by
  obtain ⟨_, assigneeId, _, _, _, _, after, whom⟩ := t.called_fields c
  rw [after]
  rcases whom with rfl | rfl | ofCommand
  · exact assigned
  · simp
  · rw [ofCommand] at typed
    obtain ⟨u, rfl⟩ := typed
    simp

/-- What a ticket has recorded makes no difference to a command. -/
theorem called_alike (c : Call) (same : t.pullDomainEvents.2 = t'.pullDomainEvents.2) :
    (t.called c).1 = (t'.called c).1 ∧ (t.called c).2.pullDomainEvents.2 = (t'.called c).2.pullDomainEvents.2 := by
  have others : t' = { t with domainEvents := t'.domainEvents } := by
    cases t
    cases t'
    simpa [pullDomainEvents, eq_comm] using same
  rw [others, called_eq, called_eq]
  generalize t'.domainEvents = events
  cases c.command with
  | changeStatus next =>
      simp only [perform, changeStatus]
      split
      · exact ⟨rfl, rfl⟩
      · split
        · cases next <;> exact ⟨rfl, rfl⟩
        · exact ⟨rfl, rfl⟩
  | assignTo assigneeId =>
      simp only [perform, assignTo]
      split <;> exact ⟨rfl, rfl⟩
  | unassign =>
      simp only [perform, unassign]
      split <;> exact ⟨rfl, rfl⟩
  | registerComment commentId authorId authorRole =>
      have sameAnswer : ({ t with domainEvents := events } : Ticket).acceptsComments = t.acceptsComments := rfl
      simp only [perform, registerComment, sameAnswer]
      split <;> exact ⟨rfl, rfl⟩
  | recordSlaBreach timerId kind dueAt => exact ⟨rfl, rfl⟩

/-- A row that is saved reads as the ticket it was saved from. -/
theorem toTicket_update {row : TicketRow} (sameBirth : t.birth = (toTicket row).birth)
    (assigned : t.assigneeId ≠ .undefined) : toTicket (updateTicketRow t row) = t.pullDomainEvents.2 := by
  simp only [birth, toTicket, Prod.mk.injEq] at sameBirth
  obtain ⟨sameId, sameTenant, sameNumber, sameRequester, sameDate⟩ := sameBirth
  have column : Nullable.ofColumn (t.assigneeId.toColumn row.assigneeId) = t.assigneeId := by
    cases assignee : t.assigneeId with
    | undefined => exact absurd assignee assigned
    | null => rfl
    | value u => rfl
  simp only [toTicket, updateTicketRow, pullDomainEvents, column, ← sameId, ← sameTenant, ← sameNumber,
    ← sameRequester, ← sameDate]

end Ticket

section Repositories

variable {ctx : Ctx} {tenantId : TenantId}

/-- Saved tickets are found as they were left. -/
theorem faithful_tickets (own : ctx.tenant = some tenantId) (id : TicketId) :
    (ticketStore tenantId id).Faithful repositories ctx toTicket (fun db row => db.ticketOf tenantId id = some row)
      (fun t => t.pullDomainEvents.2) (fun c => c.command.WellTyped) where
  finds {db row} stored := by
    change (Proc.call (S := sig) _ _).run repositories ctx db = _
    rw [run_exec (exec_ticketsFindById own id), stored]
    rfl
  saves {db row c} stored typed := by
    obtain ⟨found, ofTenant⟩ := Db.ticketOf_eq_some_iff.mp stored
    have rowId : row.id = id := Table.key_of_find? found
    have sameBirth := (toTicket row).called_birth c
    have sameId : ((toTicket row).called c).2.id = row.id := congrArg Prod.fst sameBirth
    have assigned : (toTicket row).assigneeId ≠ .undefined := by
      cases assignee : row.assigneeId <;> simp [assignee, Nullable.ofColumn]
    refine ⟨updateTicketRow ((toTicket row).called c).2 row, db.after [.upsertTicket ((toTicket row).called c).2],
      ?_, ?_, Ticket.toTicket_update sameBirth (Ticket.called_assignee typed assigned)⟩
    · have located : db.ticketOf tenantId ((toTicket row).called c).2.id = some row := by
        rw [sameId, rowId]
        exact stored
      exact run_exec (exec_ticketsSave_stored own located)
    · rw [Db.ticketOf_eq_some_iff]
      have saved := find?_upsertTicket (Db.stored_of_ticketOf stored) sameId id
      rw [if_pos rowId.symm] at saved
      exact ⟨saved, ofTenant⟩
  loaded row := rfl
  alike same := Ticket.called_alike _ same

/-- No command changes what a timer was given when it was started. -/
theorem SlaTimer.called_birth (t : SlaTimer) (c : SlaTimer.Command) : (t.called c).2.birth = t.birth := by
  cases c with
  | stop now =>
      simp only [called, stop]
      split <;> rfl
  | markBreached now =>
      simp only [called, markBreached]
      split <;> rfl

/-- A timer that is saved over its row is what is stored. -/
theorem updateTimerRow_eq {t row : SlaTimer} (sameBirth : t.birth = row.birth) : updateTimerRow t row = t := by
  simp only [SlaTimer.birth, Prod.mk.injEq] at sameBirth
  obtain ⟨sameId, sameTenant, sameTicket, sameKind, sameStart, sameDeadline⟩ := sameBirth
  simp only [updateTimerRow, ← sameId, ← sameTenant, ← sameTicket, ← sameKind, ← sameStart, ← sameDeadline]

/-- Saved timers are found as they were left. -/
theorem faithful_timers (own : ctx.tenant = some tenantId) (id : SlaTimerId) :
    (timerStore tenantId id).Faithful repositories ctx (fun row => row)
      (fun db row => db.timerOf tenantId id = some row) (fun t => t) (fun _ => True) where
  finds {db row} stored := by
    change (Proc.call (S := sig) _ _).run repositories ctx db = _
    rw [run_exec (exec_timersFindById own id), stored]
    rfl
  saves {db row c} stored _ := by
    obtain ⟨found, ofTenant⟩ := Db.timerOf_eq_some_iff.mp stored
    have rowId : row.id = id := Table.key_of_find? found
    have sameBirth := row.called_birth c
    have sameId : (row.called c).2.id = id := (congrArg Prod.fst sameBirth).trans rowId
    refine ⟨(row.called c).2, db.after [.upsertTimer (row.called c).2], ?_, ?_, rfl⟩
    · have located : db.timerOf tenantId (row.called c).2.id = some row := by
        rw [sameId]
        exact stored
      exact run_exec (exec_timersSave_stored own located)
    · rw [Db.timerOf_eq_some_iff]
      constructor
      · change (db.timers.upsert _ _ _).find? id = _
        rw [Table.find?_upsert, key_timer, if_pos sameId.symm, found, Option.elim_some, updateTimerRow_eq sameBirth]
      · exact (congrArg (fun birth => birth.2.1) sameBirth).trans ofTenant
  loaded row := rfl
  alike same := by
    cases same
    exact ⟨rfl, rfl⟩

/-- Nothing a command does to a ticket or a timer is lost by saving it, and nothing that saving leaves out is
    ever changed by one. -/
theorem nothing_lost_by_saving (own : ctx.tenant = some tenantId) (db : Db) :
    (∀ id row calls, db.ticketOf tenantId id = some row → (∀ c ∈ calls, c.command.WellTyped) →
      ∃ db', ((ticketStore tenantId id).commandAll calls).run repositories ctx db =
          some (some ((ticketStore tenantId id).performAll (toTicket row) calls).1, db') ∧
        (TicketRepository.findById tenantId id).run repositories ctx db' =
          some (some ((ticketStore tenantId id).performAll (toTicket row) calls).2.pullDomainEvents.2, db')) ∧
      (∀ id timer commands, db.timerOf tenantId id = some timer →
        ∃ db', ((timerStore tenantId id).commandAll commands).run repositories ctx db =
            some (some ((timerStore tenantId id).performAll timer commands).1, db') ∧
          (SlaTimerRepository.findById tenantId id).run repositories ctx db' =
            some (some ((timerStore tenantId id).performAll timer commands).2, db')) ∧
      (∀ id ticket calls, ((ticketStore tenantId id).performAll ticket calls).2.birth = ticket.birth) ∧
      ∀ id timer commands, ((timerStore tenantId id).performAll timer commands).2.birth = timer.birth := by
  refine ⟨?_, ?_, ?_, ?_⟩
  · intro id row calls stored typed
    have faithful := faithful_tickets own id
    obtain ⟨row', db', ran, stored', isState⟩ := Repository.commandAll_spec faithful typed stored (a := toTicket row) rfl
    refine ⟨db', ran, ?_⟩
    rw [← isState]
    exact faithful.finds stored'
  · intro id timer commands stored
    have faithful := faithful_timers own id
    obtain ⟨row', db', ran, stored', isState⟩ :=
      Repository.commandAll_spec faithful (fun _ _ => trivial) stored (a := timer) rfl
    refine ⟨db', ran, ?_⟩
    rw [← isState]
    exact faithful.finds stored'
  · exact fun id => (ticketStore tenantId id).performAll_kept Ticket.birth Ticket.called_birth
  · exact fun id => (timerStore tenantId id).performAll_kept SlaTimer.birth SlaTimer.called_birth

/-- An open ticket. -/
def unassignedTicket : TicketRow where
  id := ⟨100⟩
  tenantId := ⟨1⟩
  number := 1
  subject := "Hola"
  description := "No entra"
  status := .OPEN
  priority := .HIGH
  requesterId := ⟨2⟩
  assigneeId := none
  createdAt := 0
  updatedAt := 0
  resolvedAt := none
  closedAt := none

def unassignedTicketDb : Db :=
  { Db.empty with tickets := Table.empty.insert unassignedTicket }

/-- The ticket is assigned and taken up, and cannot be closed yet. -/
def takeUp : List Ticket.Call :=
  [⟨.assignTo (.value ⟨3⟩), 60000⟩, ⟨.changeStatus .IN_PROGRESS, 120000⟩, ⟨.changeStatus .CLOSED, 180000⟩]

theorem nothing_lost_by_saving_takeUp :
    ∃ db', ((ticketStore ⟨1⟩ ⟨100⟩).commandAll takeUp).run repositories ⟨some ⟨1⟩, none⟩ unassignedTicketDb =
        some (some [.ok (), .ok (), .error (.invalidTicketTransition .IN_PROGRESS .CLOSED)], db') ∧
      (TicketRepository.findById ⟨1⟩ ⟨100⟩).run repositories ⟨some ⟨1⟩, none⟩ db' =
        some (some (toTicket
          { unassignedTicket with status := .IN_PROGRESS, assigneeId := some ⟨3⟩, updatedAt := 120000 }), db') := by
  have typed : ∀ c ∈ takeUp, c.command.WellTyped := by
    intro c inside
    simp only [takeUp, List.mem_cons, List.not_mem_nil, or_false] at inside
    rcases inside with rfl | rfl | rfl
    · exact ⟨⟨3⟩, rfl⟩
    · trivial
    · trivial
  exact (nothing_lost_by_saving rfl unassignedTicketDb).1 ⟨100⟩ unassignedTicket takeUp rfl typed

end Repositories

end Helpdesk
