/-
Module: HelpdeskApi.Proofs.FairShares
Layer: Proofs
Purpose: How the automatic assignment shares out the tickets of a tenant. Whom a ticket goes to is decided by
  its number alone, the numbers are given out once each, and a ticket is assigned by its own event and only
  once, so that the agents take turns: of any consecutive numbers nobody gets two more than somebody else, in
  whatever order and however often the jobs are run.
Trusted boundary: none
Main exports: Db.agentsOf, Assignment, BackendAction.assignment, assignments, share, Announced,
  announced_of_run, fair_of_run
-/
import HelpdeskApi.Queue.Backend
import HelpdeskApi.Queue.TicketEffects
import HelpdeskApi.Library.RoundRobin

namespace Helpdesk

open Relational Transition Txn

/-- A database before the first ticket, in which no number has been given out either. -/
def Db.beforeNumbers (base : Db) : Db :=
  { base.beforeTickets with counters := .empty }

/-- What `agentsOf` returns. -/
def Db.agentsOf (db : Db) (tenantId : TenantId) : List UserId :=
  (orderByUserId ((db.visible (some tenantId)).memberships.rows.filter fun r =>
    r.tenantId = tenantId ∧ (r.role = .AGENT ∨ r.role = .ADMIN))).map (·.userId)

/-- A ticket, by its number, and what `assignTo` was given for it. -/
structure Assignment where
  tenantId : TenantId
  number : Int
  assigneeId : Nullable UserId
deriving DecidableEq, Repr

/-- The assignment `AutoAssignTicket` makes in a step, if it makes one. -/
def BackendAction.assignment (db : Db) (a : BackendAction) : Option Assignment :=
  match a.execution db with
  | none => none
  | some e =>
      match e.useCase, (serve e db).1 with
      | .autoAssignTicket input, some (.ok (.autoAssign (.assigned assigneeId))) =>
          (db.tickets.find? input.ticketId).map fun row => ⟨input.tenantId, row.number, assigneeId⟩
      | _, _ => none

/-- The automatic assignments of a history. -/
def assignments (history : List (Db × BackendAction)) : List Assignment :=
  history.filterMap fun entry => BackendAction.assignment entry.1 entry.2

/-- An assignment of one of the `k` tickets of the tenant after the `a`-th. -/
def Assignment.inWindow (x : Assignment) (tenantId : TenantId) (a k : Nat) : Bool :=
  x.tenantId = tenantId ∧ a < x.number ∧ x.number ≤ a + k

/-- How many of these an agent was given. -/
def share (history : List (Db × BackendAction)) (tenantId : TenantId) (a k : Nat) (u : UserId) : Nat :=
  ((assignments history).filter fun x => x.inWindow tenantId a k).countP fun x => x.assigneeId = .value u

/-- How the messages about new tickets correspond to the tickets, and these to their numbers. -/
structure Announced (db : Db) : Prop where
  described : ∀ m ∈ db.outbox.rows, m.eventName = "ticket.created" →
    ∃ row, db.tickets.find? ⟨m.aggregateId⟩ = some row ∧ row.tenantId = m.tenantId ∧
      m.payload.field? "number" = some (.num row.number)
  once : ∀ m ∈ db.outbox.rows, ∀ m' ∈ db.outbox.rows, m.eventName = "ticket.created" →
    m'.eventName = "ticket.created" → m.aggregateId = m'.aggregateId → m = m'
  unique : ∀ row ∈ db.tickets.rows, ∀ row' ∈ db.tickets.rows, row.tenantId = row'.tenantId →
    row.number = row'.number → row = row'
  positive : ∀ row ∈ db.tickets.rows, 1 ≤ row.number
  counting : ∀ counter ∈ db.counters.rows, 1 ≤ counter.nextNumber

section Numbers

variable {db db' : Db} {e : Execution}

theorem announced_beforeNumbers (base : Db) : Announced base.beforeNumbers where
  described _ stored := by cases stored
  once _ stored := by cases stored
  unique _ stored := by cases stored
  positive _ stored := by cases stored
  counting _ stored := by cases stored

theorem Announced.one_le_number (announced : Announced db) (input : CreateTicketInput) :
    1 ≤ CreateTicket.number input db := by
  unfold CreateTicket.number
  cases found : db.counters.find? input.tenantId with
  | none => exact le_refl 1
  | some counter => exact announced.counting counter (Table.mem_of_find? found)

theorem Announced.bumped (announced : Announced db) (tenantId : TenantId) :
    ∀ counter ∈ (bumpCounter db.counters tenantId).rows, 1 ≤ counter.nextNumber := by
  intro counter stored
  rw [bumpCounter, Table.mem_upsert_iff] at stored
  rcases stored with ⟨old, _⟩ | rfl
  · exact announced.counting counter old
  · cases found : db.counters.find? tenantId with
    | none => simp
    | some old =>
        have before := announced.counting old (Table.mem_of_find? found)
        simp only [Option.elim_some, bumpCounterRow]
        omega

/-- One more ticket, with the next number. -/
theorem Announced.created (announced : Announced db) {writes : List Write} (fresh : e.ambient.freshIn db = true)
    {input : CreateTicketInput} {ticket : Ticket} (opens : CreateTicket.opening input e.ambient db = .ok ticket)
    (unnumbered : ∀ row ∈ db.tickets.rows, row.tenantId = input.tenantId → row.number ≠ CreateTicket.number input db)
    (tickets : (db.after writes).tickets.rows = db.tickets.rows ++ [createTicketRow ticket])
    (counters : (db.after writes).counters = bumpCounter db.counters input.tenantId)
    (outbox : (db.after writes).outbox = db.outbox.insert (outboxRow (e.ambient.uuid 2) e.requestId
      (ticketCreated ⟨e.ambient.uuid 0⟩ input.tenantId e.ambient.now (CreateTicket.number input db)
        (trim input.subject) input.priority .OPEN input.actorId))) : Announced (db.after writes) := by
  obtain ⟨isFresh, ofTenant, isNumber, _⟩ := CreateTicket.opened_of_opening opens
  have free := (Ambient.unused_of_freshIn fresh).1.ticket
  have inside : createTicketRow ticket ∈ (db.after writes).tickets.rows := by
    rw [tickets]
    exact List.mem_append_right _ List.mem_cons_self
  have rows {row : TicketRow} (stored : row ∈ (db.after writes).tickets.rows) :
      row ∈ db.tickets.rows ∨ row = createTicketRow ticket := by
    rw [tickets] at stored
    exact (List.mem_append.mp stored).imp_right List.mem_singleton.mp
  have unannounced {m : OutboxRow} (stored : m ∈ db.outbox.rows) (isCreated : m.eventName = "ticket.created") :
      m.aggregateId ≠ e.ambient.uuid 0 := by
    intro same
    obtain ⟨row, found, _⟩ := announced.described m stored isCreated
    rw [same, free] at found
    cases found
  constructor
  · intro m stored isCreated
    rcases Table.mem_of_mem_insert (outbox ▸ stored) with old | rfl
    · obtain ⟨row, found, ofTenant', numbered⟩ := announced.described m old isCreated
      obtain ⟨row', found', sameBirth⟩ := births_after writes found
      exact ⟨row', found', sameBirth.tenantId.trans ofTenant', sameBirth.number ▸ numbered⟩
    · refine ⟨createTicketRow ticket, ?_, ofTenant, ?_⟩
      · have found := Table.find?_key inside
        rw [key_ticketRow, show (createTicketRow ticket).id = _ from isFresh] at found
        exact found
      · rw [show (createTicketRow ticket).number = _ from isNumber]
        rfl
  · intro m stored m' stored' isCreated isCreated' sameTicket
    rcases Table.mem_of_mem_insert (outbox ▸ stored) with old | rfl
    · rcases Table.mem_of_mem_insert (outbox ▸ stored') with old' | rfl
      · exact announced.once m old m' old' isCreated isCreated' sameTicket
      · exact absurd sameTicket (unannounced old isCreated)
    · rcases Table.mem_of_mem_insert (outbox ▸ stored') with old' | rfl
      · exact absurd sameTicket.symm (unannounced old' isCreated')
      · rfl
  · intro row stored row' stored' sameTenant sameNumber
    rcases rows stored with old | rfl
    · rcases rows stored' with old' | rfl
      · exact announced.unique row old row' old' sameTenant sameNumber
      · exact absurd (sameNumber.trans isNumber) (unnumbered row old (sameTenant.trans ofTenant))
    · rcases rows stored' with old' | rfl
      · exact absurd (sameNumber.symm.trans isNumber) (unnumbered row' old' (sameTenant.symm.trans ofTenant))
      · rfl
  · intro row stored
    rcases rows stored with old | rfl
    · exact announced.positive row old
    · rw [show (createTicketRow ticket).number = _ from isNumber]
      exact announced.one_le_number input
  · rw [counters]
    exact announced.bumped input.tenantId

/-- The same tickets, and no news of them. -/
theorem Announced.same (announced : Announced db) {writes : List Write}
    (tickets : ∀ id, db.tickets.find? id = none → (db.after writes).tickets.find? id = none)
    (counters : (db.after writes).counters = db.counters)
    (messages : ∀ m ∈ (db.after writes).outbox.rows, m ∈ db.outbox.rows ∨ m.eventName ≠ "ticket.created") :
    Announced (db.after writes) := by
  have rows {row : TicketRow} (stored : row ∈ (db.after writes).tickets.rows) :
      ∃ old ∈ db.tickets.rows, old.SameBirth row := by
    have found := Table.find?_key stored
    cases before : db.tickets.find? (Keyed.key row) with
    | none =>
        rw [tickets _ before] at found
        cases found
    | some old =>
        obtain ⟨row', found', sameBirth⟩ := births_after writes before
        cases found.symm.trans found'
        exact ⟨old, Table.mem_of_find? before, sameBirth⟩
  have old {m : OutboxRow} (stored : m ∈ (db.after writes).outbox.rows) (isCreated : m.eventName = "ticket.created") :
      m ∈ db.outbox.rows :=
    (messages m stored).resolve_right fun notCreated => notCreated isCreated
  constructor
  · intro m stored isCreated
    obtain ⟨row, found, ofTenant, numbered⟩ := announced.described m (old stored isCreated) isCreated
    obtain ⟨row', found', sameBirth⟩ := births_after writes found
    exact ⟨row', found', sameBirth.tenantId.trans ofTenant, sameBirth.number ▸ numbered⟩
  · intro m stored m' stored' isCreated isCreated' sameTicket
    exact announced.once m (old stored isCreated) m' (old stored' isCreated') isCreated isCreated' sameTicket
  · intro row stored row' stored' sameTenant sameNumber
    obtain ⟨before, inside, birth⟩ := rows stored
    obtain ⟨before', inside', birth'⟩ := rows stored'
    have same := announced.unique before inside before' inside'
      (birth.tenantId.symm.trans (sameTenant.trans birth'.tenantId))
      (birth.number.symm.trans (sameNumber.trans birth'.number))
    have sameId : row.id = row'.id := birth.id.trans ((congrArg TicketRow.id same).trans birth'.id.symm)
    exact Table.eq_of_key stored stored' sameId
  · intro row stored
    obtain ⟨before, inside, birth⟩ := rows stored
    rw [birth.number]
    exact announced.positive before inside
  · rw [counters]
    exact announced.counting

/-- Every step of the backend keeps tickets and messages in order. -/
theorem announced_step {a : BackendAction} (announced : Announced db) (taken : a.step db = some db') :
    Announced db' := by
  obtain ⟨e, _, fresh, rfl⟩ := BackendAction.step_eq_some_iff.mp taken
  have effect := e.effect_committed fresh
  rw [serve_committed e fresh]
  generalize e.committed db = writes at effect
  cases effect with
  | creates opens unnumbered tickets counters outbox =>
      exact announced.created fresh opens unnumbered tickets counters outbox
  | other tickets counters messages => exact announced.same tickets counters messages

theorem announced_of_run {base : Db} {history : List (Db × BackendAction)}
    (run : Run BackendAction.step base.beforeNumbers history db) : Announced db :=
  run.invariant (announced_beforeNumbers base) fun _ _ _ announced taken => announced_step announced taken

end Numbers

section Jobs

variable {db db' : Db} {a : BackendAction} {e : Execution} {input : AutoAssignTicketInput}

theorem agents_eq (input : AutoAssignTicketInput) (db : Db) :
    AutoAssignTicket.agents input db = db.agentsOf input.tenantId := rfl

/-- The message an automatic assignment goes back to. -/
structure OutboxRow.Numbers (m : OutboxRow) (row : TicketRow) : Prop where
  eventName : m.eventName = "ticket.created"
  aggregateId : m.aggregateId = row.id.uuid
  tenantId : m.tenantId = row.tenantId
  number : m.payload.field? "number" = some (.num row.number)

/-- An automatic assignment goes back to the message of its ticket, with the number of the ticket. -/
theorem routed (announced : Announced db) (runs : a.execution db = some e)
    (asked : e.useCase = .autoAssignTicket input) :
    ∃ m row, db.outbox.find? input.eventId = some m ∧ db.tickets.find? input.ticketId = some row ∧ m.Numbers row ∧
      row.tenantId = input.tenantId ∧ row.number = input.ticketNumber ∧ 1 ≤ row.number := by
  cases a with
  | http request useCase ambient =>
      simp only [BackendAction.execution] at runs
      split at runs
      · rename_i isRequest
        cases runs
        simp only at asked
        simp [asked, UseCase.isRequest] at isRequest
      · cases runs
  | job worker messageId generated ambient =>
      obtain ⟨m, found, _, listened, _⟩ := BackendAction.execution_job runs
      rw [asked] at listened
      cases worker with
      | ticketRouting =>
          simp only [Worker.useCase, Dispatch.useCase] at listened
          split at listened
          · rename_i useCase dispatched
            cases listened
            obtain ⟨isCreated, numero, numbered, same⟩ := TicketRoutingProcessor.process_run dispatched
            cases same
            obtain ⟨row, stored, ofTenant, numbered'⟩ := announced.described m (Table.mem_of_find? found) isCreated
            have sameNumber : numero = row.number := by
              have sameField := numbered.symm.trans numbered'
              simpa using sameField
            have sameId : row.id = ⟨m.aggregateId⟩ := Table.key_of_find? stored
            exact ⟨m, row, Table.find?_key (Table.mem_of_find? found), stored,
              ⟨isCreated, (congrArg TicketId.uuid sameId).symm, ofTenant.symm, numbered'⟩, ofTenant, sameNumber.symm,
              announced.positive row (Table.mem_of_find? stored)⟩
          · cases listened
      | sla =>
          simp only [Worker.useCase, Dispatch.useCase] at listened
          split at listened
          · rename_i useCase dispatched
            cases listened
            rcases SlaProcessor.despachar_run dispatched with ⟨_, same⟩ | ⟨_, same⟩ <;> cases same
          · cases listened
      | realtime => cases listened
  | mark input' ambient =>
      cases runs
      cases asked

/-- The index is a position of the list, and goes by the number. -/
theorem elegido_eq (someone : db.agentsOf input.tenantId ≠ []) (positive : 1 ≤ input.ticketNumber) :
    ∃ u ∈ db.agentsOf input.tenantId,
      RoundRobin.turn (db.agentsOf input.tenantId) input.ticketNumber.toNat = some u ∧
        AutoAssignTicket.elegido input db = .value u := by
  obtain ⟨u, isAgent, isTurn⟩ := RoundRobin.turn_isSome someone input.ticketNumber.toNat
  refine ⟨u, isAgent, isTurn, ?_⟩
  have index : (input.ticketNumber - 1).tmod (db.agentsOf input.tenantId).length =
      (((input.ticketNumber.toNat - 1) % (db.agentsOf input.tenantId).length : Nat) : Int) := by
    have before : input.ticketNumber - 1 = ((input.ticketNumber.toNat - 1 : Nat) : Int) := by omega
    rw [before, Int.tmod_eq_emod_of_nonneg (by omega), Int.natCast_mod]
  rw [AutoAssignTicket.elegido, agents_eq, index, elementAt, if_pos (by omega), Int.toNat_natCast]
  rw [RoundRobin.turn] at isTurn
  rw [isTurn]

/-- What the use case answers where it is run. -/
theorem serve_autoAssign (asked : e.useCase = .autoAssignTicket input) (fresh : e.ambient.freshIn db = true) :
    (serve e db).1 = some (.ok (.autoAssign (AutoAssignTicket.outcome input db))) := by
  have own : e.ctx.tenant = some input.tenantId := by
    rw [Execution.ctx, asked]
    rfl
  have ran := AutoAssignTicket.run_execute input own fresh
  have program : e.program = (·.map .autoAssign) <$> AutoAssignTicket.execute input e.ambient := by
    rw [Execution.program, asked]
  have mapped : e.program.run repositories e.ctx db =
      some (.ok (.autoAssign (AutoAssignTicket.outcome input db)),
        db.after (AutoAssignTicket.committed input e.ambient e.ctx.requestId db)) := by
    rw [program, Proc.run_map, ran]
    rfl
  rw [serve, Handler.transact_of_commit mapped rfl]

/-- A message that is processed is claimed. -/
theorem claimed_committed {ambient : Ambient} {requestId : Option String}
    (unclaimed : db.processed.find? (AUTO_ASSIGN_CONSUMER, input.eventId) = none) :
    ((db.after (AutoAssignTicket.committed input ambient requestId db)).processed.find?
      (AUTO_ASSIGN_CONSUMER, input.eventId)).isSome = true := by
  simp only [AutoAssignTicket.committed, unclaimed, Db.after_cons]
  have marked : ((Write.insertProcessed
      { consumer := AUTO_ASSIGN_CONSUMER, eventId := input.eventId, tenantId := input.tenantId }).apply
        db).processed.find? (AUTO_ASSIGN_CONSUMER, input.eventId) = some _ := Table.find?_insert_self unclaimed
  exact Option.isSome_iff_exists.mpr ⟨_, find?_processed_after _ marked⟩

/-- What an answer that a ticket was assigned means. -/
theorem outcome_assigned {assigneeId : Nullable UserId}
    (assigned : AutoAssignTicket.outcome input db = .assigned assigneeId) :
    db.processed.find? (AUTO_ASSIGN_CONSUMER, input.eventId) = none ∧ db.agentsOf input.tenantId ≠ [] ∧
      assigneeId = AutoAssignTicket.elegido input db := by
  unfold AutoAssignTicket.outcome at assigned
  split at assigned
  · cases assigned
  · cases assigned
  · rename_i unclaimed _
    split at assigned
    · cases assigned
    · split at assigned
      · cases assigned
      · rename_i someone
        split at assigned
        · cases assigned
        · cases assigned
          exact ⟨unclaimed, someone, rfl⟩

/-- The message and the ticket an assignment is about. -/
structure Assignment.About (x : Assignment) (db : Db) (m : OutboxRow) (row : TicketRow) : Prop where
  sent : m ∈ db.outbox.rows
  stored : db.tickets.find? row.id = some row
  numbers : m.Numbers row
  tenantId : row.tenantId = x.tenantId
  number : row.number = x.number

/-- The message of an assignment is claimed for good. -/
def Assignment.Claimed (x : Assignment) (db : Db) : Prop :=
  ∃ m row, x.About db m row ∧ (db.processed.find? (AUTO_ASSIGN_CONSUMER, m.id)).isSome = true

/-- Tickets with one number are one ticket, and have one message. -/
theorem Announced.about_eq (announced : Announced db) {x y : Assignment} {m m' : OutboxRow} {row row' : TicketRow}
    (one : x.About db m row) (other : y.About db m' row') (sameTenant : x.tenantId = y.tenantId)
    (sameNumber : x.number = y.number) : m = m' := by
  have sameRow : row = row' := announced.unique row (Table.mem_of_find? one.stored) row'
    (Table.mem_of_find? other.stored) (one.tenantId.trans (sameTenant.trans other.tenantId.symm))
    (one.number.trans (sameNumber.trans other.number.symm))
  apply announced.once m one.sent m' other.sent one.numbers.eventName other.numbers.eventName
  rw [one.numbers.aggregateId, other.numbers.aggregateId, sameRow]

theorem Assignment.About.kept {x : Assignment} {m : OutboxRow} {row : TicketRow} (about : x.About db m row)
    (writes : List Write) : ∃ row', x.About (db.after writes) m row' := by
  obtain ⟨row', stored', birth⟩ := births_after writes about.stored
  refine ⟨row', ⟨?_, ?_, ⟨about.numbers.eventName, ?_, ?_, ?_⟩, ?_, ?_⟩⟩
  · exact Table.mem_of_find? (find?_outbox_after writes (Table.find?_key about.sent))
  · rw [birth.id]
    exact stored'
  · rw [about.numbers.aggregateId, birth.id]
  · rw [about.numbers.tenantId, birth.tenantId]
  · rw [about.numbers.number, birth.number]
  · rw [birth.tenantId, about.tenantId]
  · rw [birth.number, about.number]

theorem Assignment.Claimed.kept {x : Assignment} (claimed : x.Claimed db) (writes : List Write) :
    x.Claimed (db.after writes) := by
  obtain ⟨m, row, about, marked⟩ := claimed
  obtain ⟨row', about'⟩ := about.kept writes
  obtain ⟨mark, found⟩ := Option.isSome_iff_exists.mp marked
  exact ⟨m, row', about', Option.isSome_iff_exists.mpr ⟨mark, find?_processed_after writes found⟩⟩

/-- Where a ticket is assigned, its message is claimed, which it was not before. -/
theorem assignment_spec {x : Assignment} (announced : Announced db) (taken : a.step db = some db')
    (made : a.assignment db = some x) :
    (∃ m row, x.About db m row ∧ db.processed.find? (AUTO_ASSIGN_CONSUMER, m.id) = none) ∧ x.Claimed db' ∧
      ∃ u, RoundRobin.turn (db.agentsOf x.tenantId) x.number.toNat = some u ∧ x.assigneeId = .value u := by
  obtain ⟨e, runs, fresh, rfl⟩ := BackendAction.step_eq_some_iff.mp taken
  unfold BackendAction.assignment at made
  rw [runs] at made
  simp only at made
  split at made
  · rename_i input assigneeId asked answered
    rw [serve_autoAssign asked fresh, Option.some.injEq, Except.ok.injEq, Output.autoAssign.injEq] at answered
    obtain ⟨unclaimed, someone, isChosen⟩ := outcome_assigned answered
    obtain ⟨m, row, found, stored, numbers, ofTenant, isNumber, positive⟩ := routed announced runs asked
    rw [stored, Option.map_some, Option.some.injEq] at made
    subst made
    have isEvent : input.eventId = m.id := (Table.key_of_find? found).symm
    have isTicket : row.id = input.ticketId := Table.key_of_find? stored
    have about : Assignment.About ⟨input.tenantId, row.number, assigneeId⟩ db m row :=
      ⟨Table.mem_of_find? found, isTicket ▸ stored, numbers, ofTenant, rfl⟩
    refine ⟨⟨m, row, about, isEvent ▸ unclaimed⟩, ?_, ?_⟩
    · rw [serve_committed e fresh]
      obtain ⟨row', about'⟩ := about.kept (e.committed db)
      refine ⟨m, row', about', ?_⟩
      rw [Execution.committed, asked, ← isEvent]
      exact claimed_committed unclaimed
    · obtain ⟨u, _, isTurn, isValue⟩ := elegido_eq someone (isNumber ▸ positive)
      exact ⟨u, isNumber ▸ isTurn, isChosen.trans isValue⟩
  · cases made

end Jobs

section Runs

variable {base db : Db} {history : List (Db × BackendAction)} {tenantId : TenantId} {members : List UserId}

theorem assignments_append (history : List (Db × BackendAction)) (db : Db) (a : BackendAction) :
    assignments (history ++ [(db, a)]) = assignments history ++ (a.assignment db).toList := by
  rw [assignments, List.filterMap_append]
  cases made : a.assignment db <;> simp [assignments, made]

/-- No ticket is assigned twice. -/
theorem assignments_nodup (run : Run BackendAction.step base.beforeNumbers history db) :
    ((assignments history).map fun x => (x.tenantId, x.number)).Nodup ∧ ∀ x ∈ assignments history, x.Claimed db := by
  induction run with
  | start => exact ⟨List.nodup_nil, fun x inside => by cases inside⟩
  | @step history db db' a run taken ih =>
      obtain ⟨distinct, claimed⟩ := ih
      have announced := announced_of_run run
      have kept : ∀ x ∈ assignments history, x.Claimed db' := by
        obtain ⟨e, _, fresh, rfl⟩ := BackendAction.step_eq_some_iff.mp taken
        intro x inside
        rw [serve_committed e fresh]
        exact (claimed x inside).kept _
      rw [assignments_append]
      cases made : a.assignment db with
      | none =>
          rw [Option.toList_none, List.append_nil]
          exact ⟨distinct, kept⟩
      | some y =>
          obtain ⟨about, claimed', _⟩ := assignment_spec announced taken made
          rw [Option.toList_some, List.map_append, List.map_singleton]
          constructor
          · apply List.Nodup.append distinct (List.nodup_singleton _)
            rw [List.disjoint_singleton]
            intro again
            obtain ⟨x, inside, same⟩ := List.mem_map.mp again
            rw [Prod.mk.injEq] at same
            obtain ⟨m, row, ofOld, marked⟩ := claimed x inside
            obtain ⟨m', row', ofNew, unmarked⟩ := about
            rw [announced.about_eq ofOld ofNew same.1 same.2, unmarked] at marked
            cases marked
          · intro x inside
            rcases List.mem_append.mp inside with old | new
            · exact kept x old
            · rw [List.mem_singleton.mp new]
              exact claimed'

/-- Whom a ticket goes to is decided by its number. -/
theorem assignment_byTurn (run : Run BackendAction.step base.beforeNumbers history db)
    (keeps : ∀ entry ∈ history, entry.1.agentsOf tenantId = members) {x : Assignment}
    (inside : x ∈ assignments history) (ofTenant : x.tenantId = tenantId) :
    ∃ u, RoundRobin.turn members x.number.toNat = some u ∧ x.assigneeId = .value u := by
  obtain ⟨entry, member, made⟩ := List.mem_filterMap.mp inside
  obtain ⟨earlier, later, next, before, taken, _, _⟩ := run.split member
  obtain ⟨_, _, byTurn⟩ := assignment_spec (announced_of_run before) taken made
  rw [ofTenant, keeps entry member] at byTurn
  exact byTurn

theorem Assignment.inWindow_iff (x : Assignment) (a k : Nat) : x.inWindow tenantId a k = true ↔
    x.tenantId = tenantId ∧ (a : Int) < x.number ∧ x.number ≤ a + k := by
  simp [inWindow]

/-- The assignments of a window have different numbers. -/
theorem window_nodup (run : Run BackendAction.step base.beforeNumbers history db) (a k : Nat) :
    (((assignments history).filter fun x => x.inWindow tenantId a k).map fun x => x.number.toNat).Nodup := by
  have part : (((assignments history).filter fun x => x.inWindow tenantId a k).map fun x =>
      (x.tenantId, x.number)).Nodup :=
    (assignments_nodup run).1.sublist (List.filter_sublist.map _)
  apply List.Nodup.map_on ?_ part.of_map
  intro x one y other same
  apply List.inj_on_of_nodup_map part one other
  have first := (x.inWindow_iff a k).mp (List.mem_filter.mp one).2
  have second := (y.inWindow_iff a k).mp (List.mem_filter.mp other).2
  rw [Prod.mk.injEq]
  exact ⟨first.1.trans second.1.symm, by omega⟩

/-- Where every ticket of a window is assigned, the assignments of the window are its numbers. -/
theorem mem_window_iff {a k : Nat}
    (all : ∀ i : Nat, a < i → i ≤ a + k → ∃ x ∈ assignments history, x.tenantId = tenantId ∧ x.number = i) (i : Nat) :
    i ∈ ((assignments history).filter fun x => x.inWindow tenantId a k).map (fun x => x.number.toNat) ↔
      a < i ∧ i ≤ a + k := by
  rw [List.mem_map]
  constructor
  · intro numbered
    obtain ⟨x, member, rfl⟩ := numbered
    have inside := (x.inWindow_iff a k).mp (List.mem_filter.mp member).2
    omega
  · intro inside
    obtain ⟨x, member, ofTenant, isNumber⟩ := all i inside.1 inside.2
    refine ⟨x, List.mem_filter.mpr ⟨member, (x.inWindow_iff a k).mpr ⟨ofTenant, ?_⟩⟩, ?_⟩ <;> omega

/-- The agents of a tenant take turns: the index is always a position of the list, whom a ticket goes to is
    decided by its number, and of any consecutive numbers nobody gets two more than somebody else. -/
theorem fair_of_run (run : Run BackendAction.step base.beforeNumbers history db) (someone : members ≠ [])
    (distinct : members.Nodup) (keeps : ∀ entry ∈ history, entry.1.agentsOf tenantId = members) :
    (∀ entry ∈ history, ∀ e input, entry.2.execution entry.1 = some e → e.useCase = .autoAssignTicket input →
      input.tenantId = tenantId → ∃ row u, entry.1.tickets.find? input.ticketId = some row ∧
        members[(row.number.toNat - 1) % members.length]? = some u ∧
          AutoAssignTicket.elegido input entry.1 = .value u) ∧
      (∀ x ∈ assignments history, x.tenantId = tenantId →
        ∃ u, members[(x.number.toNat - 1) % members.length]? = some u ∧ x.assigneeId = .value u) ∧
      ∀ a k : Nat,
        (∀ i : Nat, a < i → i ≤ a + k → ∃ x ∈ assignments history, x.tenantId = tenantId ∧ x.number = i) →
          ∀ u ∈ members, ∀ v ∈ members, share history tenantId a k u ≤ share history tenantId a k v + 1 := by
  refine ⟨?_, fun x inside ofTenant => assignment_byTurn run keeps inside ofTenant, ?_⟩
  · intro entry inside e input runs asked ofTenant
    obtain ⟨earlier, reached, _⟩ := run.mem_history inside
    obtain ⟨_, row, _, stored, _, _, isNumber, positive⟩ := routed (announced_of_run reached) runs asked
    have same : entry.1.agentsOf input.tenantId = members := ofTenant ▸ keeps entry inside
    have someone' : entry.1.agentsOf input.tenantId ≠ [] := same ▸ someone
    obtain ⟨u, _, isTurn, isValue⟩ := elegido_eq someone' (isNumber ▸ positive)
    rw [same, ← isNumber] at isTurn
    exact ⟨row, u, stored, isTurn, isValue⟩
  · intro a k all u one v other
    have picks (w : UserId) : share history tenantId a k w =
        ((assignments history).filter fun x => x.inWindow tenantId a k).countP fun x =>
          x.assigneeId.toColumn none = some w := by
      apply List.countP_congr
      intro x _
      cases assignee : x.assigneeId <;> simp [Nullable.toColumn]
    rw [picks, picks]
    apply RoundRobin.served_le distinct (window_nodup run a k) (mem_window_iff all) _ one other
    intro x member
    obtain ⟨inside, window⟩ := List.mem_filter.mp member
    obtain ⟨u', isTurn, isValue⟩ := assignment_byTurn run keeps inside ((x.inWindow_iff a k).mp window).1
    rw [isTurn, isValue]
    rfl

/-- No use case changes who the agents are. -/
theorem agentsOf_of_run (run : Run BackendAction.step base.beforeNumbers history db) :
    ∀ entry ∈ history, entry.1.agentsOf tenantId = base.agentsOf tenantId := by
  have kept {db₁ db₂ : Db} {a : BackendAction} (taken : a.step db₁ = some db₂) :
      db₂.memberships = db₁.memberships := by
    obtain ⟨e, _, _, rfl⟩ := BackendAction.step_eq_some_iff.mp taken
    apply Handler.transact_kept (η := repositories) (R := fun before after => after.memberships = before.memberships)
    · exact fun _ => rfl
    · exact fun first second => second.trans first
    · exact fun w _ => by cases w <;> rfl
  have always := run.always_invariant (I := fun reached => reached.memberships = base.memberships) rfl
    fun _ _ _ same taken => (kept taken).trans same
  intro entry inside
  rw [Db.agentsOf, Db.agentsOf, Db.visible, Db.visible, always.1 entry inside]

/-- A tenant with an agent and an administrator. -/
def twoAgents : Db :=
  { Db.empty with
    memberships := (Table.empty.insert ⟨⟨1⟩, ⟨4⟩, .ADMIN⟩).insert ⟨⟨1⟩, ⟨3⟩, .AGENT⟩ }

/-- Two tickets, whose jobs come in the other order, one of them twice. -/
def twoTickets : List BackendAction :=
  [.http ⟨none, false, exampleUuid, exampleUuid⟩ (.createTicket ⟨⟨1⟩, ⟨2⟩, "Hola", "No entra", .HIGH⟩)
      (exampleAmbient 0),
    .http ⟨none, false, exampleUuid, exampleUuid⟩ (.createTicket ⟨⟨1⟩, ⟨2⟩, "Otra", "No sale", .LOW⟩)
      (exampleAmbient 1),
    .job .ticketRouting 202 exampleUuid (exampleAmbient 2), .job .ticketRouting 202 exampleUuid (exampleAmbient 3),
    .job .ticketRouting 102 exampleUuid (exampleAmbient 4)]

theorem fair_of_run_twoTickets :
    ∃ history db, Run BackendAction.step twoAgents.beforeNumbers history db ∧
      assignments history = [⟨⟨1⟩, 2, .value ⟨4⟩⟩, ⟨⟨1⟩, 1, .value ⟨3⟩⟩] ∧
      share history ⟨1⟩ 0 2 ⟨3⟩ ≤ share history ⟨1⟩ 0 2 ⟨4⟩ + 1 := by
  have possible : (play BackendAction.step twoAgents.beforeNumbers twoTickets).isSome = true := by
    decide
  have assigned : assignments (playHistory BackendAction.step twoAgents.beforeNumbers twoTickets) =
      [⟨⟨1⟩, 2, .value ⟨4⟩⟩, ⟨⟨1⟩, 1, .value ⟨3⟩⟩] := by
    decide
  have agents : twoAgents.agentsOf ⟨1⟩ = [⟨3⟩, ⟨4⟩] := by decide
  obtain ⟨db, played⟩ := Option.isSome_iff_exists.mp possible
  have run := play_run played
  refine ⟨_, db, run, assigned, ?_⟩
  have keeps : ∀ entry ∈ playHistory BackendAction.step twoAgents.beforeNumbers twoTickets,
      entry.1.agentsOf ⟨1⟩ = [⟨3⟩, ⟨4⟩] :=
    fun entry inside => (agentsOf_of_run run entry inside).trans agents
  have fair := (fair_of_run run (by decide) (by decide) keeps).2.2 0 2
  apply fair ?_ ⟨3⟩ (by decide) ⟨4⟩ (by decide)
  intro i above below
  rw [assigned]
  have first_or_second : i = 1 ∨ i = 2 := by omega
  rcases first_or_second with rfl | rfl
  · exact ⟨⟨⟨1⟩, 1, .value ⟨3⟩⟩, by decide, rfl, rfl⟩
  · exact ⟨⟨⟨1⟩, 2, .value ⟨4⟩⟩, by decide, rfl, rfl⟩

end Runs

end Helpdesk
