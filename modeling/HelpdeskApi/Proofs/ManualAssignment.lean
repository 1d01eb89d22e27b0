/-
Module: HelpdeskApi.Proofs.ManualAssignment
Layer: Proofs
Purpose: A person and the automatic job assign the same ticket at the same time. The job looks whether
  somebody is assigned when it loads the ticket, and saves its own choice over whatever is there when it
  commits.
Trusted boundary: none
Main exports: Rivals, OverridesNobody, manualAssignment_kept_iff
-/
import HelpdeskApi.Application.TicketPairs
import HelpdeskApi.Proofs.StatusMoves
import HelpdeskApi.Store.ReadSets

namespace Helpdesk

open Relational Txn Transition

/-- A ticket nobody is assigned to, an automatic assignment of it and a manual one. -/
structure Rivals (db₀ : Db) (auto manual : Execution) (job : AutoAssignTicketInput) (input : AssignTicketInput)
    (person : UserId) : Prop where
  automatic : auto.useCase = .autoAssignTicket job
  byHand : manual.useCase = .assignTicket input
  tenantId : input.tenantId = job.tenantId
  ticketId : input.ticketId = job.ticketId
  assigneeId : input.assigneeId = some person
  unassigned : ∃ row, db₀.tickets.find? job.ticketId = some row ∧ row.tenantId = job.tenantId ∧
    row.assigneeId = none ∧ row.status ≠ .CLOSED

/-- An automatic assignment that has loaded its ticket unassigned finds nobody assigned when it commits, or the
    agent whose turn it is by the number of the ticket. -/
def OverridesNobody (e : Execution) (db : Db) (loaded : Ticket) (row : TicketRow) : Prop :=
  ∀ job, e.useCase = .autoAssignTicket job → loaded.assigneeId = .null →
    ∀ u, AutoAssignTicket.elegido job db = .value u → row.assigneeId = none ∨ row.assigneeId = some u

section Agents

variable {job : AutoAssignTicketInput} {db db' : Db}

/-- Who the agents are depends on the members alone. -/
theorem AutoAssignTicket.agents_congr (same : db'.memberships = db.memberships) : agents job db' = agents job db := by
  rw [agents, agents, Db.visible, Db.visible, same]

theorem AutoAssignTicket.elegido_congr (same : db'.memberships = db.memberships) :
    elegido job db' = elegido job db := by
  rw [elegido, elegido, agents_congr same]

/-- Where there are no agents, nobody is picked. -/
theorem AutoAssignTicket.elegido_of_none (none : agents job db = []) : elegido job db = .undefined := by
  rw [elegido, none, elementAt]
  split <;> rfl

/-- A list has no `null` in it. -/
theorem elementAt_ne_null {α : Type} (agentes : List α) (i : Int) : elementAt agentes i ≠ .null := by
  unfold elementAt
  split
  · split <;> simp
  · simp

/-- An assignment assigns the ticket to whom it is asked to. -/
theorem Ticket.assigneeId_of_assignTo {t t' : Ticket} {assigneeId : Nullable UserId} {now : Instant}
    (done : t.assignTo assigneeId now = .ok t') : t'.assigneeId = assigneeId := by
  unfold Ticket.assignTo at done
  split at done
  · cases done
  · cases done
    rfl

/-- What a transaction has been told of the agents is what they are at the start. -/
theorem consulted_of_run {db₀ : Db} {jobs : List Execution} {history : List (Config ticketing × Move ticketing)}
    {c : Config ticketing} {i : Nat} {s : Session ticketing} {agentes : List UserId}
    (run : Run Config.step (.start db₀ jobs) history c) (found : c.sessions[i]? = some s)
    (own : s.job.ctx.tenant = some job.tenantId) (consulted : Consulted job.tenantId agentes s.trace) :
    agentes = AutoAssignTicket.agents job db₀ := by
  induction run generalizing s with
  | start =>
      obtain ⟨e, _, rfl⟩ := Config.start_session found
      obtain ⟨o, _, inside⟩ := consulted
      cases inside
  | @step history c c' m run taken ih =>
      rcases Config.trace_of_step taken found with (nothing | ⟨s₀, found₀, sameJob, same⟩) |
        ⟨s₀, rest, ev, found₀, sameJob, running, same, answered⟩
      · rw [nothing] at consulted
        obtain ⟨o, _, inside⟩ := consulted
        cases inside
      · exact ih found₀ (sameJob ▸ own) (same ▸ consulted)
      · have told : exec s₀.job.ctx ev.call (s₀.view c.db) = some (ev.outcome.reply, ev.outcome.writes) :=
          (repositories.mem_inTransaction.mp answered).2.1
        obtain ⟨o, isReply, inside⟩ := consulted
        rw [same] at inside
        rcases List.mem_append.mp inside with before | now
        · exact ih found₀ (sameJob ▸ own) ⟨o, isReply, before⟩
        · cases List.mem_singleton.mp now
          have members : (s₀.view c.db).memberships = db₀.memberships := by
            have log := Config.commitLog_of_run repositories.deferred_transactional run
            have view := memberships_after (repositories.transactional.pending s₀.trace) c.db
            refine Eq.trans view ?_
            rw [log.db]
            exact memberships_after _ db₀
          rw [AutoAssignTicket.exec_agents job (sameJob ▸ own), Option.some.injEq, Prod.mk.injEq] at told
          rw [← isReply, ← told.1, AutoAssignTicket.agents_congr members]

end Agents

section Runs

variable {db₀ : Db} {auto manual : Execution} {job : AutoAssignTicketInput} {input : AssignTicketInput}
  {person : UserId} {history : List (Config ticketing × Move ticketing)} {c : Config ticketing}

/-- What the manual assignment has saved. -/
theorem Rivals.savedByHand (rivals : Rivals db₀ auto manual job input person)
    (run : Run Config.step (.start db₀ [auto, manual]) history c) {s : Session ticketing} (isManual : s.job = manual)
    (found : c.sessions[1]? = some s) {out : Except TicketingError Output} (committed : s.status = .committed out) :
    ∃ saved, savedTickets s.trace = [saved] ∧ saved.id = job.ticketId ∧ saved.assigneeId = .value person := by
  obtain ⟨output, isOk⟩ := ok_of_committed run found committed
  have did := did_of_run run found committed output isOk
  rw [isManual, rivals.byHand] at did
  obtain ⟨loaded, saved, saving, sought, applied⟩ := did
  refine ⟨saved, saving.saved, ?_, ?_⟩
  · exact (AssignTicket.keeps_id applied).trans (sought.trans rivals.ticketId)
  · rw [AssignTicket.applied applied, rivals.assigneeId]
    rfl

/-- What the automatic assignment has done. -/
theorem Rivals.didAutomatically (rivals : Rivals db₀ auto manual job input person)
    (run : Run Config.step (.start db₀ [auto, manual]) history c) {s : Session ticketing} (isAuto : s.job = auto)
    (found : c.sessions[0]? = some s) {out : Except TicketingError Output} (committed : s.status = .committed out) :
    AutoAssignTicket.Did job auto.ambient.now s.trace := by
  obtain ⟨output, isOk⟩ := ok_of_committed run found committed
  have did := did_of_run run found committed output isOk
  rw [isAuto, rivals.automatic] at did
  exact did

/-- An automatic assignment that has loaded the ticket unassigned has loaded it open. -/
theorem Rivals.loadedOpen (rivals : Rivals db₀ auto manual job input person)
    (run : Run Config.step (.start db₀ [auto, manual]) history c) (order : Config.commitsOf history = [1, 0])
    {s : Session ticketing} (isAuto : s.job = auto) (found : c.sessions[0]? = some s) {t : Ticket}
    (savedByHand : savedBy c 1 = [t]) (sameId : t.id = job.ticketId) (byHand : t.assigneeId = .value person)
    {loaded : Ticket} (loads : loaded ∈ loadedTickets s.trace) (sought : loaded.id = job.ticketId)
    (unassigned : loaded.assigneeId = .null) : loaded.status ≠ .CLOSED := by
  obtain ⟨row₀, stored₀, _, _, opened⟩ := rivals.unassigned
  have commands : s.job.commands = true := by simp [Execution.commands, isAuto, rivals.automatic]
  obtain ⟨row, rfl, _, there⟩ := loaded_of_pair run order found commands loads
  rw [savedByHand, sought, List.foldl_cons, List.foldl_nil, find?_saveTicket_of_stored sameId stored₀, stored₀] at there
  rcases there rfl with same | same
  · cases same
    exact opened
  · cases same
    simp [toTicket, updateTicketRow, byHand, Nullable.toColumn, Nullable.ofColumn] at unassigned

/-- After an automatic and a manual assignment of an unassigned ticket have both committed, the person is
    assigned who was chosen by hand, if and only if the automatic one, if it has loaded the ticket unassigned,
    finds nobody assigned when it commits or has picked the same person. -/
theorem manualAssignment_kept_iff (rivals : Rivals db₀ auto manual job input person)
    (run : Run Config.step (.start db₀ [auto, manual]) history c) (closed : c.sessions.length = 2)
    {s₀ s₁ : Session ticketing} (at₀ : c.sessions[0]? = some s₀) (at₁ : c.sessions[1]? = some s₁)
    {out₀ out₁ : Except TicketingError Output} (status₀ : s₀.status = .committed out₀)
    (status₁ : s₁.status = .committed out₁) :
    (∃ row, c.db.tickets.find? job.ticketId = some row ∧ row.assigneeId = some person) ↔
      Meets (CommitsOnto OverridesNobody) history := by
  have isAuto : s₀.job = auto := (Option.some.inj (Config.job_of_run run closed at₀)).symm
  have isManual : s₁.job = manual := (Option.some.inj (Config.job_of_run run closed at₁)).symm
  obtain ⟨row₀, stored₀, _, unassigned, _⟩ := rivals.unassigned
  obtain ⟨t, saved₁, sameId, byHand⟩ := rivals.savedByHand run isManual at₁ status₁
  have did₀ := rivals.didAutomatically run isAuto at₀ status₀
  have manualFits (db : Db) : FindsLoaded OverridesNobody s₁.job s₁.trace db := by
    intro loaded _ row _ job' isJob
    rw [isManual, rivals.byHand] at isJob
    cases isJob
  rcases Config.commitsOf_pair repositories.deferred_transactional run closed ⟨s₀, out₀, at₀, status₀⟩
    ⟨s₁, out₁, at₁, status₁⟩ with order | order
  · -- the manual assignment comes last
    rw [tickets_of_pair run order, commitsOnto_iff run order at₀ at₁, savedBy_eq at₁, saved₁, List.foldl_cons,
      List.foldl_nil, find?_saveTicket, if_pos sameId.symm]
    refine iff_of_true ⟨_, rfl, ?_⟩ ⟨?_, manualFits _⟩
    · cases ((savedBy c 0).foldl saveTicket db₀.tickets).find? job.ticketId with
      | none => simp [createTicketRow, byHand, Nullable.toColumn]
      | some row => simp [updateTicketRow, byHand, Nullable.toColumn]
    · intro loaded loads row stored _ _ _ _ _
      rw [did₀.sought loaded loads, stored₀] at stored
      cases stored
      exact .inl unassigned
  · -- the automatic assignment comes last
    have stored₁ : (saveTicket db₀.tickets t).find? job.ticketId = some (updateTicketRow t row₀) :=
      find?_saveTicket_of_stored sameId stored₀
    have assigned : (updateTicketRow t row₀).assigneeId = some person := by
      simp [updateTicketRow, byHand, Nullable.toColumn]
    have left := tickets_of_first c db₀ 1
    rw [savedBy_eq at₁, saved₁, List.foldl_cons, List.foldl_nil] at left
    have picks : AutoAssignTicket.elegido job (db₀.after (c.writesOf 1)) = AutoAssignTicket.elegido job db₀ :=
      AutoAssignTicket.elegido_congr (memberships_after (c.writesOf 1) db₀)
    have own : s₀.job.ctx.tenant = some job.tenantId := by
      rw [isAuto, Execution.ctx, rivals.automatic]
      rfl
    rw [tickets_of_pair run order, commitsOnto_iff run order at₁ at₀, savedBy_eq at₀, savedBy_eq at₁, saved₁,
      List.foldl_cons, List.foldl_nil, and_iff_right (manualFits db₀)]
    cases did₀ with
    | skipped nothing sought reason =>
        rw [nothing]
        refine iff_of_true ⟨_, stored₁, assigned⟩ ?_
        intro loaded loads row _ job' isJob isNull u picked
        rw [isAuto, rivals.automatic] at isJob
        cases isJob
        rcases reason loaded loads isNull with isClosed | consulted
        · have opened := rivals.loadedOpen run order isAuto at₀ ((savedBy_eq at₁).trans saved₁) sameId byHand loads
            (sought loaded loads) isNull
          exact absurd isClosed opened
        · rw [picks, AutoAssignTicket.elegido_of_none (consulted_of_run run at₀ own consulted).symm] at picked
          cases picked
    | @assigned loaded a agentes saving sought isNull consulted assigns =>
        have chosen : a.id = job.ticketId ∧ a.assigneeId = AutoAssignTicket.elegido job db₀ := by
          have isChosen := Ticket.assigneeId_of_assignTo assigns
          rw [consulted_of_run run at₀ own consulted] at isChosen
          exact ⟨(Ticket.assignTo_commanded assigns).1.id.trans sought, isChosen⟩
        have last : (saveTicket (saveTicket db₀.tickets t) a).find? job.ticketId =
            some (updateTicketRow a (updateTicketRow t row₀)) :=
          find?_saveTicket_of_stored chosen.1 stored₁
        rw [saving.saved, List.foldl_cons, List.foldl_nil, last,
          findsLoaded_iff saving.loaded sought (left ▸ stored₁)]
        constructor
        · intro kept job' isJob _ u picked
          obtain ⟨row, isRow, same⟩ := kept
          cases isRow
          rw [isAuto, rivals.automatic] at isJob
          cases isJob
          simp only [updateTicketRow, chosen.2, picks.symm.trans picked, Nullable.toColumn] at same
          exact .inr (assigned.trans same.symm)
        · intro fits
          refine ⟨_, rfl, ?_⟩
          have found := fits job (by rw [isAuto, rivals.automatic]) isNull
          rw [updateTicketRow, chosen.2]
          cases picked : AutoAssignTicket.elegido job db₀ with
          | undefined => exact assigned
          | null => exact absurd picked (elementAt_ne_null _ _)
          | value u =>
              rcases found u (picks.trans picked) with none | same
              · rw [assigned] at none
                cases none
              · exact same.symm.trans assigned

end Runs

section Example

/-- An open ticket of a tenant with two agents. -/
def unassignedDb : Db :=
  (serve (exampleExecution 0 (.createTicket ⟨⟨1⟩, ⟨2⟩, "Hola", "No entra", .HIGH⟩))
    { Db.empty with
      memberships := (Table.empty.insert { tenantId := ⟨1⟩, userId := ⟨3⟩, role := .AGENT }).insert
        { tenantId := ⟨1⟩, userId := ⟨4⟩, role := .AGENT } }).2

/-- The job of the ticket, which chooses the first agent. -/
def automaticInput : AutoAssignTicketInput :=
  ⟨102, ⟨1⟩, ⟨100⟩, 1⟩

def automaticJob : Execution :=
  exampleExecution 1 (.autoAssignTicket automaticInput)

/-- A person chooses the second agent. -/
def manualInput : AssignTicketInput :=
  ⟨⟨1⟩, ⟨9⟩, ⟨100⟩, some ⟨4⟩⟩

def manualJob : Execution :=
  exampleExecution 2 (.assignTicket manualInput)

theorem rivals_example : Rivals unassignedDb automaticJob manualJob automaticInput manualInput ⟨4⟩ where
  automatic := rfl
  byHand := rfl
  tenantId := rfl
  ticketId := rfl
  assigneeId := rfl
  unassigned := by
    have stored : (unassignedDb.tickets.find? ⟨100⟩).map (fun r => (r.tenantId, r.assigneeId, r.status)) =
        some (⟨1⟩, none, .OPEN) := by decide
    obtain ⟨row, found, facts⟩ := Option.map_eq_some_iff.mp stored
    simp only [Prod.mk.injEq] at facts
    obtain ⟨tenant, nobody, isOpen⟩ := facts
    refine ⟨row, found, tenant, nobody, ?_⟩
    rw [isOpen]
    decide

/-- The job and the person's assignment begin. -/
def rivalsStart : Config ticketing :=
  .start unassignedDb [automaticJob, manualJob]

/-- What is known of a schedule that ends with both committed. -/
theorem committed_of_schedule (schedule : List (Move ticketing)) (assigneeId : Option UserId)
    (possible : (play Config.step rivalsStart schedule).map (fun c => (c.sessions.length,
      (c.sessions[0]?.bind committedOutput).isSome, (c.sessions[1]?.bind committedOutput).isSome,
      (c.db.tickets.find? ⟨100⟩).map TicketRow.assigneeId)) = some (2, true, true, some assigneeId)) :
    ∃ (c : Config ticketing) (s₀ s₁ : Session ticketing) (out₀ out₁ : Except TicketingError Output) (row : TicketRow),
      Run Config.step rivalsStart (playHistory Config.step rivalsStart schedule) c ∧ c.sessions.length = 2 ∧
        c.sessions[0]? = some s₀ ∧ c.sessions[1]? = some s₁ ∧ s₀.status = .committed out₀ ∧
        s₁.status = .committed out₁ ∧ c.db.tickets.find? ⟨100⟩ = some row ∧ row.assigneeId = assigneeId := by
  obtain ⟨c, played, facts⟩ := Option.map_eq_some_iff.mp possible
  simp only [Prod.mk.injEq, Option.bind_eq_some_iff, Option.isSome_iff_exists, Option.map_eq_some_iff] at facts
  obtain ⟨closed, ⟨out₀, s₀, at₀, ended₀⟩, ⟨out₁, s₁, at₁, ended₁⟩, row, stored, chosen⟩ := facts
  exact ⟨c, s₀, s₁, out₀, out₁, row, play_run played, closed, at₀, at₁, committedOutput_eq_some_iff.mp ended₀,
    committedOutput_eq_some_iff.mp ended₁, stored, chosen⟩

/-- The job has loaded the ticket when the person's assignment goes in between. -/
def overtaking : List (Move ticketing) :=
  [.call 0 0, .call 0 0, .call 1 0, .call 1 0, .call 1 0, .call 1 0, .call 1 0, .finish 1,
    .call 0 0, .call 0 0, .call 0 0, .call 0 0, .finish 0]

/-- The person's assignment has loaded the ticket when the job goes in between. -/
def personLast : List (Move ticketing) :=
  [.call 1 0, .call 1 0, .call 0 0, .call 0 0, .call 0 0, .call 0 0, .call 0 0, .call 0 0, .finish 0,
    .call 1 0, .call 1 0, .call 1 0, .finish 1]

/-- The agent the job has chosen is assigned after both have committed. -/
theorem overtaking_lost :
    ∃ (c : Config ticketing) (s₀ s₁ : Session ticketing) (out₀ out₁ : Except TicketingError Output),
      Run Config.step rivalsStart (playHistory Config.step rivalsStart overtaking) c ∧ c.sessions.length = 2 ∧
        c.sessions[0]? = some s₀ ∧ c.sessions[1]? = some s₁ ∧ s₀.status = .committed out₀ ∧
        s₁.status = .committed out₁ ∧
        ¬∃ row, c.db.tickets.find? ⟨100⟩ = some row ∧ row.assigneeId = some ⟨4⟩ := by
  obtain ⟨c, s₀, s₁, out₀, out₁, row, run, closed, at₀, at₁, ended₀, ended₁, stored, chosen⟩ :=
    committed_of_schedule overtaking (some ⟨3⟩) (by decide)
  refine ⟨c, s₀, s₁, out₀, out₁, run, closed, at₀, at₁, ended₀, ended₁, ?_⟩
  intro kept
  obtain ⟨row', stored', person⟩ := kept
  cases stored.symm.trans stored'
  cases chosen.symm.trans person

/-- The person's assignment of a ticket the job has loaded before does not last. -/
theorem manualAssignment_overtaken :
    Rivals unassignedDb automaticJob manualJob automaticInput manualInput ⟨4⟩ ∧
      ∃ (history : List (Config ticketing × Move ticketing)) (c : Config ticketing) (s₀ s₁ : Session ticketing)
        (out₀ out₁ : Except TicketingError Output),
        Run Config.step (.start unassignedDb [automaticJob, manualJob]) history c ∧ c.sessions.length = 2 ∧
          c.sessions[0]? = some s₀ ∧ c.sessions[1]? = some s₁ ∧ s₀.status = .committed out₀ ∧
          s₁.status = .committed out₁ ∧
          ¬∃ row, c.db.tickets.find? ⟨100⟩ = some row ∧ row.assigneeId = some ⟨4⟩ :=
  ⟨rivals_example, _, overtaking_lost⟩

/-- Of two runs in which the transactions overlap, one meets the condition and the other one does not. -/
theorem manualAssignment_kept_iff_overlapping :
    (∃ c, Run Config.step rivalsStart (playHistory Config.step rivalsStart personLast) c ∧
      (∃ row, c.db.tickets.find? ⟨100⟩ = some row ∧ row.assigneeId = some ⟨4⟩) ∧
      Meets (CommitsOnto OverridesNobody) (playHistory Config.step rivalsStart personLast)) ∧
    ∃ c, Run Config.step rivalsStart (playHistory Config.step rivalsStart overtaking) c ∧
      ¬Meets (CommitsOnto OverridesNobody) (playHistory Config.step rivalsStart overtaking) := by
  constructor
  · obtain ⟨c, s₀, s₁, out₀, out₁, row, run, closed, at₀, at₁, ended₀, ended₁, stored, chosen⟩ :=
      committed_of_schedule personLast (some ⟨4⟩) (by decide)
    have iff := manualAssignment_kept_iff rivals_example run closed at₀ at₁ ended₀ ended₁
    exact ⟨c, run, ⟨row, stored, chosen⟩, iff.mp ⟨row, stored, chosen⟩⟩
  · obtain ⟨c, s₀, s₁, out₀, out₁, run, closed, at₀, at₁, ended₀, ended₁, lost⟩ := overtaking_lost
    have iff := manualAssignment_kept_iff rivals_example run closed at₀ at₁ ended₀ ended₁
    exact ⟨c, run, fun meets => lost (iff.mpr meets)⟩

end Example

end Helpdesk
