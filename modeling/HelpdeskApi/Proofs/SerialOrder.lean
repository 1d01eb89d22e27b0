/-
Module: HelpdeskApi.Proofs.SerialOrder
Layer: Proofs
Purpose: Interleaved use cases come to what serving them one after the other comes to, in the order of their
  commits, unless one of them commits a change of what another running one has looked up. Everything else a
  use case reads it has locked. Use cases that create tickets look up nothing, and the others on tickets only
  the one they are about, so those that are about different tickets never come out differently.
Trusted boundary: none
Main exports: Call.looksUp, NothingStale, serveInTurn, serial_unless_stale, Execution.looksAt, Execution.saves,
  OnDifferentTickets, serial_on_different_tickets
-/
import HelpdeskApi.Application.SerialRuns
import HelpdeskApi.Application.TicketCommands
import HelpdeskApi.Store.ReadSets

namespace Helpdesk

open Relational Txn Transition

/-- The use cases served one after the other. -/
abbrev serveInTurn : List Execution → Db → List (Option (Except TicketingError Output)) × Db :=
  repositories.inTurn Execution.ctx Execution.program commitsResult

/-- A call that reads without a lock. The other calls lock what they read, or read the memberships, which no use
    case changes. -/
def Call.looksUp : Call → Bool
  | .ticketsFindById _ _ | .timersFindById _ _ | .timersFindRunning _ _ _ | .policiesOverridesOf _
  | .policiesRemove _ _ | .ticketsFindMany _ _ _ _ _ _ | .ticketsFindWithRelations _ _ | .auditLogsFindMany _ _ _ => true
  | _ => false

/-- If the move commits a use case, nothing changes by it that another running one has looked up. -/
def NothingStale (c : Config ticketing) (m : Move ticketing) : Prop :=
  ∀ i, c.committing m = some i → ∀ (j : Nat) (t : Session ticketing), j ≠ i → c.sessions[j]? = some t →
    ∀ rest, t.status = .running rest → ∀ e ∈ t.trace, e.call.looksUp = true → ∀ p ∈ e.call.reads t.job.ctx,
      (c.db.after (c.writesOf i)).at p = c.db.at p

/-- A call that does not look up locks what it reads, but for the memberships and for a claim that is refused. -/
theorem locked_of_exec {ctx : Ctx} {c : Call} {db : Db} {reply : c.Reply} {writes : List Write}
    (answered : exec ctx c db = some (reply, writes)) (locks : c.looksUp = false) {p : Place} (read : p ∈ c.reads ctx) :
    p = .memberships ∨ (∃ consumer eventId tenantId, c = .processedClaim consumer eventId tenantId ∧
      p = .row (.processed consumer eventId)) ∨ ∃ w ∈ writes, ∃ k ∈ w.keys, p = .row k := by
  cases c with
  | membersIsMember | membersAgentsOf => exact .inl (List.mem_singleton.mp read)
  | processedClaim consumer eventId tenantId =>
      exact .inr (.inl ⟨consumer, eventId, tenantId, rfl, List.mem_singleton.mp read⟩)
  | numbersNext | commentsSave | auditLogsRecord =>
      simp only [exec] at answered
      split at answered
      · cases answered
        exact .inr (.inr ⟨_, List.mem_singleton_self _, _, List.mem_singleton_self _, List.mem_singleton.mp read⟩)
      · cases answered
  | ticketsSave ticket =>
      refine .inr (.inr ⟨.upsertTicket ticket, by simp [writes_of_ticketsSave answered], ?_⟩)
      simpa [Write.keys, Call.reads] using read
  | timersSave timer =>
      refine .inr (.inr ⟨.upsertTimer timer, by simp [writes_of_timersSave answered], ?_⟩)
      simpa [Write.keys, Call.reads] using read
  | outboxAppend records =>
      obtain ⟨r, inside, rfl⟩ := List.mem_map.mp read
      simp only [exec] at answered
      split at answered
      · cases answered
        refine .inr (.inr ⟨.insertOutbox (records.map (·.row ctx.requestId)), ?_, .outbox r.id, ?_, rfl⟩)
        · rw [if_neg (List.ne_nil_of_mem inside)]
          exact List.mem_singleton_self _
        · exact List.mem_map.mpr ⟨r.row ctx.requestId, List.mem_map.mpr ⟨r, inside, rfl⟩, rfl⟩
      · cases answered
  | policiesUpsert => cases read
  | _ => cases locks

section Runs

variable {db₀ : Db} {jobs : List Execution} {history : List (Config ticketing × Move ticketing)}
  {c : Config ticketing} {m : Move ticketing} {i : Nat} {s : Session ticketing}

/-- What a use case has claimed, or has found claimed, it sees marked. -/
def ClaimsMarked (c : Config ticketing) : Prop :=
  ∀ (j : Nat) (t : Session ticketing), c.sessions[j]? = some t → ∀ e ∈ t.trace, ∀ consumer eventId tenantId,
    e.call = .processedClaim consumer eventId tenantId → Db.marked (.processed consumer eventId) (t.view c.db)

theorem ClaimsMarked.step {c' : Config ticketing} (claims : ClaimsMarked c) (taken : c.step m = some c') :
    ClaimsMarked c' := by
  have grows : ∀ k, Db.marked k c.db → Db.marked k c'.db := by
    intro k marked
    rw [Config.db_step repositories.deferred_transactional taken]
    exact (marking.applyAll_iff _ c.db k).mpr (.inl marked)
  have kept {t t' : Session ticketing} (later : t.trace <+: t'.trace) {k : RowKey}
      (seen : Db.marked k (t.view c.db)) : Db.marked k (t'.view c'.db) := by
    refine (marking.view_iff t' c'.db k).mpr (((marking.view_iff t c.db k).mp seen).imp (grows k) ?_)
    rintro ⟨w, written, mark⟩
    obtain ⟨more, whole⟩ := later
    refine ⟨w, ?_, mark⟩
    rw [← whole, Store.pending, List.flatMap_append]
    exact List.mem_append_left _ written
  intro j t at_j e made consumer eventId tenantId isClaim
  rcases Config.trace_of_step taken at_j with (nothing | ⟨s, found, _, same⟩) | ⟨s, rest, ev, found, _, _, longer, answered⟩
  · rw [nothing] at made
    cases made
  · exact kept (same ▸ List.prefix_rfl) (claims j s found e (same ▸ made) consumer eventId tenantId isClaim)
  · rw [longer, List.mem_append, List.mem_singleton] at made
    have later : s.trace <+: t.trace := longer ▸ List.prefix_append _ _
    rcases made with before | rfl
    · exact kept later (claims j s found e before consumer eventId tenantId isClaim)
    · obtain ⟨call, o⟩ := e
      cases isClaim
      rcases exec_claim (repositories.mem_inTransaction.mp answered).2.1 with ⟨_, wrote, _⟩ | ⟨_, _, seen⟩
      · refine (marking.view_iff t c'.db _).mpr
          (.inr ⟨.insertProcessed ⟨consumer, eventId, tenantId⟩, ?_, List.mem_singleton_self _⟩)
        rw [longer, Store.pending_append, wrote]
        exact List.mem_append_right _ (List.mem_singleton_self _)
      · exact kept later seen

theorem claimsMarked_of_run (run : Run Config.step (.start db₀ jobs) history c) : ClaimsMarked c := by
  refine run.invariant ?_ fun _ _ _ claims taken => claims.step taken
  intro j t at_j e made
  obtain ⟨job, _, rfl⟩ := Config.start_session at_j
  cases made

/-- Where a call does not look up without a lock, what it has read stays as it is until its use case ends. -/
theorem unchanged_unless_looked_up (run : Run Config.step (.start db₀ jobs) history c) (commit : c.committing m = some i)
    {j : Nat} {t : Session ticketing} {rest : Proc sig (Except TicketingError Output)} (different : j ≠ i)
    (found : c.sessions[j]? = some t) (running : t.status = .running rest) {e : repositories.transactional.Event}
    (made : e ∈ t.trace) (locks : e.call.looksUp = false) {p : Place} (read : p ∈ e.call.reads t.job.ctx) :
    (c.db.after (c.writesOf i)).at p = c.db.at p := by
  -- under a lock that the use case holds
  have held {k : RowKey} (locked : k ∈ repositories.transactional.locked t.trace) :
      (c.db.after (c.writesOf i)).at (.row k) = c.db.at (.row k) :=
    Config.unchanged_of_held careful readSets run commit different found running locked
      fun w db unlocked => Db.at_row_apply unlocked db
  have locked_of_wrote {w : Write} (wrote : w ∈ e.outcome.writes) {k : RowKey} (key : k ∈ w.keys) :
      k ∈ repositories.transactional.locked t.trace := by
    rw [locked_of_run run found]
    exact List.mem_flatMap.mpr ⟨w, List.mem_flatMap.mpr ⟨e, made, wrote⟩, key⟩
  have produced : repositories.transactional.Plausible t.job.ctx e := by
    refine Config.trace_of_run (A := ticketing)
      (I := fun job trace => ∀ e ∈ trace, repositories.transactional.Plausible (Execution.ctx job) e)
      (fun job e nothing => ?_) (fun job trace e produced before e' inside => ?_) run found e made
    · cases nothing
    · rcases List.mem_append.mp inside with earlier | last
      · exact before e' earlier
      · exact List.mem_singleton.mp last ▸ produced
  obtain ⟨⟨db, answered⟩, _⟩ := repositories.plausible_transactional produced
  rcases locked_of_exec answered locks read with rfl | ⟨consumer, eventId, tenantId, isClaim, rfl⟩ | ⟨w, wrote, k, key, rfl⟩
  · exact memberships_after _ c.db
  · rcases (marking.view_iff t c.db _).mp (claimsMarked_of_run run j t found e made consumer eventId tenantId isClaim)
      with marked | marks
    · obtain ⟨row, stored⟩ := Option.isSome_iff_exists.mp marked
      exact (find?_processed_after _ stored).trans stored.symm
    · exact held (marking.locked_of_run run found marks)
  · exact held (locked_of_wrote wrote key)

/-- However use cases interleave: unless one of them commits a change of what another running one has looked up,
    the database and the answers are those of serving the committed ones one after the other, in the order of
    their commits. -/
theorem serial_unless_stale (run : Run Config.step (.start db₀ jobs) history c) (fresh : Meets NothingStale history) :
    serveInTurn ((c.served (Config.commitsOf history)).map Prod.fst) db₀ =
      ((c.served (Config.commitsOf history)).map fun entry => some entry.2, c.db) := by
  have undisturbed : Meets (Config.Undisturbed readSets) history := by
    intro entry member i commit j t different found rest running e made p read
    obtain ⟨earlier, reached, _⟩ := run.mem_history member
    cases looks : e.call.looksUp with
    | true => exact fresh entry member i commit j t different found rest running e made looks p read
    | false => exact unchanged_unless_looked_up reached commit different found running made looks read
  exact Config.serial_of_run readSets run undisturbed

section Example

/-- Whether a move commits a use case, if it does, while no other running one has looked up anything. -/
def commitsQuietly (entry : Config ticketing × Move ticketing) : Bool :=
  (entry.1.committing entry.2).all fun i =>
    (List.range entry.1.sessions.length).all fun j =>
      j = i || (entry.1.sessions[j]?).all fun t =>
        !t.isRunning || t.trace.all fun e => !Call.looksUp e.call

theorem nothingStale_of_quiet {entry : Config ticketing × Move ticketing} (quiet : commitsQuietly entry = true) :
    NothingStale entry.1 entry.2 := by
  intro i commit j t other found rest running e made looks
  have inside := (List.getElem?_eq_some_iff.mp found).1
  simp only [commitsQuietly, commit, Option.all_some, List.all_eq_true, List.mem_range] at quiet
  have each := quiet j inside
  simp only [other, decide_false, Bool.false_or, found, Option.all_some, Session.isRunning, running, Bool.not_true,
    List.all_eq_true, Bool.not_eq_true'] at each
  exact absurd looks (by rw [each e made]; exact Bool.false_ne_true)

/-- Two tickets of one tenant, and a change of the status of the first. -/
def exampleWork : List Execution :=
  [exampleExecution 0 (.createTicket ⟨⟨1⟩, ⟨5⟩, "Hola", "No entra", .HIGH⟩),
    exampleExecution 1 (.createTicket ⟨⟨1⟩, ⟨6⟩, "Otra", "No sale", .LOW⟩),
    exampleExecution 2 (.changeTicketStatus ⟨⟨1⟩, ⟨6⟩, ⟨100⟩, .IN_PROGRESS⟩)]

/-- The second ticket is begun once the first is committed, and committed once its status is changed. -/
def exampleInterleaving : List (Move ticketing) :=
  [.call 0 0, .call 0 0, .call 0 0, .call 0 0, .finish 0, .call 1 0, .call 2 0, .call 1 0, .call 2 0, .call 1 0,
    .call 2 0, .call 2 0, .finish 2, .call 1 0, .finish 1]

theorem serial_unless_stale_example :
    ∃ history c, Run Config.step (.start (A := ticketing) .empty exampleWork) history c ∧
      Config.commitsOf history = [0, 2, 1] ∧
        serveInTurn ((c.served [0, 2, 1]).map Prod.fst) .empty =
          ((c.served [0, 2, 1]).map fun entry => some entry.2, c.db) := by
  have possible : (play Config.step (.start (A := ticketing) .empty exampleWork) exampleInterleaving).isSome = true := by
    decide
  obtain ⟨c, played⟩ := Option.isSome_iff_exists.mp possible
  have order : Config.commitsOf (playHistory Config.step (.start (A := ticketing) .empty exampleWork)
      exampleInterleaving) = [0, 2, 1] := by decide
  have quiet : (playHistory Config.step (.start (A := ticketing) .empty exampleWork) exampleInterleaving).all
      commitsQuietly = true := by decide
  have serial := serial_unless_stale (play_run played) fun entry member =>
    nothingStale_of_quiet (List.all_eq_true.mp quiet entry member)
  exact ⟨_, c, play_run played, order, order ▸ serial⟩

end Example

end Runs

/-- A use case on one ticket. -/
def UseCase.isTicketCommand : UseCase → Bool
  | .createTicket _ | .assignTicket _ | .autoAssignTicket _ | .changeTicketStatus _ | .addComment _ => true
  | _ => false

namespace Execution

/-- The ticket a use case looks up to change it. -/
def looksAt (e : Execution) : Option TicketId :=
  match e.useCase with
  | .assignTicket input => some input.ticketId
  | .autoAssignTicket input => some input.ticketId
  | .changeTicketStatus input => some input.ticketId
  | .addComment input => some input.ticketId
  | _ => none

/-- The ticket a use case saves: the one it looks up, or a new one. -/
def saves (e : Execution) : Option TicketId :=
  match e.useCase with
  | .createTicket _ => some ⟨e.ambient.uuid 0⟩
  | _ => e.looksAt

/-- A call of a use case that looks up no ticket but its own, and saves a new one only under its own id. -/
def MayCall (e : Execution) (c : Call) : Prop :=
  (c.looksUp = true → ∃ tenantId id, c = .ticketsFindById tenantId id ∧ e.looksAt = some id) ∧
    (e.opensTicket = true → ∀ ticket, c = .ticketsSave ticket → e.saves = some ticket.id)

variable {e : Execution} {α : Type}

/-- Neither a look-up nor a ticket saved. -/
theorem mayCall_of_other {c : Call} (locks : c.looksUp = false) (other : ∀ ticket, c ≠ .ticketsSave ticket) :
    e.MayCall c :=
  ⟨fun looks => by simp [locks] at looks, fun _ ticket isSave => absurd isSave (other ticket)⟩

theorem mayCall_find {tenantId : TenantId} {id : TicketId} (own : e.looksAt = some id) :
    e.MayCall (.ticketsFindById tenantId id) :=
  ⟨fun _ => ⟨tenantId, id, rfl, own⟩, fun _ _ => nofun⟩

theorem mayCall_save (existing : e.opensTicket = false) (ticket : Ticket) : e.MayCall (.ticketsSave ticket) :=
  ⟨nofun, fun opens => by simp [existing] at opens⟩

/-- The end of every command: the entry of the audit log, and the events. -/
theorem mayCall_recorded {entry : AuditLog} {uuid : Nat → Uuid} {aggregate : Ticket} {a : α} :
    (Proc.call (S := sig) (.auditLogsRecord entry) fun _ =>
      EventRecorder.record uuid aggregate >>= fun _ => .done a).Within e.MayCall fun _ => True := by
  refine ⟨mayCall_of_other rfl (fun _ => nofun), fun _ => ?_⟩
  unfold EventRecorder.record
  simp only
  split
  · trivial
  · exact ⟨mayCall_of_other rfl (fun _ => nofun), fun _ => trivial⟩

/-- What a command calls, whatever its calls answer. -/
theorem mayCall (command : e.useCase.isTicketCommand = true) : e.program.Within e.MayCall fun _ => True := by
  obtain ⟨useCase, ambient, requestId⟩ := e
  cases useCase with
  | createTicket input =>
      refine (Proc.within_map _ _).mpr (.ask (mayCall_of_other rfl fun _ => nofun) fun number => ?_)
      split
      · trivial
      · rename_i opened
        refine .ask ⟨nofun, fun _ saved isSave => ?_⟩ fun _ => mayCall_recorded
        cases isSave
        rw [Ticket.opened_eq opened]
        rfl
  | assignTicket input =>
      refine (Proc.within_map _ _).mpr (.ask (mayCall_find rfl) fun located => ?_)
      cases located with
      | none => trivial
      | some ticket =>
          have asked : (AssignTicket.assigneeExists input.tenantId input.assigneeId).Within
              (MayCall ⟨.assignTicket input, ambient, requestId⟩) fun _ => True := by
            cases input.assigneeId with
            | none => trivial
            | some assigneeId => exact ⟨mayCall_of_other rfl (fun _ => nofun), fun _ => trivial⟩
          refine asked.bind fun acceptable _ => ?_
          split
          · split
            · trivial
            · exact .ask (mayCall_save rfl _) fun _ => mayCall_recorded
          · trivial
  | autoAssignTicket input =>
      refine (Proc.within_map _ _).mpr (.ask (mayCall_of_other rfl fun _ => nofun) fun claimed => ?_)
      cases claimed with
      | false => trivial
      | true =>
          refine .ask (mayCall_find rfl) fun located => ?_
          cases located with
          | none => trivial
          | some ticket =>
              simp only
              split
              · trivial
              · refine .ask (mayCall_of_other rfl fun _ => nofun) fun agentes => ?_
                split
                · trivial
                · split
                  · trivial
                  · exact .ask (mayCall_save rfl _) fun _ => mayCall_recorded
  | changeTicketStatus input =>
      refine (Proc.within_map _ _).mpr (.ask (mayCall_find rfl) fun located => ?_)
      cases located with
      | none => trivial
      | some ticket =>
          simp only
          split
          · trivial
          · split
            · trivial
            · exact .ask (mayCall_save rfl _) fun _ => mayCall_recorded
  | addComment input =>
      refine (Proc.within_map _ _).mpr (.ask (mayCall_find rfl) fun located => ?_)
      cases located with
      | none => trivial
      | some ticket =>
          simp only
          split
          · split
            · trivial
            · split
              · trivial
              · exact .ask (mayCall_of_other rfl fun _ => nofun) fun _ =>
                  .ask (mayCall_save rfl _) fun _ => mayCall_recorded
          · trivial
  | _ => cases command

end Execution

section DifferentTickets

variable {db₀ : Db} {jobs : List Execution} {history : List (Config ticketing × Move ticketing)}
  {c : Config ticketing} {i : Nat} {s : Session ticketing}

/-- What a command has called in a run, and what the calls came out as. -/
theorem calls_of_run (run : Run Config.step (.start db₀ jobs) history c) (found : c.sessions[i]? = some s)
    (command : s.job.useCase.isTicketCommand = true) {ev : repositories.transactional.Event} (made : ev ∈ s.trace) :
    s.job.MayCall ev.call ∧ repositories.transactional.Plausible s.job.ctx ev := by
  let Called (e : Execution) (trace : List repositories.transactional.Event) : Prop :=
    e.useCase.isTicketCommand = true → ∀ ev ∈ trace, e.MayCall ev.call ∧ repositories.transactional.Plausible e.ctx ev
  have spec (e : Execution) : Called e [] ∧
      e.program.Satisfies (repositories.transactional.Plausible e.ctx) (Called e) (fun _ _ => True) [] := by
    have begins : Called e [] := fun _ _ nothing => nomatch nothing
    refine ⟨begins, ?_⟩
    by_cases command : e.useCase.isTicketCommand = true
    · refine ((Execution.mayCall command).satisfies (fun trace ev produced may before _ ev' inside => ?_) begins).mono
        (fun _ called => called) fun _ _ _ => trivial
      rcases List.mem_append.mp inside with earlier | last
      · exact before command ev' earlier
      · exact List.mem_singleton.mp last ▸ ⟨may, produced⟩
    · exact Proc.satisfies_of_forall (fun _ isCommand => absurd isCommand command) (fun _ _ => trivial) _ _
  exact (Config.conforms_of_run (A := ticketing) (R := Called) (Q := fun _ _ _ => True) spec run i s found).trace
    command ev made

/-- A command saves no ticket but its own. -/
theorem saves_of_run (run : Run Config.step (.start db₀ jobs) history c) (found : c.sessions[i]? = some s)
    (command : s.job.useCase.isTicketCommand = true) {ticket : Ticket} (saved : ticket ∈ savedTickets s.trace) :
    s.job.saves = some ticket.id := by
  have calls (ev : repositories.transactional.Event) (made : ev ∈ s.trace) :
      s.job.MayCall ev.call ∧ repositories.transactional.Plausible s.job.ctx ev :=
    calls_of_run run found command made
  cases opens : s.job.opensTicket with
  | true =>
      obtain ⟨w, written, isSave⟩ := List.mem_filterMap.mp saved
      obtain ⟨ev, made, wrote⟩ := List.mem_flatMap.mp written
      obtain ⟨may, produced⟩ := calls ev made
      obtain ⟨⟨db, answered⟩, _⟩ := repositories.plausible_transactional produced
      cases w with
      | upsertTicket ticket' =>
          cases isSave
          exact may.2 opens ticket (ticketsSave_of_upsert answered wrote)
      | _ => cases isSave
  | false =>
      have snapshot := (Config.conforms_of_run (A := ticketing)
        (R := fun e trace => Execution.opensTicket e = false → SavesSnapshot e trace) (Q := fun _ _ _ => True)
        Execution.ticket_spec run i s found).trace
      rcases snapshot opens with nothing | ⟨loaded, saved', loads, saves, isSnapshot⟩
      · rw [nothing] at saved
        cases saved
      · rw [saves, List.mem_singleton] at saved
        subst saved
        have inside : loaded ∈ loadedTickets s.trace := loads ▸ List.mem_singleton_self _
        obtain ⟨ev, made, isLoad⟩ := List.mem_filterMap.mp inside
        obtain ⟨may, produced⟩ := calls ev made
        obtain ⟨⟨db, answered⟩, _⟩ := repositories.plausible_transactional produced
        obtain ⟨call, o⟩ := ev
        cases call with
        | ticketsFindById tenantId id =>
            obtain ⟨tenantId', id', same, own⟩ := may.1 rfl
            cases same
            change o.reply = some loaded at isLoad
            have finds : exec s.job.ctx (.ticketsFindById tenantId id) db = some (o.reply, o.writes) := answered
            rw [isLoad] at finds
            obtain ⟨row, stored, rfl⟩ := found_ticket finds
            have key : row.id = id := Table.key_of_find? stored
            have own' : s.job.saves = s.job.looksAt := by
              unfold Execution.opensTicket at opens
              unfold Execution.saves
              split
              · rename_i creates
                rw [creates] at opens
                cases opens
              · rfl
            rw [own', own, isSnapshot.id, toTicket_id, key]
        | _ => cases isLoad

/-- No use case saves the ticket another one looks up. -/
def OnDifferentTickets (c : Config ticketing) : Prop :=
  ∀ (i j : Nat) (s t : Session ticketing), i ≠ j → c.sessions[i]? = some s → c.sessions[j]? = some t →
    ∀ id, t.job.looksAt = some id → s.job.saves ≠ some id

/-- However commands on tickets interleave that are about different tickets, whichever of them fail or die: the
    database and the answers are those of serving the committed ones one after the other, in the order of their
    commits. -/
theorem serial_on_different_tickets (run : Run Config.step (.start db₀ jobs) history c)
    (commands : ∀ s ∈ c.sessions, s.job.useCase.isTicketCommand = true) (different : OnDifferentTickets c) :
    serveInTurn ((c.served (Config.commitsOf history)).map Prod.fst) db₀ =
      ((c.served (Config.commitsOf history)).map fun entry => some entry.2, c.db) := by
  have undisturbed : Meets (Config.Undisturbed readSets) history := by
    intro entry member i commit j t other at_j rest running e made p read
    obtain ⟨earlier, later, c', reached, taken, after, _⟩ := run.split member
    have goesOn : Run Config.step entry.1 ((entry.1, entry.2) :: later) c := .cons taken after
    have command : ∀ s ∈ entry.1.sessions, UseCase.isTicketCommand (Execution.useCase s.job) = true :=
      Config.forall_job_of_later (A := ticketing) (P := fun e => (Execution.useCase e).isTicketCommand = true) goesOn
        commands
    cases looks : e.call.looksUp with
    | false => exact unchanged_unless_looked_up reached commit other at_j running made looks read
    | true =>
        obtain ⟨may, _⟩ := calls_of_run reached at_j (command t (List.mem_of_getElem? at_j)) made
        obtain ⟨tenantId, id, isLoad, own⟩ := may.1 looks
        have isRow : p = .row (.ticket id) := by
          change p ∈ Call.reads _ e.call at read
          rw [isLoad] at read
          exact List.mem_singleton.mp read
        subst isRow
        -- the use case that commits is about another ticket
        obtain ⟨s, out, _, at_i, _, _⟩ := Config.ending_of_committing commit
        obtain ⟨s', at_i', laterS⟩ := Config.later_of_run goesOn at_i
        obtain ⟨t', at_j', laterT⟩ := Config.later_of_run goesOn at_j
        rw [Config.writesOf_eq at_i]
        refine readSets.value_applyAll (fun w db unlocked => Db.at_row_apply unlocked db) (fun w written key => ?_) _
        cases w with
        | upsertTicket ticket =>
            have saves := saves_of_run reached at_i (command s (List.mem_of_getElem? at_i))
              (List.mem_filterMap.mpr ⟨.upsertTicket ticket, written, rfl⟩)
            have same : id = ticket.id := by simpa [Write.keys] using key
            exact different i j s' t' (Ne.symm other) at_i' at_j' id (laterT.job ▸ own) (laterS.job ▸ same ▸ saves)
        | insertOutbox rows =>
            obtain ⟨r, _, same⟩ := List.mem_map.mp key
            cases same
        | _ => simp [Write.keys] at key
  exact Config.serial_of_run readSets run undisturbed

section Example

/-- A ticket is there already; its status is changed while another one is created. -/
def exampleBusy : Config ticketing :=
  .start (serve (exampleExecution 0 (.createTicket ⟨⟨1⟩, ⟨5⟩, "Hola", "No entra", .HIGH⟩)) .empty).2
    [exampleExecution 1 (.createTicket ⟨⟨1⟩, ⟨6⟩, "Otra", "No sale", .LOW⟩),
      exampleExecution 2 (.changeTicketStatus ⟨⟨1⟩, ⟨6⟩, ⟨100⟩, .IN_PROGRESS⟩)]

/-- The ticket is looked up before the other one is committed. -/
def exampleOverlap : List (Move ticketing) :=
  [.call 1 0, .call 0 0, .call 0 0, .call 0 0, .call 0 0, .finish 0, .call 1 0, .call 1 0, .call 1 0, .finish 1]

theorem serial_on_different_tickets_example :
    ∃ history c, Run Config.step exampleBusy history c ∧ Config.commitsOf history = [0, 1] ∧
      serveInTurn ((c.served [0, 1]).map Prod.fst) exampleBusy.db =
        ((c.served [0, 1]).map fun entry => some entry.2, c.db) := by
  have possible : (play Config.step exampleBusy exampleOverlap).map (fun c => c.sessions.length) = some 2 := by decide
  obtain ⟨c, played, closed⟩ := Option.map_eq_some_iff.mp possible
  have order : Config.commitsOf (playHistory Config.step exampleBusy exampleOverlap) = [0, 1] := by decide
  have run := play_run played
  have job (i : Nat) (s : Session ticketing) (found : c.sessions[i]? = some s) :
      (i = 0 ∧ s.job = exampleExecution 1 (.createTicket ⟨⟨1⟩, ⟨6⟩, "Otra", "No sale", .LOW⟩)) ∨
        (i = 1 ∧ s.job = exampleExecution 2 (.changeTicketStatus ⟨⟨1⟩, ⟨6⟩, ⟨100⟩, .IN_PROGRESS⟩)) := by
    have isJob := Config.job_of_run run closed found
    match i with
    | 0 => exact .inl ⟨rfl, (Option.some.inj isJob).symm⟩
    | 1 => exact .inr ⟨rfl, (Option.some.inj isJob).symm⟩
    | _ + 2 => cases isJob
  have commands : ∀ s ∈ c.sessions, s.job.useCase.isTicketCommand = true := by
    intro s inside
    obtain ⟨i, found⟩ := List.mem_iff_getElem?.mp inside
    rcases job i s found with ⟨_, isJob⟩ | ⟨_, isJob⟩ <;> rw [isJob] <;> rfl
  have different : OnDifferentTickets c := by
    intro i j s t other at_i at_j id looks saves
    rcases job i s at_i with ⟨rfl, isJob⟩ | ⟨rfl, isJob⟩ <;> rcases job j t at_j with ⟨rfl, isJob'⟩ | ⟨rfl, isJob'⟩
    · exact other rfl
    · rw [isJob'] at looks
      rw [isJob] at saves
      cases looks
      exact absurd saves (by decide)
    · rw [isJob'] at looks
      cases looks
    · exact other rfl
  exact ⟨_, c, run, order, order ▸ serial_on_different_tickets run commands different⟩

end Example

end DifferentTickets

end Helpdesk
