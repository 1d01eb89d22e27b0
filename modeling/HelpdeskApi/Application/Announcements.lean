/-
Module: HelpdeskApi.Application.Announcements
Layer: Application
Purpose: Every use case announces only what has happened to a ticket: what it appends to the outbox was recorded by a
  command on a ticket that had recorded nothing before. So every message that is added to the outbox tells a fact.
Trusted boundary: none
Main exports: IntegrationEvent.IsFact, Truthful, Execution.truthful, OutboxRow.TellsFact, tellsFact_of_run
-/
import HelpdeskApi.Application.References
import HelpdeskApi.Library.CommitLog

namespace Helpdesk

open Txn Transition

/-- An event that is something that has happened to a ticket. -/
def IntegrationEvent.IsFact (e : IntegrationEvent) : Prop :=
  ∃ (fact : TicketingEvent) (ticketId : TicketId) (tenantId : TenantId) (occurredAt : Instant),
    e = fact.integration ticketId tenantId occurredAt

/-- What is appended to the outbox are facts. -/
def Call.Announces : Call → Prop
  | .outboxAppend records => ∀ record ∈ records, record.toIntegrationEvent.IsFact
  | _ => True

/-- A ticket that is answered has nothing recorded. -/
def Call.Fresh : (c : Call) → c.Reply → Prop
  | .ticketsFindById _ _, reply => ∀ ticket, reply = some ticket → ticket.domainEvents = []
  | _, _ => True

/-- A program that announces facts only, whatever it is answered. -/
def Truthful {α : Type} : Proc sig α → Prop
  | .done _ => True
  | .call c next => c.Announces ∧ ∀ reply, c.Fresh reply → Truthful (next reply)

section Programs

variable {α β : Type} {ticket ticket' : Ticket} {now : Instant} {command : Ticket.Command}

theorem Truthful.ask {c : Call} {f : c.Reply → Proc sig α} (announces : c.Announces)
    (rest : ∀ reply, c.Fresh reply → Truthful (f reply)) : Truthful (Proc.ask (S := sig) c >>= f) :=
  ⟨announces, rest⟩

theorem Truthful.map (f : α → β) {p : Proc sig α} (truthful : Truthful p) : Truthful (f <$> p) := by
  induction p with
  | done a => trivial
  | call c next ih => exact ⟨truthful.1, fun reply fresh => ih reply (truthful.2 reply fresh)⟩

theorem Truthful.bind {p : Proc sig α} {f : α → Proc sig β} (truthful : Truthful p) (rest : ∀ a, Truthful (f a)) :
    Truthful (p >>= f) := by
  induction p with
  | done a => exact rest a
  | call c next ih => exact ⟨truthful.1, fun reply fresh => ih reply (truthful.2 reply fresh)⟩

/-- The recorder announces what the ticket has recorded. -/
theorem truthful_record {uuid : Nat → Uuid} {result : α} (facts : ∀ e ∈ ticket.domainEvents, e.IsFact) :
    Truthful (EventRecorder.record uuid ticket >>= fun _ => .done result) := by
  unfold EventRecorder.record
  dsimp only
  split
  · trivial
  · refine .ask (fun record appended => ?_) fun _ _ => trivial
    obtain ⟨i, inRange, rfl⟩ := List.mem_mapIdx.mp appended
    exact facts _ (List.getElem_mem inRange)

/-- A command records a fact, or nothing. -/
theorem facts_of_perform (new : ticket.domainEvents = []) (done : ticket.perform now command = .ok ticket') :
    ∀ e ∈ ticket'.domainEvents, e.IsFact := by
  intro e recorded
  obtain ⟨_, _, nothing | ⟨fact, one⟩⟩ := Ticket.perform_recorded done
  · rw [nothing, new] at recorded
    cases recorded
  · rw [one, new, List.nil_append, List.mem_singleton] at recorded
    exact ⟨fact, _, _, _, recorded⟩

theorem facts_of_breach (new : ticket.domainEvents = []) {timerId : SlaTimerId} {kind : String} {dueAt : Instant} :
    ∀ e ∈ (ticket.recordSlaBreach timerId kind dueAt now).domainEvents, e.IsFact := by
  have done : ticket.perform now (.recordSlaBreach timerId kind dueAt) =
      .ok (ticket.recordSlaBreach timerId kind dueAt now) := rfl
  exact facts_of_perform new done

end Programs

section UseCases

variable (ambient : Ambient)

theorem CreateTicket.truthful (input : CreateTicketInput) : Truthful (execute input ambient) := by
  refine .ask trivial fun number _ => ?_
  split
  · trivial
  · rename_i ticket opened
    refine .ask trivial fun _ _ => .ask trivial fun _ _ => truthful_record fun e recorded => ?_
    rw [Ticket.opened_eq opened, List.mem_singleton] at recorded
    exact ⟨.created _ _ _ _ _, _, _, _, recorded⟩

theorem AssignTicket.truthful (input : AssignTicketInput) : Truthful (execute input ambient) := by
  refine .ask trivial fun located fresh => ?_
  cases located with
  | none => trivial
  | some ticket =>
      have asked : Truthful (assigneeExists input.tenantId input.assigneeId) := by
        cases input.assigneeId with
        | none => trivial
        | some assigneeId => exact ⟨trivial, fun _ _ => trivial⟩
      apply asked.bind
      intro acceptable
      split
      · split
        · trivial
        · rename_i ticket' applied
          rw [← perform_command] at applied
          exact .ask trivial fun _ _ => .ask trivial fun _ _ =>
            truthful_record (facts_of_perform (fresh ticket rfl) applied)
      · trivial

theorem ChangeTicketStatus.truthful (input : ChangeTicketStatusInput) : Truthful (execute input ambient) := by
  refine .ask trivial fun located fresh => ?_
  cases located with
  | none => trivial
  | some ticket =>
      simp only
      split
      · trivial
      · split
        · trivial
        · rename_i ticket' changed _
          have done : ticket.perform ambient.now (.changeStatus input.status) = .ok ticket' := changed
          exact .ask trivial fun _ _ => .ask trivial fun _ _ =>
            truthful_record (facts_of_perform (fresh ticket rfl) done)

theorem AddComment.truthful (input : AddCommentInput) : Truthful (execute input ambient) := by
  refine .ask trivial fun located fresh => ?_
  cases located with
  | none => trivial
  | some ticket =>
      simp only
      split
      · split
        · trivial
        · rename_i comment _
          split
          · trivial
          · rename_i ticket' commented
            have done : ticket.perform ambient.now (.registerComment comment.id input.actorId input.actorRole) =
                .ok ticket' := commented
            exact .ask trivial fun _ _ => .ask trivial fun _ _ => .ask trivial fun _ _ =>
              truthful_record (facts_of_perform (fresh ticket rfl) done)
      · trivial

theorem AutoAssignTicket.truthful (input : AutoAssignTicketInput) : Truthful (execute input ambient) := by
  refine .ask trivial fun first _ => ?_
  cases first with
  | false => trivial
  | true =>
      refine .ask trivial fun located fresh => ?_
      cases located with
      | none => trivial
      | some ticket =>
          simp only
          split
          · trivial
          · refine .ask trivial fun agentes _ => ?_
            split
            · trivial
            · split
              · trivial
              · rename_i ticket' assigned
                have done : ticket.perform ambient.now (.assignTo _) = .ok ticket' := assigned
                exact .ask trivial fun _ _ => .ask trivial fun _ _ =>
                  truthful_record (facts_of_perform (fresh ticket rfl) done)

theorem MarkSlaBreached.truthful (input : MarkSlaBreachedInput) : Truthful (execute input ambient) := by
  refine .ask trivial fun found _ => ?_
  cases found with
  | none => trivial
  | some timer =>
      simp only
      split
      · split
        · refine .ask trivial fun located fresh => ?_
          cases located with
          | none => trivial
          | some ticket =>
              exact .ask trivial fun _ _ => .ask trivial fun _ _ =>
                truthful_record (facts_of_breach (fresh ticket rfl))
        · trivial
      · trivial

theorem StartSlaTimers.truthful (input : StartSlaTimersInput) : Truthful (execute input ambient) := by
  refine .ask trivial fun first _ => ?_
  cases first with
  | false => trivial
  | true => exact .ask trivial fun overrides _ => .ask trivial fun _ _ => .ask trivial fun _ _ => trivial

theorem StopSlaTimer.truthful (input : StopSlaTimerInput) : Truthful (execute input) := by
  refine .ask trivial fun first _ => ?_
  cases first with
  | false => trivial
  | true =>
      refine .ask trivial fun found _ => ?_
      cases found with
      | none => trivial
      | some timer => exact .ask trivial fun _ _ => trivial

theorem UpdateSlaPolicy.truthful (input : UpdateSlaPolicyInput) : Truthful (execute input ambient) := by
  unfold execute
  split
  · trivial
  · exact .ask trivial fun _ _ => .ask trivial fun _ _ => .ask trivial fun _ _ => trivial

theorem ResetSlaPolicy.truthful (input : ResetSlaPolicyInput) : Truthful (execute input ambient) := by
  refine .ask trivial fun _ _ => .ask trivial fun habia _ => .ask trivial fun _ _ => ?_
  cases habia
  · trivial
  · exact .ask trivial fun _ _ => trivial

end UseCases

theorem Execution.truthful (e : Execution) : Truthful e.program := by
  obtain ⟨useCase, ambient, requestId⟩ := e
  cases useCase with
  | createTicket input => exact (CreateTicket.truthful ambient input).map _
  | assignTicket input => exact (AssignTicket.truthful ambient input).map _
  | autoAssignTicket input => exact (AutoAssignTicket.truthful ambient input).map _
  | changeTicketStatus input => exact (ChangeTicketStatus.truthful ambient input).map _
  | addComment input => exact (AddComment.truthful ambient input).map _
  | startSlaTimers input => exact (StartSlaTimers.truthful ambient input).map _
  | stopSlaTimer input => exact (StopSlaTimer.truthful input).map _
  | markSlaBreached input => exact (MarkSlaBreached.truthful ambient input).map _
  | updateSlaPolicy input => exact (UpdateSlaPolicy.truthful ambient input).map _
  | resetSlaPolicy input => exact (ResetSlaPolicy.truthful ambient input).map _
  | getSlaPolicy | listTickets | ticketDetail | ticketHistory => exact ⟨trivial, fun _ _ => trivial⟩

/-- A message that was written for something that has happened to a ticket. -/
def OutboxRow.TellsFact (m : OutboxRow) : Prop :=
  ∃ (record : OutboxRecord) (requestId : Option String),
    record.toIntegrationEvent.IsFact ∧ m = record.row requestId

section Runs

variable {ctx : Ctx}

/-- Every message that is among some writes tells a fact. -/
def TellFacts (writes : List Write) : Prop :=
  ∀ rows, .insertOutbox rows ∈ writes → ∀ m ∈ rows, m.TellsFact

theorem tellFacts_of_announces {c : Call} {db : Db} {reply : c.Reply} {writes : List Write} (announces : c.Announces)
    (answered : exec ctx c db = some (reply, writes)) : TellFacts writes := by
  intro rows written m inside
  have isWrite := write_of_exec answered written
  cases c with
  | outboxAppend records =>
      cases isWrite
      obtain ⟨record, appended, rfl⟩ := List.mem_map.mp inside
      exact ⟨record, _, announces record appended, rfl⟩
  | _ => cases isWrite

/-- The repositories answer tickets that have nothing recorded. -/
theorem fresh_of_exec {c : Call} {db : Db} {reply : c.Reply} {writes : List Write}
    (answered : exec ctx c db = some (reply, writes)) : c.Fresh reply := by
  cases c with
  | ticketsFindById tenantId id =>
      rintro ticket rfl
      obtain ⟨row, _, rfl⟩ := found_ticket answered
      rfl
  | _ => trivial

theorem Truthful.satisfies {α : Type} {p : Proc sig α} (truthful : Truthful p)
    {trace : List repositories.transactional.Event} (told : TellFacts (repositories.transactional.pending trace)) :
    p.Satisfies (repositories.transactional.Plausible ctx)
      (fun trace => TellFacts (repositories.transactional.pending trace)) (fun _ _ => True) trace := by
  induction p generalizing trace with
  | done a => trivial
  | call c next ih =>
      intro o produced
      obtain ⟨db, answered⟩ := exec_of_plausible produced
      have toldThen : TellFacts (repositories.transactional.pending (trace ++ [⟨c, o⟩])) := by
        intro rows written
        rw [Store.pending, List.flatMap_append, List.mem_append] at written
        rcases written with before | now
        · exact told rows before
        · refine tellFacts_of_announces truthful.1 answered rows ?_
          simpa using now
      exact ⟨toldThen, ih o.reply (truthful.2 o.reply (fresh_of_exec answered)) toldThen⟩

/-- Every message is one that was there before, or tells a fact. -/
theorem tellsFact_of_run {db₀ : Db} {jobs : List Execution} {history : List (Config ticketing × Move ticketing)}
    {c : Config ticketing} (run : Run Config.step (.start db₀ jobs) history c) {m : OutboxRow}
    (stored : m ∈ c.db.outbox.rows) : m ∈ db₀.outbox.rows ∨ m.TellsFact := by
  have log := Config.commitLog_of_run repositories.deferred_transactional run
  have sameDb : c.db = db₀.after ((Config.commitsOf history).flatMap c.writesOf) := log.db
  have nothing : TellFacts (repositories.transactional.pending []) := nofun
  have conforms := Config.conforms_of_run (A := ticketing)
    (R := fun _ trace => TellFacts (repositories.transactional.pending trace)) (Q := fun _ _ _ => True)
    (fun e => ⟨nothing, e.truthful.satisfies nothing⟩) run
  rw [sameDb] at stored
  rcases mem_outbox_after stored with old | ⟨rows, written, inRows⟩
  · exact .inl old
  · obtain ⟨i, _, ofSession⟩ := List.mem_flatMap.mp written
    obtain ⟨s, found, pending⟩ := Config.session_of_written ofSession
    exact .inr ((conforms i s found).trace rows pending m inRows)

end Runs

end Helpdesk
