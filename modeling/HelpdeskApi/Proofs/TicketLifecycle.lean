/-
Module: HelpdeskApi.Proofs.TicketLifecycle
Layer: Proofs
Purpose: The times of a ticket along any sequence of calls. They say what the status says and come in order,
  the time of the last change never goes back, a call that fails leaves the aggregate as it was, and a closed
  ticket stays exactly what it is.
Trusted boundary: none
Main exports: Ticket.Lifecycle, Ticket.SameFields, Ticket.Dated, lifecycle_of_run
-/
import HelpdeskApi.Domain.Methods

namespace Helpdesk

open Transition

namespace Ticket

/-- What the times of a ticket say about its status. -/
structure Lifecycle (t : Ticket) : Prop where
  pending : t.status = .OPEN ∨ t.status = .IN_PROGRESS → t.resolvedAt = none ∧ t.closedAt = none
  resolved : t.status = .RESOLVED → t.resolvedAt.isSome = true ∧ t.closedAt = none
  closed : t.status = .CLOSED → ∃ resolvedAt closedAt, t.resolvedAt = some resolvedAt ∧
    t.closedAt = some closedAt ∧ t.createdAt ≤ resolvedAt ∧ resolvedAt ≤ closedAt ∧ closedAt = t.updatedAt

/-- The aggregates differ in the events nobody has pulled yet, if at all. -/
def SameFields (t t' : Ticket) : Prop :=
  t' = { t with domainEvents := t'.domainEvents }

theorem SameFields.refl (t : Ticket) : t.SameFields t := rfl

theorem SameFields.trans {t t' t'' : Ticket} (first : t.SameFields t') (second : t'.SameFields t'') :
    t.SameFields t'' := by
  rw [SameFields] at first second ⊢
  rw [second, first]

/-- The times of a ticket are in order, and none of them is later than the last change. -/
structure Dated (t : Ticket) : Prop extends Lifecycle t where
  created : t.createdAt ≤ t.updatedAt
  since : ∀ resolvedAt, t.resolvedAt = some resolvedAt → t.createdAt ≤ resolvedAt ∧ resolvedAt ≤ t.updatedAt

section Steps

variable {t t' : Ticket} {now : Instant}

theorem opened_dated {id : TicketId} {tenantId : TenantId} {number : Int} {subject description : String}
    {priority : TicketPriority} {requesterId : UserId}
    (done : opened id tenantId number subject description priority requesterId now = .ok t) :
    t.Dated ∧ t.updatedAt = now := by
  rw [opened_eq done]
  exact ⟨{ pending := fun _ => ⟨rfl, rfl⟩, resolved := nofun, closed := nofun, created := Int.le_refl _,
           since := nofun }, rfl⟩

/-- A command that leaves the status alone touches a ticket that is not closed. -/
theorem Dated.touched (dated : t.Dated) (later : t.updatedAt ≤ now) (notClosed : t.status ≠ .CLOSED)
    (assigneeId : Nullable UserId) (e : IntegrationEvent) :
    (({ t with assigneeId := assigneeId }.touch now).addDomainEvent e).Dated where
  pending := dated.pending
  resolved := dated.resolved
  closed closed := absurd closed notClosed
  created := Int.le_trans dated.created later
  since resolvedAt isResolved := by
    obtain ⟨first, last⟩ := dated.since resolvedAt isResolved
    exact ⟨first, Int.le_trans last later⟩

/-- A change of the status brings the times that go with the new one. -/
theorem Dated.moved (dated : t.Dated) (later : t.updatedAt ≤ now) {next : TicketStatus}
    (legal : canTransition t.status next = true) (e : IntegrationEvent) :
    ((({ t with status := next }.applyLifecycleTimestamps next now).touch now).addDomainEvent e).Dated := by
  have created := Int.le_trans dated.created later
  cases next with
  | OPEN =>
      exact { pending := fun _ => ⟨rfl, rfl⟩, resolved := nofun, closed := nofun, created := created,
              since := nofun }
  | IN_PROGRESS =>
      exact { pending := fun _ => ⟨rfl, rfl⟩, resolved := nofun, closed := nofun, created := created,
              since := nofun }
  | RESOLVED =>
      -- a ticket is resolved from a status in which it has no time of closing
      have notClosed : t.closedAt = none := by
        cases status : t.status with
        | OPEN => exact (dated.pending (.inl status)).2
        | IN_PROGRESS => exact (dated.pending (.inr status)).2
        | RESOLVED =>
            rw [status] at legal
            cases legal
        | CLOSED =>
            rw [status] at legal
            cases legal
      refine { pending := nofun, resolved := fun _ => ⟨rfl, notClosed⟩, closed := nofun, created := created,
               since := ?_ }
      intro resolvedAt isResolved
      cases isResolved
      exact ⟨created, Int.le_refl _⟩
  | CLOSED =>
      -- only a resolved ticket is closed, and it keeps the time it was resolved at
      have resolved : t.status = .RESOLVED := by
        cases status : t.status <;> rw [status] at legal <;> first | rfl | cases legal
      obtain ⟨resolvedAt, isResolved⟩ := Option.isSome_iff_exists.mp (dated.resolved resolved).1
      obtain ⟨first, last⟩ := dated.since resolvedAt isResolved
      refine { pending := nofun, resolved := nofun, closed := ?_, created := created, since := ?_ }
      · intro _
        exact ⟨resolvedAt, now, isResolved, rfl, first, Int.le_trans last later, rfl⟩
      · intro resolvedAt' isResolved'
        cases isResolved.symm.trans isResolved'
        exact ⟨first, Int.le_trans last later⟩

/-- What a command that succeeds does to the times: it takes them to now, or changes no field. -/
theorem perform_dated (dated : t.Dated) (later : t.updatedAt ≤ now) {command : Command}
    (done : t.perform now command = .ok t') :
    t'.Dated ∧ (t.SameFields t' ∨ (t.status ≠ .CLOSED ∧ t'.updatedAt = now)) := by
  cases command with
  | changeStatus next =>
      simp only [perform, changeStatus] at done
      split at done
      · cases done
        exact ⟨dated, .inl (.refl t)⟩
      · split at done
        · rename_i legal
          cases done
          refine ⟨dated.moved later legal _, .inr ⟨?_, rfl⟩⟩
          intro closed
          rw [closed] at legal
          cases legal
        · cases done
  | assignTo assigneeId =>
      have notClosed := notClosed_of_assignTo done
      simp only [perform, assignTo] at done
      split at done
      · cases done
      · cases done
        exact ⟨dated.touched later notClosed _ _, .inr ⟨notClosed, rfl⟩⟩
  | unassign =>
      have notClosed := notClosed_of_unassign done
      simp only [perform, unassign] at done
      split at done
      · cases done
      · cases done
        exact ⟨dated.touched later notClosed _ _, .inr ⟨notClosed, rfl⟩⟩
  | registerComment commentId authorId authorRole =>
      have notClosed := notClosed_of_registerComment done
      simp only [perform, registerComment] at done
      split at done
      · cases done
        exact ⟨dated.touched later notClosed t.assigneeId _, .inr ⟨notClosed, rfl⟩⟩
      · cases done
  | recordSlaBreach timerId kind dueAt =>
      cases done
      exact ⟨⟨⟨dated.pending, dated.resolved, dated.closed⟩, dated.created, dated.since⟩, .inl rfl⟩

/-- The same for any call, whether it succeeds or not. -/
theorem step_dated (dated : t.Dated) {c : Call} (later : t.updatedAt ≤ c.now) (taken : t.step c = some t') :
    t'.Dated ∧ (t.SameFields t' ∨ (t.status ≠ .CLOSED ∧ t'.updatedAt = c.now)) := by
  have isNext : (t.called c).2 = t' := Option.some.inj taken
  rw [called_eq] at isNext
  cases done : t.perform c.now c.command with
  | ok next =>
      rw [done] at isNext
      exact isNext ▸ perform_dated dated later done
  | error e =>
      rw [done] at isNext
      exact isNext ▸ ⟨dated, .inl (.refl t)⟩

/-- A call that fails leaves the aggregate and its events as they were. -/
theorem eq_of_failed {c : Call} {e : TicketingError} (failed : (t.called c).1 = .error e) :
    (t.called c).2 = t := by
  rw [called_eq] at failed ⊢
  cases done : t.perform c.now c.command with
  | ok next =>
      rw [done] at failed
      cases failed
  | error e => rfl

end Steps

end Ticket

variable {id : TicketId} {tenantId : TenantId} {number : Int} {subject description : String}
  {priority : TicketPriority} {requesterId : UserId} {now : Instant} {opened t : Ticket}
  {history : List (Ticket × Ticket.Call)}

/-- The instants of the calls, beginning with the one at which the ticket was opened. -/
def instants (now : Instant) (history : List (Ticket × Ticket.Call)) : List Instant :=
  now :: history.map fun entry => entry.2.now

/-- Along a run whose instants never go back, a ticket is dated, and its last change is one of the instants. -/
theorem dated_of_run (done : Ticket.opened id tenantId number subject description priority requesterId now = .ok opened)
    (run : Run Ticket.step opened history t) (timely : (instants now history).Pairwise (· ≤ ·)) :
    t.Dated ∧ t.updatedAt ∈ instants now history := by
  induction run with
  | start =>
      obtain ⟨dated, isNow⟩ := Ticket.opened_dated done
      exact ⟨dated, List.mem_cons.mpr (.inl isNow)⟩
  | @step history s s' c run taken ih =>
      rw [instants, List.map_append, ← List.cons_append, List.pairwise_append] at timely
      obtain ⟨before, _, ordered⟩ := timely
      obtain ⟨dated, isInstant⟩ := ih before
      have later : s.updatedAt ≤ c.now := ordered _ isInstant _ (by simp)
      obtain ⟨dated', what⟩ := Ticket.step_dated dated later taken
      refine ⟨dated', ?_⟩
      rw [instants, List.map_append, ← List.cons_append, List.mem_append]
      rcases what with same | ⟨_, isNow⟩
      · left
        rw [same]
        exact isInstant
      · right
        simp [isNow]

/-- Whatever is called on a ticket, as long as the clock does not go back: its times fit its status and are in
    order, the last change never gets earlier, no call that fails changes anything, and nothing changes any
    field of a closed ticket. -/
theorem lifecycle_of_run
    (done : Ticket.opened id tenantId number subject description priority requesterId now = .ok opened)
    (run : Run Ticket.step opened history t) (timely : (instants now history).Pairwise (· ≤ ·)) :
    t.Lifecycle ∧ ∀ entry ∈ history, entry.1.updatedAt ≤ t.updatedAt ∧
      (∀ e, (entry.1.called entry.2).1 = .error e → (entry.1.called entry.2).2 = entry.1) ∧
      (entry.1.status = .CLOSED → entry.1.SameFields t) := by
  refine ⟨(dated_of_run done run timely).1.toLifecycle, ?_⟩
  induction run with
  | start =>
      intro entry member
      cases member
  | @step history s s' c run taken ih =>
      rw [instants, List.map_append, ← List.cons_append, List.pairwise_append] at timely
      obtain ⟨before, _, ordered⟩ := timely
      obtain ⟨dated, isInstant⟩ := dated_of_run done run before
      have later : s.updatedAt ≤ c.now := ordered _ isInstant _ (by simp)
      obtain ⟨_, what⟩ := Ticket.step_dated dated later taken
      have grows : s.updatedAt ≤ s'.updatedAt := by
        rcases what with same | ⟨_, isNow⟩
        · have sameInstant : s'.updatedAt = s.updatedAt := by rw [same]
          exact sameInstant.ge
        · rw [isNow]
          exact later
      have stays (closed : s.status = .CLOSED) : s.SameFields s' :=
        what.resolve_right fun changed => changed.1 closed
      intro entry member
      rcases List.mem_append.mp member with earlier | last
      · obtain ⟨grown, failed, stayed⟩ := ih before entry earlier
        refine ⟨Int.le_trans grown grows, failed, fun closed => (stayed closed).trans (stays ?_)⟩
        rw [stayed closed]
        exact closed
      · cases List.mem_singleton.mp last
        exact ⟨grows, fun e failed => Ticket.eq_of_failed failed, stays⟩

section Example

/-- A ticket that is resolved, reopened, resolved again and closed. Two calls fail, one before and one after. -/
def longLife : List Ticket.Call :=
  [⟨.changeStatus .CLOSED, 1⟩, ⟨.changeStatus .RESOLVED, 2⟩, ⟨.changeStatus .OPEN, 3⟩, ⟨.unassign, 3⟩,
    ⟨.changeStatus .RESOLVED, 4⟩, ⟨.changeStatus .CLOSED, 5⟩, ⟨.registerComment ⟨7⟩ ⟨2⟩ "VIEWER", 6⟩,
    ⟨.recordSlaBreach ⟨8⟩ "RESPONSE" 4, 7⟩]

theorem lifecycle_of_run_longLife :
    ∃ opened history t, Ticket.opened ⟨1⟩ ⟨1⟩ 1 "Hola" "No entra" .HIGH ⟨2⟩ 0 = .ok opened ∧
      Run Ticket.step opened history t ∧ t.status = .CLOSED ∧ t.Lifecycle ∧
      ∀ entry ∈ history, entry.1.updatedAt ≤ t.updatedAt ∧
        (∀ e, (entry.1.called entry.2).1 = .error e → (entry.1.called entry.2).2 = entry.1) ∧
        (entry.1.status = .CLOSED → entry.1.SameFields t) := by
  have possible : (Ticket.opened ⟨1⟩ ⟨1⟩ 1 "Hola" "No entra" .HIGH ⟨2⟩ 0).toOption.map (fun opened =>
      ((play Ticket.step opened longLife).map Ticket.status,
        decide ((instants 0 (playHistory Ticket.step opened longLife)).Pairwise (· ≤ ·)))) =
      some (some .CLOSED, true) := by decide
  obtain ⟨opened, found, reads⟩ := Option.map_eq_some_iff.mp possible
  obtain ⟨isClosed, timely⟩ := Prod.mk.inj reads
  obtain ⟨t, played, closed⟩ := Option.map_eq_some_iff.mp isClosed
  have done : Ticket.opened ⟨1⟩ ⟨1⟩ 1 "Hola" "No entra" .HIGH ⟨2⟩ 0 = .ok opened := by
    cases result : Ticket.opened ⟨1⟩ ⟨1⟩ 1 "Hola" "No entra" .HIGH ⟨2⟩ 0 with
    | ok opened' =>
        rw [result] at found
        cases found
        rfl
    | error e =>
        rw [result] at found
        cases found
  exact ⟨opened, _, t, done, play_run played, closed,
    lifecycle_of_run done (play_run played) (of_decide_eq_true timely)⟩

end Example

end Helpdesk
