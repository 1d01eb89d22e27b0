/-
Module: HelpdeskApi.Application.Completion
Layer: Application
Purpose: When a use case that a worker runs comes to an answer. With nobody else at work and new ids it always does,
  unless it starts timers for a ticket that is gone or has some already, which the database refuses.
Trusted boundary: none
Main exports: UseCase.RefusedIn, ran_of_accepted
-/
import HelpdeskApi.Application.Claims
import HelpdeskApi.Application.SerialRuns

namespace Helpdesk

open Txn Relational

/-- A start of timers that the database refuses: the event is not marked, and the ticket they would refer to is not
    there (`sla_timers_ticket_id_fkey`), or it has a timer already (`sla_timers_ticket_id_kind_key`). -/
def UseCase.RefusedIn (db : Db) : UseCase → Prop
  | .startSlaTimers input => db.processed.find? (START_SLA_CONSUMER, input.eventId) = none ∧
      (db.tickets.find? input.ticketId = none ∨ db.timers.any (fun r => r.ticketId = input.ticketId) = true)
  | _ => False

instance (db : Db) : DecidablePred (UseCase.RefusedIn db)
  | .startSlaTimers _ => inferInstanceAs (Decidable (_ ∧ _))
  | .createTicket _ | .assignTicket _ | .autoAssignTicket _ | .changeTicketStatus _ | .addComment _
  | .stopSlaTimer _ | .markSlaBreached _ | .getSlaPolicy _ | .updateSlaPolicy _ | .resetSlaPolicy _
  | .listTickets _ | .ticketDetail _ _ | .ticketHistory _ _ => .isFalse id

/-- What leaves a mark has come to its end with an answer. -/
theorem ran_of_marked {e : Execution} {db : Db} {k : Mark} (unmarked : db.processed.find? k = none)
    (marked : ((serve e db).2.processed.find? k).isSome = true) :
    ∃ out db', e.program.run repositories e.ctx db = some (out, db') ∧ commitsResult out = true := by
  unfold serve Handler.transact at marked
  split at marked
  · simp [unmarked] at marked
  · rename_i out db' ran
    refine ⟨out, db', ran, ?_⟩
    cases kept : commitsResult out with
    | true => rfl
    | false => simp [kept, unmarked] at marked

/-- What finds its mark comes to its end at once. -/
theorem ran_again {e : Execution} {db : Db} {k : Mark} (isMark : e.useCase.mark = some k)
    (marked : (db.processed.find? k).isSome = true) :
    ∃ out db', e.program.run repositories e.ctx db = some (out, db') ∧ commitsResult out = true := by
  obtain ⟨next, claims⟩ := Execution.claimFirst isMark
  obtain ⟨out, ends, _⟩ := claims.tooLate
  obtain ⟨row, found⟩ := Option.isSome_iff_exists.mp marked
  refine ⟨.ok out, db, ?_, rfl⟩
  rw [claims.program, run_exec (exec_processedClaim_again rfl found), ends]
  rfl

/-- Unless it is refused, what a use case of a worker commits begins with its mark. -/
theorem writes_mark {e : Execution} {db : Db} {k : Mark} (isMark : e.useCase.mark = some k)
    (unmarked : db.processed.find? k = none) (accepted : ¬ e.useCase.RefusedIn db) :
    ∃ rest row, e.committed db = .insertProcessed row :: rest ∧ (row.consumer, row.eventId) = k := by
  obtain ⟨useCase, ambient, requestId⟩ := e
  cases useCase with
  | autoAssignTicket input =>
      cases isMark
      simp only [Execution.committed, AutoAssignTicket.committed, unmarked]
      exact ⟨_, _, rfl, rfl⟩
  | startSlaTimers input =>
      cases isMark
      have free : ¬ db.timers.any (fun r => r.ticketId = input.ticketId) = true :=
        fun taken => accepted ⟨unmarked, .inr taken⟩
      simp only [Execution.committed, StartSlaTimers.committed, unmarked, if_neg free]
      exact ⟨_, _, rfl, rfl⟩
  | stopSlaTimer input =>
      cases isMark
      simp only [Execution.committed, StopSlaTimer.committed, unmarked]
      exact ⟨_, _, rfl, rfl⟩
  | _ => cases isMark

/-- A worker's use case comes to an answer when it runs alone, with new ids, unless the database refuses it. -/
theorem ran_of_accepted {e : Execution} {db : Db} {k : Mark} (isMark : e.useCase.mark = some k)
    (fresh : e.ambient.freshIn db = true) (accepted : ¬ e.useCase.RefusedIn db) :
    ∃ out db', e.program.run repositories e.ctx db = some (out, db') ∧ commitsResult out = true := by
  cases unmarked : db.processed.find? k with
  | some row => exact ran_again isMark (by rw [unmarked]; rfl)
  | none =>
      obtain ⟨rest, row, writes, isKey⟩ := writes_mark isMark unmarked accepted
      refine ran_of_marked unmarked ?_
      rw [serve_committed e fresh, writes, Db.after_cons]
      have claimed : ((Write.insertProcessed row).apply db).processed.find? k = some row := by
        subst isKey
        refine (Table.find?_insert db.processed row _).trans ?_
        rw [unmarked]
        exact if_pos rfl
      rw [find?_processed_after rest claimed]
      rfl

end Helpdesk
