/-
Module: HelpdeskApi.Application.NumberTraces
Layer: Application
Purpose: What creating a ticket leaves behind call by call: it takes the next number of its tenant, which
  bumps the counter, and then saves the one ticket that carries the number, or nothing at all.
Trusted boundary: none
Main exports: reservedNumbers, bumpedCounters, Ticket.Carries, Numbers, EndsNumbered, CreateTicket.numbers
-/
import HelpdeskApi.Application.TicketTraces

namespace Helpdesk

open Relational Txn

/-- The counter a write bumps. -/
def Write.bumpedCounter? : Write → Option TenantId
  | .bumpCounter tenantId => some tenantId
  | _ => none

/-- The table of counters after the number of a tenant was taken. -/
def bumpCounter (counters : Table CounterRow) (tenantId : TenantId) : Table CounterRow :=
  counters.upsert { tenantId := tenantId, nextNumber := 2 } bumpCounterRow key_bumpCounterRow

/-- The numbers that were taken, in order, are what the writes change the counters by. -/
theorem Db.after_counters (db : Db) (writes : List Write) :
    (db.after writes).counters = (writes.filterMap Write.bumpedCounter?).foldl bumpCounter db.counters := by
  induction writes generalizing db with
  | nil => rfl
  | cons w writes ih =>
      rw [Db.after_cons, ih]
      cases w <;> rfl

/-- The counters a transaction has bumped so far. -/
def bumpedCounters (trace : List repositories.transactional.Event) : List TenantId :=
  (repositories.transactional.pending trace).filterMap Write.bumpedCounter?

/-- The number a call has reserved. -/
def reservedNumber? : repositories.transactional.Event → Option Int
  | ⟨.numbersNext _, o⟩ => some o.reply
  | _ => none

/-- The numbers a transaction has reserved so far. -/
def reservedNumbers (trace : List repositories.transactional.Event) : List Int :=
  trace.filterMap reservedNumber?

/-- The ticket an execution opens under a number. -/
structure Ticket.Carries (ticket : Ticket) (e : Execution) (number : Int) : Prop where
  id : ticket.id = ⟨e.ambient.uuid 0⟩
  tenantId : ticket.tenantId = e.useCase.tenantId
  number : ticket.number = number

/-- The transaction has reserved this number and saved these tickets. -/
structure Reserved (e : Execution) (number : Int) (saved : List Ticket)
    (trace : List repositories.transactional.Event) : Prop where
  number : reservedNumbers trace = [number]
  bumped : bumpedCounters trace = [e.useCase.tenantId]
  saved : savedTickets trace = saved

/-- The transaction has not reserved a number and saved nothing. -/
structure Unreserved (trace : List repositories.transactional.Event) : Prop where
  number : reservedNumbers trace = []
  bumped : bumpedCounters trace = []
  saved : savedTickets trace = []

/-- How far a transaction can have got with its number. -/
def Numbers (e : Execution) (trace : List repositories.transactional.Event) : Prop :=
  Unreserved trace ∨
    ∃ number saved, Reserved e number saved trace ∧
      (saved = [] ∨ ∃ ticket, saved = [ticket] ∧ ticket.Carries e number)

/-- A transaction that ends well has saved the ticket of its number. -/
def EndsNumbered (e : Execution) (trace : List repositories.transactional.Event)
    (out : Except TicketingError Output) : Prop :=
  commitsResult out = true →
    ∃ number ticket, Reserved e number [ticket] trace ∧ ticket.Carries e number

/-- A call that neither takes a number nor loads or saves a ticket. -/
def Call.isOffNumbers : Call → Bool
  | .numbersNext _ | .ticketsFindById _ _ | .ticketsSave _ => false
  | _ => true

section Events

variable {e : Execution} {trace : List repositories.transactional.Event}
  {ev : repositories.transactional.Event} {α β : Type}

theorem reservedNumbers_append :
    reservedNumbers (trace ++ [ev]) = reservedNumbers trace ++ (reservedNumber? ev).toList := by
  simp only [reservedNumbers, List.filterMap_append, List.filterMap_cons, List.filterMap_nil]
  cases reservedNumber? ev <;> rfl

theorem bumpedCounters_append : bumpedCounters (trace ++ [ev]) =
    bumpedCounters trace ++ ev.outcome.writes.filterMap Write.bumpedCounter? := by
  simp [bumpedCounters]

/-- Taking a number is the only way to bump a counter. -/
theorem bumped_of_notNext (produced : repositories.transactional.Plausible e.ctx ev)
    (notNext : ∀ tenantId, ev.call ≠ .numbersNext tenantId) :
    ev.outcome.writes.filterMap Write.bumpedCounter? = [] := by
  obtain ⟨⟨db, answered⟩, _⟩ := repositories.plausible_transactional produced
  rw [List.filterMap_eq_nil_iff]
  intro w written
  cases w with
  | bumpCounter tenantId => exact absurd (numbersNext_of_bump answered written) (notNext tenantId)
  | _ => rfl

theorem appended_of_offNumbers (produced : repositories.transactional.Plausible e.ctx ev)
    (off : ev.call.isOffNumbers = true) :
    reservedNumbers (trace ++ [ev]) = reservedNumbers trace ∧
      bumpedCounters (trace ++ [ev]) = bumpedCounters trace ∧ savedTickets (trace ++ [ev]) = savedTickets trace := by
  have offTickets : ev.call.isOffTickets = true := by
    cases call : ev.call with
    | ticketsFindById tenantId id => simp [call, Call.isOffNumbers] at off
    | ticketsSave ticket => simp [call, Call.isOffNumbers] at off
    | _ => rfl
  have notNext (tenantId : TenantId) : ev.call ≠ .numbersNext tenantId := by
    intro isNext
    simp [isNext, Call.isOffNumbers] at off
  have unreserved : reservedNumber? ev = none := by
    obtain ⟨c, o⟩ := ev
    cases c with
    | numbersNext tenantId => exact absurd rfl (notNext tenantId)
    | _ => rfl
  rw [reservedNumbers_append, bumpedCounters_append, unreserved, bumped_of_notNext produced notNext]
  exact ⟨List.append_nil _, List.append_nil _, (appended_of_offTickets trace produced offTickets).1⟩

theorem Reserved.offNumbers {number : Int} {saved : List Ticket} (reserved : Reserved e number saved trace)
    (produced : repositories.transactional.Plausible e.ctx ev) (off : ev.call.isOffNumbers = true) :
    Reserved e number saved (trace ++ [ev]) := by
  have appended : reservedNumbers (trace ++ [ev]) = reservedNumbers trace ∧
      bumpedCounters (trace ++ [ev]) = bumpedCounters trace ∧ savedTickets (trace ++ [ev]) = savedTickets trace :=
    appended_of_offNumbers produced off
  obtain ⟨sameNumber, sameBumped, sameSaved⟩ := appended
  exact ⟨sameNumber.trans reserved.number, sameBumped.trans reserved.bumped, sameSaved.trans reserved.saved⟩

theorem Unreserved.next {tenantId : TenantId} {o : Outcome sig Write RowKey (.numbersNext tenantId)}
    (unreserved : Unreserved trace) (own : tenantId = e.useCase.tenantId)
    (produced : repositories.transactional.Plausible e.ctx ⟨_, o⟩) :
    Reserved e o.reply [] (trace ++ [⟨_, o⟩]) := by
  obtain ⟨db, answered⟩ := exec_of_plausible produced
  have bumped : o.writes = [.bumpCounter tenantId] := writes_of_numbersNext answered
  constructor
  · rw [reservedNumbers_append, unreserved.number]
    rfl
  · rw [bumpedCounters_append, unreserved.bumped, bumped, own]
    rfl
  · rw [savedTickets_append, unreserved.saved, bumped]
    rfl

theorem Reserved.save {number : Int} {ticket : Ticket} {o : Outcome sig Write RowKey (.ticketsSave ticket)}
    (reserved : Reserved e number [] trace) (produced : repositories.transactional.Plausible e.ctx ⟨_, o⟩) :
    Reserved e number [ticket] (trace ++ [⟨_, o⟩]) := by
  obtain ⟨db, answered⟩ := exec_of_plausible produced
  have wrote : o.writes = [.upsertTicket ticket] := writes_of_ticketsSave answered
  constructor
  · rw [reservedNumbers_append, reserved.number]
    rfl
  · rw [bumpedCounters_append, reserved.bumped, wrote]
    rfl
  · rw [savedTickets_append, reserved.saved, wrote]
    rfl

end Events

/-- A ticket is opened under the id, the tenant and the number it was asked for. -/
theorem Ticket.carries_of_opened {e : Execution} {input : CreateTicketInput} {number : Int} {ticket : Ticket}
    (isCreate : e.useCase = .createTicket input)
    (opened : Ticket.opened ⟨e.ambient.uuid 0⟩ input.tenantId number input.subject input.description
      input.priority input.actorId e.ambient.now = .ok ticket) : ticket.Carries e number := by
  rw [Ticket.opened_eq opened]
  constructor
  · rfl
  · rw [isCreate]
    rfl
  · rfl

/-- Creating a ticket takes one number and saves the ticket of it, or it fails. -/
theorem CreateTicket.numbers {e : Execution} {input : CreateTicketInput}
    (isCreate : e.useCase = .createTicket input) :
    e.program.Satisfies (repositories.transactional.Plausible e.ctx) (Numbers e) (EndsNumbered e) [] := by
  have program : e.program = (·.map .ticket) <$> execute input e.ambient := by
    unfold Execution.program
    rw [isCreate]
  have own : input.tenantId = e.useCase.tenantId := by rw [isCreate]; rfl
  have none : Unreserved [] := ⟨rfl, rfl, rfl⟩
  rw [program, Proc.satisfies_map]
  refine .ask fun o produced => ?_
  have reserved := none.next own produced
  refine ⟨.inr ⟨_, _, reserved, .inl rfl⟩, ?_⟩
  simp only
  split
  · intro committed
    cases committed
  · rename_i ticket opened
    have carries := Ticket.carries_of_opened isCreate opened
    refine .ask fun o' produced => ?_
    have saved := reserved.save produced
    refine ⟨.inr ⟨_, _, saved, .inr ⟨ticket, rfl, carries⟩⟩, ?_⟩
    refine .ask fun o'' produced => ?_
    have audited := saved.offNumbers produced rfl
    refine ⟨.inr ⟨_, _, audited, .inr ⟨ticket, rfl, carries⟩⟩, ?_⟩
    obtain ⟨_, event, records⟩ := Ticket.opened_records opened
    rw [EventRecorder.record_one _ records]
    intro o''' produced
    have recorded := audited.offNumbers produced rfl
    refine ⟨.inr ⟨_, _, recorded, .inr ⟨ticket, rfl, carries⟩⟩, ?_⟩
    intro committed
    exact ⟨_, ticket, recorded, carries⟩

end Helpdesk
