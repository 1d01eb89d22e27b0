/-
Module: HelpdeskApi.Domain.TicketStatus
Layer: Domain
Purpose: The life cycle of a ticket, its priorities, and the errors of the ticketing context.
Trusted boundary: human-reviewed spec
Main exports: TicketStatus, TicketPriority, allowedTransitionsFrom, canTransition, isTerminal,
  TicketingError
-/
import HelpdeskApi.Domain.Values

namespace Helpdesk

inductive TicketStatus where
  | OPEN
  | IN_PROGRESS
  | RESOLVED
  | CLOSED
deriving DecidableEq, Repr, Inhabited

namespace TicketStatus

/-- `TICKET_STATUSES`. -/
def all : List TicketStatus := [.OPEN, .IN_PROGRESS, .RESOLVED, .CLOSED]

/-- The literal the source and the database write for a status. -/
def text : TicketStatus → String
  | .OPEN => "OPEN"
  | .IN_PROGRESS => "IN_PROGRESS"
  | .RESOLVED => "RESOLVED"
  | .CLOSED => "CLOSED"

/-- `isTicketStatus`, with the status it recognised. -/
def ofText? (text : String) : Option TicketStatus :=
  all.find? fun s => s.text == text

@[simp] theorem ofText?_text (s : TicketStatus) : ofText? s.text = some s := by
  cases s <;> decide

end TicketStatus

inductive TicketPriority where
  | LOW
  | NORMAL
  | HIGH
  | URGENT
deriving DecidableEq, Repr, Inhabited

namespace TicketPriority

/-- `TICKET_PRIORITIES`. -/
def all : List TicketPriority := [.LOW, .NORMAL, .HIGH, .URGENT]

/-- The literal the source and the database write for a priority. -/
def text : TicketPriority → String
  | .LOW => "LOW"
  | .NORMAL => "NORMAL"
  | .HIGH => "HIGH"
  | .URGENT => "URGENT"

/-- `isTicketPriority`, with the priority it recognised. -/
def ofText? (text : String) : Option TicketPriority :=
  all.find? fun p => p.text == text

@[simp] theorem ofText?_text (p : TicketPriority) : ofText? p.text = some p := by
  cases p <;> decide

end TicketPriority

/-- `ALLOWED_TRANSITIONS`. -/
def allowedTransitionsFrom : TicketStatus → List TicketStatus
  | .OPEN => [.IN_PROGRESS, .RESOLVED]
  | .IN_PROGRESS => [.RESOLVED, .OPEN]
  | .RESOLVED => [.CLOSED, .OPEN]
  | .CLOSED => []

def canTransition (source target : TicketStatus) : Bool :=
  (allowedTransitionsFrom source).contains target

def isTerminal (status : TicketStatus) : Bool :=
  (allowedTransitionsFrom status).length == 0

@[simp] theorem isTerminal_iff (status : TicketStatus) : isTerminal status = true ↔ status = .CLOSED := by
  cases status <;> decide

@[simp] theorem isTerminal_eq_false_iff (status : TicketStatus) :
    isTerminal status = false ↔ status ≠ .CLOSED := by
  cases status <;> decide

/-- No status leads to itself. -/
theorem ne_of_canTransition {source target : TicketStatus} (legal : canTransition source target = true) :
    source ≠ target := by
  rintro rfl
  cases source <;> simp [canTransition, allowedTransitionsFrom] at legal

/-- The errors of the ticketing context, each with the data its message is made from. -/
inductive TicketingError where
  | invalidTicketSubject
  | invalidTicketDescription
  | ticketNotFound
  | invalidTicketTransition (source target : TicketStatus)
  | ticketClosed
  | assigneeNotFound
  | emptyComment
  | invalidSlaTarget (detail : String)
deriving DecidableEq, Repr

namespace TicketingError

def code : TicketingError → String
  | .invalidTicketSubject => "ticketing.invalid_subject"
  | .invalidTicketDescription => "ticketing.invalid_description"
  | .ticketNotFound => "ticketing.ticket_not_found"
  | .invalidTicketTransition _ _ => "ticketing.invalid_transition"
  | .ticketClosed => "ticketing.ticket_closed"
  | .assigneeNotFound => "ticketing.assignee_not_found"
  | .emptyComment => "ticketing.empty_comment"
  | .invalidSlaTarget _ => "ticketing.invalid_sla_target"

def message : TicketingError → String
  | .invalidTicketSubject => "El asunto del ticket no puede estar vacío."
  | .invalidTicketDescription => "La descripción del ticket no puede estar vacía."
  | .ticketNotFound => "El ticket no existe."
  | .invalidTicketTransition source target =>
      "No se puede pasar un ticket de " ++ source.text ++ " a " ++ target.text ++ "."
  | .ticketClosed => "El ticket está cerrado y ya no admite cambios."
  | .assigneeNotFound => "El usuario indicado no pertenece a esta organización."
  | .emptyComment => "El comentario no puede estar vacío."
  | .invalidSlaTarget detail => detail

end TicketingError

end Helpdesk
