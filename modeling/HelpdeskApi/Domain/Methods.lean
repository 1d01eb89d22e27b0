/-
Module: HelpdeskApi.Domain.Methods
Layer: Domain
Purpose: The commands of a ticket as the methods they are: they change the aggregate in place, statement by
  statement, and a method that fails leaves whatever it has changed so far. `called_eq` says that a
  failing method has changed nothing, so that `Ticket.perform` tells the whole story.
Trusted boundary: human-reviewed spec
Main exports: Ticket.Method, Ticket.Command.method, Ticket.Call, Ticket.called, Ticket.called_eq
-/
import HelpdeskApi.Domain.Commands
import HelpdeskApi.Library.Runs

namespace Helpdesk

namespace Ticket

/-- A method of the aggregate, with what it returns. -/
abbrev Method := StateM Ticket (Except TicketingError Unit)

namespace Method

def changeStatus (next : TicketStatus) (now : Instant) : Method := do
  let current := (← get).status
  if current = next then return .ok ()
  if !canTransition current next then return .error (.invalidTicketTransition current next)
  modify fun t => { t with status := next }
  modify fun t => t.applyLifecycleTimestamps next now
  modify fun t => t.touch now
  modify fun t => t.addDomainEvent (ticketStatusChanged t.id t.tenantId now current next t.assigneeId)
  return .ok ()

def assignTo (assigneeId : Nullable UserId) (now : Instant) : Method := do
  if isTerminal (← get).status then return .error .ticketClosed
  modify fun t => { t with assigneeId := assigneeId }
  modify fun t => t.touch now
  modify fun t => t.addDomainEvent (ticketAssigned t.id t.tenantId now assigneeId t.status)
  return .ok ()

def unassign (now : Instant) : Method := do
  if isTerminal (← get).status then return .error .ticketClosed
  modify fun t => { t with assigneeId := .null }
  modify fun t => t.touch now
  modify fun t => t.addDomainEvent (ticketUnassigned t.id t.tenantId now t.status)
  return .ok ()

def registerComment (commentId : CommentId) (authorId : UserId) (authorRole : String) (now : Instant) :
    Method := do
  if !(← get).acceptsComments then return .error .ticketClosed
  modify fun t => t.touch now
  modify fun t => t.addDomainEvent (commentAdded t.id t.tenantId now commentId authorId authorRole)
  return .ok ()

def recordSlaBreach (timerId : SlaTimerId) (kind : String) (dueAt now : Instant) : Method := do
  modify fun t =>
    t.addDomainEvent (slaBreached t.id t.tenantId now timerId kind dueAt t.assigneeId t.priority)
  return .ok ()

end Method

/-- The method a command calls. -/
def Command.method (now : Instant) : Command → Method
  | .changeStatus next => .changeStatus next now
  | .assignTo assigneeId => .assignTo assigneeId now
  | .unassign => .unassign now
  | .registerComment commentId authorId authorRole => .registerComment commentId authorId authorRole now
  | .recordSlaBreach timerId kind dueAt => .recordSlaBreach timerId kind dueAt now

/-- A command at an instant. -/
structure Call where
  command : Command
  now : Instant

/-- What a call returns, and the aggregate afterwards. -/
def called (t : Ticket) (c : Call) : Except TicketingError Unit × Ticket :=
  (c.command.method c.now).run t

/-- The aggregate after a call, which is there whether the call fails or not. -/
def step (t : Ticket) (c : Call) : Option Ticket :=
  some (t.called c).2

/-- How a method should end that has done all of a command or nothing of it. -/
def allOrNothing (t : Ticket) : Except TicketingError Ticket → Except TicketingError Unit × Ticket
  | .ok t' => (.ok (), t')
  | .error e => (.error e, t)

/-- A call that succeeds does what the command does, and one that fails has not changed anything. -/
theorem called_eq (t : Ticket) (c : Call) : t.called c = t.allOrNothing (t.perform c.now c.command) := by
  obtain ⟨command, now⟩ := c
  cases command with
  | changeStatus next =>
      by_cases same : t.status = next
      · simp [called, Command.method, Method.changeStatus, perform, Ticket.changeStatus, same]
        rfl
      · by_cases legal : canTransition t.status next = true
        · simp [called, Command.method, Method.changeStatus, perform, Ticket.changeStatus, same, legal]
          cases next <;> rfl
        · simp [called, Command.method, Method.changeStatus, perform, Ticket.changeStatus, same, legal]
          rfl
  | assignTo assigneeId =>
      by_cases closed : t.status = .CLOSED <;>
        simp [called, Command.method, Method.assignTo, perform, Ticket.assignTo, closed] <;> rfl
  | unassign =>
      by_cases closed : t.status = .CLOSED <;>
        simp [called, Command.method, Method.unassign, perform, Ticket.unassign, closed] <;> rfl
  | registerComment commentId authorId authorRole =>
      by_cases accepts : t.acceptsComments = true <;>
        simp [called, Command.method, Method.registerComment, perform, Ticket.registerComment, accepts] <;> rfl
  | recordSlaBreach timerId kind dueAt => rfl

end Ticket

end Helpdesk
