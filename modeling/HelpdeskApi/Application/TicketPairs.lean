/-
Module: HelpdeskApi.Application.TicketPairs
Layer: Application
Purpose: Two use cases on tickets and nobody else, which both commit. What holds of every commit, of the ticket
  it has loaded and of the row it finds, is a fact about the row that was there at the start and the row the
  first commit has left.
Trusted boundary: none
Main exports: FindsLoaded, CommitsOnto, savedBy, tickets_of_pair, commitsOnto_iff, loaded_of_pair
-/
import HelpdeskApi.Application.TicketCommands
import HelpdeskApi.Library.TwoCommits

namespace Helpdesk

open Relational Txn Transition

/-- What is asked of the tickets a session has loaded and of the rows that are there when it is about to commit. -/
def FindsLoaded (fits : Execution → Db → Ticket → TicketRow → Prop) (e : Execution)
    (trace : List repositories.transactional.Event) (db : Db) : Prop :=
  ∀ loaded ∈ loadedTickets trace, ∀ row, db.tickets.find? loaded.id = some row → fits e db loaded row

instance (fits : Execution → Db → Ticket → TicketRow → Prop) [∀ e db t row, Decidable (fits e db t row)] (e : Execution)
    (trace : List repositories.transactional.Event) (db : Db) : Decidable (FindsLoaded fits e trace db) :=
  inferInstanceAs (Decidable (∀ loaded ∈ loadedTickets trace, ∀ row ∈ db.tickets.find? loaded.id, fits e db loaded row))

/-- Every ticket that was loaded by a session that commits goes with the committed row it finds. -/
def CommitsOnto (fits : Execution → Db → Ticket → TicketRow → Prop) :
    Config ticketing → Move ticketing → Prop :=
  Config.Commits (FindsLoaded fits)

instance (fits : Execution → Db → Ticket → TicketRow → Prop) [∀ e db t row, Decidable (fits e db t row)]
    (c : Config ticketing) (m : Move ticketing) : Decidable (CommitsOnto fits c m) :=
  inferInstanceAs (Decidable (c.Commits (FindsLoaded fits) m))

/-- The tickets a session has saved. -/
def savedBy (c : Config ticketing) (i : Nat) : List Ticket :=
  (c.writesOf i).filterMap Write.savedTicket?

theorem savedBy_eq {c : Config ticketing} {i : Nat} {s : Session ticketing} (found : c.sessions[i]? = some s) :
    savedBy c i = savedTickets s.trace := by
  rw [savedBy, Config.writesOf_eq found]
  rfl

/-- What is asked of the one ticket that was loaded, and of the row that is there. -/
theorem findsLoaded_iff {fits : Execution → Db → Ticket → TicketRow → Prop} {e : Execution}
    {trace : List repositories.transactional.Event} {db : Db} {loaded : Ticket} {id : TicketId} {row : TicketRow}
    (loads : loadedTickets trace = [loaded]) (sameId : loaded.id = id) (stored : db.tickets.find? id = some row) :
    FindsLoaded fits e trace db ↔ fits e db loaded row := by
  rw [FindsLoaded, loads]
  constructor
  · intro all
    exact all loaded (List.mem_singleton_self loaded) row (sameId.symm ▸ stored)
  · intro one ticket isLoaded row' stored'
    cases List.mem_singleton.mp isLoaded
    rw [sameId] at stored'
    cases stored.symm.trans stored'
    exact one

section Pairs

variable {db₀ : Db} {jobs : List Execution} {history : List (Config ticketing × Move ticketing)}
  {c : Config ticketing} {i j : Nat}

/-- The tickets in the end. -/
theorem tickets_of_pair (run : Run Config.step (.start db₀ jobs) history c)
    (order : Config.commitsOf history = [i, j]) :
    c.db.tickets = (savedBy c j).foldl saveTicket ((savedBy c i).foldl saveTicket db₀.tickets) := by
  rw [Config.db_of_pair repositories.deferred_transactional run order]
  apply (Db.after_tickets _ _).trans
  exact congrArg (fun tickets => (savedBy c j).foldl saveTicket tickets) (Db.after_tickets db₀ (c.writesOf i))

/-- What has been loaded before one of the two commits was there at the start, or has been left by the first. -/
theorem loaded_of_pair (run : Run Config.step (.start db₀ jobs) history c)
    (order : Config.commitsOf history = [i, j]) {k : Nat} {s : Session ticketing} (found : c.sessions[k]? = some s)
    (commands : s.job.commands = true) {ticket : Ticket} (loaded : ticket ∈ loadedTickets s.trace) :
    ∃ row, ticket = toTicket row ∧
      (k = i → db₀.tickets.find? ticket.id = some row) ∧
      (k = j → db₀.tickets.find? ticket.id = some row ∨
        ((savedBy c i).foldl saveTicket db₀.tickets).find? ticket.id = some row) := by
  obtain ⟨earlier, later, c₁, row, before, after, whole, uncommitted, stored, isRow⟩ :=
    loaded_of_run run found commands loaded
  obtain ⟨first, second⟩ := Config.db_of_uncommitted repositories.deferred_transactional before after (whole ▸ order)
  refine ⟨row, isRow, fun isFirst => ?_, fun isSecond => ?_⟩
  · rw [← first (isFirst ▸ uncommitted)]
    exact stored
  · rcases second (isSecond ▸ uncommitted) with same | same
    · left
      rw [← same]
      exact stored
    · right
      rw [same] at stored
      have tickets := Db.after_tickets db₀ (c.writesOf i)
      rw [savedBy, ← tickets]
      exact stored

/-- What is asked of every commit is asked of the two. -/
theorem commitsOnto_iff {fits : Execution → Db → Ticket → TicketRow → Prop}
    (run : Run Config.step (.start db₀ jobs) history c) (order : Config.commitsOf history = [i, j])
    {s t : Session ticketing} (at_i : c.sessions[i]? = some s) (at_j : c.sessions[j]? = some t) :
    Meets (CommitsOnto fits) history ↔
      FindsLoaded fits s.job s.trace db₀ ∧ FindsLoaded fits t.job t.trace (db₀.after (c.writesOf i)) :=
  Config.meets_commits_iff repositories.deferred_transactional run order at_i at_j

/-- The tickets the first commit leaves. -/
theorem tickets_of_first (c : Config ticketing) (db₀ : Db) (i : Nat) :
    (db₀.after (c.writesOf i)).tickets = (savedBy c i).foldl saveTicket db₀.tickets :=
  Db.after_tickets db₀ (c.writesOf i)

end Pairs

end Helpdesk
