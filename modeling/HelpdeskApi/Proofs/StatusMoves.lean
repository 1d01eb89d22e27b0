/-
Module: HelpdeskApi.Proofs.StatusMoves
Layer: Proofs
Purpose: The status a ticket is stored with, along interleaved transactions. Each command checks its
  transition against the ticket it loaded and then writes back every column of it, so the stored status
  follows the table exactly in the runs in which every commit of a saved ticket finds a status that the
  committing transaction may overwrite.
Trusted boundary: none
Main exports: TicketRow.MovesTo, RowMoves, StatusLegal, ClosedKept, SavesCurrent, statusMoves_iff
-/
import HelpdeskApi.Application.TicketTraces
import HelpdeskApi.Application.SerialRuns
import HelpdeskApi.Library.CommitLog

namespace Helpdesk

open Relational Txn Transition

/-- The status stays or follows the table, and a closed ticket keeps a time of closing. -/
structure TicketRow.MovesTo (old new : TicketRow) : Prop where
  status : new.status = old.status ∨ canTransition old.status new.status = true
  closedAt : old.status = .CLOSED → old.closedAt.isSome = true → new.closedAt.isSome = true

/-- A row that is there stays there and moves along the table. -/
def RowMoves (old new : Option TicketRow) : Prop :=
  ∀ row, old = some row → ∃ row', new = some row' ∧ row.MovesTo row'

/-- The step takes the row of every ticket along the table. -/
def StatusLegal (c : Config ticketing) (m : Move ticketing) : Prop :=
  ∀ id, Along Config.step (fun c : Config ticketing => c.db.tickets.find? id) RowMoves c m

/-- A ticket that some state of a run shows closed is closed in the last state, and still says when. -/
def ClosedKept (history : List (Config ticketing × Move ticketing)) (c : Config ticketing) : Prop :=
  ∀ entry ∈ history, ∀ id row, entry.1.db.tickets.find? id = some row → row.status = .CLOSED →
    ∃ row', c.db.tickets.find? id = some row' ∧ row'.status = .CLOSED ∧
      (row.closedAt.isSome = true → row'.closedAt.isSome = true)

/-- Whether a stored status may be overwritten by an execution that loaded the ticket as `loaded`: it is the
    loaded one, or the requested one, or one from which the requested one is allowed. -/
def Execution.mayOverwrite (e : Execution) (loaded : Ticket) (stored : TicketStatus) : Bool :=
  stored = loaded.status || stored = e.target loaded || canTransition stored (e.target loaded)

/-- A transaction that is about to commit a ticket it has saved finds a stored status it may overwrite. -/
def SavesCurrent (c : Config ticketing) : Move ticketing → Prop
  | .finish i => ∀ (s : Session ticketing) out, c.sessions[i]? = some s → s.status = .running (.done out) →
      ticketing.commits out = true → savedTickets s.trace ≠ [] → ∀ loaded ∈ loadedTickets s.trace,
        ∀ row, c.db.tickets.find? loaded.id = some row → s.job.mayOverwrite loaded row.status = true
  | _ => True

/-- What is asked of a commit there, by what the session has loaded and saved and by the database it finds. -/
def OverwritesCurrent (e : Execution) (trace : List repositories.transactional.Event) (db : Db) : Prop :=
  savedTickets trace ≠ [] → ∀ loaded ∈ loadedTickets trace, ∀ row ∈ db.tickets.find? loaded.id,
    e.mayOverwrite loaded row.status = true

instance (e : Execution) (trace : List repositories.transactional.Event) (db : Db) :
    Decidable (OverwritesCurrent e trace db) :=
  inferInstanceAs (Decidable (_ → _))

theorem savesCurrent_iff {c : Config ticketing} {m : Move ticketing} :
    SavesCurrent c m ↔ c.Commits OverwritesCurrent m := by
  cases m <;> exact Iff.rfl

instance (c : Config ticketing) (m : Move ticketing) : Decidable (SavesCurrent c m) :=
  decidable_of_iff' _ savesCurrent_iff

section Rows

theorem TicketRow.MovesTo.refl (row : TicketRow) : row.MovesTo row := ⟨.inl rfl, fun _ closed => closed⟩

theorem RowMoves.refl (row : Option TicketRow) : RowMoves row row :=
  fun row found => ⟨row, found, .refl row⟩

/-- The table leads nowhere from `CLOSED`. -/
theorem TicketRow.MovesTo.closed {old new : TicketRow} (moves : old.MovesTo new)
    (closed : old.status = .CLOSED) : new.status = .CLOSED := by
  rcases moves.status with same | legal
  · exact same.trans closed
  · rw [closed] at legal
    cases legal

/-- Along a path of the table a closed ticket stays closed. -/
theorem closed_of_path {old new : Option TicketRow} (path : Relation.ReflTransGen RowMoves old new)
    {row : TicketRow} (found : old = some row) (closed : row.status = .CLOSED) :
    ∃ row', new = some row' ∧ row'.status = .CLOSED ∧
      (row.closedAt.isSome = true → row'.closedAt.isSome = true) := by
  induction path with
  | refl => exact ⟨row, found, closed, fun kept => kept⟩
  | tail _ moves ih =>
      obtain ⟨row₁, found₁, closed₁, kept₁⟩ := ih
      obtain ⟨row₂, found₂, moves₂⟩ := moves row₁ found₁
      exact ⟨row₂, found₂, moves₂.closed closed₁, fun kept => moves₂.closedAt closed₁ (kept₁ kept)⟩

theorem find?_saveTicket (tickets : Table TicketRow) (saved : Ticket) (id : TicketId) :
    (saveTicket tickets saved).find? id = if id = saved.id then
      some ((tickets.find? id).elim (createTicketRow saved) (updateTicketRow saved)) else tickets.find? id :=
  tickets.find?_upsert _ _ _ id

theorem find?_saveTicket_of_stored {tickets : Table TicketRow} {saved : Ticket} {id : TicketId} {row : TicketRow}
    (sameId : saved.id = id) (stored : tickets.find? id = some row) :
    (saveTicket tickets saved).find? id = some (updateTicketRow saved row) := by
  rw [find?_saveTicket, if_pos sameId.symm, stored]
  rfl

/-- Saving a snapshot over a row takes it along the table exactly if its status may be overwritten. -/
theorem Snapshot.movesTo_iff {e : Execution} {loaded saved : Ticket} (snapshot : Snapshot e loaded saved)
    (row : TicketRow) :
    row.MovesTo (updateTicketRow saved row) ↔ e.mayOverwrite loaded row.status = true := by
  have written : (updateTicketRow saved row).status = e.target loaded := snapshot.status
  simp only [Execution.mayOverwrite, Bool.or_eq_true, decide_eq_true_eq, or_assoc]
  constructor
  · intro moves
    rcases moves.status with same | legal
    · exact .inr (.inl (same.symm.trans written))
    · exact .inr (.inr (written ▸ legal))
  · intro current
    have status : e.target loaded = row.status ∨ canTransition row.status (e.target loaded) = true := by
      rcases current with asLoaded | same | legal
      · rw [asLoaded]
        exact snapshot.checked.imp And.left fun legal => legal
      · exact .inl same.symm
      · exact .inr legal
    constructor
    · rw [written]
      exact status
    · intro closed _
      refine snapshot.closedAt (snapshot.status.trans ?_)
      rw [closed] at status
      rcases status with same | legal
      · exact same
      · cases legal

/-- The same for the whole table. -/
theorem Snapshot.rowMoves_iff {e : Execution} {loaded saved : Ticket} (snapshot : Snapshot e loaded saved)
    (tickets : Table TicketRow) :
    (∀ id, RowMoves (tickets.find? id) ((saveTicket tickets saved).find? id)) ↔
      ∀ row, tickets.find? loaded.id = some row → e.mayOverwrite loaded row.status = true := by
  constructor
  · intro moves row stored
    obtain ⟨row', stored', moved⟩ := moves loaded.id row stored
    rw [find?_saveTicket, if_pos snapshot.id.symm, stored] at stored'
    cases stored'
    exact (snapshot.movesTo_iff row).mp moved
  · intro current id
    rw [find?_saveTicket]
    split
    · rename_i isSaved
      intro row stored
      refine ⟨updateTicketRow saved row, by rw [stored]; rfl, ?_⟩
      rw [isSaved, snapshot.id] at stored
      exact (snapshot.movesTo_iff row).mpr (current row stored)
    · exact .refl _

end Rows

section Runs

variable {db₀ : Db} {jobs : List Execution} {history : List (Config ticketing × Move ticketing)}
  {c c' : Config ticketing} {m : Move ticketing}

/-- A session that did not open its ticket has saved nothing but what it had loaded. -/
theorem savesSnapshot_of_run (run : Run Config.step (.start db₀ jobs) history c) {i : Nat}
    {s : Session ticketing} (found : c.sessions[i]? = some s) (existing : s.job.opensTicket = false) :
    SavesSnapshot s.job s.trace := by
  have conforms : c.Conforms (fun (e : Execution) trace => e.opensTicket = false → SavesSnapshot e trace)
      fun _ _ _ => True := Config.conforms_of_run Execution.ticket_spec run
  exact (conforms i s found).trace existing

/-- Only commits change the tickets, by what the session has saved. -/
theorem tickets_of_step (taken : c.step m = some c') :
    (c'.db.tickets = c.db.tickets ∧ SavesCurrent c m) ∨
      ∃ (i : Nat) (s : Session ticketing) (out : Except TicketingError Output), m = .finish i ∧
        c.sessions[i]? = some s ∧ s.status = .running (.done out) ∧ ticketing.commits out = true ∧
        c'.db.tickets = (savedTickets s.trace).foldl saveTicket c.db.tickets := by
  cases Config.step_stepped taken with
  | arrive job => exact .inl ⟨rfl, trivial⟩
  | @call i choice s call next o found running answer =>
      have sameDb : repositories.transactional.applyAll o.effects c.db = c.db := by
        rw [repositories.deferred_transactional _ _ _ _ o (List.mem_of_getElem? answer)]
        rfl
      exact .inl ⟨congrArg Db.tickets sameDb, trivial⟩
  | @commit i s out found running commits =>
      exact .inr ⟨i, s, out, rfl, found, running, commits, Db.after_tickets _ _⟩
  | @rollback i s out found running fails =>
      refine .inl ⟨rfl, ?_⟩
      intro s' out' found' running' commits
      cases found.symm.trans found'
      cases running.symm.trans running'
      cases fails.symm.trans commits
  | abort found running => exact .inl ⟨rfl, trivial⟩

/-- One step takes every row along the table exactly if it does not commit over a status it may not
    overwrite. -/
theorem statusLegal_iff (run : Run Config.step (.start db₀ jobs) history c) (taken : c.step m = some c')
    (existing : ∀ s ∈ c.sessions, s.job.opensTicket = false) : StatusLegal c m ↔ SavesCurrent c m := by
  have legal_iff : StatusLegal c m ↔ ∀ id, RowMoves (c.db.tickets.find? id) (c'.db.tickets.find? id) := by
    constructor
    · intro legal id
      exact legal id c' taken
    · intro moves id c'' taken'
      cases taken.symm.trans taken'
      exact moves id
  rw [legal_iff]
  rcases tickets_of_step taken with ⟨same, current⟩ | ⟨i, s, out, rfl, found, running, commits, changed⟩
  · rw [same]
    exact iff_of_true (fun id => .refl _) current
  · have saves := savesSnapshot_of_run run found (existing s (List.mem_of_getElem? found))
    rcases saves with nothing | ⟨loaded, saved, loads, saves, snapshot⟩
    · rw [changed, nothing]
      refine iff_of_true (fun id => .refl _) ?_
      intro s' out' found' _ _ something
      cases found.symm.trans found'
      exact absurd nothing something
    · rw [changed, saves, List.foldl_cons, List.foldl_nil, snapshot.rowMoves_iff]
      constructor
      · intro current s' out' found' _ _ _ loaded' member
        cases found.symm.trans found'
        rw [loads, List.mem_singleton] at member
        exact member ▸ current
      · intro current
        apply current s out found running commits (by simp [saves]) loaded
        rw [loads]
        exact List.mem_singleton.mpr rfl

/-- Where every step follows the table, a ticket that was closed once stays closed. -/
theorem closedKept_of_legal (run : Run Config.step (.start db₀ jobs) history c)
    (legal : Meets StatusLegal history) : ClosedKept history c := by
  intro entry member id row stored closed
  exact closed_of_path (run.path_of_mem (fun entry member => legal entry member id) member) stored closed

/-- However transactions on existing tickets interleave: the stored status of every ticket moves along the
    table, and no commit reopens or undates a closed one, if and only if every commit of a saved ticket
    found a status it may overwrite. -/
theorem statusMoves_iff (run : Run Config.step (.start db₀ jobs) history c)
    (existing : ∀ s ∈ c.sessions, s.job.opensTicket = false) :
    (Meets StatusLegal history ∧ ClosedKept history c) ↔ Meets SavesCurrent history := by
  have pointwise (entry : Config ticketing × Move ticketing) (member : entry ∈ history) :
      StatusLegal entry.1 entry.2 ↔ SavesCurrent entry.1 entry.2 := by
    obtain ⟨earlier, later, next, before, taken, after, _⟩ := run.split member
    exact statusLegal_iff before taken <|
      Config.forall_job_of_later (P := fun (e : Execution) => e.opensTicket = false) (.cons taken after) existing
  constructor
  · intro both entry member
    exact (pointwise entry member).mp (both.1 entry member)
  · intro current
    have legal : Meets StatusLegal history := fun entry member =>
      (pointwise entry member).mpr (current entry member)
    exact ⟨legal, closedKept_of_legal run legal⟩

end Runs

section Example

/-- A ticket that is opened and resolved. -/
def resolvedDb : Db :=
  (serve (exampleExecution 1 (.changeTicketStatus ⟨⟨1⟩, ⟨2⟩, ⟨100⟩, .RESOLVED⟩))
    (serve (exampleExecution 0 (.createTicket ⟨⟨1⟩, ⟨2⟩, "Hola", "No entra", .HIGH⟩)) .empty).2).2

def commentJob : Execution :=
  exampleExecution 2 (.addComment ⟨⟨1⟩, ⟨2⟩, "requester", ⟨100⟩, "Gracias"⟩)

def closeJob : Execution :=
  exampleExecution 3 (.changeTicketStatus ⟨⟨1⟩, ⟨3⟩, ⟨100⟩, .CLOSED⟩)

/-- The comment loads the ticket, and then the whole change to `CLOSED` goes in between. -/
def closing : List (Move ticketing) :=
  [.call 0 0, .call 1 0, .call 1 0, .call 1 0, .call 1 0, .finish 1]

/-- What is left of the comment. -/
def commenting : List (Move ticketing) :=
  [.call 0 0, .call 0 0, .call 0 0, .call 0 0, .finish 0]

/-- A ticket that was closed at minute 3 is open to comments again, and nothing says that it was closed. -/
theorem staleComment_lost :
    ∃ (history : List (Config ticketing × Move ticketing)) (c : Config ticketing),
      Run Config.step (.start resolvedDb [commentJob, closeJob]) history c ∧
        (∀ s ∈ c.sessions, s.job.opensTicket = false) ∧
        (∃ entry ∈ history, ∃ row, entry.1.db.tickets.find? ⟨100⟩ = some row ∧ row.status = .CLOSED ∧
          row.closedAt = some 180000) ∧
        (∃ row, c.db.tickets.find? ⟨100⟩ = some row ∧ row.status = .RESOLVED ∧ row.closedAt = none) ∧
        ¬ClosedKept history c := by
  have possible : (play Config.step (.start (A := ticketing) resolvedDb [commentJob, closeJob]) closing).bind
      (fun c => (play Config.step c commenting).map fun c' =>
        ((c.db.tickets.find? ⟨100⟩).map fun r => (r.status, r.closedAt),
          (c'.db.tickets.find? ⟨100⟩).map fun r => (r.status, r.closedAt),
          c'.sessions.map fun (s : Session ticketing) => s.job.opensTicket)) =
      some (some (.CLOSED, some 180000), some (.RESOLVED, none), [false, false]) := by decide
  obtain ⟨between, closes, rest⟩ := Option.bind_eq_some_iff.mp possible
  obtain ⟨c, comments, facts⟩ := Option.map_eq_some_iff.mp rest
  simp only [Prod.mk.injEq, Option.map_eq_some_iff] at facts
  obtain ⟨⟨row, stored, closed, closedAt⟩, ⟨row', stored', reopened, undated⟩, existing⟩ := facts
  obtain ⟨next, loads, saves⟩ := Option.bind_eq_some_iff.mp comments
  have member : (between, .call 0 0) ∈ playHistory Config.step (.start resolvedDb [commentJob, closeJob]) closing ++
      (between, .call 0 0) :: playHistory Config.step next commenting.tail :=
    List.mem_append_right _ List.mem_cons_self
  refine ⟨_, c, (play_run closes).append (.cons loads (play_run saves)), ?_,
    ⟨_, member, row, stored, closed, closedAt⟩, ⟨row', stored', reopened, undated⟩, ?_⟩
  · intro s inside
    have shown : s.job.opensTicket ∈ [false, false] :=
      existing ▸ List.mem_map_of_mem (f := fun (s : Session ticketing) => s.job.opensTicket) inside
    simpa using shown
  · intro kept
    obtain ⟨row'', stored'', stillClosed, _⟩ := kept _ member ⟨100⟩ row stored closed
    cases stored'.symm.trans stored''
    cases reopened.symm.trans stillClosed

/-- A comment on a resolved ticket that was loaded before somebody closed it. -/
theorem staleComment_reopens :
    ∃ (history : List (Config ticketing × Move ticketing)) (c : Config ticketing),
      Run Config.step (.start resolvedDb [commentJob, closeJob]) history c ∧
        (∀ s ∈ c.sessions, s.job.opensTicket = false) ∧
        ¬(Meets StatusLegal history ∧ ClosedKept history c) := by
  obtain ⟨history, c, run, existing, _, _, lost⟩ := staleComment_lost
  exact ⟨history, c, run, existing, fun both => lost both.2⟩

/-- A comment that is saved while the change to `CLOSED` has loaded the ticket and not saved it yet. -/
def commentBetween : List (Move ticketing) :=
  [.call 1 0, .call 0 0, .call 0 0, .call 0 0, .call 0 0, .call 0 0, .finish 0, .call 1 0, .call 1 0, .call 1 0, .finish 1]

/-- Of two runs in which the transactions overlap, one meets the condition, and the status follows the table
    until the ticket is closed, and the other one does not. -/
theorem statusMoves_iff_overlapping :
    (∃ (c : Config ticketing) (row : TicketRow),
      Run Config.step (.start resolvedDb [commentJob, closeJob])
        (playHistory Config.step (.start resolvedDb [commentJob, closeJob]) commentBetween) c ∧
      c.db.tickets.find? ⟨100⟩ = some row ∧ row.status = .CLOSED ∧
      Meets SavesCurrent (playHistory Config.step (.start resolvedDb [commentJob, closeJob]) commentBetween) ∧
      Meets StatusLegal (playHistory Config.step (.start resolvedDb [commentJob, closeJob]) commentBetween)) ∧
    ∃ (history : List (Config ticketing × Move ticketing)) (c : Config ticketing),
      Run Config.step (.start resolvedDb [commentJob, closeJob]) history c ∧ ¬Meets SavesCurrent history := by
  constructor
  · have possible : (play Config.step (.start (A := ticketing) resolvedDb [commentJob, closeJob]) commentBetween).map
        (fun c => ((c.db.tickets.find? ⟨100⟩).map TicketRow.status,
          c.sessions.all fun (s : Session ticketing) => s.job.opensTicket = false)) = some (some .CLOSED, true) := by
      decide
    have current : Meets SavesCurrent (playHistory Config.step
        (.start (A := ticketing) resolvedDb [commentJob, closeJob]) commentBetween) := by decide
    obtain ⟨c, played, facts⟩ := Option.map_eq_some_iff.mp possible
    simp only [Prod.mk.injEq, Option.map_eq_some_iff, List.all_eq_true, decide_eq_true_eq] at facts
    obtain ⟨⟨row, stored, closed⟩, existing⟩ := facts
    exact ⟨c, row, play_run played, stored, closed, current,
      ((statusMoves_iff (play_run played) existing).mpr current).1⟩
  · obtain ⟨history, c, run, existing, _, _, lost⟩ := staleComment_lost
    exact ⟨history, c, run, fun current => lost ((statusMoves_iff run existing).mpr current).2⟩

end Example

end Helpdesk
