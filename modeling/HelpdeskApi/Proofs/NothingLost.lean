/-
Module: HelpdeskApi.Proofs.NothingLost
Layer: Proofs
Purpose: Nothing gets lost between the outbox and the queues: whatever fails and whoever dies, a message
  that is published has been taken by all of its queues, it was published by a batch in which nothing threw
  for it, and it stays published.
Trusted boundary: none
Main exports: Db.Delivered, nothing_lost
-/
import HelpdeskApi.Outbox.Custody

namespace Helpdesk.Outbox

open Relational Txn Transition

variable {c c' : Config outbox} {m : Move outbox}

/-- What is published all of its queues have taken. -/
def Db.Delivered (db : Db) : Prop :=
  ∀ id row, db.outbox.find? id = some row → row.publishedAt ≠ none → ∀ queue ∈ queuesFor row.eventName,
    (queue, OutboxPublisher.data row) ∈ db.accepted

theorem delivered_step {db₀ : Db} {jobs : List Job} {history : List (Config outbox × Move outbox)}
    (run : Run Config.step (Config.start db₀ jobs) history c) (delivered : c.db.Delivered)
    (taken : c.step m = some c') : c'.db.Delivered := by
  intro id row' found' isPublished queue toQueue
  have grows := grows_of_step taken
  rcases published_by_step run taken found' (Option.isSome_iff_ne_none.mpr isPublished) with
    ⟨row, found, before⟩ | ⟨i, s, _, at_i, marked⟩
  · obtain ⟨row'', found'', becomes⟩ := grows.outbox id row found
    cases found'.symm.trans found''
    rw [becomes.eventName] at toQueue
    rw [becomes.data]
    exact grows.accepted.subset (delivered id row found (Option.isSome_iff_ne_none.mp before) queue toQueue)
  · -- the publisher that marks it has seen to its queues
    obtain ⟨m, claimed, rfl, queues, _⟩ := (played_of_run run i s at_i).trace.marked marked
    have settled := (settled_of_run run at_i).grows grows
    obtain ⟨row, found, becomes⟩ := settled.rows m claimed
    cases found'.symm.trans found
    rw [becomes.eventName] at toQueue
    rw [becomes.data]
    exact settled.accepted queue _ (queues queue toQueue)

theorem delivered_of_run {db₀ : Db} (delivered : db₀.Delivered) {jobs : List Job}
    {history : List (Config outbox × Move outbox)} (run : Run Config.step (Config.start db₀ jobs) history c) :
    c.db.Delivered := by
  induction run with
  | start => exact delivered
  | step run taken ih => exact delivered_step run ih taken

/-- Nothing is lost between the outbox and the queues. -/
theorem nothing_lost {db₀ : Db} (delivered : db₀.Delivered) {jobs : List Job}
    {history : List (Config outbox × Move outbox)} (run : Run Config.step (Config.start db₀ jobs) history c) :
    c.db.Delivered ∧
      ∀ m c', c.step m = some c' → ∀ id row row', c.db.outbox.find? id = some row →
        c'.db.outbox.find? id = some row' →
          (∀ when, row.publishedAt = some when → row'.publishedAt = some when) ∧
            (row.publishedAt = none → row'.publishedAt ≠ none → ∃ i s, m = .finish i ∧ c.sessions[i]? = some s ∧
              id ∈ (claimedIn s.trace).map OutboxRow.id ∧ ∀ e ∈ s.trace, throwsFor id e = false) := by
  refine ⟨delivered_of_run delivered run, ?_⟩
  intro m c' taken id row row' found found'
  refine ⟨fun when set => ?_, fun free set => ?_⟩
  · obtain ⟨row'', found'', becomes⟩ := (grows_of_step taken).outbox id row found
    cases found'.symm.trans found''
    exact becomes.published when set
  · rcases published_by_step run taken found' (Option.isSome_iff_ne_none.mpr set) with
      ⟨_, before, isSet⟩ | ⟨i, s, isFinish, at_i, marked⟩
    · cases found.symm.trans before
      simp [free] at isSet
    · obtain ⟨m, claimed, rfl, _, clean⟩ := (played_of_run run i s at_i).trace.marked marked
      exact ⟨i, s, isFinish, at_i, List.mem_map_of_mem claimed, clean⟩

section Example

/-- An event of a use case. -/
def assignedRecord : OutboxRecord where
  tenantId := ⟨1⟩
  aggregateType := "Ticket"
  aggregateId := 2
  eventName := "ticket.assigned"
  version := 1
  payload := []
  occurredAt := 1000
  id := 10

/-- A publisher that nothing happens to. -/
def steadyPublisher : Publisher where
  limit := 50
  maxAttempts := 5
  now := 2000
  fate _ _ := .answers
  detalle _ _ := ""

def postedJobs : List Job :=
  [.useCase [assignedRecord] none, .publishPending steadyPublisher]

/-- The use case commits, and then the publisher claims its message, adds it to its queue and marks it. -/
def postedMoves : List (Move outbox) :=
  [.call 0 0, .finish 0, .call 1 0, .call 1 0, .call 1 0]

theorem nothing_lost_posted :
    ∃ (history : List (Config outbox × Move outbox)) (c c' : Config outbox) (row' : OutboxRow),
      Run Config.step (Config.start Db.empty postedJobs) history c ∧
      c.step (.finish 1) = some c' ∧ c'.db.outbox.find? assignedRecord.id = some row' ∧ row'.publishedAt = some 2000 ∧
      c.db.Delivered ∧ ∃ i s, Move.finish 1 = Move.finish (A := outbox) i ∧ c.sessions[i]? = some s ∧
        assignedRecord.id ∈ (claimedIn s.trace).map OutboxRow.id ∧ ∀ e ∈ s.trace, throwsFor assignedRecord.id e = false := by
  have possible : (play Config.step (Config.start (A := outbox) Db.empty postedJobs) postedMoves).map
      (fun c => ((c.db.outbox.find? assignedRecord.id).map OutboxRow.publishedAt,
        (c.step (.finish 1)).map fun c' => (c'.db.outbox.find? assignedRecord.id).map OutboxRow.publishedAt)) =
      some (some none, some (some (some 2000))) := by decide
  obtain ⟨c, played, shown⟩ := Option.map_eq_some_iff.mp possible
  obtain ⟨before, after⟩ := Prod.mk.inj shown
  obtain ⟨row, found, unpublished⟩ := Option.map_eq_some_iff.mp before
  obtain ⟨c', taken, later⟩ := Option.map_eq_some_iff.mp after
  obtain ⟨row', found', isPublished⟩ := Option.map_eq_some_iff.mp later
  have delivered : Db.empty.Delivered := by
    intro id row stored
    cases stored
  have lost := nothing_lost delivered (play_run played)
  refine ⟨_, c, c', row', play_run played, taken, found', isPublished, lost.1, ?_⟩
  exact (lost.2 (.finish 1) c' taken assignedRecord.id row row' found found').2 unpublished (by simp [isPublished])

end Example

end Helpdesk.Outbox
