/-
Module: HelpdeskApi.Outbox.Sessions
Layer: Outbox
Purpose: What is true of all that a publisher or a use case has done by some time, whatever the others do:
  what it holds is what it has claimed, it adds a message to a queue once at most, and it marks as published
  only what all the queues of the message have taken.
Trusted boundary: none
Main exports: Publisher.Does, Played.locked, Played.countP_le, Played.marked, Played.written,
  Played.effects, Played.eq_nil_of_claim
-/
import HelpdeskApi.Outbox.Scripts

namespace Helpdesk.Outbox

open Txn

namespace Publisher

variable {p : Publisher} {batch : List OutboxRow} {trace : List Event} {e : Event}

/-- What a publisher does after it has claimed a batch. -/
inductive Does (p : Publisher) (batch : List OutboxRow) : Event → Prop where
  | handles {message : OutboxRow} {e : Event} (among : message ∈ batch) (handles : p.Handles message e) :
      Does p batch e
  | publishes (ids : List Uuid) : Does p batch (p.published ids)

theorem does_of_mem (inside : e ∈ p.script batch) : p.Does batch e := by
  rcases List.mem_append.mp inside with handled | last
  · obtain ⟨message, among, handled⟩ := List.mem_flatMap.mp handled
    exact .handles among (p.handles_of_mem handled)
  · rw [closing] at last
    split at last
    · cases last
    · exact List.mem_singleton.mp last ▸ .publishes _

theorem Does.batchOf (does : p.Does batch e) : batchOf e = [] := by
  cases does with
  | handles among handles => cases handles <;> rfl
  | publishes ids => rfl

theorem Does.locks (does : p.Does batch e) : e.outcome.locks = [] := by
  cases does with
  | handles among handles =>
      cases handles with
      | adds toQueue => unfold added adding; split <;> rfl
      | fails threw => rfl
  | publishes ids => rfl

/-- What takes hold at once is that queues take messages. -/
theorem Does.effects (does : p.Does batch e) {w : Write} (takes : w ∈ e.outcome.effects) :
    ∃ queue job, w = .accept queue job := by
  cases does with
  | handles among handles =>
      cases handles with
      | adds toQueue =>
          unfold added adding at takes
          split at takes
          · exact ⟨_, _, List.mem_singleton.mp takes⟩
          · exact ⟨_, _, List.mem_singleton.mp takes⟩
          · cases takes
      | fails threw => cases takes
  | publishes ids => cases takes

/-- What waits for the commit are the marks. -/
theorem Does.writes (does : p.Does batch e) {w : Write} (writes : w ∈ e.outcome.writes) :
    (∃ ids now, w = .markPublished ids now ∧ ids = marksOf e) ∨ ∃ id error, w = .markFailed id error := by
  cases does with
  | handles among handles =>
      cases handles with
      | adds toQueue =>
          unfold added adding at writes
          split at writes <;> cases writes
      | fails threw => exact .inr ⟨_, _, List.mem_singleton.mp writes⟩
  | publishes ids => exact .inl ⟨ids, p.now, List.mem_singleton.mp writes, rfl⟩

/-- Nothing has thrown for a message that a publisher enqueues. -/
theorem throwsFor_of_enqueues (distinct : (batch.map OutboxRow.id).Nodup) {m : OutboxRow} (among : m ∈ batch)
    (enqueues : p.enqueues m = true) (does : p.Does batch e) : throwsFor m.id e = false := by
  have ok := (p.enqueues_iff m).mp enqueues
  cases does with
  | @handles message e among' handles =>
      by_cases same : message.id = m.id
      · cases List.inj_on_of_nodup_map distinct among' among same
        cases handles with
        | adds toQueue => simp [added, adding, throwsFor, (p.added_of_ok ok toQueue).2, Except.toBool]
        | fails threw => cases ok.symm.trans threw
      · cases handles <;> simp [added, failed, throwsFor, same]
  | publishes ids => rfl

/-- A message that a publisher enqueues is in its queues afterwards. -/
theorem accepted_of_enqueues {m : OutboxRow} (among : m ∈ batch) (enqueues : p.enqueues m = true) {queue : String}
    (toQueue : queue ∈ queuesFor m.eventName) :
    .accept queue (OutboxPublisher.data m) ∈ effectsOf (p.script batch) := by
  have added := p.added_of_ok ((p.enqueues_iff m).mp enqueues) toQueue
  refine List.mem_flatMap.mpr ⟨p.added m queue, ?_, ?_⟩
  · exact List.mem_append_left _ (List.mem_flatMap.mpr ⟨m, among, List.mem_append_left _ added.1⟩)
  · simp [Publisher.added, adding, added.2]

end Publisher

variable {job : Job} {trace : List Event}

/-- What a session holds are the messages it has claimed. -/
theorem Played.locked (played : Played job trace) : store.locked trace = (claimedIn trace).map OutboxRow.id := by
  cases played with
  | fresh => rfl
  | @publishing p batch trace distinct isPrefix =>
      have locks : trace.flatMap (fun e => e.outcome.locks) = [] :=
        List.flatMap_eq_nil_iff.mpr fun e inside => (Publisher.does_of_mem (isPrefix.subset inside)).locks
      have claims : trace.flatMap batchOf = [] :=
        List.flatMap_eq_nil_iff.mpr fun e inside => (Publisher.does_of_mem (isPrefix.subset inside)).batchOf
      rw [Store.locked, claimedIn, List.flatMap_cons, List.flatMap_cons, locks, claims, List.append_nil, List.append_nil]
      rfl
  | appending writes effects locks => simp [Store.locked, claimedIn, batchOf, locks]

/-- What has been claimed is the batch of the publisher. -/
theorem claimedIn_publishing {p : Publisher} {batch : List OutboxRow} (isPrefix : trace <+: p.script batch) :
    claimedIn (p.claimed batch :: trace) = batch := by
  have claims : trace.flatMap batchOf = [] :=
    List.flatMap_eq_nil_iff.mpr fun e inside => (Publisher.does_of_mem (isPrefix.subset inside)).batchOf
  rw [claimedIn, List.flatMap_cons, claims, List.append_nil]
  rfl

/-- A session adds a message to a queue once at most, and only if it has claimed it. -/
theorem Played.countP_le (played : Played job trace) (queue : String) (id : Uuid) :
    trace.countP (addsTo queue id) ≤ if id ∈ (claimedIn trace).map OutboxRow.id then 1 else 0 := by
  cases played with
  | fresh => simp
  | @publishing p batch trace distinct isPrefix =>
      rw [claimedIn_publishing isPrefix]
      have first : addsTo queue id (p.claimed batch) = false := rfl
      rw [List.countP_cons_of_neg (by simp [first])]
      refine (isPrefix.sublist.countP_le).trans ((p.countP_script_le batch queue id).trans ?_)
      by_cases inside : id ∈ batch.map OutboxRow.id
      · rw [if_pos inside]
        exact List.nodup_iff_count_le_one.mp distinct id
      · rw [if_neg inside, List.count_eq_zero_of_not_mem inside]
  | appending writes effects locks => simp [addsTo]

/-- A message that a session marks as published it has claimed, all of its queues have taken it, and
    nothing has thrown for it. -/
theorem Played.marked (played : Played job trace) {id : Uuid} (marked : id ∈ markedIn trace) :
    ∃ m ∈ claimedIn trace, m.id = id ∧
      (∀ queue ∈ queuesFor m.eventName, .accept queue (OutboxPublisher.data m) ∈ effectsOf trace) ∧
      ∀ e ∈ trace, throwsFor id e = false := by
  cases played with
  | fresh => cases marked
  | @publishing p batch trace distinct isPrefix =>
      obtain ⟨rfl, m, among, rfl, enqueues⟩ := p.marked_of_isPrefix isPrefix marked
      rw [claimedIn_publishing isPrefix]
      refine ⟨m, among, rfl, fun queue toQueue => ?_, fun e inside => ?_⟩
      · exact List.mem_append_right _ (Publisher.accepted_of_enqueues among enqueues toQueue)
      · rcases List.mem_cons.mp inside with rfl | later
        · rfl
        · exact Publisher.throwsFor_of_enqueues distinct among enqueues (Publisher.does_of_mem later)
  | appending writes effects locks => cases marked

/-- What a session marks as published its commit is going to publish. -/
theorem Played.marks_written (played : Played job trace) {id : Uuid} (marked : id ∈ markedIn trace) :
    ∃ ids now, .markPublished ids now ∈ store.pending trace ∧ id ∈ ids := by
  obtain ⟨e, inside, isMark⟩ := List.mem_flatMap.mp marked
  cases played with
  | fresh => cases inside
  | @publishing p batch trace distinct isPrefix =>
      rcases List.mem_cons.mp inside with rfl | later
      · cases isMark
      · cases Publisher.does_of_mem (isPrefix.subset later) with
        | handles among handles => cases handles <;> cases isMark
        | publishes ids => exact ⟨ids, p.now, List.mem_flatMap.mpr ⟨_, inside, List.mem_singleton_self _⟩, isMark⟩
  | appending writes effects locks =>
      rw [List.mem_singleton.mp inside] at isMark
      cases isMark

/-- What a session leaves for its commit. -/
theorem Played.written (played : Played job trace) {w : Write} (written : w ∈ store.pending trace) :
    (∃ ids now, w = .markPublished ids now ∧ ids ⊆ markedIn trace) ∨ (∃ id error, w = .markFailed id error) ∨
      ∃ rows, w = .insertOutbox rows ∧ ∀ row ∈ rows, row.publishedAt = none := by
  cases played with
  | fresh => cases written
  | @publishing p batch trace distinct isPrefix =>
      obtain ⟨e, inside, writes⟩ := List.mem_flatMap.mp written
      rcases List.mem_cons.mp inside with rfl | later
      · cases writes
      · rcases (Publisher.does_of_mem (isPrefix.subset later)).writes writes with ⟨ids, now, isMark, rfl⟩ | failure
        · exact .inl ⟨_, now, isMark, fun id marked => List.mem_flatMap.mpr ⟨e, inside, marked⟩⟩
        · exact .inr (.inl failure)
  | @appending records requestId o writes effects locks =>
      obtain ⟨e, inside, writes'⟩ := List.mem_flatMap.mp written
      rw [List.mem_singleton.mp inside] at writes'
      refine .inr (.inr ⟨_, writes w writes', fun row member => ?_⟩)
      obtain ⟨record, _, rfl⟩ := List.mem_map.mp member
      rfl

/-- What a session does at once is that queues take messages. -/
theorem Played.effects (played : Played job trace) {e : Event} (inside : e ∈ trace) {w : Write}
    (takes : w ∈ e.outcome.effects) : ∃ queue job, w = .accept queue job := by
  cases played with
  | fresh => cases inside
  | publishing distinct isPrefix =>
      rcases List.mem_cons.mp inside with rfl | later
      · cases takes
      · exact (Publisher.does_of_mem (isPrefix.subset later)).effects takes
  | appending writes effects locks =>
      rw [List.mem_singleton.mp inside, effects] at takes
      cases takes

/-- A batch is claimed before anything else. -/
theorem Played.eq_nil_of_claim {limit maxAttempts : Nat} {o : Outcome sig Write Uuid (.claimBatch limit maxAttempts)}
    (played : Played job (trace ++ [⟨.claimBatch limit maxAttempts, o⟩])) : trace = [] := by
  generalize whole : trace ++ [⟨.claimBatch limit maxAttempts, o⟩] = all at played
  cases played with
  | fresh => simp at whole
  | @publishing p batch later distinct isPrefix =>
      cases trace with
      | nil => rfl
      | cons first trace =>
          have isLast : ⟨.claimBatch limit maxAttempts, o⟩ ∈ later :=
            (List.cons.inj whole).2 ▸ List.mem_append_right trace List.mem_cons_self
          cases Publisher.does_of_mem (isPrefix.subset isLast) with
          | handles among handles => cases handles
  | appending writes effects locks =>
      rcases List.append_eq_singleton_iff.mp whole with ⟨isNil, _⟩ | ⟨_, none⟩
      · exact isNil
      · cases none

end Helpdesk.Outbox
