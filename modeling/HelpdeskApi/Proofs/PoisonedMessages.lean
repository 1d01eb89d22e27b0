/-
Module: HelpdeskApi.Proofs.PoisonedMessages
Layer: Proofs
Purpose: A poisoned message does not stall the outbox: a call that finds messages takes something from the
  attempts that are left, so that after so many calls no message is waiting, and those that never fail have
  been published.
Trusted boundary: none
Main exports: pending, remaining, drain, remaining_publishPending_lt, drained
-/
import HelpdeskApi.Outbox.Execution
import Mathlib.Algebra.Order.BigOperators.Group.List

namespace Helpdesk.Outbox

open Relational

/-- The messages that are still tried. -/
def pending (maxAttempts : Nat) (m : OutboxRow) : Bool :=
  decide (m.publishedAt = none ∧ m.attempts < maxAttempts)

/-- The attempts that are left. -/
def remaining (maxAttempts : Nat) (db : Db) : Nat :=
  ((db.outbox.rows.filter (pending maxAttempts)).map fun m => maxAttempts - m.attempts).sum

/-- One publisher after the other. -/
def drain : List Publisher → Db → Db
  | [], db => db
  | p :: ps, db => drain ps (p.publishPending db).2

/-- Every queue of the message takes it. -/
def Publisher.NeverFails (p : Publisher) (m : OutboxRow) : Prop :=
  ∀ queue ∈ queuesFor m.eventName, p.fate queue m.id = .answers

/-- The attempts that are left of a message. -/
def weight (maxAttempts : Nat) (m : OutboxRow) : Nat :=
  if pending maxAttempts m then maxAttempts - m.attempts else 0

variable {maxAttempts : Nat} {db : Db} {p : Publisher} {m : OutboxRow}

theorem remaining_eq (maxAttempts : Nat) (db : Db) :
    remaining maxAttempts db = (db.outbox.rows.map (weight maxAttempts)).sum := by
  unfold remaining
  induction db.outbox.rows with
  | nil => rfl
  | cons m rows ih =>
      rw [List.map_cons, List.sum_cons, ← ih, weight]
      cases waits : pending maxAttempts m with
      | true => rw [List.filter_cons_of_pos waits, List.map_cons, List.sum_cons, if_pos rfl]
      | false => rw [List.filter_cons_of_neg (by simp [waits]), if_neg Bool.false_ne_true, Nat.zero_add]

theorem pending_of_mem_batch (claimed : m ∈ p.batch db) : m ∈ db.outbox.rows ∧ pending p.maxAttempts m = true := by
  obtain ⟨there, unpublished, attempts, _⟩ := mem_rows_of_claimBatch claimed
  exact ⟨there, by simp [pending, unpublished, attempts]⟩

/-- A message that has been handled has fewer attempts left. -/
theorem weight_handled_lt (claimed : m ∈ p.batch db) : weight p.maxAttempts (p.handled m) < weight p.maxAttempts m := by
  obtain ⟨_, unpublished, attempts, _⟩ := mem_rows_of_claimBatch claimed
  have before : weight p.maxAttempts m = p.maxAttempts - m.attempts := if_pos (pending_of_mem_batch claimed).2
  rw [before]
  cases enqueues : p.enqueues m with
  | true =>
      rw [p.handled_of_enqueues enqueues, weight, if_neg (by simp [pending])]
      omega
  | false =>
      obtain ⟨_, more⟩ := p.handled_of_fails enqueues
      unfold weight
      rw [more]
      split <;> omega

/-- A call that finds messages takes from the attempts that are left. -/
theorem remaining_publishPending_lt (found : p.batch db ≠ []) :
    remaining p.maxAttempts (p.publishPending db).2 < remaining p.maxAttempts db := by
  obtain ⟨m, claimed⟩ := List.exists_mem_of_ne_nil _ found
  rw [remaining_eq, remaining_eq, p.rows_publishPending, List.map_map]
  refine List.sum_lt_sum _ _ (fun m' _ => ?_) ⟨m, (pending_of_mem_batch claimed).1, ?_⟩
  · rw [Function.comp_apply]
    split
    · rename_i claimed'
      exact (weight_handled_lt claimed').le
    · exact Nat.le_refl _
  · rw [Function.comp_apply, if_pos claimed]
    exact weight_handled_lt claimed

/-- A call that finds nothing changes nothing. -/
theorem rows_publishPending_of_nil (nothing : p.batch db = []) :
    (p.publishPending db).2.outbox.rows = db.outbox.rows := by
  rw [p.rows_publishPending, nothing]
  simp

/-- A call that finds nothing has found that nothing is waiting. -/
theorem not_pending_of_nil (positive : 1 ≤ p.limit) (nothing : p.batch db = []) (stored : m ∈ db.outbox.rows) :
    pending p.maxAttempts m = false := by
  by_contra waits
  rw [Bool.not_eq_false, pending, decide_eq_true_eq] at waits
  have among : m ∈ (db.outbox.rows.filter fun m =>
      m.publishedAt = none ∧ m.attempts < p.maxAttempts ∧ (fun _ : Uuid => false) m.id = false).insertionSort
        oldestFirst := by
    rw [List.mem_insertionSort, List.mem_filter]
    exact ⟨stored, by simp [waits]⟩
  unfold Publisher.batch claimBatch at nothing
  rcases List.take_eq_nil_iff.mp nothing with none | none
  · omega
  · rw [none] at among
    cases among

theorem remaining_eq_zero_iff : remaining maxAttempts db = 0 ↔ ∀ m ∈ db.outbox.rows, pending maxAttempts m = false := by
  rw [remaining_eq, List.sum_eq_zero_iff]
  constructor
  · intro zero m stored
    have light := zero _ (List.mem_map_of_mem (f := weight maxAttempts) stored)
    by_contra waits
    rw [Bool.not_eq_false] at waits
    rw [weight, if_pos waits] at light
    simp only [pending, decide_eq_true_eq] at waits
    omega
  · intro none w inside
    obtain ⟨m, stored, rfl⟩ := List.mem_map.mp inside
    rw [weight, none m stored, if_neg Bool.false_ne_true]

/-- After as many calls as attempts are left no message is waiting. -/
theorem not_pending_of_drain {limit : Nat} (positive : 1 ≤ limit) (ps : List Publisher)
    (settings : ∀ p ∈ ps, p.limit = limit ∧ p.maxAttempts = maxAttempts) (enough : remaining maxAttempts db ≤ ps.length) :
    ∀ m ∈ (drain ps db).outbox.rows, pending maxAttempts m = false := by
  induction ps generalizing db with
  | nil => exact remaining_eq_zero_iff.mp (Nat.le_zero.mp enough)
  | cons p ps ih =>
      obtain ⟨sameLimit, sameMax⟩ := settings p List.mem_cons_self
      refine ih (fun p later => settings p (List.mem_cons_of_mem _ later)) ?_
      by_cases nothing : p.batch db = []
      · have done : remaining maxAttempts db = 0 := remaining_eq_zero_iff.mpr fun m stored =>
          sameMax ▸ not_pending_of_nil (sameLimit.symm ▸ positive) nothing stored
        have same : remaining maxAttempts (p.publishPending db).2 = remaining maxAttempts db := by
          rw [remaining, rows_publishPending_of_nil nothing]
          rfl
        omega
      · have fewer := remaining_publishPending_lt nothing
        rw [sameMax] at fewer
        rw [List.length_cons] at enough
        omega

/-- Where its queues never fail, a message is enqueued. -/
theorem enqueues_of_neverFails (never : p.NeverFails m) : p.enqueues m = true := by
  have each : ∀ queue ∈ queuesFor m.eventName, registered queue = true := by
    unfold queuesFor
    repeat' split
    all_goals decide
  rw [p.enqueues_iff]
  revert each never
  unfold Publisher.NeverFails
  generalize queuesFor m.eventName = colas
  intro never each
  induction colas with
  | nil => rfl
  | cons nombre colas ih =>
      rw [Publisher.outcome, if_pos (each nombre List.mem_cons_self), if_pos (never nombre List.mem_cons_self)]
      exact ih (fun queue later => never queue (List.mem_cons_of_mem _ later))
        fun queue later => each queue (List.mem_cons_of_mem _ later)

/-- What a message that was waiting looks like later: as long as it is not published it has failed no more
    often than it is tried, and not at all where its queues never fail. -/
structure Tried (maxAttempts : Nat) (never : Prop) (m m' : OutboxRow) : Prop where
  becomes : m.Becomes m'
  attempts : m'.publishedAt = none → m'.attempts ≤ maxAttempts
  steady : never → m'.publishedAt = none → m'.attempts = m.attempts

theorem Tried.publishPending {m' : OutboxRow} {never : Prop} (tried : Tried p.maxAttempts never m m')
    (stored : db.outbox.find? m.id = some m') (fails : never → p.NeverFails m) :
    ∃ m'', (p.publishPending db).2.outbox.find? m.id = some m'' ∧ Tried p.maxAttempts never m m'' := by
  have there := Table.mem_of_find? stored
  have sameId : m'.id = m.id := Table.key_of_find? stored
  let m'' := if m' ∈ p.batch db then p.handled m' else m'
  have isRow : m'' ∈ (p.publishPending db).2.outbox.rows := by
    rw [p.rows_publishPending]
    exact List.mem_map_of_mem there
  by_cases claimed : m' ∈ p.batch db
  · obtain ⟨_, unpublished, few, _⟩ := mem_rows_of_claimBatch claimed
    have isHandled : m'' = p.handled m' := if_pos claimed
    have becomes := p.becomes_handled unpublished
    have sameId' : m''.id = m.id := isHandled ▸ becomes.id.trans sameId
    refine ⟨m'', (Table.find?_eq_some_iff _ _ _).mpr ⟨isRow, sameId'⟩, ?_⟩
    rw [isHandled]
    refine ⟨tried.becomes.trans becomes, fun free => ?_, fun sure free => ?_⟩
    · cases enqueues : p.enqueues m' with
      | true =>
          rw [p.handled_of_enqueues enqueues] at free
          cases free
      | false =>
          rw [(p.handled_of_fails enqueues).2]
          exact few
    · -- it has been enqueued
      have enqueues : p.enqueues m' = true := by
        apply enqueues_of_neverFails
        have never := fails sure
        unfold Publisher.NeverFails at never ⊢
        rwa [tried.becomes.eventName, sameId]
      rw [p.handled_of_enqueues enqueues] at free
      cases free
  · have isSame : m'' = m' := if_neg claimed
    refine ⟨m'', (Table.find?_eq_some_iff _ _ _).mpr ⟨isRow, isSame ▸ sameId⟩, ?_⟩
    rw [isSame]
    exact tried

theorem tried_of_drain {ps : List Publisher} (settings : ∀ p ∈ ps, p.maxAttempts = maxAttempts) {never : Prop}
    (fails : never → ∀ p ∈ ps, p.NeverFails m) {m' : OutboxRow} (tried : Tried maxAttempts never m m')
    (stored : db.outbox.find? m.id = some m') :
    ∃ m'', (drain ps db).outbox.find? m.id = some m'' ∧ Tried maxAttempts never m m'' := by
  induction ps generalizing db m' with
  | nil => exact ⟨m', stored, tried⟩
  | cons p ps ih =>
      cases settings p List.mem_cons_self
      obtain ⟨m₁, stored₁, tried₁⟩ := tried.publishPending stored fun sure => fails sure p List.mem_cons_self
      exact ih (fun p later => settings p (List.mem_cons_of_mem _ later))
        (fun sure p later => fails sure p (List.mem_cons_of_mem _ later)) tried₁ stored₁

/-- A poisoned message cannot stall the outbox. -/
theorem drained {limit maxAttempts : Nat} (positive : 1 ≤ limit) :
    (∀ (p : Publisher) (db : Db), p.limit = limit → p.maxAttempts = maxAttempts →
      ∃ count, (p.publishPending db).1 = some count ∧
        (count ≠ 0 → remaining maxAttempts (p.publishPending db).2 < remaining maxAttempts db)) ∧
      ∀ (ps : List Publisher) (db : Db), (∀ p ∈ ps, p.limit = limit ∧ p.maxAttempts = maxAttempts) →
        remaining maxAttempts db ≤ ps.length →
          (∀ m ∈ (drain ps db).outbox.rows, pending maxAttempts m = false) ∧
            ∀ m ∈ db.outbox.rows, pending maxAttempts m = true →
              ∃ m', (drain ps db).outbox.find? m.id = some m' ∧
                (m'.publishedAt ≠ none ∨ m'.attempts = maxAttempts) ∧
                  ((∀ p ∈ ps, p.NeverFails m) → m'.publishedAt ≠ none) := by
  refine ⟨fun p db _ sameMax => ⟨(p.batch db).length, by rw [p.publishPending_eq], fun some => ?_⟩, ?_⟩
  · rw [← sameMax]
    exact remaining_publishPending_lt fun nothing => some (by rw [nothing]; rfl)
  · intro ps db settings enough
    have done := not_pending_of_drain positive ps settings enough
    refine ⟨done, fun m stored waits => ?_⟩
    simp only [pending, decide_eq_true_eq] at waits
    have tried : Tried maxAttempts (∀ p ∈ ps, p.NeverFails m) m m :=
      ⟨.refl m, fun _ => waits.2.le, fun _ _ => rfl⟩
    obtain ⟨m', stored', tried'⟩ := tried_of_drain (fun p inside => (settings p inside).2) (fun sure => sure) tried
      (Table.find?_key stored)
    have ended := done m' (Table.mem_of_find? stored')
    simp only [pending, decide_eq_false_iff_not, not_and] at ended
    refine ⟨m', stored', ?_, fun sure free => ?_⟩
    · by_cases free : m'.publishedAt = none
      · have most := tried'.attempts free
        have least := ended free
        exact .inr (by omega)
      · exact .inl free
    · exact ended free (tried'.steady sure free ▸ waits.2)

section Example

def poisonedRow : OutboxRow where
  id := 10
  tenantId := ⟨1⟩
  aggregateType := "Ticket"
  aggregateId := 2
  eventName := "ticket.assigned"
  version := 1
  payload := []
  occurredAt := 1000
  publishedAt := none
  attempts := 0
  lastError := none
  requestId := none

def soundRow : OutboxRow :=
  { poisonedRow with id := 11, occurredAt := 1001 }

def poisonedDb : Db where
  outbox := { rows := [poisonedRow, soundRow], keysDistinct := by decide }
  accepted := []

/-- One message at a time, and the older one never gets into its queue. -/
def poisonedPublisher : Publisher where
  limit := 1
  maxAttempts := 2
  now := 2000
  fate _ id := if id = 10 then .throws else .answers
  detalle _ _ := "ECONNREFUSED"

theorem drained_poisoned :
    (∀ m ∈ (drain (List.replicate 4 poisonedPublisher) poisonedDb).outbox.rows, pending 2 m = false) ∧
      ∃ m', (drain (List.replicate 4 poisonedPublisher) poisonedDb).outbox.find? soundRow.id = some m' ∧
        m'.publishedAt ≠ none := by
  have steady : ∀ p ∈ List.replicate 4 poisonedPublisher, p = poisonedPublisher := fun p inside =>
    List.eq_of_mem_replicate inside
  obtain ⟨done, each⟩ := (@drained 1 2 (by decide)).2 (List.replicate 4 poisonedPublisher) poisonedDb
    (fun p inside => by rw [steady p inside]; decide) (by decide)
  obtain ⟨m', stored, _, never⟩ := each soundRow (by decide) (by decide)
  refine ⟨done, m', stored, never fun p inside queue toQueue => ?_⟩
  rw [steady p inside]
  rfl

end Example

end Helpdesk.Outbox
