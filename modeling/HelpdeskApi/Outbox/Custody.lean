/-
Module: HelpdeskApi.Outbox.Custody
Layer: Outbox
Purpose: What publishers and use cases leave in the database, in every run: the messages that have been
  claimed are there, the queues hold what they have taken, what a committed publisher has marked is
  published, and a message is published by the commit of a publisher that has marked it and in no other way.
Trusted boundary: none
Main exports: Settled, grows_of_step, settled_of_run, published_by_step
-/
import HelpdeskApi.Outbox.Messages
import HelpdeskApi.Outbox.Sessions

namespace Helpdesk.Outbox

open Relational Txn Transition

variable {db db' : Db} {s : Session outbox} {c c' : Config outbox} {m : Move outbox}

/-- A database shows what a session has done. -/
structure Settled (db : Db) (s : Session outbox) : Prop where
  rows : ∀ m ∈ claimedIn s.trace, ∃ row, db.outbox.find? m.id = some row ∧ m.Becomes row
  accepted : ∀ queue job, .accept queue job ∈ effectsOf s.trace → (queue, job) ∈ db.accepted
  published : ∀ out, s.status = .committed out → ∀ id ∈ markedIn s.trace,
    ∃ row, db.outbox.find? id = some row ∧ row.publishedAt.isSome = true

theorem Settled.grows (settled : Settled db s) (grows : db.Grows db') : Settled db' s where
  rows m claimed := by
    obtain ⟨row, found, becomes⟩ := settled.rows m claimed
    obtain ⟨row', found', becomes'⟩ := grows.outbox m.id row found
    exact ⟨row', found', becomes.trans becomes'⟩
  accepted queue job taken := grows.accepted.subset (settled.accepted queue job taken)
  published out committed id marked := by
    obtain ⟨row, found, isPublished⟩ := settled.published out committed id marked
    obtain ⟨row', found', becomes⟩ := grows.outbox id row found
    obtain ⟨when, set⟩ := Option.isSome_iff_exists.mp isPublished
    exact ⟨row', found', by rw [becomes.published when set]; rfl⟩

/-- A session that does not commit shows as much as it has shown before. -/
theorem Settled.status (settled : Settled db s) (status : Status sig Nat)
    (uncommitted : ∀ out, status ≠ .committed out) : Settled db { s with status := status } where
  rows := settled.rows
  accepted := settled.accepted
  published out committed := absurd committed (uncommitted out)

theorem settled_start (db : Db) (job : Job) : Settled db (.start (A := outbox) job) where
  rows m claimed := by cases claimed
  accepted queue job taken := by cases taken
  published out committed := by cases committed

/-- What a claim finds is there. -/
theorem mem_rows_of_claimBatch {limit maxAttempts : Nat} {held : Uuid → Bool} {m : OutboxRow}
    (claimed : m ∈ claimBatch limit maxAttempts held db) :
    m ∈ db.outbox.rows ∧ m.publishedAt = none ∧ m.attempts < maxAttempts ∧ held m.id = false := by
  have pending := (List.mem_insertionSort oldestFirst).mp (List.mem_of_mem_take claimed)
  simpa using pending

/-- One more call. -/
theorem Settled.call {k : Call} {o : Outcome sig Write Uuid k} {held : Uuid → Bool} {rest : Proc sig Nat}
    (settled : Settled db s) (played : Played s.job (s.trace ++ [⟨k, o⟩]))
    (answered : answer s.job.publisher held k (s.view db) = some o) :
    Settled (store.applyAll o.effects db) (s.advance (A := outbox) ⟨k, o⟩ rest) where
  rows m claimed := by
    rw [Session.advance_trace, claimedIn, List.flatMap_append, List.mem_append] at claimed
    rcases claimed with before | now
    · exact (settled.grows (grows_applyAll o.effects db)).rows m before
    · cases k with
      | claimBatch limit maxAttempts =>
          have first : s.trace = [] := played.eq_nil_of_claim
          have view : s.view db = db := by rw [Session.view, first]; rfl
          rw [view] at answered
          cases answered
          have there : m ∈ claimBatch limit maxAttempts held db := by simpa [batchOf] using now
          exact ⟨m, Table.find?_key (mem_rows_of_claimBatch there).1, .refl m⟩
      | _ => cases now
  accepted queue job taken := by
    rw [Session.advance_trace, effectsOf, List.flatMap_append, List.mem_append] at taken
    rcases taken with before | now
    · exact (settled.grows (grows_applyAll o.effects db)).accepted queue job before
    · exact mem_accepted_applyAll (by simpa using now) db
  published out committed := by cases committed

/-- A commit. -/
theorem Settled.commit {out : Nat} (settled : Settled db s) (played : Played s.job s.trace) :
    Settled (s.view db) { s with status := .committed out } where
  rows := (settled.grows (grows_applyAll _ db)).rows
  accepted := (settled.grows (grows_applyAll _ db)).accepted
  published out' committed id marked := by
    obtain ⟨m, claimed, rfl, _⟩ := played.marked marked
    obtain ⟨row, found, _⟩ := settled.rows m claimed
    obtain ⟨row', found', _, published⟩ := find?_applyAll found
    exact ⟨row', found', published.mpr (.inr (played.marks_written marked))⟩

theorem grows_of_step (taken : c.step m = some c') : c.db.Grows c'.db := by
  cases Config.step_stepped taken with
  | arrive job => exact .refl c.db
  | call found running answer => exact grows_applyAll _ c.db
  | commit found running commits => exact grows_applyAll _ c.db
  | rollback found running commits => exact .refl c.db
  | abort found running => exact .refl c.db

/-- In every run the database shows what the sessions have done. -/
theorem settled_of_run {db₀ : Db} {jobs : List Job} {history : List (Config outbox × Move outbox)}
    (run : Run Config.step (Config.start db₀ jobs) history c) {i : Nat} (found : c.sessions[i]? = some s) :
    Settled c.db s := by
  induction run generalizing i s with
  | start =>
      obtain ⟨job, _, rfl⟩ := Config.start_session found
      exact settled_start _ job
  | @step history c c' m run taken ih =>
      have others (j : Nat) (t : Session outbox) (at_j : c.sessions[j]? = some t) : Settled c'.db t :=
        (ih at_j).grows (grows_of_step taken)
      have conforms := played_of_run (run.step taken)
      cases Config.step_stepped taken with
      | arrive job =>
          rcases c.getElem?_arrive job i found with old | ⟨_, rfl⟩
          · exact others i s old
          · exact settled_start _ job
      | @call j choice t k next o at_j running answer =>
          refine Config.forall_put at_j (fun j' t' at_j' _ => others j' t' at_j') ?_ i s found
          have at_j' : (c.put j (t.advance ⟨k, o⟩ (next o.reply))).sessions[j]? =
              some (t.advance ⟨k, o⟩ (next o.reply)) := by rw [Config.getElem?_put at_j, if_pos rfl]
          exact (ih at_j).call (conforms j _ at_j').trace (Option.mem_toList.mp (List.mem_of_getElem? answer))
      | @commit j t out at_j running commits =>
          refine Config.forall_put at_j (fun j' t' at_j' _ => others j' t' at_j') ?_ i s found
          exact (ih at_j).commit (played_of_run run j t at_j).trace
      | @rollback j t out at_j running commits =>
          refine Config.forall_put at_j (fun j' t' at_j' _ => others j' t' at_j') ?_ i s found
          exact (ih at_j).status _ nofun
      | @abort j t rest at_j running =>
          refine Config.forall_put at_j (fun j' t' at_j' _ => others j' t' at_j') ?_ i s found
          exact (ih at_j).status _ nofun

/-- What is published after a step was published before, or the step commits a publisher that has marked it,
    for which nothing has thrown, and whose message all the queues have taken. -/
theorem published_by_step {db₀ : Db} {jobs : List Job} {history : List (Config outbox × Move outbox)}
    (run : Run Config.step (Config.start db₀ jobs) history c) (taken : c.step m = some c') {id : Uuid}
    {row' : OutboxRow} (found' : c'.db.outbox.find? id = some row') (isPublished : row'.publishedAt.isSome = true) :
    (∃ row, c.db.outbox.find? id = some row ∧ row.publishedAt.isSome = true) ∨
      ∃ i s, m = .finish i ∧ c.sessions[i]? = some s ∧ id ∈ markedIn s.trace := by
  cases Config.step_stepped taken with
  | arrive job => exact .inl ⟨row', found', isPublished⟩
  | @call i choice s k next o found running answer =>
      have played : Played s.job (s.trace ++ [⟨k, o⟩]) := by
        have conforms := played_of_run (run.step taken)
        have at_i : (c.put i (s.advance ⟨k, o⟩ (next o.reply))).sessions[i]? =
            some (s.advance ⟨k, o⟩ (next o.reply)) := by rw [Config.getElem?_put found, if_pos rfl]
        exact (conforms i _ at_i).trace
      have same := outbox_applyAll_of_accepts
        (fun w takes => played.effects (List.mem_append_right s.trace List.mem_cons_self) takes) c.db
      exact .inl ⟨row', same ▸ found', isPublished⟩
  | @commit i s out found running commits =>
      have played := (played_of_run run i s found).trace
      by_cases marked : id ∈ markedIn s.trace
      · exact .inr ⟨i, s, rfl, found, marked⟩
      · left
        by_contra unpublished
        have inserts : ∀ rows, .insertOutbox rows ∈ store.pending s.trace → ∀ row ∈ rows, row.publishedAt = none := by
          intro rows written
          rcases played.written written with ⟨_, _, other, _⟩ | ⟨_, _, other⟩ | ⟨rows', same, fresh⟩
          · cases other
          · cases other
          · cases same
            exact fresh
        have marks : ∀ ids now, .markPublished ids now ∈ store.pending s.trace → id ∉ ids := by
          intro ids now written
          rcases played.written written with ⟨ids', now', same, inside⟩ | ⟨_, _, other⟩ | ⟨_, other, _⟩
          · cases same
            exact fun among => marked (inside among)
          · cases other
          · cases other
        have isNone : row'.publishedAt = none := by
          refine unpublished_applyAll inserts marks (fun row stored => ?_) row' found'
          by_contra isSet
          exact unpublished ⟨row, stored, Option.isSome_iff_ne_none.mpr isSet⟩
        simp [isNone] at isPublished
  | rollback found running commits => exact .inl ⟨row', found', isPublished⟩
  | abort found running => exact .inl ⟨row', found', isPublished⟩

end Helpdesk.Outbox
