/-
Module: HelpdeskApi.Library.Alone
Layer: Library
Purpose: A transaction with nobody else at work does what its program does in one piece. This ties the
  interleaved system to `Handler.transact`.
Trusted boundary: none
Main exports: Handler.app, Config.Alone, Config.run_alone, Config.transact_alone
-/
import HelpdeskApi.Library.Handler

namespace Txn

open Transition

variable {S : Signature} {Job Out : Type}

/-- The application that runs programs as transactions against a handler. -/
abbrev Handler.app (η : Handler S) (ctx : Job → η.Ctx) (program : Job → Proc S Out) (commits : Out → Bool) :
    App where
  sig := S
  store := η.transactional
  Job := Job
  Out := Out
  ctx := ctx
  program := program
  commits := commits

namespace Config

/-- Every session but the `i`-th has ended. -/
def Alone {A : App} (c : Config A) (i : Nat) : Prop :=
  ∀ (j : Nat) (t : Session A), j ≠ i → c.sessions[j]? = some t → ∀ rest, t.status ≠ .running rest

theorem Alone.heldByOthers {A : App} {c : Config A} {i : Nat} (alone : c.Alone i) (k : A.store.Key) :
    c.heldByOthers i k = false := by
  by_contra held
  rw [Bool.not_eq_false, heldByOthers_iff] at held
  obtain ⟨j, t, other, at_j, holds⟩ := held
  unfold Session.holds at holds
  split at holds
  · rename_i rest running
    exact alone j t other at_j rest running
  · cases holds

theorem Alone.put {A : App} {c : Config A} {i : Nat} {s : Session A} (alone : c.Alone i)
    (found : c.sessions[i]? = some s) (s' : Session A) : (c.put i s').Alone i := by
  intro j t other at_j
  rw [getElem?_put found, if_neg other] at at_j
  exact alone j t other at_j

variable {η : Handler S} {ctx : Job → η.Ctx} {program : Job → Proc S Out} {commits : Out → Bool}
  {c : Config (η.app ctx program commits)} {i : Nat} {s : Session (η.app ctx program commits)}

/-- A session that is alone can make all its calls, and sees what running its program in one piece
    leaves. -/
theorem run_alone {p : Proc S Out} (found : c.sessions[i]? = some s) (running : s.status = .running p)
    (alone : c.Alone i) {out : Out} {db' : η.Db}
    (ran : p.run η (ctx s.job) (s.view c.db) = some (out, db')) :
    ∃ history c' s', Run step c history c' ∧ c'.db = c.db ∧ c'.sessions[i]? = some s' ∧ s'.job = s.job ∧
      s'.status = .running (.done out) ∧ s'.view c'.db = db' := by
  induction p generalizing c s with
  | done a =>
      cases ran
      exact ⟨[], c, s, .start, rfl, found, rfl, running, rfl⟩
  | call k next ih =>
      cases answered : η.exec (ctx s.job) k (s.view c.db) with
      | none =>
          rw [Proc.run_call_failed answered] at ran
          cases ran
      | some result =>
          obtain ⟨reply, writes⟩ := result
          rw [Proc.run_call answered] at ran
          let o : Outcome S η.Write η.Key k :=
            { reply := reply, writes := writes, effects := [], locks := writes.flatMap η.keys }
          have answer : η.inTransaction (ctx s.job) (c.heldByOthers i) k (s.view c.db) = [o] := by
            unfold Handler.inTransaction
            rw [if_neg (by simp [alone.heldByOthers]), answered]
          have stepped : c.step (.call i 0) = some (c.put i (s.advance ⟨k, o⟩ (next reply))) :=
            (@Stepped.call _ c i 0 _ _ _ _ found running (congrArg (·[0]?) answer)).step
          have at_i : (c.put i (s.advance ⟨k, o⟩ (next reply))).sessions[i]? =
              some (s.advance ⟨k, o⟩ (next reply)) := by rw [getElem?_put found, if_pos rfl]
          have seen : (s.advance ⟨k, o⟩ (next reply)).view c.db = η.applyAll writes (s.view c.db) := by
            simp only [Session.view, Session.advance_trace, Store.pending_append]
            exact Store.applyAll_append _ _ _ _
          obtain ⟨history, c', s', rest, sameDb, found', sameJob, done, result⟩ :=
            ih reply at_i rfl (alone.put found _) (seen.symm ▸ ran)
          exact ⟨_, c', s', .cons stepped rest, sameDb, found', sameJob, done, result⟩

/-- A transaction that is alone leaves what running its program in one piece leaves. -/
theorem transact_alone {job : Job} (found : c.sessions[i]? = some (.start job)) (alone : c.Alone i)
    {out : Out} {db' : η.Db} (ran : η.transact (ctx job) commits (program job) c.db = (some out, db')) :
    ∃ history c' s', Run step c history c' ∧ c'.db = db' ∧ c'.sessions[i]? = some s' ∧ s'.job = job ∧
      s'.status = if commits out then .committed out else .rolledBack out := by
  unfold Handler.transact at ran
  split at ran
  · cases ran
  · rename_i out' db'' result
    cases ran
    obtain ⟨history, c', s', run, sameDb, found', sameJob, done, seen⟩ :=
      run_alone found (Session.start_status (A := η.app ctx program commits) job) alone result
    cases committing : commits out with
    | false =>
        refine ⟨_, _, { s' with status := .rolledBack out }, run.step (Stepped.rollback found' done committing).step,
          by simpa using sameDb, ?_, sameJob, rfl⟩
        rw [getElem?_put found', if_pos rfl]
    | true =>
        refine ⟨_, _, { s' with status := .committed out }, run.step (Stepped.commit found' done committing).step,
          by simpa using seen, ?_, sameJob, rfl⟩
        change (c'.put i _).sessions[i]? = _
        rw [getElem?_put found', if_pos rfl]

end Config

end Txn
