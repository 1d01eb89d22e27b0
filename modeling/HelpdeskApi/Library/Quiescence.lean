/-
Module: HelpdeskApi.Library.Quiescence
Layer: Library
Purpose: Nobody at work. All sessions that are at work can be aborted, which leaves the database as it is; whoever
  comes then is alone.
Trusted boundary: none
Main exports: Config.Quiet, Config.exists_quiet, Config.Quiet.alone
-/
import HelpdeskApi.Library.Alone

namespace Txn

open Transition

namespace Config

variable {A : App} {c : Config A}

/-- No session is at work. -/
def Quiet (c : Config A) : Prop :=
  ∀ (i : Nat) (s : Session A), c.sessions[i]? = some s → ∀ rest, s.status ≠ .running rest

/-- Sessions can be aborted one after the other. -/
theorem exists_quiet_below (c : Config A) (n : Nat) : ∃ moves c', Run Config.step c moves c' ∧ c'.db = c.db ∧
    c'.sessions.length = c.sessions.length ∧
    ∀ (i : Nat) (s : Session A), i < n → c'.sessions[i]? = some s → ∀ rest, s.status ≠ .running rest := by
  induction n with
  | zero => exact ⟨[], c, .start, rfl, rfl, fun i s below => absurd below (Nat.not_lt_zero i)⟩
  | succ n ih =>
      obtain ⟨moves, c', run, sameDb, sameLength, quiet⟩ := ih
      by_cases works : ∃ s rest, c'.sessions[n]? = some s ∧ s.status = .running rest
      · obtain ⟨s, rest, found, running⟩ := works
        refine ⟨_, _, run.step (Stepped.abort found running).step, sameDb, ?_, fun i t below at_i rest' => ?_⟩
        · rw [Config.put, List.length_set, sameLength]
        by_cases isLast : i = n
        · subst isLast
          have inside := (List.getElem?_eq_some_iff.mp found).1
          rw [Config.put, List.getElem?_set_self inside] at at_i
          cases at_i
          intro running
          cases running
        · rw [Config.put, List.getElem?_set_ne (Ne.symm isLast)] at at_i
          exact quiet i t (by omega) at_i rest'
      · refine ⟨moves, c', run, sameDb, sameLength, fun i t below at_i rest' running => ?_⟩
        by_cases isLast : i = n
        · subst isLast
          exact works ⟨t, rest', at_i, running⟩
        · exact quiet i t (by omega) at_i rest' running

/-- All of them can, and that changes nothing in the database. -/
theorem exists_quiet (c : Config A) : ∃ moves c', Run Config.step c moves c' ∧ c'.db = c.db ∧ c'.Quiet := by
  obtain ⟨moves, c', run, sameDb, sameLength, quiet⟩ := c.exists_quiet_below c.sessions.length
  exact ⟨moves, c', run, sameDb, fun i s found =>
    quiet i s (sameLength ▸ (List.getElem?_eq_some_iff.mp found).1) found⟩

/-- Whoever comes when nobody is at work is alone. -/
theorem Quiet.alone (quiet : c.Quiet) (job : A.Job) :
    Config.Alone { c with sessions := c.sessions ++ [.start job] } c.sessions.length := by
  intro j s other found
  have inside := (List.getElem?_eq_some_iff.mp found).1
  rw [List.length_append, List.length_singleton] at inside
  rw [List.getElem?_append_left (by omega)] at found
  exact quiet j s found

end Config

end Txn
