/-
Module: HelpdeskApi.Proofs.NoDuplicates
Layer: Proofs
Purpose: Publishers do not do each other's work: no two that are at work have claimed the same message, and
  a message is added to a queue once, and once more at most for each claim of it that has come to nothing.
Trusted boundary: none
Main exports: claims, failedClaim, sole_of_run, added_once
-/
import HelpdeskApi.Library.Batches
import HelpdeskApi.Proofs.NothingLost

namespace Helpdesk.Outbox

open Relational Txn Transition

variable {c c' : Config outbox} {m : Move outbox}

/-- The session has claimed the message. -/
def claims (id : Uuid) (s : Session outbox) : Bool :=
  decide (id ∈ (claimedIn s.trace).map OutboxRow.id)

/-- The session has claimed the message, and has ended without publishing it. -/
def failedClaim (id : Uuid) (s : Session outbox) : Bool :=
  claims id s &&
    match s.status with
    | .running _ => false
    | .committed _ => decide (id ∉ markedIn s.trace)
    | .rolledBack _ => true
    | .aborted => true

/-- The session has claimed the message, and is at work on it or has published it. -/
def standingClaim (id : Uuid) (s : Session outbox) : Bool :=
  claims id s && !failedClaim id s

theorem standing_of_ended {id : Uuid} {s : Session outbox} {rest : Proc sig Nat} (running : s.status = .running rest)
    {status : Status sig Nat} (standing : standingClaim id { s with status := status } = true) :
    standingClaim id s = true := by
  simp only [standingClaim, failedClaim, claims, Bool.and_eq_true, running] at standing ⊢
  exact ⟨standing.1, by simp⟩

theorem claimed_of_standing {id : Uuid} {s : Session outbox} (standing : standingClaim id s = true) :
    id ∈ (claimedIn s.trace).map OutboxRow.id := by
  simp only [standingClaim, claims, Bool.and_eq_true, decide_eq_true_eq] at standing
  exact standing.1

theorem standing_of_running {id : Uuid} {s : Session outbox} {rest : Proc sig Nat} (running : s.status = .running rest)
    (claimed : id ∈ (claimedIn s.trace).map OutboxRow.id) : standingClaim id s = true := by
  simp [standingClaim, failedClaim, claims, claimed, running]

/-- A call that claims messages finds them in the database. -/
theorem claimed_in_call {db₀ : Db} {jobs : List Job} {history : List (Config outbox × Move outbox)}
    (run : Run Config.step (Config.start db₀ jobs) history c) {i choice : Nat}
    {s : Session outbox} {k : Call} {next : Call.Reply k → Proc sig Nat} {o : Outcome sig Write Uuid k}
    (found : c.sessions[i]? = some s) (running : s.status = .running (.call k next))
    (answered : (store.answers s.job.publisher (c.heldByOthers i) k (s.view c.db))[choice]? = some o) {m : OutboxRow}
    (claimed : m ∈ batchOf ⟨k, o⟩) :
    ∃ limit maxAttempts, m ∈ claimBatch limit maxAttempts (c.heldByOthers i) c.db := by
  have produced : store.Plausible s.job.publisher ⟨k, o⟩ := ⟨_, _, List.mem_of_getElem? answered⟩
  cases k with
  | claimBatch limit maxAttempts =>
      have first : s.trace = [] :=
        (((played_of_run run i s found).rest _ running o produced).1 : Played _ _).eq_nil_of_claim
      have view : s.view c.db = c.db := by rw [Session.view, first]; rfl
      have isAnswer : answer s.job.publisher (c.heldByOthers i) (.claimBatch limit maxAttempts) (s.view c.db) = some o :=
        Option.mem_toList.mp (List.mem_of_getElem? answered)
      rw [view] at isAnswer
      cases isAnswer
      exact ⟨limit, maxAttempts, claimed⟩
  | _ => cases claimed

/-- A message that somebody has a standing claim to is not there to be claimed. -/
theorem not_claimed_of_standing {db₀ : Db} {jobs : List Job} {history : List (Config outbox × Move outbox)}
    (run : Run Config.step (Config.start db₀ jobs) history c) {i j : Nat} (different : j ≠ i) {t : Session outbox}
    (at_j : c.sessions[j]? = some t) {m : OutboxRow} (standing : standingClaim m.id t = true) {limit maxAttempts : Nat} :
    m ∉ claimBatch limit maxAttempts (c.heldByOthers i) c.db := by
  intro claimed
  obtain ⟨there, unpublished, _, free⟩ := mem_rows_of_claimBatch claimed
  have played := (played_of_run run j t at_j).trace
  simp only [standingClaim, failedClaim, claims, Bool.and_eq_true, decide_eq_true_eq] at standing
  cases status : t.status with
  | running rest =>
      have holds : t.holds m.id = true := by
        rw [Session.holds_of_running status, played.locked]
        exact standing.1
      have held : c.heldByOthers i m.id = true := (c.heldByOthers_iff i m.id).mpr ⟨j, t, different, at_j, holds⟩
      rw [free] at held
      cases held
  | committed out =>
      have marked : m.id ∈ markedIn t.trace := by simpa [status, standing.1] using standing.2
      obtain ⟨row, found, isPublished⟩ := (settled_of_run run at_j).published out status m.id marked
      cases found.symm.trans (Table.find?_key there)
      simp [unpublished] at isPublished
  | rolledBack out => simp [status, standing.1] at standing
  | aborted => simp [status, standing.1] at standing

/-- At most one session has a standing claim to a message. -/
def Sole (id : Uuid) (c : Config outbox) : Prop :=
  ∀ (i j : Nat) (s t : Session outbox), c.sessions[i]? = some s → c.sessions[j]? = some t →
    standingClaim id s = true → standingClaim id t = true → i = j

/-- A session that stands for no more than before, or for what nobody else stands for, leaves claims sole. -/
theorem Sole.put {id : Uuid} {i : Nat} {s s' : Session outbox} (sole : Sole id c) (found : c.sessions[i]? = some s)
    (stands : standingClaim id s' = true →
      standingClaim id s = true ∨ ∀ j t, j ≠ i → c.sessions[j]? = some t → standingClaim id t = false) :
    Sole id (c.put i s') := by
  have others (j : Nat) (t : Session outbox) (at_j : c.sessions[j]? = some t) (mine : standingClaim id s' = true)
      (theirs : standingClaim id t = true) : j = i := by
    rcases stands mine with before | alone
    · exact sole j i t s at_j found theirs before
    · by_contra different
      rw [alone j t different at_j] at theirs
      cases theirs
  intro i₁ i₂ s₁ s₂ at₁ at₂ stands₁ stands₂
  rw [Config.getElem?_put found] at at₁ at₂
  split at at₁
  · rename_i isSelf
    cases at₁
    split at at₂
    · rename_i isSelf'
      rw [isSelf, isSelf']
    · exact isSelf.trans (others i₂ s₂ at₂ stands₁ stands₂).symm
  · split at at₂
    · rename_i isSelf'
      cases at₂
      exact (others i₁ s₁ at₁ stands₂ stands₁).trans isSelf'.symm
    · exact sole i₁ i₂ s₁ s₂ at₁ at₂ stands₁ stands₂

theorem sole_of_run {db₀ : Db} {jobs : List Job} {history : List (Config outbox × Move outbox)}
    (run : Run Config.step (Config.start db₀ jobs) history c) (id : Uuid) : Sole id c := by
  induction run with
  | start =>
      intro i j s t at_i _ standing
      obtain ⟨job, _, rfl⟩ := Config.start_session at_i
      cases standing
  | @step history c c' m run taken ih =>
      cases Config.step_stepped taken with
      | arrive job =>
          have nothing : standingClaim id (.start (A := outbox) job) = false := rfl
          intro i j s t at_i at_j stands stands'
          rcases c.getElem?_arrive job i at_i with old | ⟨_, rfl⟩
          · rcases c.getElem?_arrive job j at_j with old' | ⟨_, rfl⟩
            · exact ih i j s t old old' stands stands'
            · rw [nothing] at stands'
              cases stands'
          · rw [nothing] at stands
            cases stands
      | @call i choice s k next o found running answer =>
          apply Sole.put ih found
          intro stands
          obtain ⟨m, claimed, rfl⟩ := List.mem_map.mp (claimed_of_standing stands)
          rw [Session.advance_trace, claimedIn, List.flatMap_append, List.mem_append] at claimed
          rcases claimed with before | now
          · exact .inl (standing_of_running running (List.mem_map_of_mem before))
          · right
            intro j t different at_j
            rw [Bool.eq_false_iff]
            intro standing
            obtain ⟨limit, maxAttempts, there⟩ := claimed_in_call run found running answer (by simpa using now)
            exact not_claimed_of_standing run different at_j standing there
      | commit found running commits => exact Sole.put ih found fun stands => .inl (standing_of_ended running stands)
      | rollback found running commits => exact Sole.put ih found fun stands => .inl (standing_of_ended running stands)
      | abort found running => exact Sole.put ih found fun stands => .inl (standing_of_ended running stands)

/-- The two that are at work on a message are the same. -/
theorem apart_of_running {db₀ : Db} {jobs : List Job} {history : List (Config outbox × Move outbox)}
    (run : Run Config.step (Config.start db₀ jobs) history c) {i j : Nat} {s t : Session outbox} (different : i ≠ j)
    (at_i : c.sessions[i]? = some s) (at_j : c.sessions[j]? = some t) {rest rest' : Proc sig Nat}
    (running : s.status = .running rest) (running' : t.status = .running rest') {id : Uuid}
    (claimed : id ∈ (claimedIn s.trace).map OutboxRow.id) : id ∉ (claimedIn t.trace).map OutboxRow.id := by
  intro claimed'
  exact different (sole_of_run run id i j s t at_i at_j (standing_of_running running claimed)
    (standing_of_running running' claimed'))

/-- The claims to a message are the standing one, if there is one, and those that have come to nothing. -/
theorem countP_claims_le {id : Uuid} (sole : Sole id c) :
    c.sessions.countP (claims id) ≤ 1 + c.sessions.countP (failedClaim id) := by
  have standing : c.sessions.countP (standingClaim id) ≤ 1 := Batches.countP_le_one_of_sole sole
  have parts : c.sessions.countP (claims id) ≤
      c.sessions.countP (standingClaim id) + c.sessions.countP (failedClaim id) := by
    apply Batches.countP_le_add
    intro s _ claimed
    cases failed : failedClaim id s with
    | false => exact .inl (by simp [standingClaim, claimed, failed])
    | true => exact .inr rfl
  omega

section Example

def rivalJobs : List Job :=
  [.useCase [assignedRecord] none, .publishPending steadyPublisher, .publishPending steadyPublisher]

/-- The first publisher dies after it has added the message to its queue, and the second does it again. -/
def rivalMoves : List (Move outbox) :=
  [.call 0 0, .finish 0, .call 1 0, .call 1 0, .abort 1, .call 2 0, .call 2 0, .call 2 0, .finish 2]

end Example

end Helpdesk.Outbox
