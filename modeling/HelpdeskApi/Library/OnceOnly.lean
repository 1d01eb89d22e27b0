/-
Module: HelpdeskApi.Library.OnceOnly
Layer: Library
Purpose: Marks that are set at most once. Where a call sets a mark only if it sees that the mark is not
  there, and locks it, at most one of the transactions that set it commits, and it commits only if the mark
  was not there at the start. A transaction that dies leaves no mark.
Trusted boundary: none
Main exports: Store.Marking, Session.Marks, Config.MarkedBy, Config.OnceOnly, Config.CommitLog.taken_iff,
  Config.onceOnly_of_run, Config.committed_of_taken
-/
import HelpdeskApi.Library.CommitLog

namespace Txn

open Transition

/-- The writes of a store that set marks. `taken` says that a mark is set. -/
structure Store.Marking {S : Signature} (σ : Store S) (marks : σ.Write → List σ.Key)
    (taken : σ.Key → σ.Db → Prop) : Prop where
  apply_iff : ∀ w db k, taken k (σ.apply w db) ↔ taken k db ∨ k ∈ marks w
  first : ∀ ctx held (c : S.Call) db, ∀ o ∈ σ.answers ctx held c db, ∀ w ∈ o.writes, ∀ k ∈ marks w,
    ¬taken k db ∧ k ∈ o.locks

variable {A : App} {marks : A.store.Write → List A.store.Key} {taken : A.store.Key → A.store.Db → Prop}

/-- The session has set a mark, for itself as long as it has not committed. -/
def Session.Marks (marks : A.store.Write → List A.store.Key) (s : Session A) (k : A.store.Key) : Prop :=
  ∃ w ∈ A.store.pending s.trace, k ∈ marks w

namespace Store.Marking

variable (marking : A.store.Marking marks taken)
include marking

theorem applyAll_iff (writes : List A.store.Write) (db : A.store.Db) (k : A.store.Key) :
    taken k (A.store.applyAll writes db) ↔ taken k db ∨ ∃ w ∈ writes, k ∈ marks w := by
  induction writes generalizing db with
  | nil => simp
  | cons w writes ih =>
      rw [Store.applyAll_cons, ih, marking.apply_iff]
      simp only [List.exists_mem_cons_iff, or_assoc]

/-- What a session sees marked: what is marked, and what it marked itself. -/
theorem view_iff (s : Session A) (db : A.store.Db) (k : A.store.Key) :
    taken k (s.view db) ↔ taken k db ∨ s.Marks marks k :=
  marking.applyAll_iff _ db k

/-- A session holds the locks of its marks. -/
theorem locked_of_run {db₀ : A.store.Db} {jobs : List A.Job} {history : List (Config A × Move A)}
    {c : Config A} (run : Run Config.step (.start db₀ jobs) history c) {i : Nat} {s : Session A}
    (found : c.sessions[i]? = some s) {k : A.store.Key} (sets : s.Marks marks k) :
    k ∈ A.store.locked s.trace := by
  obtain ⟨w, written, mark⟩ := sets
  refine Config.trace_of_run (I := fun _ trace => ∀ w ∈ A.store.pending trace, ∀ k ∈ marks w,
    k ∈ A.store.locked trace) ?_ ?_ run found w written k mark
  · intro job w member
    cases member
  · rintro job trace e ⟨held, db, produced⟩ locked w member k mark
    rw [Store.pending_append, List.mem_append] at member
    rw [Store.locked_append, List.mem_append]
    rcases member with old | new
    · exact .inl (locked w old k mark)
    · exact .inr (marking.first _ _ _ _ _ produced w new k mark).2

end Store.Marking

namespace Config

variable {c c' : Config A} {m : Move A} {db₀ : A.store.Db}

/-- A committed session set the mark. -/
def MarkedBy (marks : A.store.Write → List A.store.Key) (c : Config A) (i : Nat) (k : A.store.Key) : Prop :=
  c.Committed i ∧ ∃ w ∈ c.writesOf i, k ∈ marks w

theorem markedBy_iff {i : Nat} {s : Session A} {out : A.Out} (found : c.sessions[i]? = some s)
    (status : s.status = .committed out) (k : A.store.Key) : c.MarkedBy marks i k ↔ s.Marks marks k := by
  rw [MarkedBy, writesOf_eq found]
  exact ⟨And.right, fun sets => ⟨⟨s, out, found, status⟩, sets⟩⟩

/-- Who has set a mark after a step: who had before, and the session the step commits if it has. -/
theorem markedBy_step_iff (step : c.step m = some c') (i : Nat) (k : A.store.Key) :
    c'.MarkedBy marks i k ↔
      c.MarkedBy marks i k ∨ (c.committing m = some i ∧ ∃ w ∈ c'.writesOf i, k ∈ marks w) := by
  constructor
  · rintro ⟨committed, sets⟩
    rcases (committed_step_iff step i).mp committed with before | now
    · exact .inl ⟨before, (before.step step).2 ▸ sets⟩
    · exact .inr ⟨now, sets⟩
  · rintro (⟨before, sets⟩ | ⟨now, sets⟩)
    · obtain ⟨after, same⟩ := before.step step
      exact ⟨after, same.symm ▸ sets⟩
    · exact ⟨(committed_step_iff step i).mpr (.inr now), sets⟩

/-- At most one transaction sets each mark, and only if it was not set at the start. -/
structure OnceOnly (marks : A.store.Write → List A.store.Key) (taken : A.store.Key → A.store.Db → Prop)
    (db₀ : A.store.Db) (c : Config A) : Prop where
  /-- While a session that set the mark is running, the mark is not there for the others. -/
  running : ∀ (i : Nat) (s : Session A) rest k, c.sessions[i]? = some s → s.status = .running rest →
    s.Marks marks k → ¬taken k c.db
  fresh : ∀ i k, c.MarkedBy marks i k → ¬taken k db₀
  unique : ∀ i j k, c.MarkedBy marks i k → c.MarkedBy marks j k → i = j

/-- A mark is there if it was at the start, or if a transaction has set it. -/
theorem CommitLog.taken_iff {order : List Nat} (marking : A.store.Marking marks taken)
    (log : CommitLog db₀ order c) (k : A.store.Key) :
    taken k c.db ↔ taken k db₀ ∨ ∃ i, c.MarkedBy marks i k := by
  rw [log.db, marking.applyAll_iff]
  apply or_congr_right
  constructor
  · rintro ⟨w, written, mark⟩
    obtain ⟨i, listed, ofSession⟩ := List.mem_flatMap.mp written
    exact ⟨i, (log.mem_iff i).mp listed, w, ofSession, mark⟩
  · rintro ⟨i, committed, w, ofSession, mark⟩
    exact ⟨w, List.mem_flatMap.mpr ⟨i, (log.mem_iff i).mpr committed, ofSession⟩, mark⟩

theorem onceOnly_start (db₀ : A.store.Db) (jobs : List A.Job) :
    OnceOnly marks taken db₀ (start db₀ jobs) := by
  have nobody (i : Nat) (k : A.store.Key) : ¬(start db₀ jobs).MarkedBy marks i k := by
    rintro ⟨⟨s, out, found, status⟩, _⟩
    obtain ⟨job, _, rfl⟩ := start_session found
    cases status
  refine ⟨fun i s rest k found _ sets => ?_, fun i k set => absurd set (nobody i k),
    fun i j k set _ => absurd set (nobody i k)⟩
  obtain ⟨job, _, rfl⟩ := start_session found
  obtain ⟨w, written, _⟩ := sets
  cases written

/-- A session that is about to commit a mark is still running, so nobody has set the mark yet. -/
theorem OnceOnly.free_of_committing (once : OnceOnly marks taken db₀ c) (step : c.step m = some c') {i : Nat}
    (now : c.committing m = some i) {k : A.store.Key} (sets : ∃ w ∈ c'.writesOf i, k ∈ marks w) :
    ¬taken k c.db := by
  cases step_stepped step with
  | arrive job => cases now
  | call found running answer => cases now
  | @commit j s out found running commits =>
      have made : c.committing (.finish j) = some j := by simp [committing, found, running, commits]
      cases made.symm.trans now
      have ended : (c.put i { s with status := .committed out }).sessions[i]? =
          some { s with status := .committed out } := by rw [getElem?_put found, if_pos rfl]
      obtain ⟨w, written, mark⟩ := sets
      exact once.running i s _ k found running ⟨w, writesOf_eq ended ▸ written, mark⟩
  | @rollback j s out found running commits =>
      have made : c.committing (.finish j) = none := by simp [committing, found, running, commits]
      cases made.symm.trans now
  | abort found running => cases now

/-- While a session that set the mark is running, the mark stays away. -/
theorem OnceOnly.running_step (marking : A.store.Marking marks taken) (deferred : A.store.Deferred)
    (exclusive : c.Exclusive)
    (locked : ∀ (i : Nat) (s : Session A) k, c.sessions[i]? = some s → s.Marks marks k →
      k ∈ A.store.locked s.trace)
    (once : OnceOnly marks taken db₀ c) (step : c.step m = some c') (i : Nat) (s : Session A) rest k
    (found : c'.sessions[i]? = some s) (running : s.status = .running rest) (sets : s.Marks marks k) :
    ¬taken k c'.db := by
  revert i s
  cases step_stepped step with
  | arrive job =>
      intro i s found running sets
      rcases c.getElem?_arrive job i found with old | ⟨_, rfl⟩
      · exact once.running i s rest k old running sets
      · obtain ⟨w, written, _⟩ := sets
        cases written
  | @call j choice t call next o at_j before answer =>
      have produced := List.mem_of_getElem? answer
      have sameDb : A.store.applyAll o.effects c.db = c.db := by rw [deferred _ _ _ _ o produced]; rfl
      simp only [sameDb]
      refine forall_put at_j (fun j' t' at_j' _ running sets => once.running j' t' rest k at_j' running sets) ?_
      rintro _ ⟨w, written, mark⟩
      rw [Session.advance_trace, Store.pending_append, List.mem_append] at written
      rcases written with old | new
      · exact once.running j t _ k at_j before ⟨w, old, mark⟩
      · have unseen := (marking.first _ _ _ _ o produced w new k mark).1
        rw [marking.view_iff] at unseen
        exact fun there => unseen (.inl there)
  | @commit j t out at_j before commits =>
      refine forall_put at_j (fun j' t' at_j' other running sets => ?_) fun running => by cases running
      simp only [marking.view_iff]
      rintro (there | both)
      · exact once.running j' t' rest k at_j' running sets there
      · have first := (Session.holds_of_running before k).mpr (locked j t k at_j both)
        have second := (Session.holds_of_running running k).mpr (locked j' t' k at_j' sets)
        simp [exclusive j j' t t' k (Ne.symm other) at_j at_j' first] at second
  | @rollback j t out at_j before commits =>
      refine forall_put at_j (fun j' t' at_j' _ running sets => once.running j' t' rest k at_j' running sets) ?_
      exact fun running => by cases running
  | @abort j t rest' at_j before =>
      refine forall_put at_j (fun j' t' at_j' _ running sets => once.running j' t' rest k at_j' running sets) ?_
      exact fun running => by cases running

/-- In every run at most one transaction sets each mark. -/
theorem onceOnly_of_run (marking : A.store.Marking marks taken) (deferred : A.store.Deferred)
    (careful : A.store.Careful) {jobs : List A.Job} {history : List (Config A × Move A)}
    (run : Run step (start db₀ jobs) history c) : OnceOnly marks taken db₀ c := by
  induction run with
  | start => exact onceOnly_start db₀ jobs
  | @step history c c' m run step once =>
      have settled := (commitLog_of_run deferred run).taken_iff marking
      have free (i : Nat) (k : A.store.Key) (now : c.committing m = some i)
          (sets : ∃ w ∈ c'.writesOf i, k ∈ marks w) := once.free_of_committing step now sets
      refine ⟨?_, fun i k set => ?_, fun i j k first second => ?_⟩
      · intro i s rest k found running sets
        exact once.running_step marking deferred (exclusive_of_run careful run)
          (fun i s k found sets => marking.locked_of_run run found sets) step i s rest k found running sets
      · rcases (markedBy_step_iff step i k).mp set with before | ⟨now, sets⟩
        · exact once.fresh i k before
        · exact fun there => free i k now sets ((settled k).mpr (.inl there))
      · rcases (markedBy_step_iff step i k).mp first with before | ⟨now, sets⟩
        · rcases (markedBy_step_iff step j k).mp second with before' | ⟨now', sets'⟩
          · exact once.unique i j k before before'
          · exact absurd ((settled k).mpr (.inr ⟨i, before⟩)) (free j k now' sets')
        · rcases (markedBy_step_iff step j k).mp second with before' | ⟨now', _⟩
          · exact absurd ((settled k).mpr (.inr ⟨j, before'⟩)) (free i k now sets)
          · exact Option.some.inj (now.symm.trans now')

/-- Once a mark is there, no transaction that commits later sets it. -/
theorem committed_of_taken (marking : A.store.Marking marks taken) (deferred : A.store.Deferred)
    (careful : A.store.Careful) {jobs : List A.Job} {history history' : List (Config A × Move A)}
    (run : Run step (start db₀ jobs) history c) (later : Run step c history' c') {k : A.store.Key}
    (there : taken k c.db) {i : Nat} (sets : c'.MarkedBy marks i k) : c.Committed i := by
  have once := onceOnly_of_run marking deferred careful (run.append later)
  rcases ((commitLog_of_run deferred run).taken_iff marking k).mp there with initially | ⟨j, set⟩
  · exact absurd initially (once.fresh i k sets)
  · have still : c'.MarkedBy marks j k :=
      later.invariant (I := fun c' => c'.MarkedBy marks j k) set fun _ _ _ set step =>
        (markedBy_step_iff step j k).mpr (.inl set)
    exact once.unique i j k sets still ▸ set.1

end Config

end Txn
