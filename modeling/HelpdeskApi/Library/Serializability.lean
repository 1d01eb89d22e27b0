/-
Module: HelpdeskApi.Library.Serializability
Layer: Library
Purpose: When interleaved transactions come to what they would have come to one after the other, in the order
  of their commits. What a call answers is told by what it reads. Where nobody commits a change of what
  another running session has read, a session gets the same answers again at its commit, so it might as well
  have run there. A session that holds the keys of what it has read is safe without further ado.
Trusted boundary: none
Main exports: Handler.inTurn, Handler.Footprint, Handler.Replays, Handler.Replays.congr, Proc.Comes,
  Config.served, Config.Undisturbed, Config.serial_of_run
-/
import HelpdeskApi.Library.Alone
import HelpdeskApi.Library.Runs
import Mathlib.Data.Set.Basic

namespace Txn

open Transition

variable {S : Signature} {Job Out α : Type}

namespace Handler

variable (η : Handler S)

/-- Jobs served one after the other, each as a transaction with nobody else around: what they answer, and
    the database that is left. -/
def inTurn (ctx : Job → η.Ctx) (program : Job → Proc S Out) (commits : Out → Bool) :
    List Job → η.Db → List (Option Out) × η.Db
  | [], db => ([], db)
  | job :: jobs, db =>
      let first := η.transact (ctx job) commits (program job) db
      let rest := inTurn ctx program commits jobs first.2
      (first.1 :: rest.1, rest.2)

theorem inTurn_concat (ctx : Job → η.Ctx) (program : Job → Proc S Out) (commits : Out → Bool) (jobs : List Job)
    (job : Job) (db : η.Db) :
    η.inTurn ctx program commits (jobs ++ [job]) db =
      let before := η.inTurn ctx program commits jobs db
      let last := η.transact (ctx job) commits (program job) before.2
      (before.1 ++ [last.1], last.2) := by
  induction jobs generalizing db with
  | nil => rfl
  | cons first jobs ih => simp only [List.cons_append, inTurn, ih]

/-- What calls depend on: places of the database, and those a call reads. -/
structure Footprint where
  Place : Type
  Value : Place → Type
  value : (p : Place) → η.Db → Value p
  reads : η.Ctx → S.Call → Set Place
  /-- A call comes out the same where it reads the same. -/
  exec_eq : ∀ {ctx c db db'}, (∀ p ∈ reads ctx c, value p db' = value p db) → η.exec ctx c db' = η.exec ctx c db
  /-- Places that are alike stay alike under what a call writes. -/
  after_eq : ∀ {ctx c db db' reply writes}, (∀ p ∈ reads ctx c, value p db' = value p db) →
    η.exec ctx c db = some (reply, writes) → ∀ p, value p db' = value p db →
      value p (η.applyAll writes db') = value p (η.applyAll writes db)

/-- A place that is only written under a key stays as it is under writes without this key. -/
theorem Footprint.value_applyAll {η : Handler S} (φ : η.Footprint) {p : φ.Place} {k : η.Key}
    (guarded : ∀ w db, k ∉ η.keys w → φ.value p (η.apply w db) = φ.value p db) {writes : List η.Write}
    (free : ∀ w ∈ writes, k ∉ η.keys w) (db : η.Db) : φ.value p (η.applyAll writes db) = φ.value p db := by
  induction writes generalizing db with
  | nil => rfl
  | cons w writes ih =>
      rw [applyAll_cons, ih fun v later => free v (List.mem_cons_of_mem _ later), guarded w db (free w List.mem_cons_self)]

/-- Made again from this database, the calls come out as they did. -/
def Replays (ctx : η.Ctx) : List η.transactional.Event → η.Db → Prop
  | [], _ => True
  | e :: trace, db =>
      η.exec ctx e.call db = some (e.outcome.reply, e.outcome.writes) ∧
        Replays ctx trace (η.applyAll e.outcome.writes db)

variable {η} {ctx : η.Ctx} {db db' : η.Db}

@[simp] theorem replays_nil : η.Replays ctx [] db := trivial

theorem replays_cons {e : η.transactional.Event} {trace : List η.transactional.Event} :
    η.Replays ctx (e :: trace) db ↔
      η.exec ctx e.call db = some (e.outcome.reply, e.outcome.writes) ∧
        η.Replays ctx trace (η.applyAll e.outcome.writes db) := Iff.rfl

theorem replays_concat {trace : List η.transactional.Event} {e : η.transactional.Event} :
    η.Replays ctx (trace ++ [e]) db ↔
      η.Replays ctx trace db ∧
        η.exec ctx e.call (η.applyAll (η.transactional.pending trace) db) =
          some (e.outcome.reply, e.outcome.writes) := by
  induction trace generalizing db with
  | nil => simp [replays_cons]
  | cons first trace ih =>
      rw [List.cons_append, replays_cons, replays_cons, ih, Store.pending_cons, applyAll_append, and_assoc]

/-- Calls come out as they did wherever they read what they read. -/
theorem Replays.congr (φ : η.Footprint) {trace : List η.transactional.Event} (replays : η.Replays ctx trace db)
    (same : ∀ e ∈ trace, ∀ p ∈ φ.reads ctx e.call, φ.value p db' = φ.value p db) : η.Replays ctx trace db' := by
  induction trace generalizing db db' with
  | nil => trivial
  | cons e trace ih =>
      have here := same e List.mem_cons_self
      refine ⟨(φ.exec_eq here).trans replays.1, ih replays.2 ?_⟩
      intro e' later p read
      exact φ.after_eq here replays.1 p (same e' (List.mem_cons_of_mem _ later) p read)

end Handler

namespace Proc

/-- By these events the program has come down to what is left of it. -/
inductive Comes {σ : Store S} (p : Proc S α) : List σ.Event → Proc S α → Prop where
  | start : Comes p [] p
  | call {trace : List σ.Event} {c : S.Call} {next : S.Reply c → Proc S α}
      (before : Comes p trace (.call c next)) (o : Outcome S σ.Write σ.Key c) :
      Comes p (trace ++ [⟨c, o⟩]) (next o.reply)

/-- Run where its calls come out as they did, a program does what it did. -/
theorem Comes.run {η : Handler S} {ctx : η.Ctx} {p rest : Proc S α} {trace : List η.transactional.Event} {db : η.Db}
    (comes : p.Comes trace rest) (replays : η.Replays ctx trace db) :
    p.run η ctx db = rest.run η ctx (η.applyAll (η.transactional.pending trace) db) := by
  induction comes with
  | start => rfl
  | call before o ih =>
      obtain ⟨earlier, answered⟩ := Handler.replays_concat.mp replays
      rw [ih earlier, run_call answered, Store.pending_append, Handler.applyAll_append]

end Proc

namespace Config

/-- What is left of a session's program is what its calls have brought it to. -/
theorem comes_of_run {A : App} {db : A.store.Db} {jobs : List A.Job} {history : List (Config A × Move A)}
    {c : Config A} (run : Run step (start db jobs) history c) {i : Nat} {s : Session A} {rest : Proc A.sig A.Out}
    (found : c.sessions[i]? = some s) (running : s.status = .running rest) :
    (A.program s.job).Comes s.trace rest := by
  have all : ∀ (i : Nat) (s : Session A), c.sessions[i]? = some s → ∀ rest, s.status = .running rest →
      (A.program s.job).Comes s.trace rest := by
    clear found running
    induction run with
    | start =>
        intro i s found rest running
        obtain ⟨job, _, rfl⟩ := start_session found
        cases running
        exact .start
    | @step history c c' m run taken ih =>
        cases step_stepped taken with
        | arrive job =>
            intro j s found rest running
            rcases c.getElem?_arrive job j found with old | ⟨_, rfl⟩
            · exact ih j s old rest running
            · cases running
              exact .start
        | @call i choice s k next o found running answer =>
            refine forall_put found (fun j t at_j _ => ih j t at_j) ?_
            intro rest left
            cases left
            exact (ih i s found _ running).call o
        | commit found running commits =>
            exact forall_put found (fun j t at_j _ => ih j t at_j) fun rest left => by cases left
        | rollback found running commits =>
            exact forall_put found (fun j t at_j _ => ih j t at_j) fun rest left => by cases left
        | abort found running =>
            exact forall_put found (fun j t at_j _ => ih j t at_j) fun rest left => by cases left
  exact all i s found rest running

/-- The jobs of the sessions that are listed and have committed, with what they answer. -/
def served {A : App} (c : Config A) (order : List Nat) : List (A.Job × A.Out) :=
  order.filterMap fun i =>
    match c.sessions[i]? with
    | some s =>
        match s.status with
        | .committed out => some (s.job, out)
        | _ => none
    | none => none

variable {η : Handler S} {ctx : Job → η.Ctx} {program : Job → Proc S Out} {commits : Out → Bool}

/-- If the move commits a session, no place changes by it that another running session has read. -/
def Undisturbed (φ : η.Footprint) (c : Config (η.app ctx program commits)) (m : Move (η.app ctx program commits)) :
    Prop :=
  ∀ i, c.committing m = some i → ∀ (j : Nat) (t : Session (η.app ctx program commits)), j ≠ i →
    c.sessions[j]? = some t → ∀ rest, t.status = .running rest → ∀ e ∈ t.trace, ∀ p ∈ φ.reads (ctx t.job) e.call,
      φ.value p (η.applyAll (c.writesOf i) c.db) = φ.value p c.db

section Runs

variable {db₀ : η.Db} {jobs : List Job} {c c' : Config (η.app ctx program commits)}
  {history : List (Config (η.app ctx program commits) × Move (η.app ctx program commits))}
  {m : Move (η.app ctx program commits)}

/-- A move that commits ends a session that has come to the end of its program. -/
theorem ending_of_committing {A : App} {c : Config A} {m : Move A} {i : Nat} (commit : c.committing m = some i) :
    ∃ s out, m = .finish i ∧ c.sessions[i]? = some s ∧ s.status = .running (.done out) ∧ A.commits out = true := by
  unfold committing at commit
  split at commit
  · split at commit
    · rename_i s found
      split at commit
      · rename_i out running
        split at commit
        · rename_i commits
          cases commit
          exact ⟨s, out, rfl, found, running, commits⟩
        · cases commit
      · cases commit
    · cases commit
  · cases commit

/-- A place that is only written under a key stays as it is while a running session holds the key. -/
theorem unchanged_of_held (careful : η.transactional.Careful) (φ : η.Footprint)
    (run : Run step (.start db₀ jobs) history c) {i j : Nat} {t : Session (η.app ctx program commits)}
    {rest : Proc S Out} (commit : c.committing m = some i) (different : j ≠ i) (found : c.sessions[j]? = some t)
    (running : t.status = .running rest) {p : φ.Place} {k : η.Key} (held : k ∈ η.transactional.locked t.trace)
    (guarded : ∀ w db, k ∉ η.keys w → φ.value p (η.apply w db) = φ.value p db) :
    φ.value p (η.applyAll (c.writesOf i) c.db) = φ.value p c.db := by
  obtain ⟨s, out, rfl, at_i, ends, _⟩ := ending_of_committing commit
  have exclusive := exclusive_of_run (A := η.app ctx program commits) careful run
  have notHeld := exclusive j i t s k different found at_i ((Session.holds_of_running running k).mpr held)
  have locks : η.transactional.locked s.trace = (η.transactional.pending s.trace).flatMap η.keys :=
    Handler.locked_eq_of_run (A := η.app ctx program commits)
      (fun _ _ produced => (η.plausible_transactional produced).2.2) run at_i
  rw [writesOf_eq at_i]
  refine φ.value_applyAll guarded (fun w written key => ?_) c.db
  have holds := (Session.holds_of_running ends k).mpr (locks ▸ List.mem_flatMap.mpr ⟨w, written, key⟩)
  simp [notHeld] at holds

/-- Every running session would get its answers again from the database as it is. -/
def Replayable (c : Config (η.app ctx program commits)) : Prop :=
  ∀ (i : Nat) (s : Session (η.app ctx program commits)), c.sessions[i]? = some s → ∀ rest, s.status = .running rest →
    η.Replays (ctx s.job) s.trace c.db

theorem Replayable.step {φ : η.Footprint} (replayable : c.Replayable) (undisturbed : c.Undisturbed φ m)
    (taken : c.step m = some c') : c'.Replayable := by
  cases step_stepped taken with
  | arrive job =>
      intro j s found rest running
      rcases c.getElem?_arrive job j found with old | ⟨_, rfl⟩
      · exact replayable j s old rest running
      · exact Handler.replays_nil
  | @call i choice s k next o found running answer =>
      obtain ⟨_, answered, noEffects, _⟩ := η.mem_inTransaction.mp (List.mem_of_getElem? answer)
      intro j t at_j rest left
      change (c.put i _).sessions[j]? = some t at at_j
      change η.Replays _ _ (η.applyAll o.effects c.db)
      rw [noEffects]
      rw [getElem?_put found] at at_j
      split at at_j
      · cases at_j
        exact Handler.replays_concat.mpr ⟨replayable i s found _ running, answered⟩
      · exact replayable j t at_j rest left
  | @commit i s out found running kept =>
      have commit : c.committing (.finish i) = some i := by
        simp only [committing, found, running]
        exact if_pos kept
      intro j t at_j rest left
      change (c.put i _).sessions[j]? = some t at at_j
      rw [getElem?_put found] at at_j
      split at at_j
      · cases at_j
        cases left
      · rename_i different
        have same := undisturbed i commit j t different at_j rest left
        rw [writesOf_eq found] at same
        exact (replayable j t at_j rest left).congr φ same
  | @rollback i s out found running commits =>
      intro j t at_j rest left
      rw [getElem?_put found] at at_j
      split at at_j
      · cases at_j
        cases left
      · exact replayable j t at_j rest left
  | @abort i s rest' found running =>
      intro j t at_j rest left
      rw [getElem?_put found] at at_j
      split at at_j
      · cases at_j
        cases left
      · exact replayable j t at_j rest left

theorem served_of_step {A : App} {c c' : Config A} {m : Move A} (taken : c.step m = some c') {order : List Nat}
    (committed : ∀ i ∈ order, c.Committed i) : c'.served order = c.served order := by
  apply List.filterMap_congr
  intro i listed
  obtain ⟨s, out, found, status⟩ := committed i listed
  obtain ⟨s', found', later⟩ := later_of_step taken found
  cases later.committed status
  simp only [found, found']

/-- Where nobody commits a change of what another running session has read, the run comes to what serving the
    committed jobs one after the other comes to: the same database, the same answers. -/
theorem serial_of_run (φ : η.Footprint) (run : Run step (.start db₀ jobs) history c)
    (undisturbed : Meets (Undisturbed φ) history) :
    η.inTurn ctx program commits ((c.served (commitsOf history)).map Prod.fst) db₀ =
      ((c.served (commitsOf history)).map fun entry => some entry.2, c.db) := by
  have both : c.Replayable ∧ η.inTurn ctx program commits ((c.served (commitsOf history)).map Prod.fst) db₀ =
      ((c.served (commitsOf history)).map fun entry => some entry.2, c.db) := by
    induction run with
    | start =>
        refine ⟨?_, rfl⟩
        intro i s found rest running
        obtain ⟨job, _, rfl⟩ := start_session found
        exact Handler.replays_nil
    | @step history c c' m run taken ih =>
        obtain ⟨earlier, now⟩ := (meets_append _ _ _ _).mp undisturbed
        obtain ⟨replayable, serial⟩ := ih earlier
        refine ⟨replayable.step now taken, ?_⟩
        have log := commitLog_of_run (A := η.app ctx program commits) η.deferred_transactional run
        have sameServed : c'.served (commitsOf history) = c.served (commitsOf history) :=
          served_of_step taken fun i listed => (log.mem_iff i).mp listed
        have left := db_step (A := η.app ctx program commits) η.deferred_transactional taken
        rw [commitsOf_append, served, List.filterMap_append, ← served, ← served, sameServed]
        cases commit : c.committing m with
        | none =>
            rw [commit] at left
            have same : c'.db = c.db := left
            rw [same]
            simpa [served] using serial
        | some i =>
            obtain ⟨s, out, rfl, found, running, kept⟩ := ending_of_committing commit
            have found' : c'.sessions[i]? = some { s with status := .committed out } := by
              have made := (@Stepped.commit _ c i s out found running kept).step
              cases taken.symm.trans made
              change (c.put i _).sessions[i]? = _
              rw [getElem?_put found, if_pos rfl]
            have last : c'.served [i] = [(s.job, out)] := by simp [served, found']
            have ran := (comes_of_run run found running).run (replayable i s found _ running)
            rw [commit, Option.toList_some, List.flatMap_singleton, writesOf_eq found'] at left
            rw [Option.toList_some, last, List.map_append, List.map_append, List.map_singleton, List.map_singleton,
              Handler.inTurn_concat, serial]
            dsimp only
            rw [Handler.transact_of_commit ran kept]
            exact Prod.ext rfl left.symm
  exact both.2

end Runs

end Config

end Txn
