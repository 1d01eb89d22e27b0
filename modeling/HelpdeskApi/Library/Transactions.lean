/-
Module: HelpdeskApi.Library.Transactions
Layer: Library
Purpose: Programs run as transactions over a shared store, interleaved one call at a time. A running
  session sees the committed database with its own pending writes on top; pending writes reach the
  database when the session commits and are dropped when it rolls back or aborts; the keys it locked stay
  locked until then. What a call may answer depends on the keys other running sessions hold: a call that
  has to wait has no answer yet. A session whose calls take effect at once (each call a transaction of
  its own) is the same thing with `effects` in place of `writes`.
Trusted boundary: none
Main exports: Outcome, Store, App, Session, Config, Move, Config.step, Config.Stepped,
  Config.step_stepped, Config.Stepped.step
-/
import HelpdeskApi.Library.Proc
import HelpdeskApi.Library.Runs

namespace Txn

/-- One way a call can come out: its reply, the writes it leaves pending until the session commits, the
    writes that take hold at once, and the keys it locks until the session ends. -/
structure Outcome (S : Signature) (Write Key : Type) (c : S.Call) where
  reply : S.Reply c
  writes : List Write
  effects : List Write
  locks : List Key

/-- A store that programs over `S` can be run against. `answers` lists how a call may come out for a
    session with the given context, when the given keys are held by other sessions and the session sees
    the given database. -/
structure Store (S : Signature) where
  Db : Type
  Ctx : Type
  Write : Type
  Key : Type
  [decKey : DecidableEq Key]
  apply : Write → Db → Db
  answers : Ctx → (Key → Bool) → (c : S.Call) → Db → List (Outcome S Write Key c)

namespace Store

variable {S : Signature} (σ : Store S)

instance : DecidableEq σ.Key := σ.decKey

/-- Apply writes in order. -/
def applyAll (writes : List σ.Write) (db : σ.Db) : σ.Db :=
  writes.foldl (fun db w => σ.apply w db) db

@[simp] theorem applyAll_nil (db : σ.Db) : σ.applyAll [] db = db := rfl

@[simp] theorem applyAll_cons (w : σ.Write) (writes : List σ.Write) (db : σ.Db) :
    σ.applyAll (w :: writes) db = σ.applyAll writes (σ.apply w db) := rfl

@[simp] theorem applyAll_append (ws vs : List σ.Write) (db : σ.Db) :
    σ.applyAll (ws ++ vs) db = σ.applyAll vs (σ.applyAll ws db) :=
  List.foldl_append

/-- Writes that do not depend on each other can be applied in either order. -/
theorem applyAll_comm {ws vs : List σ.Write}
    (apart : ∀ w ∈ ws, ∀ v ∈ vs, ∀ db, σ.apply w (σ.apply v db) = σ.apply v (σ.apply w db)) (db : σ.Db) :
    σ.applyAll ws (σ.applyAll vs db) = σ.applyAll vs (σ.applyAll ws db) := by
  have one : ∀ w ∈ ws, ∀ db, σ.apply w (σ.applyAll vs db) = σ.applyAll vs (σ.apply w db) := by
    intro w inside
    have each := apart w inside
    clear apart
    induction vs with
    | nil => exact fun _ => rfl
    | cons v vs ih =>
        intro db
        rw [applyAll_cons, applyAll_cons, ih (fun v later => each v (List.mem_cons_of_mem _ later)),
          each v List.mem_cons_self]
  clear apart
  induction ws generalizing db with
  | nil => rfl
  | cons w ws ih =>
      rw [applyAll_cons, applyAll_cons, one w List.mem_cons_self,
        ih _ (fun w later => one w (List.mem_cons_of_mem _ later))]

/-- A call that was made and how it came out. -/
structure Event where
  call : S.Call
  outcome : Outcome S σ.Write σ.Key call

/-- An event the store can produce for some session with this context. -/
def Plausible (ctx : σ.Ctx) (e : σ.Event) : Prop :=
  ∃ held db, e.outcome ∈ σ.answers ctx held e.call db

/-- The writes a list of events left pending. -/
def pending (trace : List σ.Event) : List σ.Write :=
  trace.flatMap fun e => e.outcome.writes

/-- The keys a list of events locked. -/
def locked (trace : List σ.Event) : List σ.Key :=
  trace.flatMap fun e => e.outcome.locks

@[simp] theorem pending_nil : σ.pending [] = [] := rfl

@[simp] theorem pending_cons (e : σ.Event) (trace : List σ.Event) :
    σ.pending (e :: trace) = e.outcome.writes ++ σ.pending trace := rfl

@[simp] theorem pending_append (trace : List σ.Event) (e : σ.Event) :
    σ.pending (trace ++ [e]) = σ.pending trace ++ e.outcome.writes := by
  simp [pending]

@[simp] theorem locked_nil : σ.locked [] = [] := rfl

@[simp] theorem locked_append (trace : List σ.Event) (e : σ.Event) :
    σ.locked (trace ++ [e]) = σ.locked trace ++ e.outcome.locks := by
  simp [locked]

end Store

/-- An application: the jobs it can be asked to do, the program and the session context of each, and
    which outputs end in a commit. -/
structure App where
  sig : Signature
  store : Store sig
  Job : Type
  Out : Type
  ctx : Job → store.Ctx
  program : Job → Proc sig Out
  commits : Out → Bool

/-- How far a session has got. -/
inductive Status (S : Signature) (Out : Type) where
  | running (rest : Proc S Out)
  | committed (out : Out)
  | rolledBack (out : Out)
  | aborted

/-- One execution of a job: the events of its calls so far and how far it has got. -/
structure Session (A : App) where
  job : A.Job
  trace : List A.store.Event
  status : Status A.sig A.Out

namespace Session

variable {A : App}

/-- A session that has not made a call yet. -/
def start (job : A.Job) : Session A where
  job := job
  trace := []
  status := .running (A.program job)

/-- Whether the session holds a lock on a key. -/
def holds (s : Session A) (k : A.store.Key) : Bool :=
  match s.status with
  | .running _ => decide (k ∈ A.store.locked s.trace)
  | _ => false

/-- The database as the session sees it. -/
def view (s : Session A) (db : A.store.Db) : A.store.Db :=
  A.store.applyAll (A.store.pending s.trace) db

/-- The session after one more event. -/
def advance (s : Session A) (e : A.store.Event) (rest : Proc A.sig A.Out) : Session A :=
  { s with trace := s.trace ++ [e], status := .running rest }

@[simp] theorem advance_job (s : Session A) (e : A.store.Event) (rest : Proc A.sig A.Out) :
    (s.advance e rest).job = s.job := rfl

@[simp] theorem advance_trace (s : Session A) (e : A.store.Event) (rest : Proc A.sig A.Out) :
    (s.advance e rest).trace = s.trace ++ [e] := rfl

@[simp] theorem advance_status (s : Session A) (e : A.store.Event) (rest : Proc A.sig A.Out) :
    (s.advance e rest).status = .running rest := rfl

@[simp] theorem start_job (job : A.Job) : (start job).job = job := rfl

@[simp] theorem start_trace (job : A.Job) : (start job).trace = [] := rfl

@[simp] theorem start_status (job : A.Job) : (start job).status = .running (A.program job) := rfl

def isCommitted (s : Session A) : Bool :=
  match s.status with
  | .committed _ => true
  | _ => false

theorem isCommitted_iff (s : Session A) : s.isCommitted = true ↔ ∃ out, s.status = .committed out := by
  unfold isCommitted
  cases s.status <;> simp

/-- The program has come to its end. -/
def Returned (s : Session A) : Prop :=
  (∃ out, s.status = .committed out) ∨ ∃ out, s.status = .rolledBack out

/-- What the session has written still counts: it is at work, or it has committed. -/
def Alive (s : Session A) : Prop :=
  (∃ rest, s.status = .running rest) ∨ ∃ out, s.status = .committed out

theorem holds_of_running {s : Session A} {rest : Proc A.sig A.Out} (running : s.status = .running rest)
    (k : A.store.Key) : s.holds k = true ↔ k ∈ A.store.locked s.trace := by
  simp [holds, running]

end Session

/-- The committed database and every session so far. -/
structure Config (A : App) where
  db : A.store.Db
  sessions : List (Session A)

/-- What can happen next: a job arrives, a session makes its next call and it comes out in the `choice`-th
    possible way, a session whose program is done ends, or a session dies. -/
inductive Move (A : App) where
  | arrive (job : A.Job)
  | call (i : Nat) (choice : Nat)
  | finish (i : Nat)
  | abort (i : Nat)

namespace Config

variable {A : App}

/-- The jobs have arrived, and none of them has made a call yet. -/
def start (db : A.store.Db) (jobs : List A.Job) : Config A where
  db := db
  sessions := jobs.map .start

theorem start_session {db : A.store.Db} {jobs : List A.Job} {i : Nat} {s : Session A}
    (found : (start db jobs).sessions[i]? = some s) : ∃ job ∈ jobs, s = .start job := by
  simp only [start, List.getElem?_map, Option.map_eq_some_iff] at found
  obtain ⟨job, at_i, rfl⟩ := found
  exact ⟨job, List.mem_of_getElem? at_i, rfl⟩

/-- Whether a session other than the `i`-th holds a lock on a key. -/
def heldByOthers (c : Config A) (i : Nat) (k : A.store.Key) : Bool :=
  (List.range c.sessions.length).any fun j => j != i && (c.sessions[j]?).any fun s => s.holds k

theorem heldByOthers_iff (c : Config A) (i : Nat) (k : A.store.Key) :
    c.heldByOthers i k = true ↔ ∃ j s, j ≠ i ∧ c.sessions[j]? = some s ∧ s.holds k = true := by
  simp only [heldByOthers, List.any_eq_true, List.mem_range, Bool.and_eq_true, bne_iff_ne,
    Option.any_eq_true]
  constructor
  · rintro ⟨j, _, other, s, at_j, holds⟩
    exact ⟨j, s, other, at_j, holds⟩
  · rintro ⟨j, s, other, at_j, holds⟩
    exact ⟨j, (List.getElem?_eq_some_iff.mp at_j).1, other, s, at_j, holds⟩

/-- Replace the `i`-th session. -/
def put (c : Config A) (i : Nat) (s : Session A) : Config A :=
  { c with sessions := c.sessions.set i s }

@[simp] theorem put_db (c : Config A) (i : Nat) (s : Session A) : (c.put i s).db = c.db := rfl

/-- One step of the system, if the move is possible. -/
def step (c : Config A) : Move A → Option (Config A)
  | .arrive job => some { c with sessions := c.sessions ++ [.start job] }
  | .call i choice => do
      let s ← c.sessions[i]?
      match s.status with
      | .running (.call k next) =>
          let o ← (A.store.answers (A.ctx s.job) (c.heldByOthers i) k (s.view c.db))[choice]?
          some { c.put i (s.advance ⟨k, o⟩ (next o.reply)) with db := A.store.applyAll o.effects c.db }
      | _ => none
  | .finish i => do
      let s ← c.sessions[i]?
      match s.status with
      | .running (.done out) =>
          if A.commits out then
            some { c.put i { s with status := .committed out } with db := s.view c.db }
          else some (c.put i { s with status := .rolledBack out })
      | _ => none
  | .abort i => do
      let s ← c.sessions[i]?
      match s.status with
      | .running _ => some (c.put i { s with status := .aborted })
      | _ => none

/-- Everything a move can do, one constructor for each way it can go. -/
inductive Stepped (c : Config A) : Move A → Config A → Prop where
  | arrive (job : A.Job) :
      Stepped c (.arrive job) { c with sessions := c.sessions ++ [.start job] }
  | call {i choice : Nat} {s : Session A} {k : A.sig.Call} {next : A.sig.Reply k → Proc A.sig A.Out}
      {o : Outcome A.sig A.store.Write A.store.Key k} (found : c.sessions[i]? = some s)
      (running : s.status = .running (.call k next))
      (answer : (A.store.answers (A.ctx s.job) (c.heldByOthers i) k (s.view c.db))[choice]? = some o) :
      Stepped c (.call i choice)
        { c.put i (s.advance ⟨k, o⟩ (next o.reply)) with db := A.store.applyAll o.effects c.db }
  | commit {i : Nat} {s : Session A} {out : A.Out} (found : c.sessions[i]? = some s)
      (running : s.status = .running (.done out)) (commits : A.commits out = true) :
      Stepped c (.finish i) { c.put i { s with status := .committed out } with db := s.view c.db }
  | rollback {i : Nat} {s : Session A} {out : A.Out} (found : c.sessions[i]? = some s)
      (running : s.status = .running (.done out)) (commits : A.commits out = false) :
      Stepped c (.finish i) (c.put i { s with status := .rolledBack out })
  | abort {i : Nat} {s : Session A} {rest : Proc A.sig A.Out} (found : c.sessions[i]? = some s)
      (running : s.status = .running rest) :
      Stepped c (.abort i) (c.put i { s with status := .aborted })

theorem step_stepped {c c' : Config A} {m : Move A} (taken : c.step m = some c') :
    c.Stepped m c' := by
  cases m with
  | arrive job =>
      simp only [step, Option.some.injEq] at taken
      exact taken ▸ .arrive job
  | call i choice =>
      simp only [step, Option.bind_eq_bind, Option.bind_eq_some_iff] at taken
      obtain ⟨s, found, taken⟩ := taken
      split at taken
      · rename_i k next running
        obtain ⟨o, answer, made⟩ := Option.bind_eq_some_iff.mp taken
        exact (Option.some.inj made) ▸ .call found running answer
      · cases taken
  | finish i =>
      simp only [step, Option.bind_eq_bind, Option.bind_eq_some_iff] at taken
      obtain ⟨s, found, taken⟩ := taken
      split at taken
      · rename_i out running
        split at taken
        · rename_i commits
          exact (Option.some.inj taken) ▸ .commit found running commits
        · rename_i commits
          exact (Option.some.inj taken) ▸ .rollback found running (by simpa using commits)
      · cases taken
  | abort i =>
      simp only [step, Option.bind_eq_bind, Option.bind_eq_some_iff] at taken
      obtain ⟨s, found, taken⟩ := taken
      split at taken
      · rename_i rest running
        exact (Option.some.inj taken) ▸ .abort found running
      · cases taken

/-- Each of these can be done. -/
theorem Stepped.step {c c' : Config A} {m : Move A} (stepped : c.Stepped m c') : c.step m = some c' := by
  cases stepped with
  | arrive job => rfl
  | call found running answer => simp [Config.step, found, running, answer]
  | commit found running commits => simp [Config.step, found, running, commits]
  | rollback found running commits => simp [Config.step, found, running, commits]
  | abort found running => simp [Config.step, found, running]

end Config

end Txn
