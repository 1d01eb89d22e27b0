/-
Module: HelpdeskApi.Library.LockedRely
Layer: Library
Purpose: Rely and guarantee for sessions of any store: some of their writes wait for the commit, some take hold at
  once, and keys are locked until the end. Whatever the others do goes along a relation of databases, and under a
  key it keeps what the key guards for as long as a session holds it. A program that keeps to this itself
  (`Proc.Keeps`) does so in every run of a store that hands no key out twice, and what it has answered with is so
  for good (`Config.kept_of_run`).
Trusted boundary: none
Main exports: Protocol, Protocol.Later, Protocol.Allows, Proc.Keeps, Proc.Keeps.later, Proc.Keeps.map,
  Proc.keeps_of_silent, Session.Keeps, App.Begins, Config.Kept, Config.Moved, Config.kept_of_step, Config.kept_of_run
-/
import HelpdeskApi.Library.RelyGuarantee

namespace Txn

open Transition

/-- How a database may go on while others are at work, and what stays as it is while a key is held. -/
structure Protocol {S : Signature} (σ : Store S) extends Rely σ.Db where
  keeps : σ.Key → σ.Db → σ.Db → Prop
  keeps_refl : ∀ k db, keeps k db db
  keeps_trans : ∀ {k db₁ db₂ db₃}, keeps k db₁ db₂ → keeps k db₂ db₃ → keeps k db₁ db₃

namespace Protocol

variable {S : Signature} {σ : Store S} (P : Protocol σ)

/-- What a session that holds these keys may find later. -/
structure Later (locked : List σ.Key) (db db' : σ.Db) : Prop where
  goes : P.goes db db'
  keeps : ∀ k ∈ locked, P.keeps k db db'

/-- What a session that holds these keys may do. -/
structure Allows (locked : List σ.Key) (db db' : σ.Db) : Prop where
  goes : P.goes db db'
  keeps : ∀ k, k ∉ locked → P.keeps k db db'

variable {P}

theorem Later.refl (locked : List σ.Key) (db : σ.Db) : P.Later locked db db :=
  ⟨P.refl db, fun k _ => P.keeps_refl k db⟩

theorem Later.trans {locked : List σ.Key} {db₁ db₂ db₃ : σ.Db} (first : P.Later locked db₁ db₂)
    (second : P.Later locked db₂ db₃) : P.Later locked db₁ db₃ :=
  ⟨P.trans first.goes second.goes, fun k held => P.keeps_trans (first.keeps k held) (second.keeps k held)⟩

theorem Allows.refl (locked : List σ.Key) (db : σ.Db) : P.Allows locked db db :=
  ⟨P.refl db, fun k _ => P.keeps_refl k db⟩

end Protocol

namespace Proc

variable {S : Signature} {σ : Store S} {α β : Type} (P : Protocol σ) (ctx : σ.Ctx)

/-- From a database on, with these writes waiting and these keys held, and whatever the others do before each step:
    what is done is allowed and is what `does` says, and the value satisfies `gives` from its commit on. -/
def Keeps (commits : α → Bool) (does : σ.Db → σ.Db → Prop) (gives : α → σ.Db → Prop) :
    Proc S α → List σ.Write → List σ.Key → σ.Db → Prop
  | .done a, pending, locked, db => ∀ later, P.Later locked db later →
      ∀ last, last = (if commits a then σ.applyAll pending later else later) →
        P.Allows locked later last ∧ does later last ∧ ∀ onwards, P.goes last onwards → gives a onwards
  | .call c next, pending, locked, db => ∀ later held, P.Later locked db later →
      ∀ o ∈ σ.answers ctx held c (σ.applyAll pending later), ∀ after, after = σ.applyAll o.effects later →
        P.Allows (locked ++ o.locks) later after ∧ does later after ∧
          (next o.reply).Keeps commits does gives (pending ++ o.writes) (locked ++ o.locks) after

variable {P ctx} {commits : α → Bool} {does : σ.Db → σ.Db → Prop} {gives : α → σ.Db → Prop}
  {pending : List σ.Write} {locked : List σ.Key} {db db' : σ.Db}

/-- Nothing is lost while the others go on. -/
theorem Keeps.later {p : Proc S α} (keeps : p.Keeps P ctx commits does gives pending locked db)
    (goes : P.Later locked db db') : p.Keeps P ctx commits does gives pending locked db' := by
  cases p with
  | done a => exact fun later onwards => keeps later (goes.trans onwards)
  | call c next => exact fun later held onwards => keeps later held (goes.trans onwards)

/-- What is made of the value afterwards makes no call. -/
theorem Keeps.map {commits : β → Bool} {gives : β → σ.Db → Prop} (f : α → β) {p : Proc S α}
    (keeps : p.Keeps P ctx (fun a => commits (f a)) does (fun a => gives (f a)) pending locked db) :
    (f <$> p).Keeps P ctx commits does gives pending locked db := by
  induction p generalizing pending locked db with
  | done a => exact keeps
  | call c next ih =>
      intro later held goes o answered after isAfter
      obtain ⟨allowed, done, rest⟩ := keeps later held goes o answered after isAfter
      exact ⟨allowed, done, ih _ rest⟩

/-- Less is said of the steps and of the value. -/
theorem Keeps.mono {does' : σ.Db → σ.Db → Prop} {gives' : α → σ.Db → Prop} {p : Proc S α}
    (keeps : p.Keeps P ctx commits does gives pending locked db) (steps : ∀ db db', does db db' → does' db db')
    (value : ∀ a db, gives a db → gives' a db) : p.Keeps P ctx commits does' gives' pending locked db := by
  induction p generalizing pending locked db with
  | done a =>
      intro later goes last isLast
      obtain ⟨allowed, done, given⟩ := keeps later goes last isLast
      exact ⟨allowed, steps later last done, fun onwards goesOn => value a onwards (given onwards goesOn)⟩
  | call c next ih =>
      intro later held goes o answered after isAfter
      obtain ⟨allowed, done, rest⟩ := keeps later held goes o answered after isAfter
      exact ⟨allowed, steps later after done, ih _ rest⟩

/-- A program that makes no call, and has nothing waiting. -/
theorem keeps_done {a : α} (same : ∀ db, does db db) (given : ∀ onwards, P.goes db onwards → gives a onwards) :
    (Proc.done a : Proc S α).Keeps P ctx commits does gives [] locked db := by
  intro later goes last isLast
  have nothing : last = later := by
    rw [isLast]
    exact ite_self _
  rw [nothing]
  exact ⟨.refl _ _, same later, fun onwards goesOn => given onwards (P.trans goes.goes goesOn)⟩

/-- A program that makes something of one answer, to a call that writes nothing. -/
theorem keeps_of_silent {c : S.Call} {f : S.Reply c → α}
    (silent : ∀ held db, ∀ o ∈ σ.answers ctx held c db, o.writes = [] ∧ o.effects = [])
    (same : ∀ db, does db db)
    (given : ∀ later held, P.goes db later → ∀ o ∈ σ.answers ctx held c later, ∀ onwards, P.goes later onwards →
      gives (f o.reply) onwards) :
    (Proc.call c fun reply => .done (f reply) : Proc S α).Keeps P ctx commits does gives [] locked db := by
  intro later held goes o answered after isAfter
  obtain ⟨noWrites, noEffects⟩ := silent held _ o answered
  have isLater : after = later := by
    rw [isAfter, noEffects]
    rfl
  rw [isLater, noWrites]
  refine ⟨.refl _ _, same later, ?_⟩
  exact keeps_done same (given later held goes.goes o answered)

end Proc

section Sessions

variable {A : App} (P : Protocol A.store) (does : A.Job → A.store.Db → A.store.Db → Prop)
  (gives : A.Job → A.Out → A.store.Db → Prop)

/-- What is left of a session keeps to the protocol, or what it has answered with is so for good. -/
def Session.Keeps (s : Session A) (db : A.store.Db) : Prop :=
  match s.status with
  | .running rest => rest.Keeps P (A.ctx s.job) A.commits (does s.job) (gives s.job) (A.store.pending s.trace)
      (A.store.locked s.trace) db
  | .committed out => ∀ onwards, P.goes db onwards → gives s.job out onwards
  | .rolledBack out => ∀ onwards, P.goes db onwards → gives s.job out onwards
  | .aborted => True

/-- The program of a job keeps to the protocol from a database on. -/
def App.Begins (A : App) (P : Protocol A.store) (does : A.Job → A.store.Db → A.store.Db → Prop)
    (gives : A.Job → A.Out → A.store.Db → Prop) (job : A.Job) (db : A.store.Db) : Prop :=
  (A.program job).Keeps P (A.ctx job) A.commits (does job) (gives job) [] [] db

variable {P does gives} {s : Session A} {db : A.store.Db}

theorem Session.Keeps.running (keeps : s.Keeps P does gives db) {rest : Proc A.sig A.Out}
    (running : s.status = .running rest) :
    rest.Keeps P (A.ctx s.job) A.commits (does s.job) (gives s.job) (A.store.pending s.trace) (A.store.locked s.trace)
      db := by
  unfold Session.Keeps at keeps
  rw [running] at keeps
  exact keeps

/-- What a session has answered with is so. -/
theorem Session.Keeps.returned (keeps : s.Keeps P does gives db) {out : A.Out}
    (returned : s.status = .committed out ∨ s.status = .rolledBack out) : gives s.job out db := by
  unfold Session.Keeps at keeps
  rcases returned with status | status <;>
  · rw [status] at keeps
    exact keeps db (P.refl db)

/-- A session that has ended, or that holds none of the keys, finds nothing that it did not count on. -/
theorem Session.Keeps.later {db' : A.store.Db} (keeps : s.Keeps P does gives db) (goes : P.goes db db')
    (kept : ∀ k, s.holds k = true → P.keeps k db db') : s.Keeps P does gives db' := by
  unfold Session.Keeps at keeps ⊢
  cases status : s.status with
  | running rest =>
      rw [status] at keeps
      exact keeps.later ⟨goes, fun k held => kept k ((Session.holds_of_running status k).mpr held)⟩
  | committed out =>
      rw [status] at keeps
      exact fun onwards goesOn => keeps onwards (P.trans goes goesOn)
  | rolledBack out =>
      rw [status] at keeps
      exact fun onwards goesOn => keeps onwards (P.trans goes goesOn)
  | aborted => trivial

end Sessions

namespace Config

variable {A : App} (P : Protocol A.store) (does : A.Job → A.store.Db → A.store.Db → Prop)
  (gives : A.Job → A.Out → A.store.Db → Prop)

/-- Every session keeps to the protocol. -/
def Kept (c : Config A) : Prop :=
  ∀ (i : Nat) (s : Session A), c.sessions[i]? = some s → s.Keeps P does gives c.db

/-- The database is as it was, or one of the sessions has done something it may do. -/
def Moved (c : Config A) (m : Move A) (c' : Config A) : Prop :=
  c'.db = c.db ∨ ∃ i s, ((∃ choice, m = .call i choice) ∨ m = .finish i) ∧ c.sessions[i]? = some s ∧
    does s.job c.db c'.db

variable {P does gives} {c c' : Config A} {m : Move A} {db₀ : A.store.Db} {jobs : List A.Job}
  {history : List (Config A × Move A)}

theorem Kept.put (kept : c.Kept P does gives) {i : Nat} {s s' : Session A} (found : c.sessions[i]? = some s)
    {db : A.store.Db} (own : s'.Keeps P does gives db) (goes : P.goes c.db db)
    (others : ∀ (j : Nat) (t : Session A), j ≠ i → c.sessions[j]? = some t → ∀ k, t.holds k = true → P.keeps k c.db db) :
    ({ c.put i s' with db := db } : Config A).Kept P does gives := by
  intro j t at_j
  change (c.put i s').sessions[j]? = some t at at_j
  rw [getElem?_put found] at at_j
  split at at_j
  · cases at_j
    exact own
  · rename_i different
    exact (kept j t at_j).later goes (others j t different at_j)

/-- A step takes the database along, by what the session it is of may do, and leaves every session to its protocol. -/
theorem kept_of_step (careful : A.store.Careful) (exclusive : c.Exclusive) (kept : c.Kept P does gives)
    (taken : c.step m = some c') (arrives : ∀ job, m = .arrive job → A.Begins P does gives job c.db) :
    P.goes c.db c'.db ∧ c'.Kept P does gives ∧ c.Moved does m c' := by
  have exclusive' := exclusive.step careful taken
  cases step_stepped taken with
  | arrive job =>
      refine ⟨P.refl c.db, ?_, .inl rfl⟩
      intro j t at_j
      rcases c.getElem?_arrive job j at_j with old | ⟨_, rfl⟩
      · exact kept j t old
      · exact arrives job rfl
  | @call i choice s k next o found running answer =>
      obtain ⟨allowed, done, rest⟩ := (kept i s found).running running c.db (c.heldByOthers i) (.refl _ _) o
        (List.mem_of_getElem? answer) _ rfl
      refine ⟨allowed.goes, kept.put found ?_ allowed.goes ?_, .inr ⟨i, s, .inl ⟨choice, rfl⟩, found, done⟩⟩
      · change Proc.Keeps _ _ _ _ _ _ _ _ _
        rw [Session.advance_trace, Store.pending_append, Store.locked_append]
        exact rest
      · -- the keys that are held elsewhere are none of those of this session, now that it has these too
        intro j t different at_j key holds
        apply allowed.keeps
        intro mine
        have at_j' : (c.put i (s.advance ⟨k, o⟩ (next o.reply))).sessions[j]? = some t :=
          (getElem?_put found _ j).trans ((if_neg different).trans at_j)
        have at_i' : (c.put i (s.advance ⟨k, o⟩ (next o.reply))).sessions[i]? = some (s.advance ⟨k, o⟩ (next o.reply)) :=
          (getElem?_put found _ i).trans (if_pos rfl)
        have notMine := exclusive' j i t _ key different at_j' at_i' holds
        have isMine : (s.advance ⟨k, o⟩ (next o.reply)).holds key = true := by
          rw [Session.holds_of_running (Session.advance_status s _ _), Session.advance_trace, Store.locked_append]
          exact mine
        rw [isMine] at notMine
        cases notMine
  | @commit i s out found running commits =>
      obtain ⟨allowed, done, given⟩ := (kept i s found).running running c.db (.refl _ _) (s.view c.db)
        (if_pos commits).symm
      refine ⟨allowed.goes, kept.put found given allowed.goes ?_, .inr ⟨i, s, .inr rfl, found, done⟩⟩
      intro j t different at_j key holds
      apply allowed.keeps
      intro mine
      have notMine := exclusive j i t s key different at_j found holds
      rw [(Session.holds_of_running running key).mpr mine] at notMine
      cases notMine
  | @rollback i s out found running dropped =>
      obtain ⟨_, _, given⟩ := (kept i s found).running running c.db (.refl _ _) c.db
        (if_neg (ne_true_of_eq_false dropped)).symm
      exact ⟨P.refl c.db, kept.put found given (P.refl c.db) fun _ _ _ _ k _ => P.keeps_refl k c.db, .inl rfl⟩
  | @abort i s rest found running =>
      exact ⟨P.refl c.db, kept.put found trivial (P.refl c.db) fun _ _ _ _ k _ => P.keeps_refl k c.db, .inl rfl⟩

/-- In a run in which whatever comes may come, where it comes, everything keeps to the protocol, and may still have
    come. -/
theorem kept_of_run {J : A.Job → A.store.Db → Prop} (careful : A.store.Careful)
    (stable : ∀ {job db db'}, J job db → P.goes db db' → J job db')
    (each : ∀ {job db}, J job db → A.Begins P does gives job db) (begins : ∀ job ∈ jobs, J job db₀)
    (run : Run step (.start db₀ jobs) history c)
    (arrives : ∀ entry ∈ history, P.goes db₀ entry.1.db → entry.1.Kept P does gives → ∀ job, entry.2 = .arrive job →
      J job entry.1.db) :
    P.goes db₀ c.db ∧ c.Kept P does gives ∧
      ∀ (i : Nat) (s : Session A), c.sessions[i]? = some s → J s.job c.db := by
  induction run with
  | start =>
      have all : ∀ (i : Nat) (s : Session A), (Config.start db₀ jobs).sessions[i]? = some s →
          s.Keeps P does gives db₀ ∧ J s.job db₀ := by
        intro i s found
        obtain ⟨job, listed, rfl⟩ := start_session found
        exact ⟨each (begins job listed), begins job listed⟩
      exact ⟨P.refl db₀, fun i s found => (all i s found).1, fun i s found => (all i s found).2⟩
  | @step history c c' m run taken ih =>
      obtain ⟨goes, kept, mayCome⟩ := ih fun entry member => arrives entry (List.mem_append_left _ member)
      have comes := arrives (c, m) (List.mem_append_right _ List.mem_cons_self) goes kept
      obtain ⟨onwards, kept', _⟩ := kept_of_step careful (exclusive_of_run careful run) kept taken
        fun job isArrival => each (comes job isArrival)
      refine ⟨P.trans goes onwards, kept', fun i s' found' => ?_⟩
      rcases earlier_of_step taken found' with ⟨s, found, later⟩ | ⟨job, isArrival, _, rfl⟩
      · rw [later.job]
        exact stable (mayCome i s found) onwards
      · exact stable (comes job isArrival) onwards

end Config

end Txn
