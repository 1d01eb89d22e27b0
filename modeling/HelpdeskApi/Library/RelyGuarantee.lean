/-
Module: HelpdeskApi.Library.RelyGuarantee
Layer: Library
Purpose: Programs whose calls are transactions of their own, and what they can count on while others run beside
  them. Whatever the others do goes along a relation of databases. A program upholds that relation if each of
  its own calls goes along it too, and then what it has established of the database once and for all is there
  when it answers (`Proc.Upholds`). Programs that all uphold a relation take every run along it
  (`Config.guarantee_of_run`), and a session that begins in a good database ends as it should
  (`Config.holding_of_later`).
Trusted boundary: none
Main exports: Rely, Proc.right, Proc.Upholds, Proc.Upholds.later, Proc.Upholds.map,
  Proc.Upholds.mono, Config.Holding,
  Config.guarantee_of_run, Config.guarantee_of_later, Config.holding_of_later, Config.Holding.throws,
  Config.died_of_later
-/
import HelpdeskApi.Library.Faults

namespace Txn

open Transition

/-- How a database may go on while others are at work. -/
structure Rely (Db : Type) where
  goes : Db → Db → Prop
  refl : ∀ db, goes db db
  trans : ∀ {db₁ db₂ db₃}, goes db₁ db₂ → goes db₂ db₃ → goes db₁ db₃

/-- A program over the second of two signatures. -/
def Proc.right {S T : Signature} {α : Type} : Proc T α → Proc (S.sum T) α
  | .done a => .done a
  | .call c next => .call (S := S.sum T) (.inr c) fun reply => (next reply).right

namespace Proc

variable {S : Signature} {α β : Type} (η : Handler S) (ctx : η.Ctx) (R : Rely η.Db)

/-- From a database on, and whatever the others do along `R` before each step: the calls go along `R`, the value
    satisfies `V`, for good, and where a call throws the database satisfies `X`. -/
def Upholds (V : α → η.Db → Prop) (X : η.Db → Prop) : Proc S α → η.Db → Prop
  | .done a, db => ∀ later, R.goes db later → V a later
  | .call c next, db => ∀ later, R.goes db later →
      match η.exec ctx c later with
      | none => X later
      | some (reply, writes) =>
          R.goes later (η.applyAll writes later) ∧ (next reply).Upholds V X (η.applyAll writes later)

variable {η ctx R} {V W : α → η.Db → Prop} {X Y : η.Db → Prop} {db db' : η.Db}

theorem upholds_done {a : α} : (Proc.done a : Proc S α).Upholds η ctx R V X db ↔ ∀ later, R.goes db later → V a later :=
  Iff.rfl

/-- A call is answered, or it throws. -/
theorem Upholds.call {c : S.Call} {next : S.Reply c → Proc S α}
    (answers : ∀ later reply writes, R.goes db later → η.exec ctx c later = some (reply, writes) →
      R.goes later (η.applyAll writes later) ∧ (next reply).Upholds η ctx R V X (η.applyAll writes later))
    (throws : ∀ later, R.goes db later → η.exec ctx c later = none → X later) :
    (Proc.call c next).Upholds η ctx R V X db := by
  intro later grows
  cases answer : η.exec ctx c later with
  | none => exact throws later grows answer
  | some result => exact answers later result.1 result.2 grows answer

/-- What a call that is answered leaves to be done. -/
theorem Upholds.answered {c : S.Call} {next : S.Reply c → Proc S α} (upholds : (Proc.call c next).Upholds η ctx R V X db)
    {reply : S.Reply c} {writes : List η.Write}
    (answer : η.exec ctx c db = some (reply, writes)) :
    R.goes db (η.applyAll writes db) ∧ (next reply).Upholds η ctx R V X (η.applyAll writes db) := by
  have here := upholds db (R.refl db)
  rw [answer] at here
  exact here

/-- What a call that throws leaves behind. -/
theorem Upholds.threw {c : S.Call} {next : S.Reply c → Proc S α} (upholds : (Proc.call c next).Upholds η ctx R V X db)
    (failed : η.exec ctx c db = none) : X db := by
  have here := upholds db (R.refl db)
  rw [failed] at here
  exact here

/-- Nothing is lost while the others go on. -/
theorem Upholds.later {p : Proc S α} (upholds : p.Upholds η ctx R V X db) (grows : R.goes db db') :
    p.Upholds η ctx R V X db' := by
  cases p with
  | done a => exact fun later onwards => upholds later (R.trans grows onwards)
  | call c next => exact fun later onwards => upholds later (R.trans grows onwards)

/-- What is made of the value afterwards makes no call. -/
theorem Upholds.map {W : β → η.Db → Prop} (f : α → β) {p : Proc S α}
    (upholds : p.Upholds η ctx R (fun a => W (f a)) X db) : (f <$> p).Upholds η ctx R W X db := by
  induction p generalizing db with
  | done a => exact upholds
  | call c next ih =>
      rw [map_call]
      intro later grows
      have here := upholds later grows
      split at here
      · exact here
      · exact ⟨here.1, ih _ here.2⟩

/-- Less is known of the value, and more can be thrown at. -/
theorem Upholds.mono {p : Proc S α} (upholds : p.Upholds η ctx R V X db) (value : ∀ a db, V a db → W a db)
    (throws : ∀ db, X db → Y db) : p.Upholds η ctx R W Y db := by
  induction p generalizing db with
  | done a => exact fun later grows => value a later (upholds later grows)
  | call c next ih =>
      intro later grows
      have here := upholds later grows
      split at here
      · exact throws later here
      · exact ⟨here.1, ih _ here.2⟩

end Proc

namespace Config

variable {S : Signature} {Job Out : Type} {η : Handler S} {ctx : Job → η.Ctx} {program : Job → Proc S Out}
  {commits : Out → Bool} (R : Rely η.Db)

/-- What is left of a session upholds `R`, or what it has answered with is so for good. -/
def Holding (V : Out → η.Db → Prop) (X : η.Db → Prop) (s : Session (onTheirOwn η ctx program commits)) (db : η.Db) :
    Prop :=
  match s.status with
  | .running rest => rest.Upholds η (ctx s.job) R V X db
  | .committed out => ∀ later, R.goes db later → V out later
  | .rolledBack out => ∀ later, R.goes db later → V out later
  | .aborted => True

variable {R} {V : Out → η.Db → Prop} {X : η.Db → Prop} {db : η.Db} {i : Nat}
  {s : Session (onTheirOwn η ctx program commits)} {c c' : Config (onTheirOwn η ctx program commits)}
  {m : Move (onTheirOwn η ctx program commits)}
  {history history' : List (Config (onTheirOwn η ctx program commits) × Move (onTheirOwn η ctx program commits))}
  {db₀ : η.Db} {jobs : List Job}

theorem Holding.running (holding : Holding R V X s db) {rest : Proc S Out} (running : s.status = .running rest) :
    rest.Upholds η (ctx s.job) R V X db := by
  unfold Holding at holding
  rw [running] at holding
  exact holding

theorem Holding.committed (holding : Holding R V X s db) {out : Out}
    (committed : s.status = .committed out) : V out db := by
  unfold Holding at holding
  rw [committed] at holding
  exact holding db (R.refl db)

theorem Holding.rolledBack (holding : Holding R V X s db) {out : Out}
    (rolledBack : s.status = .rolledBack out) : V out db := by
  unfold Holding at holding
  rw [rolledBack] at holding
  exact holding db (R.refl db)

/-- Where the next call of a session throws. -/
theorem Holding.throws (holding : Holding R V X s c.db) (found : c.sessions[i]? = some s)
    (throws : c.throws i = true) : X c.db := by
  obtain ⟨k, next, running, failed⟩ := (throws_iff found).mp throws
  exact (holding.running running).threw failed

section Steps

theorem Holding.later (holding : Holding R V X s db) {db' : η.Db} (grows : R.goes db db') : Holding R V X s db' := by
  unfold Holding at holding ⊢
  cases status : s.status with
  | running rest =>
      rw [status] at holding
      exact holding.later grows
  | committed out =>
      rw [status] at holding
      exact fun later onwards => holding later (R.trans grows onwards)
  | rolledBack out =>
      rw [status] at holding
      exact fun later onwards => holding later (R.trans grows onwards)
  | aborted => trivial

/-- Where the session that a step is of upholds `R`, the step goes along it. -/
theorem guarantee_of_step (run : Run step (.start db₀ jobs) history c) (taken : c.step m = some c')
    (upholds : ∀ (i : Nat) (s : Session (onTheirOwn η ctx program commits)), c.sessions[i]? = some s →
      ∃ V X, Holding R V X s c.db) : R.goes c.db c'.db := by
  cases own_of_step run taken with
  | arrive job => exact R.refl c.db
  | call found running answered =>
      obtain ⟨V, X, holding⟩ := upholds _ _ found
      exact ((holding.running running).answered answered).1
  | finish found running => exact R.refl c.db
  | abort found running => exact R.refl c.db

/-- A session keeps to what it has promised. -/
theorem holding_of_step (run : Run step (.start db₀ jobs) history c) (taken : c.step m = some c') (grows : R.goes c.db c'.db)
    (found : c.sessions[i]? = some s) (holding : Holding R V X s c.db) :
    ∃ s', c'.sessions[i]? = some s' ∧ Holding R V X s' c'.db := by
  -- the session a step is of is put in its place again, and the others stay
  have put {j : Nat} {t t' : Session (onTheirOwn η ctx program commits)} {db : η.Db} (at_j : c.sessions[j]? = some t)
      (later : R.goes c.db db) (own : i = j → Holding R V X t' db) :
      ∃ s', ({ c.put j t' with db := db } : Config (onTheirOwn η ctx program commits)).sessions[i]? = some s' ∧
        Holding R V X s' db := by
    by_cases same : i = j
    · exact ⟨t', (getElem?_put at_j t' i).trans (if_pos same), own same⟩
    · exact ⟨s, ((getElem?_put at_j t' i).trans (if_neg same)).trans found, holding.later later⟩
  cases own_of_step run taken with
  | arrive job =>
      have inside := (List.getElem?_eq_some_iff.mp found).1
      exact ⟨s, (List.getElem?_append_left inside).trans found, holding⟩
  | call at_j running answered =>
      refine put at_j grows ?_
      rintro rfl
      cases found.symm.trans at_j
      exact ((holding.running running).answered answered).2
  | @finish j t out at_j running =>
      refine put at_j grows ?_
      rintro rfl
      cases found.symm.trans at_j
      have answer := Proc.upholds_done.mp (holding.running running)
      unfold Holding
      cases commits out with
      | true => exact answer
      | false => exact answer
  | abort at_j running =>
      refine put at_j grows ?_
      rintro rfl
      exact trivial

variable {I : η.Db → Prop} (stable : ∀ {db db'}, I db → R.goes db db' → I db') {V : Job → Out → η.Db → Prop}
  {X : Job → η.Db → Prop} (each : ∀ job db, I db → (program job).Upholds η (ctx job) R (V job) (X job) db)

include stable each in
/-- Programs that uphold `R` take a run along it, and each of them keeps to what it has promised. -/
theorem guarantee_of_run (begins : I db₀) (run : Run step (.start db₀ jobs) history c) :
    R.goes db₀ c.db ∧ ∀ (i : Nat) (s : Session (onTheirOwn η ctx program commits)), c.sessions[i]? = some s →
      Holding R (V s.job) (X s.job) s c.db := by
  induction run with
  | start =>
      refine ⟨R.refl db₀, fun i s found => ?_⟩
      obtain ⟨job, _, rfl⟩ := start_session found
      exact each job db₀ begins
  | @step history c c' m run taken ih =>
      obtain ⟨grown, holding⟩ := ih
      have grows : R.goes c.db c'.db :=
        guarantee_of_step run taken fun i s found => ⟨_, _, holding i s found⟩
      refine ⟨R.trans grown grows, fun i s' found' => ?_⟩
      rcases earlier_of_step taken found' with ⟨s, found, later⟩ | ⟨job, _, _, rfl⟩
      · obtain ⟨t, found'', holds⟩ := holding_of_step run taken grows found (holding i s found)
        cases found'.symm.trans found''
        rw [later.job]
        exact holds
      · exact each job c'.db (stable (stable begins grown) grows)

end Steps

section Later

variable {I J : η.Db → Prop} (stable : ∀ {db db'}, I db → R.goes db db' → I db') {V₀ : Job → Out → η.Db → Prop}
  {X₀ : Job → η.Db → Prop}
  (each : ∀ job db, I db → (program job).Upholds η (ctx job) R (V₀ job) (X₀ job) db) (begins : I db₀)

include stable each begins

/-- From any moment of a run to a later one the database goes along `R`. -/
theorem guarantee_of_later (reached : Run step (.start db₀ jobs) history c) (goesOn : Run step c history' c') :
    R.goes c.db c'.db := by
  induction goesOn with
  | start => exact R.refl c.db
  | step later taken ih =>
      have holding := (guarantee_of_run stable each begins (reached.append later)).2
      exact R.trans ih (guarantee_of_step (reached.append later) taken fun i s found => ⟨_, _, holding i s found⟩)

/-- A session that comes when the database is as it should keeps to what its program promises from there. -/
theorem holding_of_later (reached : Run step (.start db₀ jobs) history c) (goesOn : Run step c history' c')
    (good : J c.db) (lasts : ∀ {db db'}, J db → R.goes db db' → J db')
    (found : c'.sessions[i]? = some s) (comes : c.sessions.length ≤ i)
    (upholds : ∀ db, J db → (program s.job).Upholds η (ctx s.job) R V X db) : Holding R V X s c'.db := by
  induction goesOn generalizing s with
  | start => exact absurd (List.getElem?_eq_some_iff.mp found).1 (Nat.not_lt.mpr comes)
  | @step history' c₁ c₂ m later taken ih =>
      have run := reached.append later
      rcases earlier_of_step taken found with ⟨t, at_i, goes⟩ | ⟨job, _, _, rfl⟩
      · have holding := ih at_i (goes.job ▸ upholds)
        have grows := guarantee_of_later stable each begins run (.step .start taken)
        obtain ⟨s', found', holds⟩ := holding_of_step run taken grows at_i holding
        cases found.symm.trans found'
        exact holds
      · have grows := guarantee_of_later stable each begins reached (.step later taken)
        exact upholds c₂.db (lasts good grows)

end Later

/-- A session that has died did so in some step. -/
theorem died_of_later {A : App} {c c' : Config A} {history : List (Config A × Move A)} (goesOn : Run step c history c')
    {i : Nat} {s : Session A} (found : c'.sessions[i]? = some s) (aborted : s.status = .aborted)
    (comes : c.sessions.length ≤ i) :
    ∃ entry ∈ history, entry.2 = .abort i ∧ ∃ t, entry.1.sessions[i]? = some t ∧ t.job = s.job := by
  induction goesOn generalizing s with
  | start => exact absurd (List.getElem?_eq_some_iff.mp found).1 (Nat.not_lt.mpr comes)
  | @step history c₁ c₂ m later taken ih =>
      have earlier {t : Session A} (at_i : c₁.sessions[i]? = some t) (aborted : t.status = .aborted) (job : t.job = s.job) :
          ∃ entry ∈ history ++ [(c₁, m)], entry.2 = .abort i ∧ ∃ t, entry.1.sessions[i]? = some t ∧ t.job = s.job := by
        obtain ⟨entry, member, isAbort, u, at_u, same⟩ := ih at_i aborted
        exact ⟨entry, List.mem_append_left _ member, isAbort, u, at_u, same.trans job⟩
      -- the session of the step is not the dead one, unless the step is its death
      have others {j : Nat} {t t' : Session A} (at_j : c₁.sessions[j]? = some t) (isPut : (c₁.put j t').sessions[i]? = some s)
          (lives : t'.status ≠ .aborted) :
          ∃ entry ∈ history ++ [(c₁, m)], entry.2 = .abort i ∧ ∃ t, entry.1.sessions[i]? = some t ∧ t.job = s.job := by
        rw [getElem?_put at_j] at isPut
        split at isPut
        · cases isPut
          exact absurd aborted lives
        · exact earlier isPut aborted rfl
      cases step_stepped taken with
      | arrive job =>
          rcases c₁.getElem?_arrive job i found with old | ⟨_, rfl⟩
          · exact earlier old aborted rfl
          · cases aborted
      | call at_j _ _ => exact others at_j found nofun
      | commit at_j _ _ => exact others at_j found nofun
      | rollback at_j _ _ => exact others at_j found nofun
      | @abort j t rest at_j running =>
          rw [getElem?_put at_j] at found
          split at found
          · rename_i same
            subst same
            cases found
            exact ⟨_, List.mem_append_right _ List.mem_cons_self, rfl, t, at_j, rfl⟩
          · exact earlier found aborted rfl

end Config

end Txn
