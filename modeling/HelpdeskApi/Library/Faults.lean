/-
Module: HelpdeskApi.Library.Faults
Layer: Library
Purpose: Programs whose calls may throw. Beside a store a program may call services that keep nothing
  there; once their answers are given (`Proc.resolve`) it is a program over the store alone. `Proc.attempt`
  runs it with a fate for every call it makes: a call may also throw before it has done anything, or after.
Trusted boundary: none
Main exports: Signature.sum, Proc.left, Proc.resolve, Fate, Proc.attempt, Proc.attempt_of_run,
  Proc.run_of_attempt, Proc.attempt_kept, Config.onTheirOwn, Config.own_of_step,
  Config.DiesThrowing, Config.run_attempt
-/
import HelpdeskApi.Library.Handler

namespace Txn

open Transition

/-- The calls of two signatures. -/
@[reducible] def Signature.sum (S T : Signature) : Signature where
  Call := S.Call ⊕ T.Call
  Reply
    | .inl c => S.Reply c
    | .inr c => T.Reply c

/-- A program over the first of two signatures. -/
def Proc.left {S T : Signature} {α : Type} : Proc S α → Proc (S.sum T) α
  | .done a => .done a
  | .call c next => .call (S := S.sum T) (.inl c) fun reply => (next reply).left

/-- What becomes of a call: it answers; it throws, and nothing has come of it; or it throws after what it
    does has taken hold, and its answer is lost. -/
inductive Fate where
  | answers
  | throws
  | lost
deriving DecidableEq, Repr

namespace Proc

variable {S T : Signature} {α : Type}

/-- The program that is left once the services have answered. -/
def resolve (service : (c : T.Call) → T.Reply c) : Proc (S.sum T) α → Proc S α
  | .done a => .done a
  | .call (.inl c) next => .call c fun reply => (next reply).resolve service
  | .call (.inr c) next => (next (service c)).resolve service

variable (η : Handler S) (ctx : η.Ctx) (service : (c : T.Call) → T.Reply c)

/-- Run a program whose store calls are transactions of their own, where `fate n` becomes of its `n`-th
    call: its value, or `none` where a call throws, and the database it leaves. -/
def attempt : Proc (S.sum T) α → (fate : Nat → Fate) → η.Db → Option α × η.Db
  | .done a, _, db => (some a, db)
  | .call (.inl c) next, fate, db =>
      match η.exec ctx c db with
      | none => (none, db)
      | some (reply, writes) =>
          match fate 0 with
          | .answers => (next reply).attempt (fun n => fate (n + 1)) (η.applyAll writes db)
          | .throws => (none, db)
          | .lost => (none, η.applyAll writes db)
  | .call (.inr c) next, fate, db =>
      match fate 0 with
      | .answers => (next (service c)).attempt (fun n => fate (n + 1)) db
      | _ => (none, db)

variable {η ctx service} {fate : Nat → Fate} {db : η.Db}

/-- A call of the store that the store itself does not fail. -/
theorem attempt_store {c : S.Call} {next : S.Reply c → Proc (S.sum T) α} {reply : S.Reply c}
    {writes : List η.Write} (answered : η.exec ctx c db = some (reply, writes)) :
    (Proc.call (S := S.sum T) (.inl c) next).attempt η ctx service fate db =
      match fate 0 with
      | .answers => (next reply).attempt η ctx service (fun n => fate (n + 1)) (η.applyAll writes db)
      | .throws => (none, db)
      | .lost => (none, η.applyAll writes db) := by
  simp only [attempt, answered]

theorem attempt_store_failed {c : S.Call} {next : S.Reply c → Proc (S.sum T) α}
    (failed : η.exec ctx c db = none) :
    (Proc.call (S := S.sum T) (.inl c) next).attempt η ctx service fate db = (none, db) := by
  simp only [attempt, failed]

/-- A call of a service keeps nothing in the store. -/
theorem attempt_service {c : T.Call} {next : T.Reply c → Proc (S.sum T) α} :
    (Proc.call (S := S.sum T) (.inr c) next).attempt η ctx service fate db =
      if fate 0 = .answers then (next (service c)).attempt η ctx service (fun n => fate (n + 1)) db
      else (none, db) := by
  rw [attempt]
  cases fate 0 <;> rfl

@[simp] theorem resolve_map {β : Type} (f : α → β) (p : Proc (S.sum T) α) :
    (f <$> p).resolve service = f <$> p.resolve service := by
  induction p with
  | done a => rfl
  | call c next ih =>
      cases c with
      | inl c =>
          rw [map_call, resolve, resolve, map_call]
          exact congrArg (Proc.call c) (funext ih)
      | inr c =>
          rw [map_call, resolve, resolve]
          exact ih (service c)

/-- What is made of the value afterwards makes no call. -/
theorem attempt_map {β : Type} (f : α → β) (p : Proc (S.sum T) α) :
    (f <$> p).attempt η ctx service fate db =
      ((p.attempt η ctx service fate db).1.map f, (p.attempt η ctx service fate db).2) := by
  induction p generalizing fate db with
  | done a => rfl
  | call c next ih =>
      rw [map_call]
      cases c with
      | inl c =>
          cases answered : η.exec ctx c db with
          | none =>
              rw [attempt_store_failed answered, attempt_store_failed answered]
              rfl
          | some result =>
              rw [attempt_store answered, attempt_store answered]
              cases fate 0 with
              | answers => exact ih _
              | throws => rfl
              | lost => rfl
      | inr c =>
          rw [attempt_service, attempt_service]
          by_cases answers : fate 0 = .answers
          · rw [if_pos answers, if_pos answers]
            exact ih _
          · rw [if_neg answers, if_neg answers]
            rfl

/-- Where every call answers, an attempt is a run. -/
theorem attempt_of_run {p : Proc (S.sum T) α} {a : α} {db' : η.Db} (answers : ∀ n, fate n = .answers)
    (ran : (p.resolve service).run η ctx db = some (a, db')) :
    p.attempt η ctx service fate db = (some a, db') := by
  induction p generalizing fate db with
  | done b =>
      cases ran
      rfl
  | call c next ih =>
      cases c with
      | inl c =>
          rw [resolve] at ran
          cases answered : η.exec ctx c db with
          | none =>
              rw [run_call_failed answered] at ran
              cases ran
          | some result =>
              rw [run_call answered] at ran
              rw [attempt_store answered, answers 0]
              exact ih _ (fun n => answers (n + 1)) ran
      | inr c =>
          rw [resolve] at ran
          rw [attempt_service, if_pos (answers 0)]
          exact ih _ (fun n => answers (n + 1)) ran

/-- An attempt that comes to its end is a run, whatever might have become of its calls. -/
theorem run_of_attempt {p : Proc (S.sum T) α} {a : α} {db' : η.Db}
    (ended : p.attempt η ctx service fate db = (some a, db')) :
    (p.resolve service).run η ctx db = some (a, db') := by
  induction p generalizing fate db with
  | done b =>
      cases ended
      rfl
  | call c next ih =>
      cases c with
      | inl c =>
          rw [resolve]
          cases answered : η.exec ctx c db with
          | none =>
              rw [attempt_store_failed answered] at ended
              cases ended
          | some result =>
              rw [attempt_store answered] at ended
              rw [run_call answered]
              split at ended
              · exact ih _ ended
              · cases ended
              · cases ended
      | inr c =>
          rw [resolve]
          rw [attempt_service] at ended
          split at ended
          · exact ih _ ended
          · cases ended

/-- What every permitted call leaves as it is, an attempt of a program that makes no other leaves as it is. -/
theorem attempt_kept {R : η.Db → η.Db → Prop} {P : S.Call → Prop} {V : α → Prop} (refl : ∀ db, R db db)
    (trans : ∀ {db₁ db₂ db₃}, R db₁ db₂ → R db₂ db₃ → R db₁ db₃)
    (each : ∀ c, P c → ∀ db reply writes, η.exec ctx c db = some (reply, writes) → R db (η.applyAll writes db))
    {p : Proc (S.sum T) α} (within : p.Within (Sum.elim P fun _ => True) V) :
    R db (p.attempt η ctx service fate db).2 := by
  induction p generalizing fate db with
  | done a => exact refl db
  | call c next ih =>
      obtain ⟨permitted, rest⟩ := within
      cases c with
      | inl c =>
          cases answered : η.exec ctx c db with
          | none =>
              rw [attempt_store_failed answered]
              exact refl db
          | some result =>
              obtain ⟨reply, writes⟩ := result
              have effect := each c permitted db reply writes answered
              rw [attempt_store answered]
              split
              · exact trans effect (ih reply (rest reply))
              · exact refl db
              · exact effect
      | inr c =>
          rw [attempt_service]
          split
          · exact ih _ (rest _)
          · exact refl db

/-- What every value of a program satisfies, the value of an attempt satisfies. -/
theorem attempt_result {P : (S.sum T).Call → Prop} {V : α → Prop} {p : Proc (S.sum T) α} (within : p.Within P V)
    {a : α} {db' : η.Db} (ended : p.attempt η ctx service fate db = (some a, db')) : V a := by
  induction p generalizing fate db with
  | done b =>
      cases ended
      exact within
  | call c next ih =>
      cases c with
      | inl c =>
          cases answered : η.exec ctx c db with
          | none =>
              rw [attempt_store_failed answered] at ended
              cases ended
          | some result =>
              rw [attempt_store answered] at ended
              split at ended
              · exact ih _ (within.2 _) ended
              · cases ended
              · cases ended
      | inr c =>
          rw [attempt_service] at ended
          split at ended
          · exact ih _ (within.2 _) ended
          · cases ended

end Proc

namespace Config

variable {S T : Signature} {Job Out : Type} {η : Handler S} {ctx : Job → η.Ctx} {program : Job → Proc S Out}
  {commits : Out → Bool}

/-- The application whose calls are transactions of their own. -/
abbrev onTheirOwn (η : Handler S) (ctx : Job → η.Ctx) (program : Job → Proc S Out) (commits : Out → Bool) :
    App where
  sig := S
  store := η.autocommit
  Job := Job
  Out := Out
  ctx := ctx
  program := program
  commits := commits

section OwnCalls

variable {db₀ : η.Db} {jobs : List Job} {c c' : Config (onTheirOwn η ctx program commits)}
  {history : List (Config (onTheirOwn η ctx program commits) × Move (onTheirOwn η ctx program commits))}
  {m : Move (onTheirOwn η ctx program commits)}

/-- Every call sees the database as it is. -/
theorem view_onTheirOwn (run : Run step (.start db₀ jobs) history c) {i : Nat}
    {s : Session (onTheirOwn η ctx program commits)} (found : c.sessions[i]? = some s) : s.view c.db = c.db := by
  have nothing : η.autocommit.pending s.trace = [] := by
    refine trace_of_run (A := onTheirOwn η ctx program commits) (I := fun _ trace => η.autocommit.pending trace = [])
      (fun _ => rfl) (fun job trace e produced now => ?_) run found
    obtain ⟨_, db, member⟩ := produced
    rw [Store.pending_append, now, (η.mem_onItsOwn.mp member).2.1]
    rfl
  unfold Session.view
  rw [nothing]
  rfl

/-- Everything a move can do where calls are transactions of their own: only a call changes the database. -/
inductive OwnStepped (c : Config (onTheirOwn η ctx program commits)) :
    Move (onTheirOwn η ctx program commits) → Config (onTheirOwn η ctx program commits) → Prop where
  | arrive (job : Job) : OwnStepped c (.arrive job) { c with sessions := c.sessions ++ [.start job] }
  | call {i choice : Nat} {s : Session (onTheirOwn η ctx program commits)} {k : S.Call} {next : S.Reply k → Proc S Out}
      {o : Outcome S η.Write η.Key k} (found : c.sessions[i]? = some s) (running : s.status = .running (.call k next))
      (answered : η.exec (ctx s.job) k c.db = some (o.reply, o.effects)) :
      OwnStepped c (.call i choice) { c.put i (s.advance ⟨k, o⟩ (next o.reply)) with db := η.applyAll o.effects c.db }
  | finish {i : Nat} {s : Session (onTheirOwn η ctx program commits)} {out : Out} (found : c.sessions[i]? = some s)
      (running : s.status = .running (.done out)) :
      OwnStepped c (.finish i)
        (c.put i { s with status := if commits out then .committed out else .rolledBack out })
  | abort {i : Nat} {s : Session (onTheirOwn η ctx program commits)} {rest : Proc S Out}
      (found : c.sessions[i]? = some s) (running : s.status = .running rest) :
      OwnStepped c (.abort i) (c.put i { s with status := .aborted })

theorem own_of_step (run : Run step (.start db₀ jobs) history c) (taken : c.step m = some c') : OwnStepped c m c' := by
  cases step_stepped taken with
  | arrive job => exact .arrive job
  | @call i choice s k next o found running answer =>
      obtain ⟨answered, _, _⟩ := η.mem_onItsOwn.mp (List.mem_of_getElem? answer)
      rw [view_onTheirOwn run found] at answered
      exact .call found running answered
  | @commit i s out found running wanted =>
      rw [view_onTheirOwn run found]
      have ends := OwnStepped.finish found running
      rw [if_pos wanted] at ends
      exact ends
  | @rollback i s out found running unwanted =>
      have ends := OwnStepped.finish found running
      rw [if_neg (ne_true_of_eq_false unwanted)] at ends
      exact ends
  | abort found running => exact .abort found running

/-- The next call of a session throws. -/
def throws (c : Config (onTheirOwn η ctx program commits)) (i : Nat) : Bool :=
  match c.sessions[i]? with
  | some s =>
      match s.status with
      | .running (.call k _) => (η.exec (ctx s.job) k c.db).isNone
      | _ => false
  | none => false

theorem throws_iff {i : Nat} {s : Session (onTheirOwn η ctx program commits)} (found : c.sessions[i]? = some s) :
    c.throws i = true ↔ ∃ k next, s.status = .running (.call k next) ∧ η.exec (ctx s.job) k c.db = none := by
  unfold throws
  rw [found]
  cases status : s.status with
  | running rest =>
      cases rest with
      | done out => simp [status]
      | call k next =>
          simp only [status, Option.isNone_iff_eq_none]
          constructor
          · intro failed
            exact ⟨k, next, rfl, failed⟩
          · rintro ⟨k', next', same, failed⟩
            cases same
            exact failed
  | committed out => simp [status]
  | rolledBack out => simp [status]
  | aborted => simp [status]

/-- A session dies only of a call that throws. -/
def DiesThrowing (c : Config (onTheirOwn η ctx program commits)) (m : Move (onTheirOwn η ctx program commits)) :
    Prop :=
  ∀ i, m = .abort i → c.throws i = true

end OwnCalls

variable {service : (c : T.Call) → T.Reply c} {c : Config (onTheirOwn η ctx program commits)} {i : Nat}
  {s : Session (onTheirOwn η ctx program commits)}

/-- In the interleaved system an attempt is a session that makes its calls with nobody coming in between:
    it has got to its end, or it dies where a call has thrown. -/
theorem run_attempt {p : Proc (S.sum T) Out} (found : c.sessions[i]? = some s)
    (running : s.status = .running (p.resolve service)) (nothing : η.autocommit.pending s.trace = [])
    (fate : Nat → Fate) :
    ∃ history c' s', Run step c history c' ∧ c'.sessions[i]? = some s' ∧ s'.job = s.job ∧
      c'.db = (p.attempt η (ctx s.job) service fate c.db).2 ∧
      s'.status = (p.attempt η (ctx s.job) service fate c.db).1.elim .aborted fun out => .running (.done out) := by
  have dies : ∀ {c : Config (onTheirOwn η ctx program commits)} {s : Session (onTheirOwn η ctx program commits)}
      {rest : Proc S Out}, c.sessions[i]? = some s → s.status = .running rest →
      ∃ history c' s', Run step c history c' ∧ c'.sessions[i]? = some s' ∧ s'.job = s.job ∧
        c'.db = c.db ∧ s'.status = .aborted := by
    intro c s rest found running
    refine ⟨_, _, { s with status := .aborted }, .cons (Stepped.abort found running).step .start, ?_, rfl, rfl, rfl⟩
    exact (getElem?_put found _ i).trans (if_pos rfl)
  induction p generalizing c s fate with
  | done out => exact ⟨[], c, s, .start, found, rfl, rfl, running⟩
  | call k next ih =>
      cases k with
      | inr k =>
          rw [Proc.attempt]
          cases becomes : fate 0 with
          | answers => exact ih _ found running nothing _
          | throws => exact dies found running
          | lost => exact dies found running
      | inl k =>
          cases answered : η.exec (ctx s.job) k c.db with
          | none =>
              rw [Proc.attempt_store_failed answered]
              exact dies found running
          | some result =>
              obtain ⟨reply, writes⟩ := result
              rw [Proc.attempt_store answered]
              let o : Outcome S η.Write η.Key k := { reply := reply, writes := [], effects := writes, locks := [] }
              let next' : Session (onTheirOwn η ctx program commits) :=
                s.advance ⟨k, o⟩ ((next reply).resolve service)
              have seen : s.view c.db = c.db := by
                rw [Session.view, nothing]
                rfl
              have answer : η.onItsOwn (ctx s.job) k (s.view c.db) = [o] := by
                rw [seen, Handler.onItsOwn, answered]
              have asks : s.status = .running (.call k fun reply => (next reply).resolve service) := running
              have called : c.step (.call i 0) = some { c.put i next' with db := η.applyAll writes c.db } :=
                (Stepped.call (o := o) found asks (congrArg (·[0]?) answer)).step
              have found' : ({ c.put i next' with db := η.applyAll writes c.db } :
                  Config (onTheirOwn η ctx program commits)).sessions[i]? = some next' :=
                (getElem?_put found _ i).trans (if_pos rfl)
              have nothing' : η.autocommit.pending next'.trace = [] := by
                rw [Session.advance_trace, Store.pending_append, nothing]
                rfl
              cases becomes : fate 0 with
              | throws => exact dies found running
              | answers =>
                  obtain ⟨history, c', s', run, rest⟩ :=
                    ih reply found' rfl nothing' fun n => fate (n + 1)
                  exact ⟨_, c', s', .cons called run, rest⟩
              | lost =>
                  obtain ⟨history, c', s', run, rest⟩ := dies found' rfl
                  exact ⟨_, c', s', .cons called run, rest⟩

end Config

end Txn
