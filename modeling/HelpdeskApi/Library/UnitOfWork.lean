/-
Module: HelpdeskApi.Library.UnitOfWork
Layer: Library
Purpose: Code with exceptions that runs in an asynchronous context and talks to a database through
  interactive transactions. A transaction hands its client to a callback, commits all that was written
  through the client when the callback returns, and nothing when it throws. Which transaction a piece of
  code belongs to is part of its context. Any step can throw.
Trusted boundary: none
Main exports: OpenTx, World, Async, Faults, Async.transaction, Async.query, Async.Confined, Async.Ran,
  Async.transaction_ok, Async.transaction_error
-/
import HelpdeskApi.Library.Handler

namespace Txn

variable {S : Signature}

/-- A transaction that is open: the settings it runs under and what was written through its client. -/
structure OpenTx (η : Handler S) where
  ctx : η.Ctx
  writes : List η.Write

/-- The committed database, the transactions that are open, the innermost last, and how many steps were
    made. -/
structure World (η : Handler S) where
  db : η.Db
  opened : List (OpenTx η)
  steps : Nat

/-- What goes wrong: what the `n`-th step throws, with what it has written by then, and what is thrown for a
    statement the database refuses. -/
structure Faults (η : Handler S) (Exn : Type) where
  thrown : Nat → Option (Exn × List η.Write)
  refused : S.Call → Exn

/-- The same faults, with what is thrown wrapped up. -/
def Faults.map {η : Handler S} {Exn Exn' : Type} (f : Exn → Exn') (faults : Faults η Exn) : Faults η Exn' where
  thrown n := (faults.thrown n).map fun fault => (f fault.1, fault.2)
  refused c := f (faults.refused c)

/-- Code that runs in some transaction or in none, and returns or throws. A transaction is known by its
    place among the open ones. -/
def Async (η : Handler S) (Exn α : Type) : Type :=
  Option Nat → World η → Except Exn α × World η

namespace World

variable {η : Handler S}

/-- A world in which nothing is open. -/
def idle (db : η.Db) (steps : Nat) : World η where
  db := db
  opened := []
  steps := steps

/-- One more step was made. -/
def tick (w : World η) : World η :=
  { w with steps := w.steps + 1 }

/-- Something was written through the client of a transaction. -/
def record (w : World η) (tx : Nat) (writes : List η.Write) : World η :=
  { w with opened := w.opened.modify tx fun t => { t with writes := t.writes ++ writes } }

/-- A transaction has committed. -/
def commit (w : World η) (tx : Nat) : World η :=
  { w with
    db := (w.opened[tx]?).elim w.db fun t => η.applyAll t.writes w.db
    opened := w.opened.take tx }

/-- A transaction has rolled back. -/
def rollback (w : World η) (tx : Nat) : World η :=
  { w with opened := w.opened.take tx }

end World

namespace Async

variable {η : Handler S} {Exn α β : Type}

/-- Run `p`, then the code its value selects, unless it throws. -/
protected def bind (p : Async η Exn α) (f : α → Async η Exn β) : Async η Exn β := fun tx w =>
  match p tx w with
  | (.ok a, w') => f a tx w'
  | (.error e, w') => (.error e, w')

/-- Run `p`, and then the handler if it throws. -/
protected def tryCatch (p : Async η Exn α) (handle : Exn → Async η Exn α) : Async η Exn α := fun tx w =>
  match p tx w with
  | (.ok a, w') => (.ok a, w')
  | (.error e, w') => handle e tx w'

instance : Monad (Async η Exn) where
  pure a := fun _ w => (.ok a, w)
  bind := Async.bind

instance : MonadExceptOf Exn (Async η Exn) where
  throw e := fun _ w => (.error e, w)
  tryCatch := Async.tryCatch

/-- The transaction the code is in. -/
def active : Async η Exn (Option Nat) :=
  fun tx w => (.ok tx, w)

/-- Run code in a transaction. -/
def within (tx : Nat) (p : Async η Exn α) : Async η Exn α :=
  fun _ w => p (some tx) w

/-- An interactive transaction. -/
def transaction (ctx : η.Ctx) (fn : Nat → Async η Exn α) : Async η Exn α := fun current w =>
  let tx := w.opened.length
  match fn tx current { w with opened := w.opened ++ [{ ctx := ctx, writes := [] }] } with
  | (.ok a, w') => (.ok a, w'.commit tx)
  | (.error e, w') => (.error e, w'.rollback tx)

/-- A step that does not touch the database. -/
def point (faults : Faults η Exn) : Async η Exn Unit := fun _ w =>
  match faults.thrown w.steps with
  | some (e, _) => (.error e, w.tick)
  | none => (.ok (), w.tick)

/-- A statement that changes the settings of a transaction. -/
def configure (faults : Faults η Exn) (tx : Nat) (f : η.Ctx → η.Ctx) : Async η Exn Unit := fun _ w =>
  match faults.thrown w.steps with
  | some (e, _) => (.error e, w.tick)
  | none => (.ok (), { w.tick with opened := w.opened.modify tx fun t => { t with ctx := f t.ctx } })

/-- A call through the client of a transaction. The transaction sees what it has written, and a call that
    throws may have written something. -/
def query (faults : Faults η Exn) (tx : Nat) (c : S.Call) : Async η Exn (S.Reply c) := fun _ w =>
  match w.opened[tx]? with
  | none => (.error (faults.refused c), w.tick)
  | some t =>
      match faults.thrown w.steps with
      | some (e, writes) => (.error e, (w.record tx writes).tick)
      | none =>
          match η.exec t.ctx c (η.applyAll t.writes w.db) with
          | none => (.error (faults.refused c), w.tick)
          | some (reply, writes) => (.ok reply, (w.record tx writes).tick)

section Equations

variable {p : Async η Exn α} {f : α → Async η Exn β} {tx : Option Nat} {w w' : World η}

@[simp] theorem run_pure (a : α) : (pure a : Async η Exn α) tx w = (.ok a, w) := rfl

@[simp] theorem run_throw (e : Exn) : (throw e : Async η Exn α) tx w = (.error e, w) := rfl

@[simp] theorem run_active : (active : Async η Exn (Option Nat)) tx w = (.ok tx, w) := rfl

@[simp] theorem run_within (tx' : Nat) : (within tx' p) tx w = p (some tx') w := rfl

/-- After a step that returns comes the next one. -/
theorem run_bind_ok {a : α} (ran : p tx w = (.ok a, w')) : (p >>= f) tx w = f a tx w' := by
  change Async.bind p f tx w = _
  simp only [Async.bind, ran]

/-- A step that throws ends the code. -/
theorem run_bind_error {e : Exn} (ran : p tx w = (.error e, w')) : (p >>= f) tx w = (.error e, w') := by
  change Async.bind p f tx w = _
  simp only [Async.bind, ran]

/-- What has returned has returned at every step. -/
theorem of_run_bind_ok {b : β} {w'' : World η} (ran : (p >>= f) tx w = (.ok b, w'')) :
    ∃ a w', p tx w = (.ok a, w') ∧ f a tx w' = (.ok b, w'') := by
  cases first : p tx w with
  | mk result w' =>
      cases result with
      | error e =>
          rw [run_bind_error first] at ran
          cases ran
      | ok a =>
          rw [run_bind_ok first] at ran
          exact ⟨a, w', rfl, ran⟩

theorem run_tryCatch_ok {handle : Exn → Async η Exn α} {a : α} (ran : p tx w = (.ok a, w')) :
    (tryCatch p handle) tx w = (.ok a, w') := by
  change Async.tryCatch p handle tx w = _
  simp only [Async.tryCatch, ran]

/-- What is thrown goes to the handler. -/
theorem run_tryCatch_error {handle : Exn → Async η Exn α} {e : Exn} (ran : p tx w = (.error e, w')) :
    (tryCatch p handle) tx w = handle e tx w' := by
  change Async.tryCatch p handle tx w = _
  simp only [Async.tryCatch, ran]

theorem run_point {faults : Faults η Exn} (quiet : faults.thrown w.steps = none) :
    point faults tx w = (.ok (), w.tick) := by
  simp only [point, quiet]

theorem run_point_thrown {faults : Faults η Exn} {e : Exn} {writes : List η.Write}
    (fault : faults.thrown w.steps = some (e, writes)) : point faults tx w = (.error e, w.tick) := by
  simp only [point, fault]

end Equations

/-- Code that, run in the only open transaction, does nothing but write through its client. -/
def Confined (p : Async η Exn α) : Prop :=
  ∀ (w : World η) (t : OpenTx η), w.opened = [t] →
    (p (some 0) w).2.db = w.db ∧ ∃ more, (p (some 0) w).2.opened = [{ t with writes := t.writes ++ more }]

section Confined

theorem confined_pure (a : α) : Confined (pure a : Async η Exn α) := by
  intro w t alone
  exact ⟨rfl, [], by simpa using alone⟩

theorem confined_throw (e : Exn) : Confined (throw e : Async η Exn α) := by
  intro w t alone
  exact ⟨rfl, [], by simpa using alone⟩

theorem Confined.bind {p : Async η Exn α} {f : α → Async η Exn β} (first : Confined p)
    (rest : ∀ a, Confined (f a)) : Confined (p >>= f) := by
  intro w t alone
  obtain ⟨sameDb, more, written⟩ := first w t alone
  cases ran : p (some 0) w with
  | mk result w' =>
      rw [ran] at sameDb written
      cases result with
      | error e =>
          rw [run_bind_error ran]
          exact ⟨sameDb, more, written⟩
      | ok a =>
          rw [run_bind_ok ran]
          obtain ⟨sameDb', more', written'⟩ := rest a w' _ written
          exact ⟨sameDb'.trans sameDb, more ++ more', by simpa using written'⟩

theorem confined_point (faults : Faults η Exn) : Confined (point faults) := by
  intro w t alone
  unfold point
  split
  · exact ⟨rfl, [], by simpa [World.tick] using alone⟩
  · exact ⟨rfl, [], by simpa [World.tick] using alone⟩

theorem confined_query (faults : Faults η Exn) (c : S.Call) : Confined (query faults 0 c) := by
  intro w t alone
  have recorded (writes : List η.Write) :
      (w.record 0 writes).tick.opened = [{ t with writes := t.writes ++ writes }] := by
    simp [World.record, World.tick, alone]
  have ticked : w.tick.opened = [{ t with writes := t.writes ++ [] }] := by
    simpa [World.tick] using alone
  unfold query
  split
  · exact ⟨rfl, [], ticked⟩
  · split
    · exact ⟨rfl, _, recorded _⟩
    · split
      · exact ⟨rfl, [], ticked⟩
      · exact ⟨rfl, _, recorded _⟩

end Confined

/-- Code that, run in the first open transaction, throws only what satisfies `P`. -/
def Throws (P : Exn → Prop) (p : Async η Exn α) : Prop :=
  ∀ (w : World η) e w', p (some 0) w = (.error e, w') → P e

section Throws

variable {P : Exn → Prop}

theorem throws_pure (a : α) : Throws P (pure a : Async η Exn α) := by
  intro w e w' thrown
  cases thrown

theorem throws_throw {e : Exn} (permitted : P e) : Throws P (throw e : Async η Exn α) := by
  intro w e' w' thrown
  cases thrown
  exact permitted

theorem Throws.bind {p : Async η Exn α} {f : α → Async η Exn β} (first : Throws P p)
    (rest : ∀ a, Throws P (f a)) : Throws P (p >>= f) := by
  intro w e w' thrown
  cases ran : p (some 0) w with
  | mk result w₁ =>
      cases result with
      | error e₁ =>
          rw [run_bind_error ran] at thrown
          cases thrown
          exact first w e w' ran
      | ok a =>
          rw [run_bind_ok ran] at thrown
          exact rest a w₁ e w' thrown

theorem throws_point {faults : Faults η Exn} (thrown : ∀ n fault, faults.thrown n = some fault → P fault.1) :
    Throws P (point faults) := by
  intro w e w' failed
  unfold point at failed
  split at failed
  · rename_i fault
    cases failed
    exact thrown _ _ fault
  · cases failed

theorem throws_query {faults : Faults η Exn} (thrown : ∀ n fault, faults.thrown n = some fault → P fault.1)
    (c : S.Call) (refused : P (faults.refused c)) : Throws P (query faults 0 c) := by
  intro w e w' failed
  unfold query at failed
  split at failed
  · cases failed
    exact refused
  · split at failed
    · rename_i fault
      cases failed
      exact thrown _ _ fault
    · split at failed
      · cases failed
        exact refused
      · cases failed

end Throws

/-- Run in a transaction of its own that has just begun, the code ends this way, with these writes. -/
def Ran (p : Async η Exn α) (ctx : η.Ctx) (db : η.Db) (steps : Nat) (result : Except Exn α)
    (writes : List η.Write) (steps' : Nat) : Prop :=
  p (some 0) ⟨db, [⟨ctx, []⟩], steps⟩ = (result, ⟨db, [⟨ctx, writes⟩], steps'⟩)

section Transaction

variable {p : Async η Exn α} {ctx : η.Ctx} {db : η.Db} {steps steps' : Nat} {writes : List η.Write}
  {current : Option Nat}

theorem Confined.ran (confined : Confined p) (ctx : η.Ctx) (db : η.Db) (steps : Nat) :
    ∃ result writes steps', Ran p ctx db steps result writes steps' := by
  obtain ⟨sameDb, more, written⟩ := confined ⟨db, [⟨ctx, []⟩], steps⟩ _ rfl
  cases ran : p (some 0) ⟨db, [⟨ctx, []⟩], steps⟩ with
  | mk result w =>
      obtain ⟨db', opened, steps'⟩ := w
      rw [ran] at sameDb written
      cases sameDb
      cases written
      exact ⟨result, more, steps', ran⟩

/-- A transaction whose settings cannot be made is over before its code has begun. -/
theorem transaction_unopened {faults : Faults η Exn} {f : η.Ctx → η.Ctx} {e : Exn}
    (fault : faults.thrown steps = some (e, writes)) :
    (transaction ctx fun tx => configure faults tx f >>= fun _ => within tx p) current (.idle db steps) =
      (.error e, .idle db (steps + 1)) := by
  have configured : configure faults 0 f current ⟨db, [⟨ctx, []⟩], steps⟩ =
      (.error e, ⟨db, [⟨ctx, []⟩], steps + 1⟩) := by
    simp [configure, fault, World.tick]
  have ran := run_bind_error (f := fun _ => within 0 p) configured
  simp only [transaction, World.idle, List.length_nil, List.nil_append]
  rw [ran]
  rfl

/-- A transaction around code that ran well commits all that the code has written. -/
theorem transaction_ok {faults : Faults η Exn} {f : η.Ctx → η.Ctx} {a : α} (quiet : faults.thrown steps = none)
    (ran : Ran p (f ctx) db (steps + 1) (.ok a) writes steps') :
    (transaction ctx fun tx => configure faults tx f >>= fun _ => within tx p) current (.idle db steps) =
      (.ok a, .idle (η.applyAll writes db) steps') := by
  have configured : configure faults 0 f current ⟨db, [⟨ctx, []⟩], steps⟩ =
      (.ok (), ⟨db, [⟨f ctx, []⟩], steps + 1⟩) := by
    simp [configure, quiet, World.tick]
  have whole := (run_bind_ok (f := fun _ => within 0 p) configured).trans ran
  simp only [transaction, World.idle, List.length_nil, List.nil_append]
  rw [whole]
  rfl

/-- A transaction around code that threw commits nothing and throws the same. -/
theorem transaction_error {faults : Faults η Exn} {f : η.Ctx → η.Ctx} {e : Exn}
    (quiet : faults.thrown steps = none) (ran : Ran p (f ctx) db (steps + 1) (.error e) writes steps') :
    (transaction ctx fun tx => configure faults tx f >>= fun _ => within tx p) current (.idle db steps) =
      (.error e, .idle db steps') := by
  have configured : configure faults 0 f current ⟨db, [⟨ctx, []⟩], steps⟩ =
      (.ok (), ⟨db, [⟨f ctx, []⟩], steps + 1⟩) := by
    simp [configure, quiet, World.tick]
  have whole := (run_bind_ok (f := fun _ => within 0 p) configured).trans ran
  simp only [transaction, World.idle, List.length_nil, List.nil_append]
  rw [whole]
  rfl

end Transaction

end Async

end Txn
