/-
Module: HelpdeskApi.Library.Handler
Layer: Library
Purpose: Stores given by a deterministic handler, which computes the reply and the writes of a call from
  the database or fails. A handler gives two stores: one where a program is a transaction (`transactional`:
  writes wait for the commit, a call waits for the keys it wants) and one where every call is its own
  transaction (`autocommit`). It also runs a program in one piece (`Proc.run`).
Trusted boundary: none
Main exports: Handler, Handler.transactional, Handler.autocommit, Proc.run,
  Handler.careful_transactional, Handler.locked_eq_of_run
-/
import HelpdeskApi.Library.CommitLog

namespace Txn

/-- A deterministic store: `exec` is what a call does, `none` where it fails; `wants` are the keys
    nobody else may hold when a call runs and `keys` the ones a write locks. -/
structure Handler (S : Signature) where
  Db : Type
  Ctx : Type
  Write : Type
  Key : Type
  [decKey : DecidableEq Key]
  apply : Write → Db → Db
  exec : Ctx → (c : S.Call) → Db → Option (S.Reply c × List Write)
  wants : S.Call → Db → List Key
  keys : Write → List Key

namespace Handler

variable {S : Signature} (η : Handler S)

instance : DecidableEq η.Key := η.decKey

/-- Apply writes in order. -/
def applyAll (writes : List η.Write) (db : η.Db) : η.Db :=
  writes.foldl (fun db w => η.apply w db) db

@[simp] theorem applyAll_nil (db : η.Db) : η.applyAll [] db = db := rfl

@[simp] theorem applyAll_cons (w : η.Write) (writes : List η.Write) (db : η.Db) :
    η.applyAll (w :: writes) db = η.applyAll writes (η.apply w db) := rfl

@[simp] theorem applyAll_append (ws vs : List η.Write) (db : η.Db) :
    η.applyAll (ws ++ vs) db = η.applyAll vs (η.applyAll ws db) :=
  List.foldl_append

/-- How a call of a transaction comes out: not at all while a key it wants is held elsewhere or where it
    fails, and otherwise with writes that stay pending and keep their keys locked. -/
def inTransaction (ctx : η.Ctx) (held : η.Key → Bool) (c : S.Call) (db : η.Db) :
    List (Outcome S η.Write η.Key c) :=
  if (η.wants c db).any held then []
  else
    match η.exec ctx c db with
    | none => []
    | some (reply, writes) =>
        [{ reply := reply, writes := writes, effects := [], locks := writes.flatMap η.keys }]

/-- How a call comes out when it is a transaction of its own: its writes take hold at once. -/
def onItsOwn (ctx : η.Ctx) (c : S.Call) (db : η.Db) : List (Outcome S η.Write η.Key c) :=
  match η.exec ctx c db with
  | none => []
  | some (reply, writes) => [{ reply := reply, writes := [], effects := writes, locks := [] }]

theorem mem_inTransaction {ctx : η.Ctx} {held : η.Key → Bool} {c : S.Call} {db : η.Db}
    {o : Outcome S η.Write η.Key c} :
    o ∈ η.inTransaction ctx held c db ↔
      (∀ k ∈ η.wants c db, held k = false) ∧ η.exec ctx c db = some (o.reply, o.writes) ∧
        o.effects = [] ∧ o.locks = o.writes.flatMap η.keys := by
  simp only [inTransaction]
  by_cases blocked : (η.wants c db).any held = true
  · rw [if_pos blocked]
    obtain ⟨k, wanted, taken⟩ := List.any_eq_true.mp blocked
    constructor
    · intro member
      cases member
    · rintro ⟨free, _⟩
      simp [free k wanted] at taken
  · rw [if_neg blocked]
    have free : ∀ k ∈ η.wants c db, held k = false := by simpa using blocked
    cases result : η.exec ctx c db with
    | none => simp
    | some pair =>
        obtain ⟨reply, writes⟩ := pair
        obtain ⟨reply', writes', effects', locks'⟩ := o
        simp only [List.mem_singleton, Outcome.mk.injEq, Option.some.injEq, Prod.mk.injEq]
        constructor
        · rintro ⟨rfl, rfl, rfl, rfl⟩
          exact ⟨free, ⟨rfl, rfl⟩, rfl, rfl⟩
        · rintro ⟨_, ⟨rfl, rfl⟩, rfl, rfl⟩
          exact ⟨rfl, rfl, rfl, rfl⟩

theorem mem_onItsOwn {ctx : η.Ctx} {c : S.Call} {db : η.Db} {o : Outcome S η.Write η.Key c} :
    o ∈ η.onItsOwn ctx c db ↔
      η.exec ctx c db = some (o.reply, o.effects) ∧ o.writes = [] ∧ o.locks = [] := by
  simp only [onItsOwn]
  cases result : η.exec ctx c db with
  | none => simp
  | some pair =>
      obtain ⟨reply, writes⟩ := pair
      obtain ⟨reply', writes', effects', locks'⟩ := o
      simp only [List.mem_singleton, Outcome.mk.injEq, Option.some.injEq, Prod.mk.injEq]
      constructor
      · rintro ⟨rfl, rfl, rfl, rfl⟩
        exact ⟨⟨rfl, rfl⟩, rfl, rfl⟩
      · rintro ⟨⟨rfl, rfl⟩, rfl, rfl⟩
        exact ⟨rfl, rfl, rfl, rfl⟩

/-- The store in which a program is one transaction. -/
abbrev transactional : Store S where
  Db := η.Db
  Ctx := η.Ctx
  Write := η.Write
  Key := η.Key
  decKey := η.decKey
  apply := η.apply
  answers := η.inTransaction

/-- The store in which every call is a transaction of its own. -/
abbrev autocommit : Store S where
  Db := η.Db
  Ctx := η.Ctx
  Write := η.Write
  Key := η.Key
  decKey := η.decKey
  apply := η.apply
  answers ctx _ c db := η.onItsOwn ctx c db

/-- What a transactional store can answer at all, whoever holds what. -/
theorem plausible_transactional {ctx : η.Ctx} {e : η.transactional.Event} :
    η.transactional.Plausible ctx e →
      (∃ db, η.exec ctx e.call db = some (e.outcome.reply, e.outcome.writes)) ∧
        e.outcome.effects = [] ∧ e.outcome.locks = e.outcome.writes.flatMap η.keys := by
  rintro ⟨held, db, member⟩
  have spec := η.mem_inTransaction.mp member
  exact ⟨⟨db, spec.2.1⟩, spec.2.2⟩

theorem deferred_transactional : η.transactional.Deferred :=
  fun _ _ _ _ _ member => (η.mem_inTransaction.mp member).2.2.1

/-- Where a call waits for every key its writes lock, only free keys are handed out. -/
theorem careful_transactional
    (wanted : ∀ ctx c db reply writes, η.exec ctx c db = some (reply, writes) →
      ∀ w ∈ writes, ∀ k ∈ η.keys w, k ∈ η.wants c db) : η.transactional.Careful := by
  intro ctx held c db o member k locked
  obtain ⟨free, answered, _, locks⟩ := η.mem_inTransaction.mp member
  obtain ⟨w, written, key⟩ := List.mem_flatMap.mp (locks ▸ locked)
  exact free k (wanted ctx c db _ _ answered w written k key)

/-- A session holds the keys of what it has written. -/
theorem locked_eq_of_run {A : App} {jobs : List A.Job} {db₀ : A.store.Db}
    {history : List (Config A × Move A)} {c : Config A} {keys : A.store.Write → List A.store.Key}
    (locks : ∀ job e, A.store.Plausible (A.ctx job) e → e.outcome.locks = e.outcome.writes.flatMap keys)
    (run : Transition.Run Config.step (.start db₀ jobs) history c) {i : Nat} {s : Session A}
    (found : c.sessions[i]? = some s) : A.store.locked s.trace = (A.store.pending s.trace).flatMap keys := by
  refine Config.trace_of_run (I := fun _ trace => A.store.locked trace = (A.store.pending trace).flatMap keys)
    (fun _ => rfl) (fun job trace e produced same => ?_) run found
  rw [Store.locked_append, Store.pending_append, List.flatMap_append, same, locks job e produced]

end Handler

namespace Proc

variable {S : Signature} {α β : Type} (η : Handler S) (ctx : η.Ctx)

/-- Run a program in one piece against a handler: its value and the database it leaves, or `none` if one
    of its calls fails. -/
def run : Proc S α → η.Db → Option (α × η.Db)
  | .done a, db => some (a, db)
  | .call c next, db =>
      match η.exec ctx c db with
      | none => none
      | some (reply, writes) => (next reply).run (η.applyAll writes db)

@[simp] theorem run_done (a : α) (db : η.Db) : (Proc.done a).run η ctx db = some (a, db) := rfl

variable {η ctx}

/-- A call that succeeds hands its reply on, to the database it has changed. -/
theorem run_call {c : S.Call} {next : S.Reply c → Proc S α} {db : η.Db} {reply : S.Reply c}
    {writes : List η.Write} (answered : η.exec ctx c db = some (reply, writes)) :
    (Proc.call c next).run η ctx db = (next reply).run η ctx (η.applyAll writes db) := by
  simp [run, answered]

/-- A call that fails ends the program. -/
theorem run_call_failed {c : S.Call} {next : S.Reply c → Proc S α} {db : η.Db}
    (failed : η.exec ctx c db = none) : (Proc.call c next).run η ctx db = none := by
  simp [run, failed]

/-- A program goes on with the value and from the database of the one before it. -/
theorem run_bind {p : Proc S α} {f : α → Proc S β} {db db' : η.Db} {a : α} (ran : p.run η ctx db = some (a, db')) :
    (p >>= f).run η ctx db = (f a).run η ctx db' := by
  induction p generalizing db with
  | done b =>
      cases ran
      rfl
  | call c next ih =>
      cases answered : η.exec ctx c db with
      | none =>
          rw [run_call_failed answered] at ran
          cases ran
      | some result =>
          obtain ⟨reply, writes⟩ := result
          rw [run_call answered] at ran
          rw [call_bind, run_call answered]
          exact ih reply ran

/-- A value computed from the result of a program. -/
theorem run_map (f : α → β) (p : Proc S α) (db : η.Db) :
    (f <$> p).run η ctx db = (p.run η ctx db).map fun result => (f result.1, result.2) := by
  induction p generalizing db with
  | done a => rfl
  | call c next ih =>
      rw [map_call]
      cases answered : η.exec ctx c db with
      | none => simp [run_call_failed answered]
      | some result =>
          obtain ⟨reply, writes⟩ := result
          rw [run_call answered, run_call answered, ih]

/-- What every value of a program satisfies, the value of a run satisfies. -/
theorem Within.result {P : S.Call → Prop} {V : α → Prop} {p : Proc S α} (within : p.Within P V) {db db' : η.Db}
    {a : α} (ran : p.run η ctx db = some (a, db')) : V a := by
  induction p generalizing db with
  | done b =>
      cases ran
      exact within
  | call c next ih =>
      cases answered : η.exec ctx c db with
      | none =>
          rw [run_call_failed answered] at ran
          cases ran
      | some result =>
          obtain ⟨reply, writes⟩ := result
          rw [run_call answered] at ran
          exact ih reply (within.2 reply) ran

end Proc

namespace Handler

variable {S : Signature} {α β : Type} (η : Handler S)

/-- Run a program as a transaction with nobody else around: its result, or `none` where an exception ends
    it, and the database afterwards. Only results that commit leave something behind. -/
def transact (ctx : η.Ctx) (commits : α → Bool) (p : Proc S α) (db : η.Db) : Option α × η.Db :=
  match p.run η ctx db with
  | none => (none, db)
  | some (out, db') => (some out, if commits out then db' else db)

variable {η} {ctx : η.Ctx} {commits : α → Bool} {p : Proc S α} {db db' : η.Db} {out : α}

theorem transact_of_commit (ran : p.run η ctx db = some (out, db')) (kept : commits out = true) :
    η.transact ctx commits p db = (some out, db') := by
  simp [transact, ran, kept]

theorem transact_of_rollback (ran : p.run η ctx db = some (out, db')) (dropped : commits out = false) :
    η.transact ctx commits p db = (some out, db) := by
  simp [transact, ran, dropped]

theorem transact_of_exception (ran : p.run η ctx db = none) :
    η.transact ctx commits p db = (none, db) := by
  simp [transact, ran]

/-- Where every call of a transaction takes the database along a relation, the transaction does. -/
theorem transact_of_calls {R : η.Db → η.Db → Prop} (refl : ∀ db, R db db)
    (trans : ∀ {db₁ db₂ db₃}, R db₁ db₂ → R db₂ db₃ → R db₁ db₃)
    (each : ∀ {c db reply writes}, η.exec ctx c db = some (reply, writes) → R db (η.applyAll writes db))
    (commits : α → Bool) (p : Proc S α) (db : η.Db) : R db (η.transact ctx commits p db).2 := by
  have program : ∀ {db : η.Db} {out : α} {db' : η.Db}, p.run η ctx db = some (out, db') → R db db' := by
    induction p with
    | done a =>
        intro db out db' ran
        cases ran
        exact refl db
    | call c next ih =>
        intro db out db' ran
        cases answer : η.exec ctx c db with
        | none =>
            rw [Proc.run_call_failed answer] at ran
            cases ran
        | some answered =>
            rw [Proc.run_call answer] at ran
            exact trans (each answer) (ih _ ran)
  unfold transact
  split
  · exact refl db
  · rename_i out db' ran
    dsimp only
    split
    · exact program ran
    · exact refl db

/-- What every write leaves as it is, a transaction leaves as it is. -/
theorem transact_kept {R : η.Db → η.Db → Prop} (refl : ∀ db, R db db)
    (trans : ∀ {db₁ db₂ db₃}, R db₁ db₂ → R db₂ db₃ → R db₁ db₃) (each : ∀ w db, R db (η.apply w db))
    (commits : α → Bool) (p : Proc S α) (db : η.Db) : R db (η.transact ctx commits p db).2 := by
  have writes : ∀ ws db, R db (η.applyAll ws db) := by
    intro ws
    induction ws with
    | nil => exact refl
    | cons w ws ih => exact fun db => trans (each w db) (ih _)
  exact transact_of_calls refl trans (fun {_ db _ ws} _ => writes ws db) commits p db

end Handler

end Txn
