/-
Module: HelpdeskApi.Proofs.NestedCalls
Layer: Proofs
Purpose: Calls of `runTransactional` inside one another. All of them share the transaction of the outermost one,
  and the signal of a nested call is caught before it gets there: what a nested call has written stays, whatever
  it returns. Errors leave nothing behind exactly if no nested call writes before it returns one, or the
  outermost call does not commit.
Trusted boundary: none
Main exports: CallTree, CallTree.js, CallTree.account, CallTree.run, LeavesNothing, js_account,
  leavesNothing_iff
-/
import HelpdeskApi.Application.Transactional

namespace Helpdesk

open Txn Async

/-- What is done in a call of `runTransactional`: it returns, it calls a repository, or it makes a nested call
    and goes on with what that one returns. -/
inductive CallTree (α : Type) where
  | done (result : Except TicketingError α)
  | call (c : Call) (next : c.Reply → CallTree α)
  | nested (inner : CallTree α) (next : Except TicketingError α → CallTree α)

/-- What has become of the body of a call: how it ended, what was written in it, and what of that was written
    in nested calls that returned an error, or in calls of theirs. -/
structure Account (X α : Type) where
  outcome : Except (Thrown X) (Except TicketingError α)
  written : List Write
  kept : List Write
  undone : List Write
  steps : Nat

namespace Account

variable {X α : Type}

/-- What came before it is added. -/
def after (a : Account X α) (written kept undone : List Write) : Account X α where
  outcome := a.outcome
  written := written ++ a.written
  kept := kept ++ a.kept
  undone := undone ++ a.undone
  steps := a.steps

/-- What `runTransactional` makes of the end of its body. -/
def settled (a : Account X α) : Except (Thrown X) (Except TicketingError α) :=
  match a.outcome with
  | .error (.rollbackSignal reason) => .ok (.error reason)
  | outcome => outcome

/-- Whether the call returns a value that is no error. -/
def succeeds (a : Account X α) : Bool :=
  match a.settled with
  | .ok (.ok _) => true
  | _ => false

/-- What was not written in a call that returned an error, the one the account is of included. -/
def lasting (a : Account X α) : List Write :=
  if a.succeeds then a.kept else []

/-- All that was written is accounted for. -/
structure Balanced (a : Account X α) : Prop where
  sublist : a.kept.Sublist a.written
  length : a.written.length = a.kept.length + a.undone.length

theorem Balanced.after {a : Account X α} (balanced : a.Balanced) {written kept undone : List Write}
    (sublist : kept.Sublist written) (length : written.length = kept.length + undone.length) :
    (a.after written kept undone).Balanced where
  sublist := sublist.append balanced.sublist
  length := by
    simp only [Account.after, List.length_append, length, balanced.length]
    omega

/-- Where nothing is to be undone, everything is kept. -/
theorem Balanced.kept_iff {a : Account X α} (balanced : a.Balanced) : a.written = a.kept ↔ a.undone = [] := by
  constructor
  · intro same
    have length := balanced.length
    rw [same] at length
    exact List.eq_nil_of_length_eq_zero (by omega)
  · intro nothing
    have length := balanced.length
    rw [nothing, List.length_nil, Nat.add_zero] at length
    exact (balanced.sublist.eq_of_length length.symm).symm

theorem succeeds_iff (a : Account X α) : a.succeeds = true ↔ ∃ value, a.outcome = .ok (.ok value) := by
  unfold succeeds settled
  rcases a.outcome with (reason | x) | (reason | value) <;> simp

end Account

namespace CallTree

variable {X α : Type} (faults : Faults repositories X) (requestId : Option String) (tenantId : TenantId)

/-- The code of the body. -/
def js : CallTree α → Js X (Except TicketingError α)
  | .done result => return result
  | .call c next => do
      let reply ← port faults requestId c
      (next reply).js
  | .nested inner next => do
      let result ← runTransactional faults requestId tenantId inner.js
      (next result).js

/-- The world in which the body runs: the outermost transaction is open. -/
def world (db : Db) (writes : List Write) (steps : Nat) : World repositories :=
  ⟨db, [⟨⟨some tenantId, requestId⟩, writes⟩], steps⟩

/-- The account of a body that begins after these writes. -/
def account (db : Db) : CallTree α → List Write → Nat → Account X α
  | .done result, _, steps => ⟨.ok result, [], [], [], steps⟩
  | .call c next, writes, steps =>
      let ran := port faults requestId c (some 0) (world requestId tenantId db writes steps)
      let more := (ran.2.opened.flatMap OpenTx.writes).drop writes.length
      match ran.1 with
      | .error thrown => ⟨.error thrown, more, more, [], ran.2.steps⟩
      | .ok reply => ((next reply).account db (writes ++ more) ran.2.steps).after more more []
  | .nested inner next, writes, steps =>
      let a := inner.account db writes steps
      match a.settled with
      | .error thrown => ⟨.error thrown, a.written, a.kept, a.undone, a.steps⟩
      | .ok (.ok value) => ((next (.ok value)).account db (writes ++ a.written) a.steps).after a.written a.kept a.undone
      | .ok (.error reason) =>
          -- whatever was written in the call, was written in a call that returned an error
          ((next (.error reason)).account db (writes ++ a.written) a.steps).after a.written [] a.written

/-- The account of the outermost call, whose transaction may not even open. -/
def outermost (db : Db) (tree : CallTree α) (steps : Nat) : Account X α :=
  match faults.thrown steps with
  | some (x, _) => ⟨.error (.other x), [], [], [], steps + 1⟩
  | none => tree.account faults requestId tenantId db [] (steps + 1)

/-- The outermost call, made where no transaction is in course. -/
def run (db : Db) (tree : CallTree α) (steps : Nat) :
    Except (Thrown X) (Except TicketingError α) × World repositories :=
  runTransactional faults requestId tenantId (tree.js faults requestId tenantId) none (.idle db steps)

end CallTree

/-- A call that returns an error leaves nothing behind: what is committed was written in none of them, and the
    final state is the one without what they have written. -/
structure LeavesNothing {X α : Type} (faults : Faults repositories X) (requestId : Option String)
    (tenantId : TenantId) (db : Db) (tree : CallTree α) (steps : Nat) : Prop where
  committed : ∀ value writes steps', faults.thrown steps = none →
    Ran (tree.js faults requestId tenantId) ⟨some tenantId, requestId⟩ db (steps + 1) (.ok (.ok value)) writes
      steps' → writes = (tree.outermost faults requestId tenantId db steps).kept
  final : (tree.run faults requestId tenantId db steps).2.db =
    db.after (tree.outermost faults requestId tenantId db steps).lasting

section Accounts

variable {X α : Type} {faults : Faults repositories X} {requestId : Option String} {tenantId : TenantId} {db : Db}

open CallTree

/-- A repository that is called adds to what the transaction has written. -/
theorem port_adds (c : Call) (writes : List Write) (steps : Nat) :
    ∃ result more steps', port faults requestId c (some 0) (world requestId tenantId db writes steps) =
      (result, world requestId tenantId db (writes ++ more) steps') := by
  have confined : Confined (port faults requestId c) := confined_port c
  obtain ⟨sameDb, more, written⟩ := confined (world requestId tenantId db writes steps) _ rfl
  cases ran : port faults requestId c (some 0) (world requestId tenantId db writes steps) with
  | mk result w =>
      obtain ⟨db', opened, steps'⟩ := w
      rw [ran] at sameDb written
      cases sameDb
      cases written
      exact ⟨result, more, steps', rfl⟩

/-- `runTransactional` in a transaction that is in course: it settles what its body comes to. -/
theorem runTransactional_joins {fn : Js X (Except TicketingError α)} {w : World repositories} {a : Account X α}
    {w' : World repositories} (ran : fn (some 0) w = (a.outcome, w')) :
    runTransactional faults requestId tenantId fn (some 0) w = (a.settled, w') := by
  have joined : PrismaTransactionManager.run faults requestId tenantId (signalling fn) (some 0) w =
      signalling fn (some 0) w := rfl
  cases ended : a.outcome with
  | error thrown =>
      have throws : signalling fn (some 0) w = (.error thrown, w') := run_bind_error (ended ▸ ran)
      rw [runTransactional, run_tryCatch_error (joined.trans throws)]
      cases thrown <;> simp [Account.settled, ended]
  | ok result =>
      cases result with
      | error reason =>
          have throws : signalling fn (some 0) w = (.error (.rollbackSignal reason), w') := run_bind_ok (ended ▸ ran)
          rw [runTransactional, run_tryCatch_error (joined.trans throws)]
          simp [Account.settled, ended]
      | ok value =>
          have returns : signalling fn (some 0) w = (.ok (.ok value), w') := run_bind_ok (ended ▸ ran)
          rw [runTransactional, run_tryCatch_ok (joined.trans returns)]
          simp [Account.settled, ended]

/-- The account of a body is a true one. -/
theorem js_account (tree : CallTree α) (writes : List Write) (steps : Nat) :
    tree.js faults requestId tenantId (some 0) (world requestId tenantId db writes steps) =
      ((tree.account faults requestId tenantId db writes steps).outcome,
        world requestId tenantId db
          (writes ++ (tree.account faults requestId tenantId db writes steps).written)
          (tree.account faults requestId tenantId db writes steps).steps) := by
  induction tree generalizing writes steps with
  | done result => simp [CallTree.js, account]
  | call c next ih =>
      obtain ⟨result, more, steps', ran⟩ : ∃ result more steps', port faults requestId c (some 0)
          (world requestId tenantId db writes steps) = (result, world requestId tenantId db (writes ++ more) steps') :=
        port_adds c writes steps
      have added : (((world requestId tenantId db (writes ++ more) steps').opened.flatMap OpenTx.writes).drop
          writes.length) = more := by simp [world]
      simp only [CallTree.js, account, ran, added]
      cases result with
      | error thrown => exact run_bind_error ran
      | ok reply =>
          rw [run_bind_ok ran, ih reply (writes ++ more) steps', List.append_assoc]
          rfl
  | nested inner next first rest =>
      have joined : runTransactional faults requestId tenantId (inner.js faults requestId tenantId) (some 0)
          (world requestId tenantId db writes steps) = (_, _) := runTransactional_joins (first writes steps)
      simp only [CallTree.js, account]
      cases ended : (inner.account faults requestId tenantId db writes steps).settled with
      | error thrown =>
          rw [ended] at joined
          exact run_bind_error joined
      | ok result =>
          rw [ended] at joined
          rw [run_bind_ok joined, rest result, List.append_assoc]
          cases result <;> rfl

theorem account_balanced (tree : CallTree α) (writes : List Write) (steps : Nat) :
    (tree.account faults requestId tenantId db writes steps).Balanced := by
  induction tree generalizing writes steps with
  | done result => exact ⟨List.Sublist.refl _, rfl⟩
  | call c next ih =>
      unfold account
      simp only
      split
      · exact ⟨List.Sublist.refl _, rfl⟩
      · rename_i reply _
        exact (ih reply _ _).after (List.Sublist.refl _) rfl
  | nested inner next first rest =>
      unfold account
      simp only
      split
      · exact ⟨(first writes steps).sublist, (first writes steps).length⟩
      · exact (rest _ _ _).after (first writes steps).sublist (first writes steps).length
      · exact (rest _ _ _).after (List.nil_sublist _) (by simp)

theorem outermost_balanced (tree : CallTree α) (steps : Nat) :
    (tree.outermost faults requestId tenantId db steps).Balanced := by
  unfold outermost
  split
  · exact ⟨List.Sublist.refl _, rfl⟩
  · exact account_balanced tree [] (steps + 1)

/-- The outermost call commits all that was written in it, or nothing. -/
theorem run_outermost (tree : CallTree α) (steps : Nat) :
    tree.run faults requestId tenantId db steps =
      ((tree.outermost faults requestId tenantId db steps).settled,
        .idle (db.after (if (tree.outermost faults requestId tenantId db steps).succeeds then
            (tree.outermost faults requestId tenantId db steps).written else []))
          (tree.outermost faults requestId tenantId db steps).steps) := by
  unfold CallTree.run outermost
  cases fault : faults.thrown steps with
  | some thrown =>
      obtain ⟨x, writes⟩ := thrown
      exact runTransactional_unopened fault
  | none =>
      have ran : Ran (tree.js faults requestId tenantId) ⟨some tenantId, requestId⟩ db (steps + 1) _ _ _ :=
        js_account tree [] (steps + 1)
      simp only
      cases ended : (tree.account faults requestId tenantId db [] (steps + 1)).outcome with
      | error thrown =>
          rw [ended] at ran
          have throws : Ran (signalling (tree.js faults requestId tenantId)) ⟨some tenantId, requestId⟩ db (steps + 1)
              (.error thrown) _ _ := run_bind_error ran
          rw [runTransactional, run_tryCatch_error (run_error fault throws)]
          cases thrown <;> simp [Account.succeeds, Account.settled, ended, Db.after]
      | ok result =>
          rw [ended] at ran
          cases result with
          | error reason =>
              rw [runTransactional_err fault ran]
              simp [Account.succeeds, Account.settled, ended, Db.after]
          | ok value =>
              rw [runTransactional_ok fault ran]
              simp [Account.succeeds, Account.settled, ended]

/-- Errors leave nothing behind exactly if the outermost call does not succeed, or no call in it has written
    anything and returned an error. -/
theorem leavesNothing_iff (tree : CallTree α) (steps : Nat) :
    LeavesNothing faults requestId tenantId db tree steps ↔
      ((tree.outermost faults requestId tenantId db steps).succeeds = true →
        (tree.outermost faults requestId tenantId db steps).undone = []) := by
  have balanced : (tree.outermost faults requestId tenantId db steps).Balanced := outermost_balanced tree steps
  constructor
  · intro nothing succeeds
    apply balanced.kept_iff.mp
    obtain ⟨value, ended⟩ := (Account.succeeds_iff _).mp succeeds
    unfold outermost at ended ⊢
    cases fault : faults.thrown steps with
    | some thrown => simp [fault] at ended
    | none =>
        simp only [fault] at ended
        have ran : Ran (tree.js faults requestId tenantId) ⟨some tenantId, requestId⟩ db (steps + 1) _ _ _ :=
          js_account tree [] (steps + 1)
        rw [ended] at ran
        have same := nothing.committed value _ _ fault ran
        simp only [outermost, fault, List.nil_append] at same
        exact same
  · intro condition
    constructor
    · intro value writes steps' quiet ran
      have accounted : Ran (tree.js faults requestId tenantId) ⟨some tenantId, requestId⟩ db (steps + 1) _ _ _ :=
        js_account tree [] (steps + 1)
      have same := ran.symm.trans accounted
      simp only [Prod.mk.injEq, World.mk.injEq, List.cons.injEq, OpenTx.mk.injEq, List.nil_append, true_and,
        and_true] at same
      have isOutermost : tree.outermost faults requestId tenantId db steps =
          tree.account faults requestId tenantId db [] (steps + 1) := by
        simp only [outermost, quiet]
      have succeeds := (Account.succeeds_iff _).mpr ⟨value, same.1.symm⟩
      rw [← isOutermost] at same succeeds
      rw [same.2.1]
      exact balanced.kept_iff.mpr (condition succeeds)
    · rw [run_outermost]
      unfold Account.lasting
      split
      · rename_i succeeds
        rw [balanced.kept_iff.mpr (condition succeeds)]
        rfl
      · rfl

end Accounts

section Example

/-- Nothing throws. -/
def noFaults : Faults repositories Unit where
  thrown _ := none
  refused _ := ()

/-- A nested call reserves a ticket number and returns an error, which the outer one handles. -/
def numberReserved : CallTree Unit :=
  .nested (.call (.numbersNext ⟨1⟩) fun _ => .done (.error .invalidTicketSubject)) fun _ => .done (.ok ())

/-- The number stays reserved. -/
theorem numberReserved_left : ¬ LeavesNothing noFaults none ⟨1⟩ .empty numberReserved 0 := by
  intro nothing
  have same := congrArg (fun db => db.counters.rows.map CounterRow.nextNumber) nothing.final
  revert same
  decide +kernel

end Example

end Helpdesk
