/-
Module: HelpdeskApi.Library.Persistence
Layer: Library
Purpose: Aggregates that are loaded, given a command and saved, again and again. Where one such round brings
  back what the command has made of the aggregate, up to what is never stored, any number of rounds brings
  back what the commands would have made of it without being saved in between.
Trusted boundary: none
Main exports: Repository, commandAll, performAll, Faithful, commandAll_spec
-/
import HelpdeskApi.Library.Handler

namespace Persistence

open Txn

/-- How an aggregate is loaded and saved, and what a command returns and makes of it. -/
structure Repository (S : Signature) (A C R : Type) where
  find : Proc S (Option A)
  save : A → Proc S Unit
  perform : A → C → R × A

namespace Repository

variable {S : Signature} {A C R Row : Type}

/-- Load, command and save for each of the commands, as long as the aggregate is found. -/
def commandAll (r : Repository S A C R) : List C → Proc S (Option (List R))
  | [] => .done (some [])
  | c :: cs => do
      match ← r.find with
      | none => return none
      | some a =>
          r.save (r.perform a c).2
          return (← r.commandAll cs).map ((r.perform a c).1 :: ·)

/-- The commands one after the other in memory. -/
def performAll (r : Repository S A C R) (a : A) : List C → List R × A
  | [] => ([], a)
  | c :: cs => ((r.perform a c).1 :: (r.performAll (r.perform a c).2 cs).1, (r.performAll (r.perform a c).2 cs).2)

/-- What a command never changes, a sequence of commands never changes. -/
theorem performAll_kept {β : Type} (r : Repository S A C R) (f : A → β) (kept : ∀ a c, f (r.perform a c).2 = f a)
    (a : A) (cs : List C) : f (r.performAll a cs).2 = f a := by
  induction cs generalizing a with
  | nil => rfl
  | cons c cs ih => exact (ih _).trans (kept a c)

/-- A repository brings back what was saved, up to what is never stored and makes no difference. -/
structure Faithful (r : Repository S A C R) (η : Handler S) (ctx : η.Ctx) (load : Row → A)
    (located : η.Db → Row → Prop) (settled : A → A) (allowed : C → Prop) : Prop where
  finds : ∀ {db row}, located db row → r.find.run η ctx db = some (some (load row), db)
  saves : ∀ {db row c}, located db row → allowed c → ∃ row' db',
    (r.save (r.perform (load row) c).2).run η ctx db = some ((), db') ∧ located db' row' ∧
      load row' = settled (r.perform (load row) c).2
  loaded : ∀ row, settled (load row) = load row
  alike : ∀ {a a' c}, settled a = settled a' →
    (r.perform a c).1 = (r.perform a' c).1 ∧ settled (r.perform a c).2 = settled (r.perform a' c).2

variable {r : Repository S A C R} {η : Handler S} {ctx : η.Ctx} {load : Row → A} {located : η.Db → Row → Prop}
  {settled : A → A} {allowed : C → Prop}

/-- Every command returns what it would have returned in memory, and what is found in the end is what would
    have become of the aggregate there. -/
theorem commandAll_spec (faithful : r.Faithful η ctx load located settled allowed) {cs : List C}
    (all : ∀ c ∈ cs, allowed c) {db : η.Db} {row : Row} (stored : located db row) {a : A}
    (same : load row = settled a) :
    ∃ row' db', (r.commandAll cs).run η ctx db = some (some (r.performAll a cs).1, db') ∧ located db' row' ∧
      load row' = settled (r.performAll a cs).2 := by
  induction cs generalizing db row a with
  | nil => exact ⟨row, db, rfl, stored, same⟩
  | cons c cs ih =>
      obtain ⟨row₁, db₁, saved, stored₁, back⟩ := faithful.saves stored (all c List.mem_cons_self)
      obtain ⟨sameResult, sameState⟩ := faithful.alike (c := c) ((faithful.loaded row).trans same)
      obtain ⟨row', db', ran, stored', isState⟩ :=
        ih (fun c member => all c (List.mem_cons_of_mem _ member)) stored₁ (back.trans sameState)
      refine ⟨row', db', ?_, stored', isState⟩
      rw [commandAll, Proc.run_bind (faithful.finds stored), Proc.run_bind saved, Proc.run_bind ran, sameResult]
      rfl

end Repository

end Persistence
