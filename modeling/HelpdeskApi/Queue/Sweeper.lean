/-
Module: HelpdeskApi.Queue.Sweeper
Layer: Queue
Purpose: One instance of the sweeper, sweep after sweep, where marking some of the timers throws at every
  attempt. A sweep catches what is thrown and goes on to its next row. Which of the timers that are due at
  the same instant come first is the database's choice.
Trusted boundary: human-reviewed spec
Main exports: overdueTimers, Sweeper, SweeperAction, Sweeper.step, Sweeper.Stepped, listing_slaDueTimers
-/
import HelpdeskApi.Library.Batches
import HelpdeskApi.Queue.SlaFacts
import HelpdeskApi.Queue.SlaSystem

namespace Helpdesk

open Relational Batches

/-- The rows `sla_due_timers` selects. -/
def overdueTimers (db : Db) (now : Instant) : List SlaTimer :=
  db.timers.rows.filter fun t => t.stoppedAt = none ∧ t.breachedAt = none ∧ t.dueAt ≤ now

/-- What a sweep is given of a timer. -/
def SlaTimer.dueRow (t : SlaTimer) : DueTimerRow where
  id := t.id
  tenantId := t.tenantId

/-- The database, the instant of the last sweep with the rows it still has to go through, and how many
    sweeps there have been. -/
structure Sweeper where
  db : Db
  now : Instant
  vencidos : List DueTimerRow
  sweeps : Nat

/-- What can happen next: a sweep begins and is given the timers in this order, or the sweep goes on to its
    next row. -/
inductive SweeperAction where
  | sweep (now : Instant) (order : List SlaTimer)
  | mark (ambient : Ambient)

namespace Sweeper

def initial (db : Db) (now : Instant) : Sweeper where
  db := db
  now := now
  vencidos := []
  sweeps := 0

/-- One step. The clock does not go back, and the ids the generator hands out are new. -/
def step (limit : Nat) (throws : SlaTimerId → Bool) (w : Sweeper) : SweeperAction → Option Sweeper
  | .sweep now order =>
      if w.vencidos = [] ∧ w.now ≤ now ∧ order.Perm (overdueTimers w.db now) ∧
          order.Pairwise fun a b => a.dueAt ≤ b.dueAt then
        some { w with now := now, vencidos := (order.take limit).map SlaTimer.dueRow, sweeps := w.sweeps + 1 }
      else none
  | .mark ambient =>
      match w.vencidos with
      | [] => none
      | fila :: vencidos =>
          if throws fila.id then some { w with vencidos := vencidos }
          else if w.now ≤ ambient.now ∧ ambient.freshIn w.db then
            some { w with db := (serve (SlaSystem.marking fila ambient) w.db).2, vencidos := vencidos }
          else none

/-- Everything an action can do, one constructor for each way it can go. -/
inductive Stepped (limit : Nat) (throws : SlaTimerId → Bool) (w : Sweeper) : SweeperAction → Sweeper → Prop where
  | sweep {now : Instant} {order : List SlaTimer} (idle : w.vencidos = []) (later : w.now ≤ now)
      (listing : Listing SlaTimer.dueAt (overdueTimers w.db now) order) :
      Stepped limit throws w (.sweep now order)
        { w with now := now, vencidos := (order.take limit).map SlaTimer.dueRow, sweeps := w.sweeps + 1 }
  | threw {ambient : Ambient} {fila : DueTimerRow} {vencidos : List DueTimerRow}
      (next : w.vencidos = fila :: vencidos) (thrown : throws fila.id = true) :
      Stepped limit throws w (.mark ambient) { w with vencidos := vencidos }
  | marked {ambient : Ambient} {fila : DueTimerRow} {vencidos : List DueTimerRow}
      (next : w.vencidos = fila :: vencidos) (passed : throws fila.id = false) (later : w.now ≤ ambient.now)
      (fresh : ambient.freshIn w.db = true) :
      Stepped limit throws w (.mark ambient)
        { w with
          db := w.db.after (MarkSlaBreached.committed { tenantId := fila.tenantId, timerId := fila.id } ambient
            none w.db)
          vencidos := vencidos }

variable {limit : Nat} {throws : SlaTimerId → Bool} {w w' : Sweeper}

theorem step_stepped {a : SweeperAction} (taken : w.step limit throws a = some w') :
    w.Stepped limit throws a w' := by
  cases a with
  | sweep now order =>
      simp only [step] at taken
      split at taken
      · rename_i allowed
        exact (Option.some.inj taken) ▸ .sweep allowed.1 allowed.2.1 ⟨allowed.2.2.1, allowed.2.2.2⟩
      · cases taken
  | mark ambient =>
      simp only [step] at taken
      split at taken
      · cases taken
      · rename_i fila vencidos next
        split at taken
        · rename_i thrown
          exact (Option.some.inj taken) ▸ .threw next thrown
        · rename_i passed
          split at taken
          · rename_i allowed
            rw [Option.some.injEq, serve_committed _ allowed.2] at taken
            exact taken ▸ .marked next (by simpa using passed) allowed.1 allowed.2
          · cases taken

/-- Each of these can be done. -/
theorem Stepped.step {a : SweeperAction} (stepped : w.Stepped limit throws a w') :
    w.step limit throws a = some w' := by
  cases stepped with
  | sweep idle later listing => exact if_pos ⟨idle, later, listing.perm, listing.sorted⟩
  | threw next thrown => simp [Sweeper.step, next, thrown]
  | @marked ambient fila vencidos next passed later fresh =>
      have served := serve_committed (SlaSystem.marking fila ambient) fresh
      simp only [Sweeper.step, next, passed, later, fresh, served]
      rfl

/-- What `slaDueTimers` answers is one of the batches a sweep may be given. -/
theorem listing_slaDueTimers (db : Db) (limit : Nat) (now : Instant) :
    ∃ order, Listing SlaTimer.dueAt (overdueTimers db now) order ∧
      slaDueTimers db limit now = (order.take limit).map SlaTimer.dueRow :=
  ⟨_, .of_insertionSort SlaTimer.dueAt (overdueTimers db now), rfl⟩

end Sweeper

end Helpdesk
