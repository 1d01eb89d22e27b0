/-
Module: HelpdeskApi.Library.Presence
Layer: Library
Purpose: One who comes, waits to be put on a register, and leaves. Leaving takes off the register whoever is on
  it, once: whoever leaves while waiting and is put on the register afterwards stays on it for good. The moves
  of such a life are few, and where it ends tells them.
Trusted boundary: none
Main exports: Phase, Move, step, InTime, notStale_iff, path, moves_of_run
-/
import HelpdeskApi.Library.Runs

namespace Presence

open Transition

/-- Where one is: the stale ones are on the register, and gone. -/
inductive Phase where
  | outside
  | waiting
  | leftEarly
  | registered
  | gone
  | stale
deriving DecidableEq, Repr

inductive Move where
  | come
  | register
  | refuse
  | leave
deriving DecidableEq, Repr

def step : Phase → Move → Option Phase
  | .outside, .come => some .waiting
  | .waiting, .register => some .registered
  | .waiting, .refuse => some .gone
  | .waiting, .leave => some .leftEarly
  | .leftEarly, .register => some .stale
  | .leftEarly, .refuse => some .gone
  | .registered, .leave => some .gone
  | _, _ => none

/-- Nobody is put on the register who has left. -/
def InTime (p : Phase) (k : Move) : Prop :=
  p = .leftEarly → k ≠ .register

variable {history : List (Phase × Move)} {p p' : Phase} {k : Move}

/-- Who is stale has no more moves, so that nobody leaves the register again. -/
theorem step_stale (k : Move) : step .stale k = none := by
  cases k <;> rfl

theorem stale_of_step (taken : step p k = some p') : p' ≠ .stale ↔ InTime p k := by
  cases p <;> cases k <;> cases taken <;> simp [InTime]

/-- Only a register that is kept in time has nobody on it who is gone. -/
theorem notStale_iff (run : Run step .outside history p) : p ≠ .stale ↔ Meets InTime history := by
  induction run with
  | start => simp
  | @step history p p' k run taken ih =>
      have going : p ≠ .stale := by
        rintro rfl
        rw [step_stale] at taken
        cases taken
      rw [meets_append, ← ih, stale_of_step taken]
      exact (and_iff_right going).symm

/-- The moves that lead to a phase. -/
def path : Phase → List (List Move)
  | .outside => [[]]
  | .waiting => [[.come]]
  | .leftEarly => [[.come, .leave]]
  | .registered => [[.come, .register]]
  | .gone => [[.come, .refuse], [.come, .leave, .refuse], [.come, .register, .leave]]
  | .stale => [[.come, .leave, .register]]

theorem path_of_step {moves : List Move} (before : moves ∈ path p) (taken : step p k = some p') :
    moves ++ [k] ∈ path p' := by
  cases p <;> cases k <;> cases taken <;> simp_all [path]

theorem moves_of_run (run : Run step .outside history p) : history.map Prod.snd ∈ path p := by
  induction run with
  | start => simp [path]
  | step run taken ih =>
      rw [List.map_append]
      exact path_of_step ih taken

/-- The one life that leaves a trace: to come, to leave, and to be put on the register. -/
theorem stale_iff (run : Run step .outside history p) :
    p = .stale ↔ history.map Prod.snd = [.come, .leave, .register] := by
  have moves := moves_of_run run
  constructor
  · rintro rfl
    exact List.mem_singleton.mp moves
  · intro same
    rw [same] at moves
    cases p <;> simp [path] at moves ⊢

end Presence
