/-
Module: HelpdeskApi.Queue.Sweeps
Layer: Queue
Purpose: Sweeps of any number of instances, interleaved call by call. A sweep asks for the overdue timers
  once and marks them one after the other, each in a transaction of its own, and counts those it has
  marked; nothing keeps two sweeps from being given the same timer.
Trusted boundary: human-reviewed spec
Main exports: Sweep, Sweeping, SweepMove, Sweeping.step, Sweeping.Stepped, turnsOf, config_of_run
-/
import HelpdeskApi.Queue.SlaSystem
import HelpdeskApi.Library.CommitLog
import Mathlib.Algebra.BigOperators.Ring.List
import Mathlib.Algebra.Ring.Nat

namespace Helpdesk

open Txn Transition

/-- A call of `SlaSweeper.sweep`: the rows it still has to go through, the transaction it waits for, and how
    many timers it has marked. -/
structure Sweep where
  vencidos : List DueTimerRow
  current : Option Nat
  incumplidos : Nat

/-- The transactions and the sweeps that started them. -/
structure Sweeping where
  config : Config ticketing
  sweeps : List Sweep

/-- What can happen next: somewhere a sweep begins, the `k`-th sweep goes on to its next row, a transaction
    takes a turn, or the `k`-th sweep takes the result of its transaction. -/
inductive SweepMove where
  | sweep (limit : Nat) (now : Instant)
  | mark (k : Nat) (ambient : Ambient)
  | turn (move : Move ticketing)
  | settle (k : Nat)

/-- What a transaction that is over adds to the count of its sweep. One that has thrown adds nothing. -/
def incumplido : Status sig (Except TicketingError Output) → Nat
  | .committed (.ok (.markSla (.breached _))) => 1
  | _ => 0

namespace Sweeping

def initial (db : Db) : Sweeping where
  config := .start db []
  sweeps := []

def step (w : Sweeping) : SweepMove → Option Sweeping
  | .sweep limit now =>
      some { w with
        sweeps := w.sweeps ++
          [{ vencidos := slaDueTimers w.config.db limit now, current := none, incumplidos := 0 }] }
  | .mark k ambient =>
      match w.sweeps[k]? with
      | some { vencidos := fila :: vencidos, current := none, incumplidos } =>
          some {
            config := { w.config with
              sessions := w.config.sessions ++ [.start (SlaSystem.marking fila ambient)] }
            sweeps := w.sweeps.set k
              { vencidos := vencidos, current := some w.config.sessions.length, incumplidos := incumplidos } }
      | _ => none
  | .turn (.arrive _) => none
  | .turn move => (w.config.step move).map fun config => { w with config := config }
  | .settle k =>
      match w.sweeps[k]? with
      | some { vencidos, current := some i, incumplidos } =>
          match w.config.sessions[i]? with
          | some { status := .running _, .. } => none
          | some { status, .. } =>
              some { w with
                sweeps := w.sweeps.set k
                  { vencidos := vencidos, current := none, incumplidos := incumplidos + incumplido status } }
          | none => none
      | _ => none

/-- Everything a move can do, one constructor for each way it can go. -/
inductive Stepped (w : Sweeping) : SweepMove → Sweeping → Prop where
  | sweep (limit : Nat) (now : Instant) :
      Stepped w (.sweep limit now)
        { w with
          sweeps := w.sweeps ++
            [{ vencidos := slaDueTimers w.config.db limit now, current := none, incumplidos := 0 }] }
  | mark {k : Nat} {ambient : Ambient} {fila : DueTimerRow} {vencidos : List DueTimerRow} {incumplidos : Nat}
      (found : w.sweeps[k]? = some ⟨fila :: vencidos, none, incumplidos⟩) :
      Stepped w (.mark k ambient)
        { config := { w.config with
            sessions := w.config.sessions ++ [.start (SlaSystem.marking fila ambient)] }
          sweeps := w.sweeps.set k ⟨vencidos, some w.config.sessions.length, incumplidos⟩ }
  | turn {move : Move ticketing} {config : Config ticketing} (noArrival : ∀ job, move ≠ .arrive job)
      (taken : w.config.step move = some config) : Stepped w (.turn move) { w with config := config }
  | settle {k i : Nat} {vencidos : List DueTimerRow} {incumplidos : Nat} {s : Session ticketing}
      (found : w.sweeps[k]? = some ⟨vencidos, some i, incumplidos⟩) (session : w.config.sessions[i]? = some s)
      (ended : ∀ rest, s.status ≠ .running rest) :
      Stepped w (.settle k)
        { w with sweeps := w.sweeps.set k ⟨vencidos, none, incumplidos + incumplido s.status⟩ }

theorem step_stepped {w w' : Sweeping} {m : SweepMove} (taken : w.step m = some w') : w.Stepped m w' := by
  cases m with
  | sweep limit now => exact (Option.some.inj taken) ▸ .sweep limit now
  | mark k ambient =>
      simp only [step] at taken
      split at taken
      · rename_i found
        exact (Option.some.inj taken) ▸ .mark found
      · cases taken
  | turn move =>
      cases move with
      | arrive job => cases taken
      | call i choice =>
          obtain ⟨config, made, rfl⟩ := Option.map_eq_some_iff.mp taken
          exact .turn (fun job same => by cases same) made
      | finish i =>
          obtain ⟨config, made, rfl⟩ := Option.map_eq_some_iff.mp taken
          exact .turn (fun job same => by cases same) made
      | abort i =>
          obtain ⟨config, made, rfl⟩ := Option.map_eq_some_iff.mp taken
          exact .turn (fun job same => by cases same) made
  | settle k =>
      simp only [step] at taken
      split at taken
      · rename_i found
        split at taken
        · cases taken
        · rename_i job trace status running session
          exact (Option.some.inj taken) ▸ .settle found session running
        · cases taken
      · cases taken

/-- The step of the transactions in a move, if there is one: a sweep that goes on is an arrival. -/
def turn (w : Sweeping) : SweepMove → Option (Move ticketing)
  | .mark k ambient =>
      ((w.sweeps[k]?).bind fun sweep => sweep.vencidos.head?).map fun fila =>
        .arrive (SlaSystem.marking fila ambient)
  | .turn move => some move
  | _ => none

/-- The transactions of a history of sweeps. -/
def turnsOf (history : List (Sweeping × SweepMove)) : List (Config ticketing × Move ticketing) :=
  history.filterMap fun entry => (entry.1.turn entry.2).map fun move => (entry.1.config, move)

theorem turnsOf_append (history : List (Sweeping × SweepMove)) (w : Sweeping) (m : SweepMove) :
    turnsOf (history ++ [(w, m)]) = turnsOf history ++ ((w.turn m).map fun move => (w.config, move)).toList := by
  simp only [turnsOf, List.filterMap_append, List.filterMap_cons, List.filterMap_nil]
  cases w.turn m <;> rfl

/-- What a move does to the transactions: nothing, or the step in it. -/
theorem config_of_step {w w' : Sweeping} {m : SweepMove} (taken : w.step m = some w') :
    (w.turn m = none ∧ w'.config = w.config) ∨
      ∃ move, w.turn m = some move ∧ w.config.step move = some w'.config := by
  cases step_stepped taken with
  | sweep limit now => exact .inl ⟨rfl, rfl⟩
  | @mark k ambient fila vencidos incumplidos found =>
      exact .inr ⟨.arrive (SlaSystem.marking fila ambient), by simp [turn, found], rfl⟩
  | turn noArrival made => exact .inr ⟨_, rfl, made⟩
  | settle found session ended => exact .inl ⟨rfl, rfl⟩

/-- The transactions of a run of sweeps are a run of transactions. -/
theorem config_of_run {w₀ w : Sweeping} {history : List (Sweeping × SweepMove)} (run : Run step w₀ history w) :
    Run Config.step w₀.config (turnsOf history) w.config := by
  induction run with
  | start => exact .start
  | @step history w w' m run taken ih =>
      rw [turnsOf_append]
      rcases config_of_step taken with ⟨silent, same⟩ | ⟨move, isMove, made⟩
      · simpa [silent, same] using ih
      · rw [isMove]
        exact ih.step made

/-- Every transaction marks a timer. -/
theorem marks_of_run {db : Db} {history : List (Sweeping × SweepMove)} {w : Sweeping}
    (run : Run step (initial db) history w) :
    ∀ s ∈ w.config.sessions, ∃ input, s.job.useCase = .markSlaBreached input := by
  refine run.invariant (I := fun w => ∀ s ∈ w.config.sessions, ∃ input, s.job.useCase = .markSlaBreached input)
    ?_ ?_
  · intro s inside
    cases inside
  · intro w m w' marks taken
    cases step_stepped taken with
    | sweep limit now => exact marks
    | mark found =>
        intro s inside
        rcases List.mem_append.mp inside with old | new
        · exact marks s old
        · cases List.mem_singleton.mp new
          exact ⟨_, rfl⟩
    | @turn move config noArrival made =>
        intro s inside
        obtain ⟨i, found⟩ := List.mem_iff_getElem?.mp inside
        rcases Config.earlier_of_step made found with ⟨s₀, before, later⟩ | ⟨job, isArrival, _⟩
        · exact later.job ▸ marks s₀ (List.mem_of_getElem? before)
        · exact absurd isArrival (noArrival job)
    | settle found session ended => exact marks

section Waiting

/-- One element of a list replaced, in a sum over the list. -/
theorem sum_map_set {α : Type} {l : List α} {k : Nat} {x : α} (found : l[k]? = some x) (y : α) (f : α → Nat) :
    ((l.set k y).map f).sum + f x = (l.map f).sum + f y := by
  induction l generalizing k with
  | nil => cases found
  | cons z l ih =>
      cases k with
      | zero =>
          cases found
          simp only [List.set_cons_zero, List.map_cons, List.sum_cons]
          omega
      | succ k =>
          have rest := ih found
          simp only [List.set_cons_succ, List.map_cons, List.sum_cons]
          omega

/-- Whether a sweep waits for the `i`-th transaction, as a number. -/
def waits (i : Nat) (sweep : Sweep) : Nat :=
  if sweep.current = some i then 1 else 0

/-- Every transaction at work has one sweep that waits for it, and a sweep waits for one that is there. -/
structure Tracked (w : Sweeping) : Prop where
  one : ∀ (i : Nat) (s : Session ticketing) rest, w.config.sessions[i]? = some s → s.status = .running rest →
    (w.sweeps.map (waits i)).sum = 1
  there : ∀ sweep ∈ w.sweeps, ∀ i, sweep.current = some i → i < w.config.sessions.length

namespace Tracked

variable {w : Sweeping} {k i : Nat} {vencidos : List DueTimerRow} {incumplidos : Nat}

theorem none_waits (tracked : Tracked w) : (w.sweeps.map (waits w.config.sessions.length)).sum = 0 := by
  apply List.sum_eq_zero
  intro n member
  obtain ⟨sweep, inside, rfl⟩ := List.mem_map.mp member
  apply if_neg
  intro isCurrent
  exact Nat.lt_irrefl _ (tracked.there sweep inside _ isCurrent)

/-- A sweep that begins waits for nothing. -/
theorem begun (tracked : Tracked w) : Tracked { w with sweeps := w.sweeps ++ [⟨vencidos, none, incumplidos⟩] } := by
  constructor
  · intro i s rest found running
    simpa [waits] using tracked.one i s rest found running
  · intro sweep inside i isCurrent
    rcases List.mem_append.mp inside with old | new
    · exact tracked.there sweep old i isCurrent
    · cases List.mem_singleton.mp new
      cases isCurrent

/-- A sweep that goes on waits for the transaction it has started. -/
theorem marked (tracked : Tracked w) {fila : DueTimerRow} {ambient : Ambient}
    (found : w.sweeps[k]? = some ⟨fila :: vencidos, none, incumplidos⟩) :
    Tracked {
      config := { w.config with sessions := w.config.sessions ++ [.start (SlaSystem.marking fila ambient)] }
      sweeps := w.sweeps.set k ⟨vencidos, some w.config.sessions.length, incumplidos⟩ } := by
  have replaced (i : Nat) := sum_map_set found ⟨vencidos, some w.config.sessions.length, incumplidos⟩ (waits i)
  constructor
  · intro i s rest at_i running
    have sum := replaced i
    rcases w.config.getElem?_arrive (SlaSystem.marking fila ambient) i at_i with old | ⟨rfl, _⟩
    · have inside := (List.getElem?_eq_some_iff.mp old).1
      have before := tracked.one i s rest old running
      have other : w.config.sessions.length ≠ i := by omega
      simp only [waits, Option.some.injEq, other, if_false, reduceCtorEq] at sum before ⊢
      omega
    · have before := tracked.none_waits
      simp only [waits, if_true, reduceCtorEq, if_false] at sum before ⊢
      omega
  · intro sweep inside i isCurrent
    simp only [List.length_append, List.length_singleton]
    rcases List.mem_or_eq_of_mem_set inside with old | rfl
    · have bound := tracked.there sweep old i isCurrent
      omega
    · cases isCurrent
      omega

/-- A transaction that is at work after a turn was at work before it. -/
theorem turned (tracked : Tracked w) {move : Move ticketing} {config : Config ticketing}
    (noArrival : ∀ job, move ≠ .arrive job) (made : w.config.step move = some config) :
    Tracked { w with config := config } := by
  constructor
  · intro i s rest at_i running
    rcases Config.earlier_of_step made at_i with ⟨s₀, before, later⟩ | ⟨job, isArrival, _⟩
    · have wasRunning : ∃ rest, s₀.status = .running rest := by
        by_contra ended
        cases later.ended fun rest status => ended ⟨rest, status⟩
        exact ended ⟨rest, running⟩
      obtain ⟨rest₀, status⟩ := wasRunning
      exact tracked.one i s₀ rest₀ before status
    · exact absurd isArrival (noArrival job)
  · intro sweep inside i isCurrent
    have bound := tracked.there sweep inside i isCurrent
    have grown := Config.length_le_of_run (.step .start made)
    exact Nat.lt_of_lt_of_le bound grown

/-- A sweep takes the result of a transaction that is over. -/
theorem settled (tracked : Tracked w) {s : Session ticketing}
    (found : w.sweeps[k]? = some ⟨vencidos, some i, incumplidos⟩) (session : w.config.sessions[i]? = some s)
    (ended : ∀ rest, s.status ≠ .running rest) :
    Tracked { w with sweeps := w.sweeps.set k ⟨vencidos, none, incumplidos + incumplido s.status⟩ } := by
  constructor
  · intro j s' rest at_j running
    have other : i ≠ j := by
      intro same
      subst same
      cases session.symm.trans at_j
      exact ended rest running
    have sum := sum_map_set found ⟨vencidos, none, incumplidos + incumplido s.status⟩ (waits j)
    have before := tracked.one j s' rest at_j running
    simp only [waits, Option.some.injEq, other, if_false, reduceCtorEq] at sum before ⊢
    omega
  · intro sweep inside j isCurrent
    rcases List.mem_or_eq_of_mem_set inside with old | rfl
    · exact tracked.there sweep old j isCurrent
    · cases isCurrent

end Tracked

theorem tracked_of_run {db : Db} {history : List (Sweeping × SweepMove)} {w : Sweeping}
    (run : Run step (initial db) history w) : Tracked w := by
  apply run.invariant
  · constructor
    · intro i s rest found
      cases found
    · intro sweep inside
      cases inside
  · intro w m w' tracked taken
    cases step_stepped taken with
    | sweep limit now => exact tracked.begun
    | mark found => exact tracked.marked found
    | turn noArrival made => exact tracked.turned noArrival made
    | settle found session ended => exact tracked.settled found session ended

end Waiting

end Sweeping

end Helpdesk
