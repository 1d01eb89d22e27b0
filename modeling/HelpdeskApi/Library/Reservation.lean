/-
Module: HelpdeskApi.Library.Reservation
Layer: Library
Purpose: A name that many parties want, each of which looks whether the name is taken before it tries to
  take it. Taking is safe on its own, so that at most one of them gets the name, and somebody gets it once
  anybody has looked. But a party that has found the name free may come too late, and this happens in
  exactly the runs where a party looks while another one is between its look and its try.
Trusted boundary: none
Main exports: Phase, State, Move, step, Stepped, LooksAlone, Sound, Doomed, spared_step_iff, sound_of_run,
  exists_holder, nobodyLate_iff
-/
import HelpdeskApi.Library.Runs

namespace Reservation

open Transition

/-- How far a party has got: it has not looked, it was refused, it has found the name free, it has got the
    name, or it has come too late. -/
inductive Phase where
  | idle
  | refused
  | cleared
  | holds
  | late
deriving DecidableEq, Repr

/-- Whether the name is taken, and how far every party has got. -/
structure State (ι : Type) where
  taken : Bool
  phase : ι → Phase

inductive Move (ι : Type) where
  | look (i : ι)
  | take (i : ι)

variable {ι : Type}

/-- The name is free, and nobody has looked. -/
def State.start : State ι where
  taken := false
  phase _ := .idle

variable [DecidableEq ι]

/-- One party gets into another phase. -/
def State.set (s : State ι) (i : ι) (p : Phase) : State ι :=
  { s with phase := fun j => if j = i then p else s.phase j }

def step (s : State ι) : Move ι → Option (State ι)
  | .look i => if s.phase i = .idle then some (s.set i (if s.taken then .refused else .cleared)) else none
  | .take i =>
      if s.phase i = .cleared then
        some (if s.taken then s.set i .late else { s.set i .holds with taken := true })
      else none

/-- Everything a move can do, one constructor for each way it can go. -/
inductive Stepped (s : State ι) : Move ι → State ι → Prop where
  | refused {i : ι} (idle : s.phase i = .idle) (taken : s.taken = true) : Stepped s (.look i) (s.set i .refused)
  | cleared {i : ι} (idle : s.phase i = .idle) (free : s.taken = false) : Stepped s (.look i) (s.set i .cleared)
  | holds {i : ι} (cleared : s.phase i = .cleared) (free : s.taken = false) :
      Stepped s (.take i) { s.set i .holds with taken := true }
  | late {i : ι} (cleared : s.phase i = .cleared) (taken : s.taken = true) : Stepped s (.take i) (s.set i .late)

theorem step_stepped {s s' : State ι} {m : Move ι} (taken : step s m = some s') : Stepped s m s' := by
  cases m with
  | look i =>
      simp only [step, Option.ite_none_right_eq_some, Option.some.injEq] at taken
      obtain ⟨idle, rfl⟩ := taken
      cases isTaken : s.taken with
      | false => exact .cleared idle isTaken
      | true => exact .refused idle isTaken
  | take i =>
      simp only [step, Option.ite_none_right_eq_some, Option.some.injEq] at taken
      obtain ⟨cleared, rfl⟩ := taken
      cases isTaken : s.taken with
      | false => exact .holds cleared isTaken
      | true => exact .late cleared isTaken

/-- Each of these can be done. -/
theorem Stepped.step {s s' : State ι} {m : Move ι} (stepped : Stepped s m s') : step s m = some s' := by
  cases stepped with
  | refused idle taken => simp [Reservation.step, idle, taken]
  | cleared idle free => simp [Reservation.step, idle, free]
  | holds cleared free => simp [Reservation.step, cleared, free]
  | late cleared taken => simp [Reservation.step, cleared, taken]

/-- A party looks while nobody is between its look and its try. -/
def LooksAlone (s : State ι) (m : Move ι) : Prop :=
  ∀ i, m = .look i → ∀ j, s.phase j ≠ .cleared

/-- One party at most has got the name; somebody has if it is taken, and it is taken if somebody has been
    told so. -/
structure Sound (s : State ι) : Prop where
  one : ∀ i j, s.phase i = .holds → s.phase j = .holds → i = j
  holder : s.taken = true → ∃ i, s.phase i = .holds
  told : ∀ i, s.phase i = .refused ∨ s.phase i = .holds ∨ s.phase i = .late → s.taken = true

/-- Somebody has come too late, or is bound to. -/
inductive Doomed (s : State ι) : Prop where
  | late (i : ι) (late : s.phase i = .late)
  | overtaken (i : ι) (cleared : s.phase i = .cleared) (taken : s.taken = true)
  | rivals (i j : ι) (distinct : i ≠ j) (one : s.phase i = .cleared) (other : s.phase j = .cleared)

section Steps

variable {s s' : State ι} {m : Move ι}

@[simp] theorem State.set_taken (s : State ι) (i : ι) (p : Phase) : (s.set i p).taken = s.taken := rfl

theorem State.set_phase (s : State ι) (i : ι) (p : Phase) (j : ι) :
    (s.set i p).phase j = if j = i then p else s.phase j := rfl

@[simp] theorem State.set_phase_self (s : State ι) (i : ι) (p : Phase) : (s.set i p).phase i = p := if_pos rfl

theorem State.set_phase_other (s : State ι) {i j : ι} (p : Phase) (other : j ≠ i) :
    (s.set i p).phase j = s.phase j := if_neg other

omit [DecidableEq ι] in
theorem sound_start : Sound (.start : State ι) := by
  constructor
  · intro i j holds
    cases holds
  · intro taken
    cases taken
  · intro i told
    rcases told with told | told | told <;> cases told

/-- A party that does not get the name does not disturb who has it. -/
theorem Sound.set (sound : Sound s) {i : ι} {p : Phase} (before : s.phase i ≠ .holds) (after : p ≠ .holds)
    (told : p ≠ .cleared → s.taken = true) : Sound (s.set i p) := by
  have holds {j : ι} : (s.set i p).phase j = .holds ↔ s.phase j = .holds := by
    rw [State.set_phase]
    split
    · rename_i same
      subst same
      exact iff_of_false after before
    · exact Iff.rfl
  constructor
  · intro j k one other
    exact sound.one j k (holds.mp one) (holds.mp other)
  · intro taken
    obtain ⟨j, has⟩ := sound.holder taken
    exact ⟨j, holds.mpr has⟩
  · intro j knows
    rw [State.set_phase] at knows
    split at knows
    · apply told
      rintro rfl
      rcases knows with knows | knows | knows <;> cases knows
    · exact sound.told j knows

theorem Sound.step (sound : Sound s) (taken : step s m = some s') : Sound s' := by
  cases step_stepped taken with
  | refused idle isTaken => exact sound.set (by simp [idle]) (by simp) fun _ => isTaken
  | cleared idle free => exact sound.set (by simp [idle]) (by simp) fun changed => absurd rfl changed
  | late cleared isTaken => exact sound.set (by simp [cleared]) (by simp) fun _ => isTaken
  | @holds i cleared free =>
      -- nobody had the name, so the party is the only one that has it now
      have nobody (j : ι) : s.phase j ≠ .holds := by
        intro has
        have isTaken := sound.told j (.inr (.inl has))
        exact Bool.false_ne_true (free.symm.trans isTaken)
      have only {j : ι} (has : (s.set i .holds).phase j = .holds) : j = i := by
        by_contra other
        rw [State.set_phase_other s .holds other] at has
        exact nobody j has
      constructor
      · intro j k one other
        exact (only one).trans (only other).symm
      · intro _
        exact ⟨i, State.set_phase_self s i .holds⟩
      · intro _ _
        rfl

/-- A look takes nothing away from those who are bound to come too late. -/
theorem Doomed.look (doomed : Doomed s) {i : ι} (idle : s.phase i = .idle) (p : Phase) : Doomed (s.set i p) := by
  have kept {j : ι} {q : Phase} (phase : s.phase j = q) (looked : q ≠ .idle) : (s.set i p).phase j = q := by
    rw [State.set_phase_other, phase]
    rintro rfl
    exact looked (phase.symm.trans idle)
  cases doomed with
  | late j late => exact .late j (kept late (by simp))
  | overtaken j cleared isTaken => exact .overtaken j (kept cleared (by simp)) isTaken
  | rivals j k distinct one other => exact .rivals j k distinct (kept one (by simp)) (kept other (by simp))

/-- A party that is bound to come too late stays so. -/
theorem Doomed.step (doomed : Doomed s) (taken : step s m = some s') : Doomed s' := by
  cases step_stepped taken with
  | refused idle _ => exact doomed.look idle .refused
  | cleared idle _ => exact doomed.look idle .cleared
  | @late i cleared isTaken => exact .late i (State.set_phase_self s i .late)
  | @holds i cleared free =>
      have kept {j : ι} (other : j ≠ i) : (s.set i .holds).phase j = s.phase j := State.set_phase_other s .holds other
      cases doomed with
      | late j late =>
          apply Doomed.late j
          rw [← late]
          apply kept
          rintro rfl
          exact Phase.noConfusion (late.symm.trans cleared)
      | overtaken j _ isTaken => exact absurd (free.symm.trans isTaken) Bool.false_ne_true
      | rivals j k distinct one other =>
          -- one of the two is left behind
          by_cases self : j = i
          · have left : k ≠ i := fun same => distinct (self.trans same.symm)
            exact .overtaken k ((kept left).trans other) rfl
          · exact .overtaken j ((kept self).trans one) rfl

/-- Where nobody is bound to come too late, a step leaves it so exactly if it is no look, or one with nobody
    between its look and its try. -/
theorem spared_step_iff (spared : ¬Doomed s) (taken : step s m = some s') : ¬Doomed s' ↔ LooksAlone s m := by
  have noneLate (j : ι) : s.phase j ≠ .late := fun late => spared (.late j late)
  cases step_stepped taken with
  | @refused i idle isTaken =>
      have nobody (j : ι) : s.phase j ≠ .cleared := fun cleared => spared (.overtaken j cleared isTaken)
      have unchanged {j : ι} {p : Phase} (phase : (s.set i .refused).phase j = p) (other : p ≠ .refused) :
          s.phase j = p := by
        rw [State.set_phase] at phase
        split at phase
        · exact absurd phase.symm other
        · exact phase
      apply iff_of_true
      · intro doomed
        cases doomed with
        | late j late => exact noneLate j (unchanged late (by simp))
        | overtaken j cleared _ => exact nobody j (unchanged cleared (by simp))
        | rivals j _ _ cleared _ => exact nobody j (unchanged cleared (by simp))
      · intro _ _ j
        exact nobody j
  | @cleared i idle free =>
      constructor
      · -- a party between its look and its try now has a rival
        intro after k same j cleared
        cases same
        apply after
        have other : j ≠ i := by
          rintro rfl
          exact Phase.noConfusion (cleared.symm.trans idle)
        exact .rivals j i other ((State.set_phase_other s .cleared other).trans cleared) (State.set_phase_self s i .cleared)
      · intro alone doomed
        have nobody := alone i rfl
        have only {j : ι} (cleared : (s.set i .cleared).phase j = .cleared) : j = i := by
          by_contra other
          rw [State.set_phase_other s .cleared other] at cleared
          exact nobody j cleared
        cases doomed with
        | late j late =>
            rw [State.set_phase] at late
            split at late
            · cases late
            · exact noneLate j late
        | overtaken _ _ isTaken => exact Bool.false_ne_true (free.symm.trans isTaken)
        | rivals j k distinct one other => exact distinct ((only one).trans (only other).symm)
  | @late i cleared isTaken => exact absurd (.overtaken i cleared isTaken) spared
  | @holds i cleared free =>
      have alone (j : ι) (other : j ≠ i) : s.phase j ≠ .cleared := fun rival => spared (.rivals j i other rival cleared)
      have nobody (j : ι) : (s.set i .holds).phase j ≠ .cleared := by
        rw [State.set_phase]
        split
        · exact Phase.noConfusion
        · rename_i other
          exact alone j other
      apply iff_of_true
      · intro doomed
        cases doomed with
        | late j late =>
            change (s.set i .holds).phase j = .late at late
            rw [State.set_phase] at late
            split at late
            · cases late
            · exact noneLate j late
        | overtaken j rival _ => exact nobody j rival
        | rivals j _ _ rival _ => exact nobody j rival
      · intro k isLook
        cases isLook

end Steps

section Runs

variable {history : List (State ι × Move ι)} {s : State ι}

theorem sound_of_run (run : Run step .start history s) : Sound s :=
  run.invariant sound_start fun _ _ _ sound taken => sound.step taken

/-- Once somebody has looked, and nobody is between its look and its try, somebody has got the name. -/
theorem exists_holder (run : Run step .start history s) (settled : ∀ i, s.phase i ≠ .cleared) {i : ι}
    (looked : s.phase i ≠ .idle) : ∃ w, s.phase w = .holds := by
  have sound := sound_of_run run
  apply sound.holder
  apply sound.told i
  cases phase : s.phase i with
  | idle => exact absurd phase looked
  | cleared => exact absurd phase (settled i)
  | refused => exact .inl rfl
  | holds => exact .inr (.inl rfl)
  | late => exact .inr (.inr rfl)

/-- Nobody comes too late in exactly the runs where every party looks while nobody is between its look and
    its try. -/
theorem nobodyLate_iff (run : Run step .start history s) (settled : ∀ i, s.phase i ≠ .cleared) :
    (∀ i, s.phase i ≠ .late) ↔ Meets LooksAlone history := by
  have spared : ¬Doomed (.start : State ι) := by
    intro doomed
    cases doomed with
    | late i late => cases late
    | overtaken i cleared _ => cases cleared
    | rivals i j _ cleared _ => cases cleared
  rw [← run.always_iff_steps (I := fun _ => True) (P := fun s => ¬Doomed s) trivial (fun _ _ _ _ _ => trivial) spared
    fun _ _ _ _ spared taken => spared_step_iff spared taken]
  constructor
  · intro noneLate
    have last : ¬Doomed s := by
      intro doomed
      cases doomed with
      | late i late => exact noneLate i late
      | overtaken i cleared _ => exact settled i cleared
      | rivals i j _ cleared _ => exact settled i cleared
    refine ⟨?_, last⟩
    intro entry member doomed
    obtain ⟨_, later, between, _, taken, after, _⟩ := run.split member
    exact last (after.invariant (doomed.step taken) fun _ _ _ doomed taken => doomed.step taken)
  · intro always i late
    exact always.2 (.late i late)

end Runs

end Reservation
