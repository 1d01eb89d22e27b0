/-
Module: HelpdeskApi.Library.Runs
Layer: Library
Purpose: Finite runs of a labelled transition function, with the history of pre-states and labels kept.
  A property that must hold along a whole run is proved from one-step facts: `Run.invariant` for facts
  every step preserves, and `Run.always_iff_steps` for facts preserved by exactly the steps that meet a
  condition on their pre-state and label. Where every step takes an observation along a relation,
  `Run.path` chains the steps to a path of it; where the observation takes steps of its own, or none,
  `Run.simulate` makes a run of them.
Trusted boundary: none
Main exports: Run, Always, Meets, Along, FollowedBy, Run.invariant, Run.always_iff_steps, Run.simulate,
  meets_filterMap, exists_prefix_concat, Run.path, followedBy_cons, followedBy_append, play, play_append, play_run
-/
import Mathlib.Data.List.Basic
import Mathlib.Logic.Relation

namespace Transition

variable {σ ℓ : Type}

/-- The runs of `step` from `s₀`. The history lists, oldest first, the state each step started from
    together with the label it took. -/
inductive Run (step : σ → ℓ → Option σ) (s₀ : σ) : List (σ × ℓ) → σ → Prop where
  | start : Run step s₀ [] s₀
  | step {history : List (σ × ℓ)} {s s' : σ} {l : ℓ} (run : Run step s₀ history s)
      (taken : step s l = some s') : Run step s₀ (history ++ [(s, l)]) s'

/-- `P` holds in every state a run with this history and last state went through. -/
def Always (P : σ → Prop) (history : List (σ × ℓ)) (last : σ) : Prop :=
  (∀ entry ∈ history, P entry.1) ∧ P last

/-- Every step of the history meets a condition on its pre-state and label. -/
def Meets (C : σ → ℓ → Prop) (history : List (σ × ℓ)) : Prop :=
  ∀ entry ∈ history, C entry.1 entry.2

instance (C : σ → ℓ → Prop) [∀ s l, Decidable (C s l)] (history : List (σ × ℓ)) : Decidable (Meets C history) :=
  inferInstanceAs (Decidable (∀ entry ∈ history, C entry.1 entry.2))

/-- The step takes an observation of the state along `R`, if it can be taken. -/
def Along {α : Type} (step : σ → ℓ → Option σ) (f : σ → α) (R : α → α → Prop) (s : σ) (l : ℓ) : Prop :=
  ∀ s', step s l = some s' → R (f s) (f s')

/-- Every step of the history that satisfies `P` has a later one that satisfies `Q`. -/
def FollowedBy (P Q : σ × ℓ → Prop) (history : List (σ × ℓ)) : Prop :=
  ∀ before entry after, history = before ++ entry :: after → P entry → ∃ later ∈ after, Q later

@[simp] theorem meets_nil (C : σ → ℓ → Prop) : Meets C [] := by
  intro entry member
  cases member

@[simp] theorem meets_append (C : σ → ℓ → Prop) (history : List (σ × ℓ)) (s : σ) (l : ℓ) :
    Meets C (history ++ [(s, l)]) ↔ Meets C history ∧ C s l := by
  simp only [Meets, List.mem_append, List.mem_singleton, or_imp, forall_and, forall_eq]

/-- What some moment of a sequence satisfies, when the sequence goes on by one. -/
theorem exists_prefix_concat {α : Type} {P : List α → α → Prop} {events : List α} {last : α} :
    (∃ earlier e, earlier ++ [e] <+: events ++ [last] ∧ P earlier e) ↔
      (∃ earlier e, earlier ++ [e] <+: events ∧ P earlier e) ∨ P events last := by
  constructor
  · rintro ⟨earlier, e, isPrefix, satisfied⟩
    rcases List.prefix_concat_iff.mp isPrefix with whole | inside
    · obtain ⟨rfl, isLast⟩ := List.append_inj' whole rfl
      cases isLast
      exact .inr satisfied
    · exact .inl ⟨earlier, e, inside, satisfied⟩
  · rintro (⟨earlier, e, inside, satisfied⟩ | satisfied)
    · exact ⟨earlier, e, inside.trans (List.prefix_append _ _), satisfied⟩
    · exact ⟨events, last, List.prefix_rfl, satisfied⟩

/-- What is asked of the steps an observer sees. -/
theorem meets_filterMap {τ κ : Type} (f : σ → τ) (g : σ → ℓ → Option κ) (C : τ → κ → Prop) (history : List (σ × ℓ)) :
    Meets C (history.filterMap fun entry => (g entry.1 entry.2).map fun k => (f entry.1, k)) ↔
      Meets (fun s l => ∀ k, g s l = some k → C (f s) k) history := by
  constructor
  · intro meets entry member k shown
    exact meets (f entry.1, k) (List.mem_filterMap.mpr ⟨entry, member, by rw [shown]; rfl⟩)
  · intro meets entry' member'
    obtain ⟨entry, member, same⟩ := List.mem_filterMap.mp member'
    obtain ⟨k, shown, rfl⟩ := Option.map_eq_some_iff.mp same
    exact meets entry member k shown

theorem followedBy_nil (P Q : σ × ℓ → Prop) : FollowedBy P Q [] := by
  intro before entry after whole
  simp at whole

/-- One more step before the others: if it waits for one, that is among them. -/
theorem followedBy_cons (P Q : σ × ℓ → Prop) (first : σ × ℓ) (history : List (σ × ℓ)) :
    FollowedBy P Q (first :: history) ↔ (P first → ∃ later ∈ history, Q later) ∧ FollowedBy P Q history := by
  constructor
  · intro followed
    refine ⟨followed [] first history rfl, ?_⟩
    rintro before entry after rfl waiting
    exact followed (first :: before) entry after rfl waiting
  · rintro ⟨now, rest⟩ before entry after whole waiting
    cases before with
    | nil =>
        cases whole
        exact now waiting
    | cons e before =>
        cases whole
        exact rest before entry after rfl waiting

/-- Whether every step that waits for a later one has it can be computed along the history. -/
def decidableFollowedBy (P Q : σ × ℓ → Prop) [DecidablePred P] [DecidablePred Q] :
    (history : List (σ × ℓ)) → Decidable (FollowedBy P Q history)
  | [] => .isTrue (followedBy_nil P Q)
  | first :: history =>
      have := decidableFollowedBy P Q history
      decidable_of_iff' _ (followedBy_cons P Q first history)

instance (P Q : σ × ℓ → Prop) [DecidablePred P] [DecidablePred Q] (history : List (σ × ℓ)) :
    Decidable (FollowedBy P Q history) :=
  decidableFollowedBy P Q history

/-- One more step: it may not wait for a later one itself, and it may be what the earlier ones wait for. -/
theorem followedBy_append (P Q : σ × ℓ → Prop) (history : List (σ × ℓ)) (last : σ × ℓ) :
    FollowedBy P Q (history ++ [last]) ↔ ¬P last ∧ (Q last ∨ FollowedBy P Q history) := by
  constructor
  · intro followed
    have notLast : ¬P last := by
      intro waiting
      obtain ⟨later, member, _⟩ := followed history last [] rfl waiting
      cases member
    refine ⟨notLast, ?_⟩
    by_cases answers : Q last
    · exact .inl answers
    · refine .inr ?_
      rintro before entry after rfl waiting
      obtain ⟨later, member, answer⟩ := followed before entry (after ++ [last]) (by simp) waiting
      rcases List.mem_append.mp member with older | newest
      · exact ⟨later, older, answer⟩
      · exact absurd (List.mem_singleton.mp newest ▸ answer) answers
  · intro both before entry after whole waiting
    obtain ⟨notLast, answers⟩ := both
    rcases List.eq_nil_or_concat after with rfl | ⟨after', last', rfl⟩
    · have sameLast := (List.append_inj' whole rfl).2
      exact absurd ((List.cons.inj sameLast).1 ▸ waiting) notLast
    · rw [List.concat_eq_append] at whole ⊢
      rw [← List.cons_append, ← List.append_assoc] at whole
      have parts := List.append_inj' whole rfl
      have sameLast : last = last' := (List.cons.inj parts.2).1
      rcases answers with now | earlier
      · exact ⟨last', by simp, sameLast ▸ now⟩
      · obtain ⟨later, member, answer⟩ := earlier before entry after' parts.1 waiting
        exact ⟨later, List.mem_append_left _ member, answer⟩

@[simp] theorem always_nil (P : σ → Prop) (last : σ) :
    Always P ([] : List (σ × ℓ)) last ↔ P last := by
  simp [Always]

@[simp] theorem always_append (P : σ → Prop) (history : List (σ × ℓ)) (s last : σ) (l : ℓ) :
    Always P (history ++ [(s, l)]) last ↔ Always P history s ∧ P last := by
  simp only [Always, List.mem_append, List.mem_singleton, or_imp, forall_and, forall_eq]

namespace Run

variable {step : σ → ℓ → Option σ} {s₀ s : σ} {history : List (σ × ℓ)}

/-- A fact that holds at the start and that every step preserves holds at the end. -/
theorem invariant {I : σ → Prop} (run : Run step s₀ history s) (init : I s₀)
    (kept : ∀ s l s', I s → step s l = some s' → I s') : I s := by
  induction run with
  | start => exact init
  | step _ taken ih => exact kept _ _ _ ih taken

/-- A run can go on. -/
theorem append {history' : List (σ × ℓ)} {s' : σ} (run : Run step s₀ history s)
    (later : Run step s history' s') : Run step s₀ (history ++ history') s' := by
  induction later with
  | start => simpa using run
  | @step history' s' s'' l later taken ih =>
      rw [← List.append_assoc]
      exact ih.step taken

/-- A step and then a run. -/
theorem cons {s' : σ} {l : ℓ} (taken : step s₀ l = some s') (run : Run step s' history s) :
    Run step s₀ ((s₀, l) :: history) s :=
  (Run.start.step taken).append run

/-- Every state in the history of a run is the end of a shorter run. -/
theorem mem_history (run : Run step s₀ history s) {entry : σ × ℓ} (member : entry ∈ history) :
    ∃ earlier, Run step s₀ earlier entry.1 ∧ earlier <+: history := by
  induction run with
  | start => cases member
  | @step history s s' l run _ ih =>
      rcases List.mem_append.mp member with older | newest
      · obtain ⟨earlier, reached, isPrefix⟩ := ih older
        exact ⟨earlier, reached, isPrefix.trans (List.prefix_append _ _)⟩
      · rw [List.mem_singleton] at newest
        subst newest
        exact ⟨history, run, List.prefix_append _ _⟩

/-- A run with a step in the middle of its history is a run up to it, the step, and a run from there. -/
theorem cut {before after : List (σ × ℓ)} {entry : σ × ℓ} (run : Run step s₀ history s)
    (whole : history = before ++ entry :: after) :
    ∃ s', Run step s₀ before entry.1 ∧ step entry.1 entry.2 = some s' ∧ Run step s' after s := by
  induction run generalizing after with
  | start => simp at whole
  | @step history s s' l run taken ih =>
      rcases List.eq_nil_or_concat after with rfl | ⟨after', last, rfl⟩
      · obtain ⟨sameHistory, sameLast⟩ := List.append_inj' whole rfl
        cases sameHistory
        cases sameLast
        exact ⟨s', run, taken, .start⟩
      · rw [List.concat_eq_append, ← List.cons_append, ← List.append_assoc] at whole
        obtain ⟨sameHistory, sameLast⟩ := List.append_inj' whole rfl
        cases sameLast
        obtain ⟨next, first, made, rest⟩ := ih sameHistory
        exact ⟨next, first, made, List.concat_eq_append ▸ rest.step taken⟩

/-- A run can be cut at any of its steps. -/
theorem split (run : Run step s₀ history s) {entry : σ × ℓ} (member : entry ∈ history) :
    ∃ earlier later s', Run step s₀ earlier entry.1 ∧ step entry.1 entry.2 = some s' ∧
      Run step s' later s ∧ history = earlier ++ entry :: later := by
  obtain ⟨earlier, later, whole⟩ := List.append_of_mem member
  obtain ⟨s', before, taken, after⟩ := run.cut whole
  exact ⟨earlier, later, s', before, taken, after, whole⟩

/-- An invariant holds in every state of the run, not only in its last one. -/
theorem always_invariant {I : σ → Prop} (run : Run step s₀ history s) (init : I s₀)
    (kept : ∀ s l s', I s → step s l = some s' → I s') : Always I history s := by
  refine ⟨fun entry member => ?_, run.invariant init kept⟩
  obtain ⟨earlier, reached, _⟩ := run.mem_history member
  exact reached.invariant init kept

/-- Where `C` tells exactly which steps preserve `P`, a run keeps `P` throughout if and only if all its
    steps meet `C`. `I` collects the facts that hold whether or not `C` is met. -/
theorem always_iff_steps {I P : σ → Prop} {C : σ → ℓ → Prop} (run : Run step s₀ history s)
    (initI : I s₀) (keptI : ∀ s l s', I s → step s l = some s' → I s') (initP : P s₀)
    (exactly : ∀ s l s', I s → P s → step s l = some s' → (P s' ↔ C s l)) :
    Always P history s ↔ Meets C history := by
  induction run with
  | start => simpa using initP
  | step run taken ih =>
      rw [meets_append, always_append, ← ih]
      apply and_congr_right
      intro before
      exact exactly _ _ _ (run.invariant initI keptI) before.2 taken

/-- Where every step is, for an observer, no step or one of another system, the run is a run of that system. -/
theorem simulate {τ κ : Type} {step' : τ → κ → Option τ} {f : σ → τ} {g : σ → ℓ → Option κ}
    (run : Run step s₀ history s)
    (seen : ∀ s l s', (s, l) ∈ history → step s l = some s' →
      (g s l).elim (f s' = f s) fun k => step' (f s) k = some (f s')) :
    Run step' (f s₀) (history.filterMap fun entry => (g entry.1 entry.2).map fun k => (f entry.1, k)) (f s) := by
  induction run with
  | start => exact .start
  | @step history s s' l run taken ih =>
      have earlier := ih fun s l s' member => seen s l s' (List.mem_append_left _ member)
      have last := seen s l s' (List.mem_append_right _ List.mem_cons_self) taken
      rw [List.filterMap_append]
      cases shown : g s l with
      | none =>
          rw [shown] at last
          change f s' = f s at last
          simpa [shown, last] using earlier
      | some k =>
          rw [shown] at last
          simpa [shown] using earlier.step last

/-- Where every step takes an observation along `R`, the run takes it along a path of `R`. -/
theorem path {α : Type} {f : σ → α} {R : α → α → Prop} (run : Run step s₀ history s)
    (meets : Meets (Along step f R) history) : Relation.ReflTransGen R (f s₀) (f s) := by
  induction run with
  | start => exact .refl
  | step run taken ih =>
      rw [meets_append] at meets
      exact (ih meets.1).tail (meets.2 _ taken)

/-- Such a path leads from every state of the history to the last one. -/
theorem path_of_mem {α : Type} {f : σ → α} {R : α → α → Prop} (run : Run step s₀ history s)
    (meets : Meets (Along step f R) history) {entry : σ × ℓ} (member : entry ∈ history) :
    Relation.ReflTransGen R (f entry.1) (f s) := by
  obtain ⟨earlier, later, between, _, taken, after, rfl⟩ := run.split member
  have first : R (f entry.1) (f between) := meets entry member between taken
  have rest := after.path fun entry' member' =>
    meets entry' (List.mem_append_right _ (List.mem_cons_of_mem _ member'))
  exact .head first rest

end Run

/-- Take the labels of a schedule one after the other, if each of them can be taken. -/
def play (step : σ → ℓ → Option σ) : σ → List ℓ → Option σ
  | s, [] => some s
  | s, l :: schedule => (step s l).bind fun s' => play step s' schedule

/-- A schedule is played one part after the other. -/
theorem play_append (step : σ → ℓ → Option σ) (s : σ) (earlier later : List ℓ) :
    play step s (earlier ++ later) = (play step s earlier).bind fun s' => play step s' later := by
  induction earlier generalizing s with
  | nil => rfl
  | cons l earlier ih => simp only [List.cons_append, play, Option.bind_assoc, ih]

/-- The history a schedule leaves behind. -/
def playHistory (step : σ → ℓ → Option σ) : σ → List ℓ → List (σ × ℓ)
  | _, [] => []
  | s, l :: schedule =>
      match step s l with
      | some s' => (s, l) :: playHistory step s' schedule
      | none => []

/-- A history has the labels of its schedule. -/
theorem mem_schedule {step : σ → ℓ → Option σ} {s : σ} {schedule : List ℓ} {entry : σ × ℓ}
    (member : entry ∈ playHistory step s schedule) : entry.2 ∈ schedule := by
  induction schedule generalizing s with
  | nil => cases member
  | cons l schedule ih =>
      unfold playHistory at member
      split at member
      · rcases List.mem_cons.mp member with rfl | later
        · exact List.mem_cons_self
        · exact List.mem_cons_of_mem l (ih later)
      · cases member

private theorem play_run_from {step : σ → ℓ → Option σ} {s₀ : σ} :
    ∀ {schedule : List ℓ} {history : List (σ × ℓ)} {s last : σ}, Run step s₀ history s →
      play step s schedule = some last →
      Run step s₀ (history ++ playHistory step s schedule) last
  | [], history, s, last, run, played => by
      simp only [play, Option.some.injEq] at played
      subst played
      simpa [playHistory] using run
  | l :: schedule, history, s, last, run, played => by
      cases taken : step s l with
      | none => simp [play, taken] at played
      | some s' =>
          simp only [play, taken, Option.bind_some] at played
          have rest := play_run_from (run.step taken) played
          simpa [playHistory, taken, List.append_assoc] using rest

/-- A schedule that can be played to its end is a run. -/
theorem play_run {step : σ → ℓ → Option σ} {s₀ last : σ} {schedule : List ℓ}
    (played : play step s₀ schedule = some last) :
    Run step s₀ (playHistory step s₀ schedule) last := by
  simpa using play_run_from .start played

end Transition
