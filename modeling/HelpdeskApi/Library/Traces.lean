/-
Module: HelpdeskApi.Library.Traces
Layer: Library
Purpose: What a program can leave behind, whatever the store answers. `Proc.Satisfies` states a property
  of every trace of a program and of every finished trace with its value; it is proved once per program
  by walking its tree. `Config.conforms_step` turns it into an invariant of the interleaved system: the
  trace of each session has the property, and what is left of its program can only extend it so.
Trusted boundary: none
Main exports: Proc.Satisfies, Proc.Satisfies.mono, Proc.Within, Proc.Within.satisfies, Proc.Leads,
  Session.Conforms, Config.Conforms, Config.conforms_of_run, Config.leads_of_run, Config.trace_of_run,
  Config.getElem?_put
-/
import HelpdeskApi.Library.Transactions

namespace Txn

namespace Proc

variable {S : Signature} {σ : Store S} {α β : Type}

/-- Every trace the program can reach after `trace`, with `ok` events only, satisfies `R`, and every
    finished one satisfies `Q` together with the value of the program. -/
def Satisfies (ok : σ.Event → Prop) (R : List σ.Event → Prop) (Q : List σ.Event → α → Prop) :
    List σ.Event → Proc S α → Prop
  | trace, .done a => Q trace a
  | trace, .call c next =>
      ∀ o : Outcome S σ.Write σ.Key c, ok ⟨c, o⟩ →
        R (trace ++ [⟨c, o⟩]) ∧ (next o.reply).Satisfies ok R Q (trace ++ [⟨c, o⟩])

variable {ok : σ.Event → Prop} {R R' : List σ.Event → Prop} {Q : List σ.Event → β → Prop}

@[simp] theorem satisfies_done (trace : List σ.Event) (b : β) :
    (Proc.done b).Satisfies ok R Q trace ↔ Q trace b := Iff.rfl

@[simp] theorem satisfies_call (trace : List σ.Event) (c : S.Call) (next : S.Reply c → Proc S β) :
    (Proc.call c next).Satisfies ok R Q trace ↔
      ∀ o : Outcome S σ.Write σ.Key c, ok ⟨c, o⟩ →
        R (trace ++ [⟨c, o⟩]) ∧ (next o.reply).Satisfies ok R Q (trace ++ [⟨c, o⟩]) := Iff.rfl

/-- A call, and then whatever its reply selects. -/
theorem Satisfies.ask {c : S.Call} {f : S.Reply c → Proc S β} {trace : List σ.Event}
    (rest : ∀ o : Outcome S σ.Write σ.Key c, ok ⟨c, o⟩ →
      R (trace ++ [⟨c, o⟩]) ∧ (f o.reply).Satisfies ok R Q (trace ++ [⟨c, o⟩])) :
    (Proc.ask c >>= f).Satisfies ok R Q trace :=
  rest

/-- A value computed from the result of a program. -/
theorem satisfies_map (f : α → β) (p : Proc S α) (trace : List σ.Event) :
    (f <$> p).Satisfies ok R Q trace ↔ p.Satisfies ok R (fun trace a => Q trace (f a)) trace := by
  induction p generalizing trace with
  | done a => rfl
  | call c next ih => simp only [map_call, satisfies_call, ih]

/-- What holds of every trace holds of the traces of every program. -/
theorem satisfies_of_forall (holdsR : ∀ t, R t) (holdsQ : ∀ t b, Q t b) (p : Proc S β)
    (trace : List σ.Event) : p.Satisfies ok R Q trace := by
  induction p generalizing trace with
  | done b => exact holdsQ trace b
  | call c next ih => exact fun o _ => ⟨holdsR _, ih o.reply _⟩

/-- A program satisfies what its properties imply. -/
theorem Satisfies.mono {Q' : List σ.Event → β → Prop} {p : Proc S β} {trace : List σ.Event}
    (holds : p.Satisfies ok R Q trace) (weakerR : ∀ t, R t → R' t) (weakerQ : ∀ t b, Q t b → Q' t b) :
    p.Satisfies ok R' Q' trace := by
  induction p generalizing trace with
  | done b => exact weakerQ _ _ holds
  | call c next ih =>
      intro o produced
      have step := holds o produced
      exact ⟨weakerR _ step.1, ih _ step.2⟩

/-- Two programs in sequence. -/
theorem Satisfies.bind {p : Proc S α} {f : α → Proc S β} {V : List σ.Event → α → Prop} {trace : List σ.Event}
    (first : p.Satisfies ok R V trace)
    (rest : ∀ trace' a, V trace' a → (f a).Satisfies ok R Q trace') : (p >>= f).Satisfies ok R Q trace := by
  induction p generalizing trace with
  | done a => exact rest trace a first
  | call c next ih =>
      intro o produced
      have step := first o produced
      exact ⟨step.1, ih o.reply step.2⟩

/-- Nothing is taken back of a trace. -/
theorem Satisfies.onwards {p : Proc S β} {trace : List σ.Event} (holds : p.Satisfies ok R Q trace) :
    p.Satisfies ok R (fun later b => Q later b ∧ trace <+: later) trace := by
  induction p generalizing trace with
  | done b => exact ⟨holds, List.prefix_rfl⟩
  | call c next ih =>
      intro o produced
      have step := holds o produced
      refine ⟨step.1, (ih _ step.2).mono (fun _ kept => kept) fun later b both => ?_⟩
      exact ⟨both.1, (List.prefix_append trace _).trans both.2⟩

/-- Every call a program can make satisfies `P`, and every value it can end with satisfies `V`. -/
def Within (P : S.Call → Prop) (V : α → Prop) : Proc S α → Prop
  | .done a => V a
  | .call c next => P c ∧ ∀ r, (next r).Within P V

section Within

variable {P : S.Call → Prop} {V : α → Prop} {W : β → Prop}

@[simp] theorem within_done (a : α) : (Proc.done a : Proc S α).Within P V ↔ V a := Iff.rfl

@[simp] theorem within_call (c : S.Call) (next : S.Reply c → Proc S α) :
    (Proc.call c next).Within P V ↔ P c ∧ ∀ r, (next r).Within P V := Iff.rfl

/-- A call, and then whatever its reply selects. -/
theorem Within.ask {c : S.Call} {f : S.Reply c → Proc S β} (permitted : P c) (rest : ∀ r, (f r).Within P W) :
    (Proc.ask c >>= f).Within P W :=
  ⟨permitted, rest⟩

theorem Within.bind {p : Proc S α} {f : α → Proc S β} (first : p.Within P V)
    (rest : ∀ a, V a → (f a).Within P W) : (p >>= f).Within P W := by
  induction p with
  | done a => exact rest a first
  | call c next ih => exact ⟨first.1, fun r => ih r (first.2 r)⟩

theorem within_map (f : α → β) (p : Proc S α) :
    (f <$> p).Within P W ↔ p.Within P fun a => W (f a) := by
  induction p with
  | done a => exact Iff.rfl
  | call c next ih => simp only [map_call, within_call, ih]

/-- What every event of the permitted calls preserves holds of all traces of the program. -/
theorem Within.satisfies {p : Proc S β} {I : List σ.Event → Prop} (within : p.Within P W)
    (kept : ∀ trace e, ok e → P e.call → I trace → I (trace ++ [e])) {trace : List σ.Event} (now : I trace) :
    p.Satisfies ok I (fun trace b => I trace ∧ W b) trace := by
  induction p generalizing trace with
  | done b => exact ⟨now, within⟩
  | call c next ih =>
      intro o produced
      have extended := kept trace ⟨c, o⟩ produced within.1 now
      exact ⟨extended, ih o.reply (within.2 o.reply) extended⟩

end Within

/-- The program can come down to another one, whatever its calls answer. -/
inductive Leads : Proc S α → Proc S α → Prop where
  | refl (p : Proc S α) : Leads p p
  | call {c : S.Call} {next : S.Reply c → Proc S α} {q : Proc S α} (r : S.Reply c) (rest : Leads (next r) q) :
      Leads (.call c next) q

theorem Leads.answered {p : Proc S α} {c : S.Call} {next : S.Reply c → Proc S α} (leads : p.Leads (.call c next))
    (r : S.Reply c) : p.Leads (next r) := by
  generalize isCall : Proc.call c next = q at leads
  induction leads with
  | refl p =>
      subst isCall
      exact .call r (.refl _)
  | call r' _ ih => exact .call r' (ih isCall)

end Proc

variable {A : App}

/-- The trace of the session satisfies `R`, its output satisfies `Q`, and the rest of its program can
    only extend the trace that way. -/
structure Session.Conforms (R : A.Job → List A.store.Event → Prop)
    (Q : A.Job → List A.store.Event → A.Out → Prop) (s : Session A) : Prop where
  trace : R s.job s.trace
  rest : ∀ p, s.status = .running p →
    p.Satisfies (A.store.Plausible (A.ctx s.job)) (R s.job) (Q s.job) s.trace
  committed : ∀ out, s.status = .committed out → Q s.job s.trace out ∧ A.commits out = true
  rolledBack : ∀ out, s.status = .rolledBack out → Q s.job s.trace out ∧ A.commits out = false

/-- Whether the session has not ended. -/
def Session.isRunning (s : Session A) : Bool :=
  match s.status with
  | .running _ => true
  | _ => false

/-- What is left of a program, unless it was aborted. -/
def Status.rest? {S : Signature} {Out : Type} : Status S Out → Option (Proc S Out)
  | .running rest => some rest
  | .committed out => some (.done out)
  | .rolledBack out => some (.done out)
  | .aborted => none

namespace Config

/-- The sessions after one of them was replaced. -/
theorem getElem?_put {c : Config A} {i : Nat} {s : Session A} (found : c.sessions[i]? = some s)
    (s' : Session A) (j : Nat) :
    (c.put i s').sessions[j]? = if j = i then some s' else c.sessions[j]? := by
  have inside := (List.getElem?_eq_some_iff.mp found).1
  simp only [put, List.getElem?_set]
  by_cases same : i = j
  · subst same
    simp [inside]
  · simp [same, Ne.symm same]

/-- The sessions after one more arrived. -/
theorem getElem?_arrive (c : Config A) (job : A.Job) (j : Nat) {s : Session A}
    (found : (c.sessions ++ [Session.start job])[j]? = some s) :
    c.sessions[j]? = some s ∨ (j = c.sessions.length ∧ s = .start job) := by
  rcases Nat.lt_or_ge j c.sessions.length with old | new
  · left
    rwa [List.getElem?_append_left old] at found
  · right
    rw [List.getElem?_append_right new] at found
    obtain ⟨bound, value⟩ := List.getElem?_eq_some_iff.mp found
    have last : j = c.sessions.length := by
      simp only [List.length_singleton] at bound
      omega
    subst last
    simp only [Nat.sub_self, List.getElem_cons_zero] at value
    exact ⟨rfl, value.symm⟩

/-- What holds of every session before a move and of the session the move changed holds of every session
    after it. -/
theorem forall_put {P : Nat → Session A → Prop} {c : Config A} {i : Nat} {s s' : Session A}
    (found : c.sessions[i]? = some s) (before : ∀ j t, c.sessions[j]? = some t → j ≠ i → P j t)
    (changed : P i s') : ∀ j t, (c.put i s').sessions[j]? = some t → P j t := by
  intro j t at_j
  rw [getElem?_put found] at at_j
  by_cases same : j = i
  · subst same
    simp only [if_true, Option.some.injEq] at at_j
    exact at_j ▸ changed
  · rw [if_neg same] at at_j
    exact before j t at_j same

/-- Every session conforms to its specification. -/
def Conforms (R : A.Job → List A.store.Event → Prop)
    (Q : A.Job → List A.store.Event → A.Out → Prop) (c : Config A) : Prop :=
  ∀ (i : Nat) (s : Session A), c.sessions[i]? = some s → s.Conforms R Q

/-- A session that is about to start conforms if its program does. -/
theorem conforms_session_start {R : A.Job → List A.store.Event → Prop}
    {Q : A.Job → List A.store.Event → A.Out → Prop} (job : A.Job) (trace : R job [])
    (rest : (A.program job).Satisfies (A.store.Plausible (A.ctx job)) (R job) (Q job) []) :
    (Session.start job).Conforms R Q where
  trace := trace
  rest := fun p running => by
    simp only [Session.start_status, Status.running.injEq] at running
    exact running ▸ rest
  committed := fun out status => by simp at status
  rolledBack := fun out status => by simp at status

/-- If every program satisfies its specification, conformance is preserved by every step. -/
theorem conforms_step {R : A.Job → List A.store.Event → Prop}
    {Q : A.Job → List A.store.Event → A.Out → Prop}
    (spec : ∀ job, R job [] ∧
      (A.program job).Satisfies (A.store.Plausible (A.ctx job)) (R job) (Q job) [])
    {c c' : Config A} {m : Move A} (conforms : c.Conforms R Q) (taken : c.step m = some c') :
    c'.Conforms R Q := by
  cases step_stepped taken with
  | arrive job =>
      intro j s found
      rcases c.getElem?_arrive job j found with old | ⟨_, new⟩
      · exact conforms j s old
      · exact new ▸ conforms_session_start job (spec job).1 (spec job).2
  | @call i choice s k next o found running answer =>
      refine forall_put found (fun j t at_j _ => conforms j t at_j) ?_
      have extended := (conforms i s found).rest _ running o
        ⟨_, _, List.mem_of_getElem? answer⟩
      exact
        { trace := extended.1
          rest := fun p running => by
            simp only [Session.advance_status, Status.running.injEq] at running
            exact running ▸ extended.2
          committed := fun out status => by simp at status
          rolledBack := fun out status => by simp at status }
  | @commit i s out found running commits =>
      refine forall_put found (fun j t at_j _ => conforms j t at_j) ?_
      have before := conforms i s found
      exact
        { trace := before.trace
          rest := fun p status => by simp at status
          committed := fun out' status => by
            simp only [Status.committed.injEq] at status
            exact status ▸ ⟨before.rest _ running, commits⟩
          rolledBack := fun out' status => by simp at status }
  | @rollback i s out found running commits =>
      refine forall_put found (fun j t at_j _ => conforms j t at_j) ?_
      have before := conforms i s found
      exact
        { trace := before.trace
          rest := fun p status => by simp at status
          committed := fun out' status => by simp at status
          rolledBack := fun out' status => by
            simp only [Status.rolledBack.injEq] at status
            exact status ▸ ⟨before.rest _ running, commits⟩ }
  | @abort i s rest found running =>
      refine forall_put found (fun j t at_j _ => conforms j t at_j) ?_
      exact
        { trace := (conforms i s found).trace
          rest := fun p status => by simp at status
          committed := fun out status => by simp at status
          rolledBack := fun out status => by simp at status }

/-- Conformance holds in every configuration of a run. -/
theorem conforms_of_run {R : A.Job → List A.store.Event → Prop}
    {Q : A.Job → List A.store.Event → A.Out → Prop}
    (spec : ∀ job, R job [] ∧
      (A.program job).Satisfies (A.store.Plausible (A.ctx job)) (R job) (Q job) [])
    {db : A.store.Db} {jobs : List A.Job} {history : List (Config A × Move A)} {c : Config A}
    (run : Transition.Run step (start db jobs) history c) : c.Conforms R Q := by
  refine run.invariant (fun i s found => ?_) fun _ _ _ conforms taken => conforms_step spec conforms taken
  obtain ⟨job, _, rfl⟩ := start_session found
  exact conforms_session_start job (spec job).1 (spec job).2

/-- What is left of the program of a session is what its program can come down to. -/
theorem leads_of_run {db : A.store.Db} {jobs : List A.Job} {history : List (Config A × Move A)} {c : Config A}
    (run : Transition.Run step (start db jobs) history c) {i : Nat} {s : Session A} {rest : Proc A.sig A.Out}
    (found : c.sessions[i]? = some s) (left : s.status.rest? = some rest) : (A.program s.job).Leads rest := by
  let OnCourse (s : Session A) : Prop := ∀ rest, s.status.rest? = some rest → (A.program s.job).Leads rest
  have begins (job : A.Job) : OnCourse (.start job) := by
    intro rest left
    cases left
    exact .refl _
  have all : ∀ (i : Nat) (s : Session A), c.sessions[i]? = some s → OnCourse s := by
    clear found left
    induction run with
    | start =>
        intro i s found
        obtain ⟨job, _, rfl⟩ := start_session found
        exact begins job
    | @step history c c' m run taken ih =>
        cases step_stepped taken with
        | arrive job =>
            intro j s found
            rcases c.getElem?_arrive job j found with old | ⟨_, rfl⟩
            · exact ih j s old
            · exact begins job
        | @call i choice s k next o found running answer =>
            apply forall_put found fun j t at_j _ => ih j t at_j
            intro rest left
            cases left
            exact (ih i s found _ (by rw [running]; rfl)).answered o.reply
        | @commit i s out found running commits =>
            apply forall_put found fun j t at_j _ => ih j t at_j
            intro rest left
            cases left
            exact ih i s found _ (by rw [running]; rfl)
        | @rollback i s out found running commits =>
            apply forall_put found fun j t at_j _ => ih j t at_j
            intro rest left
            cases left
            exact ih i s found _ (by rw [running]; rfl)
        | @abort i s rest found running =>
            apply forall_put found fun j t at_j _ => ih j t at_j
            intro rest left
            cases left
  exact all i s found rest left

/-- A session that has come to its end is committed if its value asks for it. -/
theorem commits_of_run {db : A.store.Db} {jobs : List A.Job} {history : List (Config A × Move A)} {c : Config A}
    (run : Transition.Run step (start db jobs) history c) {i : Nat} {s : Session A} (found : c.sessions[i]? = some s)
    (out : A.Out) :
    (s.status = .committed out → A.commits out = true) ∧ (s.status = .rolledBack out → A.commits out = false) := by
  have conforms := conforms_of_run (R := fun _ _ => True) (Q := fun _ _ _ => True)
    (fun job => ⟨trivial, Proc.satisfies_of_forall (fun _ => trivial) (fun _ _ => trivial) (A.program job) []⟩) run i s found
  exact ⟨fun status => (conforms.committed out status).2, fun status => (conforms.rolledBack out status).2⟩

/-- What every event preserves holds of every trace in a run. -/
theorem trace_of_run {I : A.Job → List A.store.Event → Prop} (init : ∀ job, I job [])
    (kept : ∀ job trace e, A.store.Plausible (A.ctx job) e → I job trace → I job (trace ++ [e]))
    {db : A.store.Db} {jobs : List A.Job} {history : List (Config A × Move A)} {c : Config A}
    (run : Transition.Run step (start db jobs) history c) {i : Nat} {s : Session A}
    (found : c.sessions[i]? = some s) : I s.job s.trace := by
  have anything (p : Proc A.sig A.Out) : p.Within (fun _ => True) fun _ => True := by
    induction p with
    | done a => trivial
    | call c next ih => exact ⟨trivial, ih⟩
  refine (conforms_of_run (R := I) (Q := fun _ _ _ => True) (fun job => ⟨init job, ?_⟩) run i s found).trace
  exact ((anything (A.program job)).satisfies (fun trace e produced _ now => kept job trace e produced now)
    (init job)).mono (fun _ now => now) fun _ _ _ => trivial

end Config

end Txn
