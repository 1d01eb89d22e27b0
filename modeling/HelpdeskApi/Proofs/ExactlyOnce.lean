/-
Module: HelpdeskApi.Proofs.ExactlyOnce
Layer: Proofs
Purpose: At-least-once delivery has exactly-once effect. The work of one consumer on one event may be
  attempted any number of times, by workers that interleave call by call with each other and with every
  other use case, and any attempt may die. One attempt at most takes effect; the others that commit are
  skipped and write nothing; a dead attempt leaves nothing, not even the mark.
Trusted boundary: none
Main exports: Effective, Skipped, ExactlyOnce, deliveries_exactlyOnce
-/
import HelpdeskApi.Application.Claims
import HelpdeskApi.Application.SerialRuns
import HelpdeskApi.Store.Marks
import HelpdeskApi.Library.Alone

namespace Helpdesk

open Relational Txn Transition

/-- The key of a mark in the table. -/
def Mark.key (k : Mark) : RowKey :=
  .processed k.1 k.2

theorem Mark.key_injective {k k' : Mark} (same : k.key = k'.key) : k = k' := by
  obtain ⟨consumer, eventId⟩ := k
  obtain ⟨consumer', eventId'⟩ := k'
  cases same
  rfl

/-- The `i`-th session is an attempt at the work `k` marks, and took effect. -/
def Effective (c : Config ticketing) (k : Mark) (i : Nat) : Prop :=
  ∃ s out, c.sessions[i]? = some s ∧ s.job.useCase.mark = some k ∧ s.status = .committed out ∧
    isAlreadyProcessed out = false

/-- The `i`-th session is an attempt at the work `k` marks, and ended as already processed without having
    written anything. -/
def Skipped (c : Config ticketing) (k : Mark) (i : Nat) : Prop :=
  ∃ s out, c.sessions[i]? = some s ∧ s.job.useCase.mark = some k ∧ s.status = .committed out ∧
    isAlreadyProcessed out = true ∧ c.writesOf i = []

/-- What has to hold of the work `k` marks, in every configuration reached from `db₀`. -/
structure ExactlyOnce (db₀ : Db) (c : Config ticketing) (k : Mark) : Prop where
  /-- At most one attempt takes effect, and none if the event was processed before. -/
  once : ∀ i j, Effective c k i → Effective c k j → i = j
  fresh : ∀ i, Effective c k i → db₀.processed.find? k = none
  /-- Every other attempt that commits is skipped and writes nothing. -/
  ended : ∀ i s out, c.sessions[i]? = some s → s.job.useCase.mark = some k → s.status = .committed out →
    (Effective c k i ∨ Skipped c k i) ∧ (c.db.processed.find? k).isSome = true
  /-- The mark is there if the event was processed before, or if an attempt took effect: an attempt that
      died has left none. -/
  marked_iff : (c.db.processed.find? k).isSome = true ↔
    (db₀.processed.find? k).isSome = true ∨ ∃ i, Effective c k i
  /-- Once the mark is there, whatever commits later is skipped, -/
  later : (c.db.processed.find? k).isSome = true → ∀ history c', Run Config.step c history c' →
    ∀ i s out, c'.sessions[i]? = some s → s.job.useCase.mark = some k → s.status = .committed out →
      ¬c.Committed i → Skipped c' k i
  /-- and an attempt that waits for its claim need not wait longer to be skipped. -/
  waiting : (c.db.processed.find? k).isSome = true →
    ∀ i e, c.sessions[i]? = some (.start e) → e.useCase.mark = some k →
      ∃ c' c'', c.step (.call i 0) = some c' ∧ c'.step (.finish i) = some c'' ∧ c''.db = c.db ∧
        Skipped c'' k i
  /-- While the mark is not there, and nobody at work has claimed it, the next attempt gets the claim, -/
  claimed : c.db.processed.find? k = none →
    (∀ (j : Nat) (t : Session ticketing) rest, c.sessions[j]? = some t →
      t.status = .running rest → ¬t.Marks Write.marks k.key) →
    ∀ i e, c.sessions[i]? = some (.start e) → e.useCase.mark = some k →
      ∃ c' s, c.step (.call i 0) = some c' ∧ c'.sessions[i]? = some s ∧ s.Marks Write.marks k.key
  /-- and with no other session at work it does what serving it does. -/
  retried : c.db.processed.find? k = none →
    ∀ i e, c.sessions[i]? = some (.start e) → e.useCase.mark = some k → c.Alone i →
      ∀ out db', serve e c.db = (some out, db') → commitsResult out = true →
        ∃ history c', Run Config.step c history c' ∧ c'.db = db' ∧ Effective c' k i

section Traces

/-- An event in which a claim came too late. -/
def tooLate (k : Mark) : repositories.transactional.Event → Prop
  | ⟨.processedClaim consumer eventId _, o⟩ => (consumer, eventId) = k ∧ o.reply = false
  | _ => False

/-- What an execution has claimed so far: only its own mark, and nothing was written if the claim came too
    late. -/
structure ClaimsOwn (e : Execution) (trace : List repositories.transactional.Event) : Prop where
  marks : ∀ w ∈ repositories.transactional.pending trace, ∀ k : Mark, k.key ∈ w.marks →
    e.useCase.mark = some k
  late : ∀ k, (∃ ev ∈ trace, tooLate k ev) → repositories.transactional.pending trace = []

/-- How an execution with a mark ends: skipped after a claim that came too late, or with the mark set. -/
def EndsClaimed (e : Execution) (trace : List repositories.transactional.Event)
    (out : Except TicketingError Output) : Prop :=
  ∀ k : Mark, e.useCase.mark = some k →
    (isAlreadyProcessed out = true ∧ ∃ ev ∈ trace, tooLate k ev) ∨
      (isAlreadyProcessed out = false ∧
        ∃ w ∈ repositories.transactional.pending trace, k.key ∈ w.marks)

/-- What holds of a trace in which no claim came too late. -/
structure NeverLate (e : Execution) (trace : List repositories.transactional.Event) : Prop where
  own : ∀ w ∈ repositories.transactional.pending trace, ∀ k : Mark, k.key ∈ w.marks →
    e.useCase.mark = some k
  never : ∀ k, ¬∃ ev ∈ trace, tooLate k ev

theorem NeverLate.claimsOwn {e : Execution} {trace : List repositories.transactional.Event}
    (neverLate : NeverLate e trace) : ClaimsOwn e trace :=
  ⟨neverLate.own, fun k late => absurd late (neverLate.never k)⟩

/-- An event that is no claim sets no mark and is not too late for one. -/
theorem NeverLate.other {e : Execution} {trace : List repositories.transactional.Event}
    {ev : repositories.transactional.Event} (neverLate : NeverLate e trace)
    (produced : repositories.transactional.Plausible e.ctx ev) (noClaim : ev.call.isClaim = false) :
    NeverLate e (trace ++ [ev]) := by
  constructor
  · intro w written k mark
    rw [Store.pending_append, List.mem_append] at written
    rcases written with old | new
    · exact neverLate.own w old k mark
    · obtain ⟨⟨db, answered⟩, _⟩ := repositories.plausible_transactional produced
      obtain ⟨t, isClaim⟩ := claim_of_mark answered new mark
      rw [isClaim] at noClaim
      cases noClaim
  · rintro k ⟨ev', member, late⟩
    rcases List.mem_append.mp member with old | new
    · exact neverLate.never k ⟨ev', old, late⟩
    · rw [List.mem_singleton.mp new] at late
      obtain ⟨c, o⟩ := ev
      cases c with
      | processedClaim consumer eventId t => cases noClaim
      | _ => exact late

theorem neverLate_start (e : Execution) : NeverLate e [] where
  own := fun w written => by cases written
  never := fun k late => by
    obtain ⟨ev, member, _⟩ := late
    cases member

/-- The mark an execution has set once its claim was answered `true`. -/
theorem NeverLate.claimed {e : Execution} {k : Mark} (marked : e.useCase.mark = some k)
    {o : Outcome sig Write RowKey (.processedClaim k.1 k.2 e.useCase.tenantId)} (granted : o.reply = true)
    (wrote : o.writes = [.insertProcessed
      { consumer := k.1, eventId := k.2, tenantId := e.useCase.tenantId }]) :
    NeverLate e [⟨_, o⟩] := by
  constructor
  · intro w written k' mark
    rw [← List.nil_append [_], Store.pending_append, wrote] at written
    cases List.mem_singleton.mp written
    rw [Mark.key_injective (List.mem_singleton.mp mark)]
    exact marked
  · rintro k' ⟨ev, member, late⟩
    rw [List.mem_singleton.mp member] at late
    exact Bool.noConfusion (late.2.symm.trans granted)

/-- Every execution claims only its own mark, and ends accordingly. -/
theorem Execution.claims (e : Execution) : ClaimsOwn e [] ∧
    e.program.Satisfies (repositories.transactional.Plausible e.ctx) (ClaimsOwn e) (EndsClaimed e) [] := by
  refine ⟨(neverLate_start e).claimsOwn, ?_⟩
  cases marked : e.useCase.mark with
  | none =>
      have kept := (e.noClaim marked).satisfies (I := NeverLate e)
        (fun trace ev produced noClaim neverLate => neverLate.other produced noClaim) (neverLate_start e)
      exact kept.mono (fun _ neverLate => neverLate.claimsOwn) fun _ _ _ k isMark => by
        cases marked.symm.trans isMark
  | some k =>
      obtain ⟨next, shape⟩ := e.claimFirst marked
      rw [shape.program]
      intro o produced
      obtain ⟨⟨db, answered⟩, _⟩ := repositories.plausible_transactional produced
      rcases exec_claim answered with ⟨granted, wrote, _⟩ | ⟨denied, wrote, _⟩
      · have first := NeverLate.claimed marked granted wrote
        have sets : ∃ w ∈ repositories.transactional.pending [⟨_, o⟩], k.key ∈ w.marks :=
          ⟨_, by rw [← List.nil_append [_], Store.pending_append, wrote]; exact List.mem_singleton.mpr rfl,
            List.mem_singleton.mpr rfl⟩
        have kept := shape.first.satisfies
          (I := fun trace => NeverLate e trace ∧ ∃ w ∈ repositories.transactional.pending trace, k.key ∈ w.marks)
          (fun trace ev produced noClaim now => ⟨now.1.other produced noClaim, by
            obtain ⟨w, written, mark⟩ := now.2
            exact ⟨w, by rw [Store.pending_append]; exact List.mem_append_left _ written, mark⟩⟩)
          ⟨first, sets⟩
        refine ⟨first.claimsOwn, ?_⟩
        rw [granted]
        exact kept.mono (fun _ now => now.1.claimsOwn) fun _ _ now k' isMark => by
          cases marked.symm.trans isMark
          exact .inr ⟨now.2, now.1.2⟩
      · have nothing : repositories.transactional.pending [⟨_, o⟩] = [] := by
          rw [← List.nil_append [_], Store.pending_append, wrote]
          rfl
        have late : ∃ ev ∈ [(⟨_, o⟩ : repositories.transactional.Event)], tooLate k ev :=
          ⟨_, List.mem_singleton.mpr rfl, rfl, denied⟩
        have own : ClaimsOwn e [⟨_, o⟩] := by
          refine ⟨fun w written key mark => ?_, fun _ _ => nothing⟩
          rw [nothing] at written
          cases written
        obtain ⟨out, ends, skipped⟩ := shape.tooLate
        refine ⟨own, ?_⟩
        rw [denied, ends]
        intro k' isMark
        cases marked.symm.trans isMark
        exact .inl ⟨skipped, late⟩

end Traces

section Runs

variable {db₀ : Db} {jobs : List Execution} {history : List (Config ticketing × Move ticketing)}
  {c : Config ticketing}

theorem claims_of_run (run : Run Config.step (.start db₀ jobs) history c) :
    c.Conforms ClaimsOwn EndsClaimed :=
  Config.conforms_of_run Execution.claims run

theorem once_of_run (run : Run Config.step (.start db₀ jobs) history c) :
    c.OnceOnly Write.marks Db.marked db₀ :=
  Config.onceOnly_of_run marking repositories.deferred_transactional careful run

/-- An attempt took effect exactly if it committed the mark. -/
theorem effective_iff (run : Run Config.step (.start db₀ jobs) history c) (k : Mark) (i : Nat) :
    Effective c k i ↔ c.MarkedBy Write.marks i k.key := by
  constructor
  · rintro ⟨s, out, found, marked, status, effective⟩
    rw [Config.markedBy_iff found status]
    have ends := ((claims_of_run run i s found).committed out status).1 k marked
    rcases ends with ⟨skipped, _⟩ | ⟨_, sets⟩
    · cases skipped.symm.trans effective
    · exact sets
  · rintro ⟨⟨s, out, found, status⟩, sets⟩
    rw [Config.writesOf_eq found] at sets
    have conforms := claims_of_run run i s found
    obtain ⟨w, written, mark⟩ := sets
    have marked := conforms.trace.marks w written k mark
    refine ⟨s, out, found, marked, status, ?_⟩
    rcases (conforms.committed out status).1 k marked with ⟨_, late⟩ | ⟨effective, _⟩
    · rw [conforms.trace.late k late] at written
      cases written
    · exact effective

/-- Every attempt that committed took effect or was skipped. -/
theorem effective_or_skipped (run : Run Config.step (.start db₀ jobs) history c) {k : Mark} {i : Nat}
    {s : Session ticketing} {out : Except TicketingError Output} (found : c.sessions[i]? = some s)
    (marked : s.job.useCase.mark = some k) (status : s.status = .committed out) :
    Effective c k i ∨ Skipped c k i := by
  have conforms := claims_of_run run i s found
  rcases (conforms.committed out status).1 k marked with ⟨skipped, late⟩ | ⟨effective, _⟩
  · exact .inr ⟨s, out, found, marked, status, skipped,
      (Config.writesOf_eq found).trans (conforms.trace.late k late)⟩
  · exact .inl ⟨s, out, found, marked, status, effective⟩

/-- What a claim that came too late has found stays in the table. -/
theorem marked_of_late (run : Run Config.step (.start db₀ jobs) history c) (k : Mark) :
    ∀ (i : Nat) (s : Session ticketing), c.sessions[i]? = some s → (∃ ev ∈ s.trace, tooLate k ev) →
      Db.marked k.key c.db := by
  induction run with
  | start =>
      intro i s found late
      obtain ⟨job, _, rfl⟩ := Config.start_session found
      obtain ⟨ev, member, _⟩ := late
      cases member
  | @step history c c' m run taken ih =>
      have conforms := claims_of_run (run.step taken)
      revert conforms
      cases Config.step_stepped taken with
      | arrive job =>
          intro _ i s found late
          rcases c.getElem?_arrive job i found with old | ⟨_, rfl⟩
          · exact ih i s old late
          · obtain ⟨ev, member, _⟩ := late
            cases member
      | @call j choice t call next o at_j before answer =>
          intro conforms
          have produced := List.mem_of_getElem? answer
          have sameDb : repositories.transactional.applyAll o.effects c.db = c.db := by
            rw [repositories.deferred_transactional _ _ _ _ o produced]
            rfl
          simp only [sameDb]
          refine Config.forall_put at_j (fun i s found _ => ih i s found) ?_
          rintro ⟨ev, member, late⟩
          rcases List.mem_append.mp member with old | new
          · exact ih j t at_j ⟨ev, old, late⟩
          · have at_j' : (c.put j (t.advance ⟨call, o⟩ (next o.reply))).sessions[j]? =
                some (t.advance ⟨call, o⟩ (next o.reply)) := by rw [Config.getElem?_put at_j, if_pos rfl]
            -- a session that was too late has written nothing, so what it saw is what is committed
            have nothing := (conforms j _ at_j').trace.late k ⟨ev, member, late⟩
            rw [Session.advance_trace, Store.pending_append, List.append_eq_nil_iff] at nothing
            have sameView : t.view c.db = c.db := by rw [Session.view, nothing.1]; rfl
            rw [List.mem_singleton.mp new] at late
            obtain ⟨_, answered, _⟩ := repositories.mem_inTransaction.mp produced
            rw [sameView] at answered
            cases call with
            | processedClaim consumer eventId tenantId =>
                obtain ⟨rfl, denied⟩ := late
                rcases exec_claim answered with ⟨granted, _⟩ | ⟨_, _, there⟩
                · exact Bool.noConfusion (denied.symm.trans granted)
                · exact there
            | _ => exact late.elim
      | @commit j t out at_j before commits =>
          intro _
          refine Config.forall_put at_j (fun i s found _ late => ?_) fun late => ?_
          · exact (marking.view_iff t c.db k.key).mpr (.inl (ih i s found late))
          · exact (marking.view_iff t c.db k.key).mpr (.inl (ih j t at_j late))
      | @rollback j t out at_j before commits =>
          intro _
          exact Config.forall_put at_j (fun i s found _ => ih i s found) (ih j t at_j)
      | @abort j t rest at_j before =>
          intro _
          exact Config.forall_put at_j (fun i s found _ => ih i s found) (ih j t at_j)

/-- Once an attempt has committed, its event is marked. -/
theorem marked_of_committed (run : Run Config.step (.start db₀ jobs) history c) {k : Mark} {i : Nat}
    {s : Session ticketing} {out : Except TicketingError Output} (found : c.sessions[i]? = some s)
    (marked : s.job.useCase.mark = some k) (status : s.status = .committed out) : Db.marked k.key c.db := by
  have conforms := claims_of_run run i s found
  rcases (conforms.committed out status).1 k marked with ⟨_, late⟩ | ⟨_, sets⟩
  · exact marked_of_late run k i s found late
  · have log := Config.commitLog_of_run repositories.deferred_transactional run
    exact (log.taken_iff marking k.key).mpr (.inr ⟨i, (Config.markedBy_iff found status _).mpr sets⟩)

/-- A running session holds the key of a mark only if it has set the mark. -/
theorem unheld_of_unmarked (run : Run Config.step (.start db₀ jobs) history c) {k : Mark} (i : Nat)
    (unmarked : ∀ (j : Nat) (t : Session ticketing) rest, c.sessions[j]? = some t →
      t.status = .running rest → ¬t.Marks Write.marks k.key) : c.heldByOthers i k.key = false := by
  by_contra held
  rw [Bool.not_eq_false, Config.heldByOthers_iff] at held
  obtain ⟨j, t, _, at_j, holds⟩ := held
  obtain ⟨job, trace, status⟩ := t
  cases status with
  | running rest =>
      rw [Session.holds_of_running rfl, locked_of_run run at_j, List.mem_flatMap] at holds
      obtain ⟨w, written, key⟩ := holds
      refine unmarked j _ rest at_j rfl ⟨w, written, ?_⟩
      cases w with
      | insertProcessed row => exact key
      | _ => simp [Write.keys, Mark.key] at key
  | committed out => cases holds
  | rolledBack out => cases holds
  | aborted => cases holds

/-- The claim of an attempt, once nobody holds its key. -/
theorem step_claim {k : Mark} {i : Nat} {e : Execution} (found : c.sessions[i]? = some (.start e))
    (free : c.heldByOthers i k.key = false) {next : Bool → Proc sig (Except TicketingError Output)}
    (shape : ClaimFirst k e.useCase.tenantId e.program next) {granted : Bool} {writes : List Write}
    (answered : exec e.ctx (.processedClaim k.1 k.2 e.useCase.tenantId) c.db = some (granted, writes)) :
    ∃ s : Session ticketing, c.step (.call i 0) = some (c.put i s) ∧ s.job = e ∧
      s.status = .running (next granted) ∧ repositories.transactional.pending s.trace = writes := by
  let o : Outcome sig Write RowKey (.processedClaim k.1 k.2 e.useCase.tenantId) :=
    { reply := granted, writes := writes, effects := [], locks := writes.flatMap Write.keys }
  have running : (Session.start (A := ticketing) e).status =
      .running (.call (.processedClaim k.1 k.2 e.useCase.tenantId) next) := by
    rw [Session.start_status]
    exact congrArg _ shape.program
  have answer : repositories.inTransaction e.ctx (c.heldByOthers i)
      (.processedClaim k.1 k.2 e.useCase.tenantId) c.db = [o] := by
    have open_ : (Call.wants (.processedClaim k.1 k.2 e.useCase.tenantId) c.db).any (c.heldByOthers i) =
        false := by
      simpa [Call.wants, Mark.key] using free
    unfold Handler.inTransaction
    rw [if_neg (by simp [open_])]
    simp only [answered]
    rfl
  refine ⟨(Session.start e).advance ⟨_, o⟩ (next granted), ?_, rfl, rfl, List.append_nil writes⟩
  exact (@Config.Stepped.call ticketing c i 0 _ _ _ o found running (congrArg (·[0]?) answer)).step

/-- An attempt whose event is marked is skipped, as soon as it makes its claim. -/
theorem skipped_of_marked (run : Run Config.step (.start db₀ jobs) history c) {k : Mark}
    (there : (c.db.processed.find? k).isSome = true) {i : Nat} {e : Execution}
    (found : c.sessions[i]? = some (.start e)) (marked : e.useCase.mark = some k) :
    ∃ c' c'', c.step (.call i 0) = some c' ∧ c'.step (.finish i) = some c'' ∧ c''.db = c.db ∧
      Skipped c'' k i := by
  obtain ⟨row, stored⟩ := Option.isSome_iff_exists.mp there
  have once := once_of_run run
  have free : c.heldByOthers i k.key = false :=
    unheld_of_unmarked run i fun j t rest at_j running sets => once.running j t rest k.key at_j running sets there
  obtain ⟨next, shape⟩ := e.claimFirst marked
  obtain ⟨out, ends, skipped⟩ := shape.tooLate
  obtain ⟨s, claimed, rfl, running, nothing⟩ :=
    step_claim found free shape (exec_processedClaim_again rfl stored)
  have at_i : (c.put i s).sessions[i]? = some s := by rw [Config.getElem?_put found, if_pos rfl]
  have view : s.view (c.put i s).db = c.db := by rw [Session.view, nothing]; rfl
  have finished := (Config.Stepped.commit at_i (running.trans (congrArg _ ends)) rfl).step
  have at_i' : ((c.put i s).put i { s with status := .committed (.ok out) }).sessions[i]? =
      some { s with status := .committed (.ok out) } := by rw [Config.getElem?_put at_i, if_pos rfl]
  exact ⟨_, _, claimed, finished, view, _, .ok out, at_i', marked, rfl, skipped,
    (Config.writesOf_eq at_i').trans nothing⟩

/-- A retry gets the claim while the mark is not there and nobody at work has claimed it. -/
theorem claimed_of_unmarked (run : Run Config.step (.start db₀ jobs) history c) {k : Mark}
    (absent : c.db.processed.find? k = none)
    (unmarked : ∀ (j : Nat) (t : Session ticketing) rest, c.sessions[j]? = some t →
      t.status = .running rest → ¬t.Marks Write.marks k.key)
    {i : Nat} {e : Execution} (found : c.sessions[i]? = some (.start e)) (marked : e.useCase.mark = some k) :
    ∃ c' s, c.step (.call i 0) = some c' ∧ c'.sessions[i]? = some s ∧ s.Marks Write.marks k.key := by
  obtain ⟨next, shape⟩ := e.claimFirst marked
  obtain ⟨s, claimed, _, _, wrote⟩ := step_claim found (unheld_of_unmarked run i unmarked) shape
    (exec_processedClaim_first rfl absent)
  refine ⟨_, s, claimed, by rw [Config.getElem?_put found, if_pos rfl], ?_⟩
  unfold Session.Marks
  rw [wrote]
  exact ⟨_, List.mem_singleton.mpr rfl, List.mem_singleton.mpr rfl⟩

/-- An execution served on a database without its mark does not end as already processed. -/
theorem effective_of_serve {e : Execution} {k : Mark} (marked : e.useCase.mark = some k) {db db' : Db}
    (absent : db.processed.find? k = none) {out : Except TicketingError Output}
    (served : serve e db = (some out, db')) : isAlreadyProcessed out = false := by
  obtain ⟨next, shape⟩ := e.claimFirst marked
  unfold serve Handler.transact at served
  rw [shape.program, run_exec (exec_processedClaim_first rfl absent)] at served
  split at served
  · cases served
  · rename_i result ran
    cases served
    exact shape.first.result ran

/-- In every configuration of every run, the database is what the committed sessions wrote, and the work
    each mark stands for has been done at most once. -/
theorem deliveries_exactlyOnce (db₀ : Db) (jobs : List Execution)
    (history : List (Config ticketing × Move ticketing)) (c : Config ticketing)
    (run : Run Config.step (.start db₀ jobs) history c) :
    Config.CommitLog db₀ (Config.commitsOf history) c ∧ ∀ k, ExactlyOnce db₀ c k := by
  have log := Config.commitLog_of_run repositories.deferred_transactional run
  have once := once_of_run run
  refine ⟨log, fun k => ?_⟩
  constructor
  · intro i j first second
    exact once.unique i j k.key ((effective_iff run k i).mp first) ((effective_iff run k j).mp second)
  · intro i effective
    have unmarked := once.fresh i k.key ((effective_iff run k i).mp effective)
    simpa [Mark.key, Db.marked] using unmarked
  · intro i s out found marked status
    exact ⟨effective_or_skipped run found marked status, marked_of_committed run found marked status⟩
  · refine (log.taken_iff marking k.key).trans (or_congr_right ?_)
    exact exists_congr fun i => (effective_iff run k i).symm
  · intro there history' c' later i s out found marked status unfinished
    apply (effective_or_skipped (run.append later) found marked status).resolve_left
    intro effective
    exact unfinished (Config.committed_of_taken marking repositories.deferred_transactional careful run later
      there ((effective_iff (run.append later) k i).mp effective))
  · intro there i e found marked
    exact skipped_of_marked run there found marked
  · intro absent unmarked i e found marked
    exact claimed_of_unmarked run absent unmarked found marked
  · intro absent i e found marked alone out db' served commits
    have alone' : repositories.transact e.ctx commitsResult e.program c.db = (some out, db') := served
    obtain ⟨history', c', s, later, sameDb, found', rfl, status⟩ := Config.transact_alone found alone alone'
    rw [if_pos commits] at status
    exact ⟨history', c', later, sameDb, s, out, found', marked, status, effective_of_serve marked absent served⟩

end Runs

section Example

/-- A ticket has been created. -/
def createdDb : Db :=
  (serve (exampleExecution 0 (.createTicket ⟨⟨1⟩, ⟨2⟩, "Hola", "No entra", .HIGH⟩)) .empty).2

/-- Its event, delivered to two workers. -/
def twoDeliveries : List Execution :=
  [exampleExecution 1 (.startSlaTimers ⟨102, ⟨1⟩, ⟨100⟩, .HIGH, 0⟩),
    exampleExecution 2 (.startSlaTimers ⟨102, ⟨1⟩, ⟨100⟩, .HIGH, 0⟩)]

/-- The first worker has claimed the event and dies, the second one does the work. -/
def retriedDelivery : List (Move ticketing) :=
  [.call 0 0, .abort 0, .call 1 0, .call 1 0, .call 1 0, .call 1 0, .finish 1]

theorem deliveries_exactlyOnce_retriedDelivery :
    ∃ history, ∃ c : Config ticketing, Run Config.step (.start createdDb twoDeliveries) history c ∧
      c.db.timers.rows.length = 2 ∧ ExactlyOnce createdDb c (START_SLA_CONSUMER, 102) := by
  have possible : (play Config.step (.start (A := ticketing) createdDb twoDeliveries) retriedDelivery).map
      (fun c => c.db.timers.rows.length) = some 2 := by decide
  obtain ⟨c, played, timers⟩ := Option.map_eq_some_iff.mp possible
  have run := play_run played
  exact ⟨_, c, run, timers, (deliveries_exactlyOnce createdDb twoDeliveries _ c run).2 (START_SLA_CONSUMER, 102)⟩

end Example

end Helpdesk
