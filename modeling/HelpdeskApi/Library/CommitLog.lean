/-
Module: HelpdeskApi.Library.CommitLog
Layer: Library
Purpose: What interleaved transactions add up to. Sessions only move forward (`Later`), the database is
  what the committed sessions wrote, in the order of their commits (`CommitLog`), and where a store hands
  out only keys nobody else holds, no two running sessions hold the same key (`Exclusive`).
Trusted boundary: none
Main exports: Session.Later, Config.later_of_run, Config.calling, Config.Commits, Config.commitsOf,
  Config.CommitLog, Config.commitLog_of_run, Store.Deferred, Store.Careful, Config.exclusive_of_run
-/
import HelpdeskApi.Library.Traces
import Mathlib.Data.List.Nodup

namespace Txn

open Transition

variable {A : App}

namespace Store

variable {S : Signature} (σ : Store S)

/-- Writes wait for the commit. -/
def Deferred : Prop :=
  ∀ ctx held (c : S.Call) db, ∀ o ∈ σ.answers ctx held c db, o.effects = []

/-- Only keys nobody else holds are handed out. -/
def Careful : Prop :=
  ∀ ctx held (c : S.Call) db, ∀ o ∈ σ.answers ctx held c db, ∀ k ∈ o.locks, held k = false

end Store

namespace Session

/-- A session at a later time: the same job with more calls made, and unchanged once it has ended. -/
structure Later (s s' : Session A) : Prop where
  job : s'.job = s.job
  trace : s.trace <+: s'.trace
  ended : (∀ rest, s.status ≠ .running rest) → s' = s

theorem Later.refl (s : Session A) : s.Later s := ⟨rfl, List.prefix_rfl, fun _ => rfl⟩

theorem Later.trans {s s' s'' : Session A} (first : s.Later s') (second : s'.Later s'') : s.Later s'' where
  job := second.job.trans first.job
  trace := first.trace.trans second.trace
  ended done := by
    have same := first.ended done
    exact (second.ended fun rest => same ▸ done rest).trans same

/-- What a committed session is later. -/
theorem Later.committed {s s' : Session A} (later : s.Later s') {out : A.Out}
    (committed : s.status = .committed out) : s' = s :=
  later.ended fun rest running => by simp [committed] at running

/-- What counts later counted before. -/
theorem Later.alive {s s' : Session A} (later : s.Later s') (alive : s'.Alive) : s.Alive := by
  by_cases ended : ∀ rest, s.status ≠ .running rest
  · cases later.ended ended
    exact alive
  · simp only [not_forall, not_not] at ended
    exact .inl ended

end Session

namespace Config

variable {c c' : Config A} {m : Move A}

section Later

/-- A session that is put in the place of an earlier stage of it. -/
theorem later_put {i j : Nat} {s t u : Session A} (at_j : c.sessions[j]? = some t) (moved : t.Later u)
    (found : c.sessions[i]? = some s) : ∃ s', (c.put j u).sessions[i]? = some s' ∧ s.Later s' := by
  rw [getElem?_put at_j]
  by_cases same : i = j
  · subst same
    cases found.symm.trans at_j
    exact ⟨u, if_pos rfl, moved⟩
  · exact ⟨s, (if_neg same).trans found, .refl s⟩

/-- Sessions only move forward. -/
theorem later_of_step (taken : c.step m = some c') {i : Nat} {s : Session A}
    (found : c.sessions[i]? = some s) : ∃ s', c'.sessions[i]? = some s' ∧ s.Later s' := by
  have inside := (List.getElem?_eq_some_iff.mp found).1
  cases step_stepped taken with
  | arrive job =>
      refine ⟨s, ?_, .refl s⟩
      simp only
      rw [List.getElem?_append_left inside, found]
  | @call j choice t k next o at_j running answer =>
      exact later_put at_j ⟨rfl, List.prefix_append _ _, fun ended => absurd running (ended _)⟩ found
  | commit at_j running commits =>
      exact later_put at_j ⟨rfl, List.prefix_rfl, fun ended => absurd running (ended _)⟩ found
  | rollback at_j running commits =>
      exact later_put at_j ⟨rfl, List.prefix_rfl, fun ended => absurd running (ended _)⟩ found
  | abort at_j running =>
      exact later_put at_j ⟨rfl, List.prefix_rfl, fun ended => absurd running (ended _)⟩ found

/-- A session after a step was there before, or it has just arrived. -/
theorem earlier_of_step (taken : c.step m = some c') {i : Nat} {s' : Session A}
    (found : c'.sessions[i]? = some s') :
    (∃ s, c.sessions[i]? = some s ∧ s.Later s') ∨
      ∃ job, m = .arrive job ∧ i = c.sessions.length ∧ s' = .start job := by
  by_cases inside : i < c.sessions.length
  · obtain ⟨s'', found', later⟩ := later_of_step taken (List.getElem?_eq_getElem inside)
    cases found.symm.trans found'
    exact .inl ⟨_, List.getElem?_eq_getElem inside, later⟩
  · have beyond := (List.getElem?_eq_some_iff.mp found).1
    cases step_stepped taken with
    | arrive job =>
        rcases c.getElem?_arrive job i found with old | ⟨isLast, isStart⟩
        · exact absurd (List.getElem?_eq_some_iff.mp old).1 inside
        · exact .inr ⟨job, rfl, isLast, isStart⟩
    | call _ _ _ => simp [put] at beyond; omega
    | commit _ _ _ => simp [put] at beyond; omega
    | rollback _ _ _ => simp [put] at beyond; omega
    | abort _ _ => simp [put] at beyond; omega

/-- What a session has done after a step it had done before, but for the call that the step may be. -/
theorem trace_of_step (taken : c.step m = some c') {i : Nat} {s' : Session A} (found : c'.sessions[i]? = some s') :
    (s'.trace = [] ∨ ∃ s, c.sessions[i]? = some s ∧ s'.job = s.job ∧ s'.trace = s.trace) ∨
      ∃ s rest ev, c.sessions[i]? = some s ∧ s'.job = s.job ∧ s.status = .running rest ∧ s'.trace = s.trace ++ [ev] ∧
        ev.outcome ∈ A.store.answers (A.ctx s.job) (c.heldByOthers i) ev.call (s.view c.db) := by
  have same {j : Nat} {t : Session A} (at_j : c.sessions[j]? = some t) (status : Status A.sig A.Out)
      (found : (c.put j { t with status := status }).sessions[i]? = some s') :
      ∃ s, c.sessions[i]? = some s ∧ s'.job = s.job ∧ s'.trace = s.trace := by
    rw [getElem?_put at_j] at found
    split at found
    · rename_i isSelf
      cases found
      exact ⟨t, isSelf ▸ at_j, rfl, rfl⟩
    · exact ⟨s', found, rfl, rfl⟩
  cases step_stepped taken with
  | arrive job =>
      rcases c.getElem?_arrive job i found with old | ⟨_, rfl⟩
      · exact .inl (.inr ⟨s', old, rfl, rfl⟩)
      · exact .inl (.inl rfl)
  | @call j choice t k next o at_j running answer =>
      change (c.put j _).sessions[i]? = some s' at found
      rw [getElem?_put at_j] at found
      split at found
      · rename_i isSelf
        cases found
        subst isSelf
        exact .inr ⟨t, _, ⟨k, o⟩, at_j, rfl, running, rfl, List.mem_of_getElem? answer⟩
      · exact .inl (.inr ⟨s', found, rfl, rfl⟩)
  | commit at_j running commits => exact .inl (.inr (same at_j _ found))
  | rollback at_j running commits => exact .inl (.inr (same at_j _ found))
  | abort at_j running => exact .inl (.inr (same at_j _ found))

theorem later_of_run {history : List (Config A × Move A)} (run : Run step c history c') {i : Nat}
    {s : Session A} (found : c.sessions[i]? = some s) :
    ∃ s', c'.sessions[i]? = some s' ∧ s.Later s' := by
  refine run.invariant (I := fun c' => ∃ s', c'.sessions[i]? = some s' ∧ s.Later s') ⟨s, found, .refl s⟩ ?_
  rintro _ _ _ ⟨s', found', later⟩ taken
  obtain ⟨s'', found'', later'⟩ := later_of_step taken found'
  exact ⟨s'', found'', later.trans later'⟩

/-- Where everything has ended, only what arrives later is at work later. -/
theorem arrived_of_running {history : List (Config A × Move A)} (run : Run step c history c')
    (ended : ∀ s ∈ c.sessions, ∀ rest, s.status ≠ .running rest) {i : Nat} {s : Session A}
    (found : c'.sessions[i]? = some s) {rest : Proc A.sig A.Out} (running : s.status = .running rest) :
    c.sessions.length ≤ i := by
  by_contra inside
  rw [Nat.not_le] at inside
  have member : c.sessions[i] ∈ c.sessions := List.getElem_mem inside
  obtain ⟨s', found', later⟩ := later_of_run run (List.getElem?_eq_getElem inside)
  cases found.symm.trans found'
  have same := later.ended (ended _ member)
  exact ended _ member rest (same ▸ running)

/-- Only an arrival adds a session. -/
theorem length_of_step (taken : c.step m = some c') (present : ∀ job, m ≠ .arrive job) :
    c'.sessions.length = c.sessions.length := by
  cases step_stepped taken with
  | arrive job => exact absurd rfl (present job)
  | call _ _ _ => exact List.length_set
  | commit _ _ _ => exact List.length_set
  | rollback _ _ _ => exact List.length_set
  | abort _ _ => exact List.length_set

/-- What holds of the jobs of all sessions held of the jobs of the earlier ones. -/
theorem forall_job_of_later {P : A.Job → Prop} {history : List (Config A × Move A)}
    (run : Run step c history c') (all : ∀ s ∈ c'.sessions, P s.job) : ∀ s ∈ c.sessions, P s.job := by
  intro s inside
  obtain ⟨i, found⟩ := List.mem_iff_getElem?.mp inside
  obtain ⟨s', found', later⟩ := later_of_run run found
  exact later.job ▸ all s' (List.mem_of_getElem? found')

theorem length_le_of_run {history : List (Config A × Move A)} (run : Run step c history c') :
    c.sessions.length ≤ c'.sessions.length := by
  by_contra shorter
  rw [Nat.not_le] at shorter
  obtain ⟨s', found, _⟩ := later_of_run run (List.getElem?_eq_getElem shorter)
  simp at found

/-- In a run in which no job arrives, the sessions are those of the jobs it started with. -/
theorem job_of_run {db : A.store.Db} {jobs : List A.Job} {history : List (Config A × Move A)}
    (run : Run step (start db jobs) history c) (closed : c.sessions.length = jobs.length) {i : Nat}
    {s : Session A} (found : c.sessions[i]? = some s) : jobs[i]? = some s.job := by
  have inside := (List.getElem?_eq_some_iff.mp found).1
  rw [closed] at inside
  have started : (start db jobs).sessions[i]? = some (.start jobs[i]) := by
    simp [start, List.getElem?_eq_getElem inside]
  obtain ⟨s', found', later⟩ := later_of_run run started
  cases found.symm.trans found'
  rw [later.job, List.getElem?_eq_getElem inside]
  rfl

/-- If no job has arrived until now, none had arrived before. -/
theorem closed_of_later {db : A.store.Db} {jobs : List A.Job} {history history' : List (Config A × Move A)}
    (run : Run step (start db jobs) history c) (later : Run step c history' c')
    (closed : c'.sessions.length = jobs.length) : c.sessions.length = jobs.length := by
  have older := length_le_of_run run
  have newer := length_le_of_run later
  simp only [start, List.length_map] at older
  omega

end Later

/-- The call a move makes, if it makes one. -/
def calling (c : Config A) : Move A → Option A.sig.Call
  | .call i _ =>
      match c.sessions[i]? with
      | some s =>
          match s.status with
          | .running (.call k _) => some k
          | _ => none
      | none => none
  | _ => none

theorem running_of_calling {k : A.sig.Call} (calls : c.calling m = some k) :
    ∃ (i choice : Nat) (s : Session A) (next : A.sig.Reply k → Proc A.sig A.Out),
      m = .call i choice ∧ c.sessions[i]? = some s ∧ s.status = .running (.call k next) := by
  unfold calling at calls
  split at calls
  · rename_i i choice
    split at calls
    · rename_i s found
      split at calls
      · rename_i k' next running
        cases calls
        exact ⟨i, choice, s, next, rfl, found, running⟩
      · cases calls
    · cases calls
  · cases calls

section Log

/-- The session a move commits, if it does. -/
def committing (c : Config A) : Move A → Option Nat
  | .finish i =>
      match c.sessions[i]? with
      | some s =>
          match s.status with
          | .running (.done out) => if A.commits out then some i else none
          | _ => none
      | none => none
  | _ => none

/-- A move that commits finishes a session that has come to its end. -/
theorem done_of_committing {m : Move A} {i : Nat} (made : c.committing m = some i) :
    ∃ s out, m = .finish i ∧ c.sessions[i]? = some s ∧ s.status = .running (.done out) ∧ A.commits out = true := by
  cases m with
  | finish j =>
      simp only [committing] at made
      split at made
      · rename_i s found
        split at made
        · rename_i out running
          split at made
          · rename_i commits
            cases made
            exact ⟨s, out, rfl, found, running, commits⟩
          · cases made
        · cases made
      · cases made
  | _ => cases made

theorem committing_of_done {i : Nat} {s : Session A} {out : A.Out} (found : c.sessions[i]? = some s)
    (running : s.status = .running (.done out)) (commits : A.commits out = true) :
    c.committing (.finish i) = some i := by
  simp [committing, found, running, commits]

/-- What is asked of a session that is about to commit, by its job and its calls, and of the database it finds. -/
def Commits (asks : A.Job → List A.store.Event → A.store.Db → Prop) (c : Config A) : Move A → Prop
  | .finish i => ∀ s out, c.sessions[i]? = some s → s.status = .running (.done out) → A.commits out = true →
      asks s.job s.trace c.db
  | _ => True

/-- Where nothing is committed, nothing is asked. -/
theorem commits_of_silent {asks : A.Job → List A.store.Event → A.store.Db → Prop} {m : Move A}
    (silent : c.committing m = none) : c.Commits asks m := by
  cases m with
  | finish k =>
      intro s out found running commits
      cases silent.symm.trans (committing_of_done found running commits)
  | _ => trivial

theorem commits_iff {asks : A.Job → List A.store.Event → A.store.Db → Prop} {m : Move A} :
    c.Commits asks m ↔ ∀ i ∈ c.committing m, ∀ s ∈ c.sessions[i]?, asks s.job s.trace c.db := by
  cases made : c.committing m with
  | none => exact iff_of_true (commits_of_silent made) (fun i none => by cases none)
  | some i =>
      obtain ⟨s, out, rfl, found, running, commits⟩ := done_of_committing made
      constructor
      · intro asked j isMade t found'
        cases isMade
        cases found.symm.trans found'
        exact asked s out found running commits
      · intro asked t out' found' _ _
        exact asked i rfl t found'

instance (asks : A.Job → List A.store.Event → A.store.Db → Prop) [∀ job trace db, Decidable (asks job trace db)]
    (c : Config A) (m : Move A) : Decidable (c.Commits asks m) :=
  decidable_of_iff' _ commits_iff

/-- The sessions that were committed, in the order of their commits. -/
def commitsOf (history : List (Config A × Move A)) : List Nat :=
  history.filterMap fun entry => entry.1.committing entry.2

@[simp] theorem commitsOf_append (history : List (Config A × Move A)) (c : Config A) (m : Move A) :
    commitsOf (history ++ [(c, m)]) = commitsOf history ++ (c.committing m).toList := by
  simp only [commitsOf, List.filterMap_append, List.filterMap_cons, List.filterMap_nil]
  cases c.committing m <;> rfl

/-- What a session has written so far. -/
def writesOf (c : Config A) (i : Nat) : List A.store.Write :=
  (c.sessions[i]?).elim [] fun s => A.store.pending s.trace

theorem writesOf_eq {i : Nat} {s : Session A} (found : c.sessions[i]? = some s) :
    c.writesOf i = A.store.pending s.trace := by
  simp [writesOf, found]

theorem writesOf_put {i : Nat} {s : Session A} (found : c.sessions[i]? = some s) (s' : Session A) (j : Nat) :
    (c.put i s').writesOf j = if j = i then A.store.pending s'.trace else c.writesOf j := by
  unfold writesOf
  rw [getElem?_put found]
  split <;> rfl

theorem writesOf_put_status {i : Nat} {s : Session A} (found : c.sessions[i]? = some s)
    (status : Status A.sig A.Out) (j : Nat) : (c.put i { s with status := status }).writesOf j = c.writesOf j := by
  rw [writesOf_put found]
  split
  · rename_i isSelf
    rw [isSelf, writesOf_eq found]
  · rfl

theorem session_of_written {i : Nat} {w : A.store.Write} (written : w ∈ c.writesOf i) :
    ∃ s : Session A, c.sessions[i]? = some s ∧ w ∈ A.store.pending s.trace := by
  cases found : c.sessions[i]? with
  | none => simp [writesOf, found] at written
  | some s => exact ⟨s, rfl, writesOf_eq found ▸ written⟩

/-- What was written stays written. -/
theorem mem_writesOf_of_run {history : List (Config A × Move A)} (run : Run step c history c') {i : Nat}
    {w : A.store.Write} (written : w ∈ c.writesOf i) : w ∈ c'.writesOf i := by
  obtain ⟨s, found, pending⟩ := session_of_written written
  obtain ⟨s', found', later⟩ := later_of_run run found
  obtain ⟨more, same⟩ := later.trace
  rw [writesOf_eq found', ← same, Store.pending, List.flatMap_append]
  exact List.mem_append_left _ pending

/-- Whether the `i`-th session has committed. -/
def Committed (c : Config A) (i : Nat) : Prop :=
  ∃ s out, c.sessions[i]? = some s ∧ s.status = .committed out

theorem committed_of_map {flags : List Bool} (shown : c.sessions.map Session.isCommitted = flags) {i : Nat}
    (flag : flags[i]? = some true) : c.Committed i := by
  rw [← shown, List.getElem?_map, Option.map_eq_some_iff] at flag
  obtain ⟨s, found, committed⟩ := flag
  obtain ⟨out, status⟩ := s.isCommitted_iff.mp committed
  exact ⟨s, out, found, status⟩

theorem Committed.step {i : Nat} (committed : c.Committed i) (taken : c.step m = some c') :
    c'.Committed i ∧ c'.writesOf i = c.writesOf i := by
  obtain ⟨s, out, found, status⟩ := committed
  obtain ⟨s', found', later⟩ := later_of_step taken found
  cases later.committed status
  exact ⟨⟨s, out, found', status⟩, (writesOf_eq found').trans (writesOf_eq found).symm⟩

/-- A session is committed after a step if it was before, or if the step committed it. -/
theorem committed_step_iff (taken : c.step m = some c') (i : Nat) :
    c'.Committed i ↔ c.Committed i ∨ c.committing m = some i := by
  have kept (before : c.Committed i) := (before.step taken).1
  cases step_stepped taken with
  | arrive job =>
      refine ⟨?_, fun either => either.elim kept fun none => by cases none⟩
      rintro ⟨s, out, found, status⟩
      rcases c.getElem?_arrive job i found with old | ⟨_, rfl⟩
      · exact .inl ⟨s, out, old, status⟩
      · simp at status
  | @call j choice t k next o at_j running answer =>
      refine ⟨?_, fun either => either.elim kept fun none => by cases none⟩
      rintro ⟨s, out, found, status⟩
      change (c.put j _).sessions[i]? = some s at found
      rw [getElem?_put at_j] at found
      split at found
      · cases found
        simp at status
      · exact .inl ⟨s, out, found, status⟩
  | @commit j t out at_j running commits =>
      have made : c.committing (.finish j) = some j := by simp [committing, at_j, running, commits]
      constructor
      · rintro ⟨s, out', found, status⟩
        change (c.put j _).sessions[i]? = some s at found
        rw [getElem?_put at_j] at found
        split at found
        · rename_i same
          exact .inr (same ▸ made)
        · exact .inl ⟨s, out', found, status⟩
      · rintro (before | now)
        · exact kept before
        · cases made.symm.trans now
          exact ⟨{ t with status := .committed out }, out, by
            change (c.put i _).sessions[i]? = _
            rw [getElem?_put at_j, if_pos rfl], rfl⟩
  | @rollback j t out at_j running commits =>
      have made : c.committing (.finish j) = none := by simp [committing, at_j, running, commits]
      refine ⟨?_, fun either => either.elim kept fun now => by cases made.symm.trans now⟩
      rintro ⟨s, out', found, status⟩
      rw [getElem?_put at_j] at found
      split at found
      · cases found
        simp at status
      · exact .inl ⟨s, out', found, status⟩
  | @abort j t rest at_j running =>
      refine ⟨?_, fun either => either.elim kept fun none => by cases none⟩
      rintro ⟨s, out', found, status⟩
      rw [getElem?_put at_j] at found
      split at found
      · cases found
        simp at status
      · exact .inl ⟨s, out', found, status⟩

/-- The database after a step, where writes wait for the commit. -/
theorem db_step (deferred : A.store.Deferred) (taken : c.step m = some c') :
    c'.db = A.store.applyAll ((c.committing m).toList.flatMap c'.writesOf) c.db := by
  cases step_stepped taken with
  | arrive job => rfl
  | @call j choice t k next o at_j running answer =>
      have noEffects := deferred _ _ _ _ o (List.mem_of_getElem? answer)
      simp [noEffects, committing]
  | @commit j t out at_j running commits =>
      have made : c.committing (.finish j) = some j := by simp [committing, at_j, running, commits]
      have ended : (c.put j { t with status := .committed out }).sessions[j]? =
          some { t with status := .committed out } := by rw [getElem?_put at_j, if_pos rfl]
      rw [made, Option.toList_some, List.flatMap_singleton]
      exact congrArg (fun writes => A.store.applyAll writes c.db) (writesOf_eq ended).symm
  | @rollback j t out at_j running commits =>
      have made : c.committing (.finish j) = none := by simp [committing, at_j, running, commits]
      simp [made]
  | abort at_j running => rfl

/-- The database is what the committed sessions wrote, in this order. -/
structure CommitLog (db₀ : A.store.Db) (order : List Nat) (c : Config A) : Prop where
  db : c.db = A.store.applyAll (order.flatMap c.writesOf) db₀
  nodup : order.Nodup
  mem_iff : ∀ i, i ∈ order ↔ c.Committed i

theorem CommitLog.step {db₀ : A.store.Db} {order : List Nat} (deferred : A.store.Deferred)
    (log : CommitLog db₀ order c) (taken : c.step m = some c') :
    CommitLog db₀ (order ++ (c.committing m).toList) c' := by
  have unchanged : order.flatMap c'.writesOf = order.flatMap c.writesOf := by
    apply List.flatMap_congr
    intro i member
    exact (((log.mem_iff i).mp member).step taken).2
  constructor
  · rw [db_step deferred taken, List.flatMap_append, unchanged, Store.applyAll_append, ← log.db]
  · cases made : c.committing m with
    | none => simpa using log.nodup
    | some i =>
        rw [Option.toList_some, ← List.concat_eq_append]
        apply log.nodup.concat
        intro member
        -- what is about to commit is still running
        obtain ⟨s, out, found, status⟩ := (log.mem_iff i).mp member
        cases m with
        | finish j =>
            simp only [committing] at made
            split at made
            · rename_i t at_j
              split at made
              · rename_i running
                split at made
                · cases made
                  cases found.symm.trans at_j
                  simp [status] at running
                · cases made
              · cases made
            · cases made
        | _ => cases made
  · intro i
    rw [List.mem_append, log.mem_iff, committed_step_iff taken, Option.mem_toList]

/-- In every run the database is what the committed sessions wrote, in commit order. -/
theorem commitLog_of_run (deferred : A.store.Deferred) {db₀ : A.store.Db} {jobs : List A.Job}
    {history : List (Config A × Move A)} (run : Run step (start db₀ jobs) history c) :
    CommitLog db₀ (commitsOf history) c := by
  induction run with
  | start =>
      refine ⟨rfl, List.nodup_nil, fun i => iff_of_false (by simp [commitsOf]) ?_⟩
      rintro ⟨s, out, found, status⟩
      obtain ⟨job, _, rfl⟩ := start_session found
      simp at status
  | step run taken ih =>
      rw [commitsOf_append]
      exact ih.step deferred taken

end Log

section Locks

/-- No two running sessions hold the same key. -/
def Exclusive (c : Config A) : Prop :=
  ∀ (i j : Nat) (s t : Session A) (k : A.store.Key), i ≠ j → c.sessions[i]? = some s →
    c.sessions[j]? = some t → s.holds k = true → t.holds k = false

/-- Replacing a session by one that holds no more keys than it, or only keys that nobody else holds, keeps
    locks exclusive. -/
theorem Exclusive.put {i : Nat} {s s' : Session A} (exclusive : c.Exclusive) (found : c.sessions[i]? = some s)
    (held : ∀ k, s'.holds k = true → s.holds k = true ∨ c.heldByOthers i k = false) :
    (c.put i s').Exclusive := by
  have alone (j : Nat) (t : Session A) (k : A.store.Key) (other : j ≠ i) (at_j : c.sessions[j]? = some t)
      (holds : s'.holds k = true) : t.holds k = false := by
    rcases held k holds with before | free
    · exact exclusive i j s t k (Ne.symm other) found at_j before
    · by_contra taken
      have someone : c.heldByOthers i k = true :=
        (c.heldByOthers_iff i k).mpr ⟨j, t, other, at_j, by simpa using taken⟩
      simp [free] at someone
  intro j₁ j₂ t₁ t₂ k different at₁ at₂ holds
  rw [getElem?_put found] at at₁ at₂
  split at at₁
  · rename_i same
    cases at₁
    rw [if_neg (same ▸ Ne.symm different)] at at₂
    exact alone j₂ t₂ k (same ▸ Ne.symm different) at₂ holds
  · rename_i other
    split at at₂
    · cases at₂
      by_contra both
      have free := alone j₁ t₁ k other at₁ (by simpa using both)
      simp [free] at holds
    · exact exclusive j₁ j₂ t₁ t₂ k different at₁ at₂ holds

theorem Exclusive.step (careful : A.store.Careful) (exclusive : c.Exclusive) (taken : c.step m = some c') :
    c'.Exclusive := by
  cases step_stepped taken with
  | arrive job =>
      have holdsNothing (k : A.store.Key) : (Session.start job).holds k = false := by
        simp [Session.holds, Session.start]
      intro i j s t k different at_i at_j holds
      rcases c.getElem?_arrive job i at_i with old | ⟨_, rfl⟩
      · rcases c.getElem?_arrive job j at_j with old' | ⟨_, rfl⟩
        · exact exclusive i j s t k different old old' holds
        · exact holdsNothing k
      · simp [holdsNothing k] at holds
  | @call i choice s k next o found running answer =>
      apply exclusive.put found
      intro key holds
      rw [Session.holds_of_running (Session.advance_status s _ _), Session.advance_trace,
        Store.locked_append, List.mem_append] at holds
      rcases holds with before | now
      · exact .inl ((Session.holds_of_running running key).mpr before)
      · exact .inr (careful _ _ _ _ o (List.mem_of_getElem? answer) key now)
  | commit found running commits =>
      exact exclusive.put found fun key holds => by simp [Session.holds] at holds
  | rollback found running commits =>
      exact exclusive.put found fun key holds => by simp [Session.holds] at holds
  | abort found running =>
      exact exclusive.put found fun key holds => by simp [Session.holds] at holds

theorem exclusive_of_run (careful : A.store.Careful) {db₀ : A.store.Db} {jobs : List A.Job}
    {history : List (Config A × Move A)} (run : Run step (start db₀ jobs) history c) : c.Exclusive := by
  refine run.invariant ?_ fun _ _ _ exclusive taken => exclusive.step careful taken
  intro i j s t k _ at_i _ holds
  obtain ⟨job, _, rfl⟩ := start_session at_i
  simp [Session.holds, Session.start] at holds

end Locks

end Config

end Txn
