/-
Module: HelpdeskApi.Library.TwoCommits
Layer: Library
Purpose: Two transactions and nobody else, which both commit. One of them commits first, on what there was at
  the start, and the other on what this one has left. Before it commits, the first has only seen what there
  was at the start, and the second that or what the first has left. So what is asked of every commit is asked
  of these two sessions and of these two databases.
Trusted boundary: none
Main exports: Config.commitsOf_pair, Config.db_of_pair, Config.db_of_commit,
  Config.db_of_uncommitted, Config.meets_commits_iff
-/
import HelpdeskApi.Library.CommitLog

namespace Txn

open Transition

namespace Config

variable {A : App} {c c' : Config A}

/-- What has committed has written all it writes. -/
theorem committed_run {history : List (Config A × Move A)} {i : Nat} (committed : c.Committed i)
    (run : Run step c history c') : c'.Committed i ∧ c'.writesOf i = c.writesOf i := by
  induction run with
  | start => exact ⟨committed, rfl⟩
  | step _ taken ih =>
      obtain ⟨still, same⟩ := ih.1.step taken
      exact ⟨still, same.trans ih.2⟩

/-- A session that commits is from then on what it was, but for its status. -/
theorem session_of_committing {c₁ : Config A} {m : Move A} {history : List (Config A × Move A)} {i : Nat}
    (made : c.committing m = some i) (taken : c.step m = some c₁) (after : Run step c₁ history c')
    {t : Session A} (found : c'.sessions[i]? = some t) :
    ∃ s out, m = .finish i ∧ c.sessions[i]? = some s ∧ s.status = .running (.done out) ∧ A.commits out = true ∧
      t = { s with status := .committed out } := by
  obtain ⟨s, out, rfl, at_i, running, commits⟩ := done_of_committing made
  have stepped := (Stepped.commit at_i running commits).step
  cases taken.symm.trans stepped
  have ended : (c.put i { s with status := .committed out }).sessions[i]? = some { s with status := .committed out } := by
    rw [getElem?_put at_i, if_pos rfl]
  obtain ⟨t', at_i', later⟩ := later_of_run after ended
  cases found.symm.trans at_i'
  exact ⟨s, out, rfl, at_i, running, commits, later.committed rfl⟩

/-- What is asked of a commit is asked of the calls its session has made in the end. -/
theorem commits_at (asks : A.Job → List A.store.Event → A.store.Db → Prop) {history : List (Config A × Move A)}
    {c₀ : Config A} (run : Run step c₀ history c) {entry : Config A × Move A} (member : entry ∈ history) {k : Nat}
    (made : entry.1.committing entry.2 = some k) {t : Session A} (found : c.sessions[k]? = some t) :
    entry.1.Commits asks entry.2 ↔ asks t.job t.trace entry.1.db := by
  obtain ⟨earlier, later, next, before, taken, after, _⟩ := run.split member
  obtain ⟨s, out, isFinish, at_k, running, commits, rfl⟩ := session_of_committing made taken after found
  rw [isFinish]
  constructor
  · intro asked
    exact asked s out at_k running commits
  · intro asked s' out' at_k' _ _
    cases at_k.symm.trans at_k'
    exact asked

/-- The order of two commits. -/
theorem commitsOf_pair {db₀ : A.store.Db} {jobs : List A.Job} {history : List (Config A × Move A)}
    (deferred : A.store.Deferred) (run : Run step (start db₀ jobs) history c) (closed : c.sessions.length = 2)
    (zero : c.Committed 0) (one : c.Committed 1) : commitsOf history = [0, 1] ∨ commitsOf history = [1, 0] := by
  have log := commitLog_of_run deferred run
  have members : ∀ i, i ∈ commitsOf history ↔ i ∈ [0, 1] := by
    intro i
    rw [log.mem_iff]
    constructor
    · intro committed
      obtain ⟨s, out, found, _⟩ := committed
      have inside := (List.getElem?_eq_some_iff.mp found).1
      rw [closed] at inside
      match i, inside with
      | 0, _ => exact List.mem_cons_self
      | 1, _ => exact List.mem_cons_of_mem 0 List.mem_cons_self
    · intro either
      rcases List.mem_cons.mp either with rfl | later
      · exact zero
      · exact List.mem_singleton.mp later ▸ one
  have same : (commitsOf history).Perm [0, 1] :=
    (List.perm_ext_iff_of_nodup log.nodup (by decide)).mpr members
  obtain ⟨x, y, whole⟩ := List.length_eq_two.mp same.length_eq
  have distinct : x ≠ y := by
    have nodup := log.nodup
    rw [whole, List.nodup_cons, List.mem_singleton] at nodup
    exact nodup.1
  have isX : x = 0 ∨ x = 1 := by simpa using (members x).mp (whole ▸ List.mem_cons_self)
  have isY : y = 0 ∨ y = 1 := by simpa using (members y).mp (whole ▸ List.mem_cons_of_mem x List.mem_cons_self)
  rw [whole]
  rcases isX with rfl | rfl
  · exact .inl (by rw [isY.resolve_left (Ne.symm distinct)])
  · exact .inr (by rw [isY.resolve_right (Ne.symm distinct)])

section Order

variable {db₀ : A.store.Db} {jobs : List A.Job} {history : List (Config A × Move A)} {i j : Nat}

/-- In the end the second has written over what the first has left. -/
theorem db_of_pair (deferred : A.store.Deferred) (run : Run step (start db₀ jobs) history c)
    (order : commitsOf history = [i, j]) :
    c.db = A.store.applyAll (c.writesOf j) (A.store.applyAll (c.writesOf i) db₀) := by
  have log := commitLog_of_run deferred run
  rw [log.db, order, List.flatMap_cons, List.flatMap_singleton, Store.applyAll_append]

/-- What is there at some point of the run, by what has been committed by then. -/
theorem db_of_prefix (deferred : A.store.Deferred) {earlier later : List (Config A × Move A)}
    (before : Run step (start db₀ jobs) earlier c) (after : Run step c later c')
    (order : commitsOf (earlier ++ later) = [i, j]) :
    (commitsOf earlier = [] ∧ c.db = db₀) ∨
      (commitsOf earlier = [i] ∧ c.db = A.store.applyAll (c'.writesOf i) db₀) ∨
        commitsOf earlier = [i, j] := by
  have log := commitLog_of_run deferred before
  have isPrefix : commitsOf earlier <+: [i, j] := by
    rw [← order, commitsOf, commitsOf, List.filterMap_append]
    exact List.prefix_append _ _
  rcases List.prefix_cons_iff.mp isPrefix with none | ⟨rest, some, isPrefix'⟩
  · refine .inl ⟨none, ?_⟩
    rw [log.db, none]
    rfl
  · rcases List.prefix_cons_iff.mp isPrefix' with rfl | ⟨rest', rfl, isPrefix''⟩
    · refine .inr (.inl ⟨some, ?_⟩)
      have committed : c.Committed i := (log.mem_iff i).mp (some ▸ List.mem_singleton_self i)
      rw [log.db, some, List.flatMap_singleton, (committed_run committed after).2]
    · rw [List.prefix_nil.mp isPrefix''] at some
      exact .inr (.inr some)

/-- What a transaction sees before it commits. -/
theorem db_of_uncommitted (deferred : A.store.Deferred) {earlier later : List (Config A × Move A)}
    (before : Run step (start db₀ jobs) earlier c) (after : Run step c later c')
    (order : commitsOf (earlier ++ later) = [i, j]) :
    (¬c.Committed i → c.db = db₀) ∧
      (¬c.Committed j → c.db = db₀ ∨ c.db = A.store.applyAll (c'.writesOf i) db₀) := by
  have log := commitLog_of_run deferred before
  rcases db_of_prefix deferred before after order with ⟨_, same⟩ | ⟨one, same⟩ | both
  · exact ⟨fun _ => same, fun _ => .inl same⟩
  · refine ⟨fun not => absurd ((log.mem_iff i).mp ?_) not, fun _ => .inr same⟩
    exact one ▸ List.mem_singleton_self i
  · refine ⟨fun not => absurd ((log.mem_iff i).mp ?_) not, fun not => absurd ((log.mem_iff j).mp ?_) not⟩
    · exact both ▸ List.mem_cons_self
    · exact both ▸ List.mem_cons_of_mem i (List.mem_singleton_self j)

/-- What a transaction finds when it commits. -/
theorem db_of_commit (deferred : A.store.Deferred) (run : Run step (start db₀ jobs) history c)
    (order : commitsOf history = [i, j]) {entry : Config A × Move A} (member : entry ∈ history) :
    (entry.1.committing entry.2 = some i → entry.1.db = db₀) ∧
      (entry.1.committing entry.2 = some j → entry.1.db = A.store.applyAll (c.writesOf i) db₀) := by
  obtain ⟨earlier, later, next, before, taken, after, rfl⟩ := run.split member
  have rest : Run step entry.1 (entry :: later) c := .cons taken after
  have distinct := (commitLog_of_run deferred run).nodup
  rw [order, List.nodup_cons, List.mem_singleton] at distinct
  have whole : commitsOf (earlier ++ entry :: later) =
      commitsOf earlier ++ ((entry.1.committing entry.2).toList ++ commitsOf later) := by
    simp only [commitsOf, List.filterMap_append, List.filterMap_cons]
    cases entry.1.committing entry.2 <;> rfl
  rw [order] at whole
  rcases db_of_prefix deferred before rest order with ⟨none, same⟩ | ⟨one, same⟩ | both
  · refine ⟨fun _ => same, fun second => ?_⟩
    rw [none, second] at whole
    exact absurd (List.cons.inj whole).1 distinct.1
  · refine ⟨fun first => ?_, fun _ => same⟩
    rw [one, first] at whole
    exact absurd (List.cons.inj (List.cons.inj whole).2).1.symm distinct.1
  · rw [both] at whole
    have nothing : (entry.1.committing entry.2).toList ++ commitsOf later = [] := by
      simpa using whole
    have neither := (List.append_eq_nil_iff.mp nothing).1
    constructor
    · intro first
      rw [first] at neither
      cases neither
    · intro second
      rw [second] at neither
      cases neither

/-- Each of them commits at some point. -/
theorem exists_commit {k : Nat} (inside : k ∈ commitsOf history) :
    ∃ entry ∈ history, entry.1.committing entry.2 = some k :=
  List.mem_filterMap.mp inside

/-- What is asked of every commit is asked of the two. -/
theorem meets_commits_iff (deferred : A.store.Deferred) {asks : A.Job → List A.store.Event → A.store.Db → Prop}
    (run : Run step (start db₀ jobs) history c) (order : commitsOf history = [i, j]) {s t : Session A}
    (at_i : c.sessions[i]? = some s) (at_j : c.sessions[j]? = some t) :
    Meets (Commits asks) history ↔
      asks s.job s.trace db₀ ∧ asks t.job t.trace (A.store.applyAll (c.writesOf i) db₀) := by
  constructor
  · intro meets
    constructor
    · obtain ⟨entry, member, made⟩ := exists_commit (order ▸ List.mem_cons_self : i ∈ commitsOf history)
      rw [← (db_of_commit deferred run order member).1 made]
      exact (commits_at asks run member made at_i).mp (meets entry member)
    · obtain ⟨entry, member, made⟩ :=
        exists_commit (order ▸ List.mem_cons_of_mem i (List.mem_singleton_self j) : j ∈ commitsOf history)
      rw [← (db_of_commit deferred run order member).2 made]
      exact (commits_at asks run member made at_j).mp (meets entry member)
  · rintro ⟨onStart, onFirst⟩ entry member
    cases made : entry.1.committing entry.2 with
    | none => exact commits_of_silent made
    | some k =>
        have among : k ∈ commitsOf history := List.mem_filterMap.mpr ⟨_, member, made⟩
        rw [order] at among
        rcases List.mem_cons.mp among with rfl | later
        · apply (commits_at asks run member made at_i).mpr
          rw [(db_of_commit deferred run order member).1 made]
          exact onStart
        · cases List.mem_singleton.mp later
          apply (commits_at asks run member made at_j).mpr
          rw [(db_of_commit deferred run order member).2 made]
          exact onFirst

end Order

end Config

end Txn
