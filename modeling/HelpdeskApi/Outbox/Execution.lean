/-
Module: HelpdeskApi.Outbox.Execution
Layer: Outbox
Purpose: A publisher with nobody else at work: every message of its batch is published, or has one attempt
  more, and the other messages stay as they are. This is what the session of a publisher does where no other
  is running.
Trusted boundary: none
Main exports: alone, Publisher.publishPending, Publisher.handled, rows_publishPending, publishes_alone
-/
import HelpdeskApi.Library.Alone
import HelpdeskApi.Outbox.Custody

namespace Helpdesk.Outbox

open Relational Txn Transition

/-- Calls with nobody else at work. -/
abbrev alone : Handler sig where
  Db := Db
  Ctx := Publisher
  Write := Write
  Key := Uuid
  apply := Write.apply
  exec p c db := (answer p (fun _ => false) c db).map fun o => (o.reply, o.effects ++ o.writes)
  wants _ _ := []
  keys _ := []

/-- What an event does to the database. -/
def writesOf (e : Event) : List Write :=
  e.outcome.effects ++ e.outcome.writes

namespace Publisher

variable (p : Publisher)

/-- One call of `publishPending` that comes to its end: what it answers and the database it leaves. -/
def publishPending (db : Db) : Option Nat × Db :=
  alone.transact p (fun _ => true) (OutboxPublisher.publishPending p.limit p.maxAttempts) db

/-- The messages a call finds. -/
def batch (db : Db) : List OutboxRow :=
  claimBatch p.limit p.maxAttempts (fun _ => false) db

/-- What becomes of a message of the batch. -/
def handled (m : OutboxRow) : OutboxRow :=
  match p.outcome m (queuesFor m.eventName) with
  | .ok _ => { m with publishedAt := some p.now }
  | .error detalle => { m with attempts := m.attempts + 1, lastError := some (left1000 detalle) }

theorem handled_of_enqueues {m : OutboxRow} (enqueues : p.enqueues m = true) :
    p.handled m = { m with publishedAt := some p.now } := by
  rw [handled, (p.enqueues_iff m).mp enqueues]

theorem handled_of_fails {m : OutboxRow} (fails : p.enqueues m = false) :
    (p.handled m).publishedAt = m.publishedAt ∧ (p.handled m).attempts = m.attempts + 1 := by
  unfold enqueues at fails
  unfold handled
  split
  · rename_i ok
    rw [ok] at fails
    cases fails
  · exact ⟨rfl, rfl⟩

theorem becomes_handled {m : OutboxRow} (unpublished : m.publishedAt = none) : m.Becomes (p.handled m) := by
  unfold handled
  split
  · exact ⟨rfl, fun when set => by simp [unpublished] at set⟩
  · exact ⟨rfl, fun when set => set⟩

theorem rowAfter_handling (message m : OutboxRow) :
    rowAfter ((p.handling message).flatMap writesOf) m =
      match p.outcome message (queuesFor message.eventName) with
      | .ok _ => m
      | .error detalle => (Write.markFailed message.id detalle).row m := by
  have adds : ∀ colas, rowAfter ((p.adds message colas).flatMap writesOf) m = m := by
    intro colas
    induction colas with
    | nil => rfl
    | cons nombre colas ih =>
        have first : rowAfter (writesOf (p.added message nombre)) m = m := by
          unfold writesOf added adding
          split <;> rfl
        rw [Publisher.adds]
        split
        · rw [List.flatMap_cons, rowAfter_append, first]
          split
          · exact ih
          · rfl
        · rfl
  rw [handling, List.flatMap_append, rowAfter_append, adds]
  cases p.outcome message (queuesFor message.eventName) <;> rfl

/-- A message is only touched where it is handled. -/
theorem rowAfter_handling_of_ne {message m : OutboxRow} (different : m.id ≠ message.id) :
    rowAfter ((p.handling message).flatMap writesOf) m = m := by
  rw [rowAfter_handling]
  split
  · rfl
  · exact if_neg different

theorem rowAfter_batch_of_not_mem {messages : List OutboxRow} {m : OutboxRow}
    (absent : m.id ∉ messages.map OutboxRow.id) : rowAfter ((messages.flatMap p.handling).flatMap writesOf) m = m := by
  induction messages with
  | nil => rfl
  | cons message messages ih =>
      rw [List.map_cons, List.mem_cons, not_or] at absent
      rw [List.flatMap_cons, List.flatMap_append, rowAfter_append, p.rowAfter_handling_of_ne absent.1, ih absent.2]

theorem rowAfter_batch {messages : List OutboxRow} (distinct : (messages.map OutboxRow.id).Nodup) {m : OutboxRow}
    (among : m ∈ messages) :
    rowAfter ((messages.flatMap p.handling).flatMap writesOf) m =
      match p.outcome m (queuesFor m.eventName) with
      | .ok _ => m
      | .error detalle => (Write.markFailed m.id detalle).row m := by
  induction messages with
  | nil => cases among
  | cons message messages ih =>
      rw [List.map_cons, List.nodup_cons] at distinct
      rw [List.flatMap_cons, List.flatMap_append, rowAfter_append]
      rcases List.mem_cons.mp among with rfl | later
      · have sameId : (rowAfter ((p.handling m).flatMap writesOf) m).id = m.id := by
          rw [rowAfter_handling]
          split
          · rfl
          · simp [Write.row]
        rw [rowAfter_batch_of_not_mem p (sameId ▸ distinct.1), rowAfter_handling]
      · have different : m.id ≠ message.id := fun same => distinct.1 (same ▸ List.mem_map_of_mem later)
        rw [p.rowAfter_handling_of_ne different, ih distinct.2 later]

theorem rowAfter_closing {ids : List Uuid} {m : OutboxRow} :
    rowAfter ((p.closing ids).flatMap writesOf) m = (Write.markPublished ids p.now).row m := by
  unfold closing
  split
  · rename_i isEmpty
    rw [List.length_eq_zero_iff.mp isEmpty]
    simp [Write.row, Write.publishes]
  · rfl

/-- What a call makes of a message of its batch. -/
theorem rowAfter_script {messages : List OutboxRow} (distinct : (messages.map OutboxRow.id).Nodup) {m : OutboxRow}
    (among : m ∈ messages) (unpublished : m.publishedAt = none) :
    rowAfter ((p.script messages).flatMap writesOf) m = p.handled m := by
  have inside_iff : m.id ∈ (messages.filter p.enqueues).map OutboxRow.id ↔ p.enqueues m = true := by
    rw [List.mem_map]
    constructor
    · intro inside
      obtain ⟨m', among', sameId⟩ := inside
      obtain ⟨member, enqueues⟩ := List.mem_filter.mp among'
      cases List.inj_on_of_nodup_map distinct member among sameId
      exact enqueues
    · intro enqueues
      exact ⟨m, List.mem_filter.mpr ⟨among, enqueues⟩, rfl⟩
  rw [script, List.flatMap_append, rowAfter_append, rowAfter_closing, p.rowAfter_batch distinct among]
  cases result : p.outcome m (queuesFor m.eventName) with
  | ok _ =>
      have enqueues : p.enqueues m = true := (p.enqueues_iff m).mpr result
      rw [p.handled_of_enqueues enqueues]
      exact row_markPublished_of_mem (inside_iff.mpr enqueues) unpublished
  | error detalle =>
      have fails : ¬p.enqueues m = true := by simp [enqueues_iff, result]
      have failed : (Write.markFailed m.id detalle).row m = p.handled m := by
        simp only [Write.row, if_true, handled, result]
      have sameId : (p.handled m).id = m.id := (p.becomes_handled unpublished).id
      simp only [failed]
      exact row_markPublished_of_not_mem (sameId ▸ fun inside => fails (inside_iff.mp inside))

/-- What a call makes of the other messages. -/
theorem rowAfter_script_of_absent {messages : List OutboxRow} {m : OutboxRow}
    (absent : m.id ∉ messages.map OutboxRow.id) : rowAfter ((p.script messages).flatMap writesOf) m = m := by
  have outside : m.id ∉ (messages.filter p.enqueues).map OutboxRow.id :=
    fun inside => absent ((List.filter_sublist.map OutboxRow.id).subset inside)
  rw [script, List.flatMap_append, rowAfter_append, rowAfter_closing, p.rowAfter_batch_of_not_mem absent]
  exact row_markPublished_of_not_mem outside

/-- The calls after the claim come out the same whatever the others do. -/
theorem answer_of_mem {messages : List OutboxRow} {e : Event} (inside : e ∈ p.script messages) (held : Uuid → Bool)
    (db : Db) : answer p held e.call db = some e.outcome := by
  cases does_of_mem inside with
  | handles among handles => cases handles <;> rfl
  | publishes ids => rfl

/-- A publisher goes through its script. -/
theorem follows_batch (messages : List OutboxRow) :
    (OutboxPublisher.publishBatch messages [] >>= fun _ => .done messages.length).Follows store p (p.script messages)
      messages.length := by
  have follows := (follows_publishBatch p messages []).bind (f := fun _ => .done messages.length)
    (Proc.follows_done messages.length)
  rwa [List.append_nil, List.nil_append] at follows

/-- A call always comes to its end, and this is what it leaves. -/
theorem publishPending_eq (db : Db) :
    p.publishPending db =
      (some (p.batch db).length, store.applyAll ((p.script (p.batch db)).flatMap writesOf) db) := by
  refine Handler.transact_of_commit ?_ rfl
  have claimed : alone.exec p (.claimBatch p.limit p.maxAttempts) db = some (p.batch db, []) := rfl
  rw [OutboxPublisher.publishPending, OutboxReader.withClaimedBatch, Proc.run_call claimed]
  refine (p.follows_batch (p.batch db)).run (η := alone) writesOf (fun e inside db' => ?_) db
  change (answer p (fun _ => false) e.call db').map _ = _
  rw [p.answer_of_mem inside]
  rfl

/-- No message is inserted. -/
theorem no_inserts (messages : List OutboxRow) (rows : List OutboxRow) :
    .insertOutbox rows ∉ (p.script messages).flatMap writesOf := by
  intro inserts
  obtain ⟨e, inside, either⟩ := List.mem_flatMap.mp inserts
  have does := does_of_mem inside
  rcases List.mem_append.mp either with effect | write
  · obtain ⟨queue, job, other⟩ := does.effects effect
    cases other
  · rcases does.writes write with ⟨ids, now, other, _⟩ | ⟨id, error, other⟩
    · cases other
    · cases other

/-- The messages of the batch have been handled, and the others are as they were. -/
theorem rows_publishPending (db : Db) :
    (p.publishPending db).2.outbox.rows = db.outbox.rows.map fun m => if m ∈ p.batch db then p.handled m else m := by
  rw [publishPending_eq, rows_applyAll (p.no_inserts _)]
  apply List.map_congr_left
  intro m stored
  by_cases among : m ∈ p.batch db
  · rw [if_pos among]
    exact p.rowAfter_script (nodup_claimBatch _ _ _ db) among (mem_rows_of_claimBatch among).2.1
  · rw [if_neg among]
    apply p.rowAfter_script_of_absent
    intro inside
    obtain ⟨m', claimed, sameId⟩ := List.mem_map.mp inside
    exact among (Table.eq_of_key (mem_rows_of_claimBatch claimed).1 stored sameId ▸ claimed)

/-- What a queue takes and what is done to the messages do not depend on each other. -/
theorem writesOf_eq_effects_first {messages : List OutboxRow} {trace : List Event}
    (does : ∀ e ∈ trace, p.Does messages e) (db : Db) :
    store.applyAll (trace.flatMap writesOf) db =
      store.applyAll (store.pending trace) (store.applyAll (effectsOf trace) db) := by
  induction trace generalizing db with
  | nil => rfl
  | cons e trace ih =>
      have later : ∀ e ∈ trace, p.Does messages e := fun e inside => does e (List.mem_cons_of_mem _ inside)
      have apart : ∀ w ∈ effectsOf trace, ∀ v ∈ e.outcome.writes, ∀ db, w.apply (v.apply db) = v.apply (w.apply db) := by
        intro w takes v writes db
        obtain ⟨e', inside, effect⟩ := List.mem_flatMap.mp takes
        obtain ⟨queue, job, rfl⟩ := (later e' inside).effects effect
        rcases (does e List.mem_cons_self).writes writes with ⟨ids, now, rfl, _⟩ | ⟨id, error, rfl⟩
        · rfl
        · rfl
      have swap := Store.applyAll_comm (σ := store) apart (store.applyAll e.outcome.effects db)
      have effects : effectsOf (e :: trace) = e.outcome.effects ++ effectsOf trace := rfl
      rw [List.flatMap_cons, writesOf, Store.applyAll_append, Store.applyAll_append, ih later, Store.pending_cons,
        Store.applyAll_append, swap, effects, Store.applyAll_append]

/-- Where no session is running, the session of a publisher can do just this. -/
theorem publishes_alone {c : Config outbox} (idle : ∀ s ∈ c.sessions, ∀ rest, s.status ≠ .running rest) :
    ∃ history c', Run Config.step c history c' ∧ c'.db = (p.publishPending c.db).2 ∧
      c'.sessions[c.sessions.length]?.map Session.status = (p.publishPending c.db).1.map Status.committed := by
  let s₀ : Session outbox := .start (.publishPending p)
  let c₀ : Config outbox := { c with sessions := c.sessions ++ [s₀] }
  let i := c.sessions.length
  have arrives : c.step (.arrive (.publishPending p)) = some c₀ := rfl
  have found₀ : c₀.sessions[i]? = some s₀ := by simp [c₀, i]
  have alone : c₀.Alone i := by
    intro j t different at_j
    rcases c.getElem?_arrive (.publishPending p) j at_j with old | ⟨isLast, _⟩
    · exact idle t (List.mem_of_getElem? old)
    · exact absurd isLast different
  -- the claim
  have free : c₀.heldByOthers i = fun _ => false := funext alone.heldByOthers
  have answered : (store.answers p (c₀.heldByOthers i) (.claimBatch p.limit p.maxAttempts) (s₀.view c.db))[0]? =
      some (p.claimed (p.batch c.db)).outcome := by
    rw [free]
    rfl
  have claims := (@Config.Stepped.call outbox c₀ i 0 s₀ _ _ _ found₀ rfl answered).step
  let s₁ : Session outbox := s₀.advance (p.claimed (p.batch c.db))
    (OutboxPublisher.publishBatch (p.batch c.db) [] >>= fun _ => .done (p.batch c.db).length)
  have found₁ : (c₀.put i s₁).sessions[i]? = some s₁ := by rw [Config.getElem?_put found₀, if_pos rfl]
  -- the rest
  obtain ⟨history, c₂, run, found₂, db₂⟩ := Config.run_script (c := c₀.put i s₁) found₁ rfl (p.follows_batch (p.batch c.db))
    fun e inside held db => Option.mem_toList.mpr (p.answer_of_mem inside held db)
  have commits := (Config.Stepped.commit (c := c₂) found₂ rfl rfl).step
  refine ⟨_, _, ((Run.cons arrives (Run.cons claims run)).step commits), ?_, ?_⟩
  · rw [publishPending_eq, p.writesOf_eq_effects_first fun e inside => does_of_mem inside]
    exact congrArg (store.applyAll (store.pending (p.script (p.batch c.db)))) db₂
  · rw [publishPending_eq]
    change ((c₂.put i _).sessions[i]?).map _ = _
    rw [Config.getElem?_put found₂, if_pos rfl]
    rfl

end Publisher

end Helpdesk.Outbox
