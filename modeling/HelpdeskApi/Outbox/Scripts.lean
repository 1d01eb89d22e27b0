/-
Module: HelpdeskApi.Outbox.Scripts
Layer: Outbox
Purpose: The events of a publisher, in their order: it claims a batch, it adds message after message to its
  queues, and in the end it marks those that all their queues have taken. Where it dies, what it has done is
  a beginning of this.
Trusted boundary: none
Main exports: Publisher.handling, Publisher.script, follows_publishBatch, Played, played_of_run
-/
import HelpdeskApi.Library.CommitLog
import HelpdeskApi.Outbox.Publisher

namespace Helpdesk.Outbox

open Txn Transition

/-- An event of a publisher or of a use case. -/
abbrev Event := store.Event

section Traces

/-- The batch an event claims. -/
def batchOf : Event → List OutboxRow
  | ⟨.claimBatch _ _, o⟩ => o.reply
  | _ => []

/-- The messages an event marks as published. -/
def marksOf : Event → List Uuid
  | ⟨.markPublished ids, _⟩ => ids
  | _ => []

/-- Whether an event adds a message to a queue, whatever becomes of it. -/
def addsTo (queue : String) (id : Uuid) : Event → Bool
  | ⟨.add nombre message, _⟩ => nombre = queue && message.id = id
  | _ => false

/-- Whether an event shows that enqueueing a message has thrown: a queue has not taken it, or it is marked
    as failed. -/
def throwsFor (id : Uuid) : Event → Bool
  | ⟨.add _ message, o⟩ => message.id = id && !o.reply.toBool
  | ⟨.markFailed id' _, _⟩ => id' = id
  | _ => false

/-- What the batches of a trace hold. -/
def claimedIn (trace : List Event) : List OutboxRow :=
  trace.flatMap batchOf

/-- What a trace marks as published. -/
def markedIn (trace : List Event) : List Uuid :=
  trace.flatMap marksOf

/-- What a trace leaves in the queues. -/
def effectsOf (trace : List Event) : List Write :=
  trace.flatMap fun e => e.outcome.effects

end Traces

namespace Publisher

variable (p : Publisher)

/-- A message is added to a queue. -/
def added (message : OutboxRow) (queue : String) : Event := ⟨.add queue message, p.adding queue message⟩

/-- A message is marked as failed. -/
def failed (message : OutboxRow) (error : String) : Event :=
  ⟨.markFailed message.id error, { reply := (), writes := [.markFailed message.id error], effects := [], locks := [] }⟩

/-- Messages are marked as published. -/
def published (ids : List Uuid) : Event :=
  ⟨.markPublished ids, { reply := (), writes := [.markPublished ids p.now], effects := [], locks := [] }⟩

/-- A batch is claimed. -/
def claimed (batch : List OutboxRow) : Event :=
  ⟨.claimBatch p.limit p.maxAttempts,
    { reply := batch, writes := [], effects := [], locks := batch.map OutboxRow.id }⟩

/-- Adding a message to queues one after the other, up to the first that throws. -/
def adds (message : OutboxRow) : List String → List Event
  | [] => []
  | nombre :: colas =>
      if registered nombre then
        p.added message nombre :: if p.fate nombre message.id = .answers then adds message colas else []
      else []

/-- What comes of adding a message to queues. -/
def outcome (message : OutboxRow) : List String → Except String Unit
  | [] => .ok ()
  | nombre :: colas =>
      if registered nombre then
        if p.fate nombre message.id = .answers then outcome message colas
        else .error (p.detalle nombre message.id)
      else .error ("Cola no registrada: " ++ nombre)

/-- Whether a message gets into all of its queues. -/
def enqueues (message : OutboxRow) : Bool :=
  match p.outcome message (queuesFor message.eventName) with
  | .ok _ => true
  | .error _ => false

/-- What a publisher does with a message of its batch. -/
def handling (message : OutboxRow) : List Event :=
  p.adds message (queuesFor message.eventName) ++
    match p.outcome message (queuesFor message.eventName) with
    | .ok _ => []
    | .error detalle => [failed message detalle]

/-- What a publisher does when it has gone through its batch. -/
def closing (ids : List Uuid) : List Event :=
  if ids.length = 0 then [] else [p.published ids]

/-- What a publisher does with a batch. -/
def script (batch : List OutboxRow) : List Event :=
  batch.flatMap p.handling ++ p.closing ((batch.filter p.enqueues).map OutboxRow.id)

end Publisher

section Follows

variable (p : Publisher)

/-- The calls of a publisher but the first come out as they must. -/
theorem settled {c : Call} {o o' : Outcome sig Write Uuid c} (answers : ∀ held db, answer p held c db = some o)
    (produced : store.Plausible p ⟨c, o'⟩) : o' = o := by
  obtain ⟨held, db, member⟩ := produced
  have answered : answer p held c db = some o' := Option.mem_toList.mp member
  exact Option.some.inj (answered.symm.trans (answers held db))

/-- A call whose outcome the settings of the publisher decide. -/
theorem follows_settled {α : Type} {c : Call} {f : Call.Reply c → Proc sig α} {script : List Event} {a : α}
    (o : Outcome sig Write Uuid c) (answers : ∀ held db, answer p held c db = some o)
    (rest : (f o.reply).Follows store p script a) :
    (Proc.ask (S := sig) c >>= f).Follows store p (⟨c, o⟩ :: script) a :=
  Proc.follows_call (σ := store) (fun _ produced => settled p answers produced) rest

theorem follows_addTo (message : OutboxRow) (colas : List String) :
    (OutboxPublisher.addTo message colas).Follows store p (p.adds message colas) (p.outcome message colas) := by
  induction colas with
  | nil => exact Proc.follows_done _
  | cons nombre colas ih =>
      rw [OutboxPublisher.addTo, Publisher.adds, Publisher.outcome]
      by_cases isRegistered : registered nombre = true
      · rw [if_pos isRegistered, if_pos isRegistered, if_pos isRegistered]
        refine follows_settled p (p.adding nombre message) (fun _ _ => rfl) ?_
        cases becomes : p.fate nombre message.id with
        | answers => simpa [Publisher.adding, becomes] using ih
        | throws =>
            simp only [Publisher.adding, becomes]
            exact Proc.follows_done _
        | lost =>
            simp only [Publisher.adding, becomes]
            exact Proc.follows_done _
      · rw [if_neg isRegistered, if_neg isRegistered, if_neg isRegistered]
        exact Proc.follows_done _

theorem follows_publishBatch (batch : List OutboxRow) (publicados : List Uuid) :
    (OutboxPublisher.publishBatch batch publicados).Follows store p
      (batch.flatMap p.handling ++ p.closing (publicados ++ (batch.filter p.enqueues).map OutboxRow.id)) () := by
  induction batch generalizing publicados with
  | nil =>
      simp only [OutboxPublisher.publishBatch, OutboxReader.markPublished, Publisher.closing, List.flatMap_nil,
        List.filter_nil, List.map_nil, List.append_nil, List.nil_append]
      by_cases isEmpty : publicados.length = 0
      · rw [if_pos isEmpty, if_pos isEmpty]
        exact Proc.follows_done _
      · rw [if_neg isEmpty, if_neg isEmpty]
        exact follows_settled p _ (fun _ _ => rfl) (Proc.follows_done ())
  | cons message batch ih =>
      rw [OutboxPublisher.publishBatch, List.flatMap_cons, Publisher.handling, List.append_assoc, List.append_assoc]
      apply (follows_addTo p message _).bind
      cases result : p.outcome message (queuesFor message.eventName) with
      | ok _ =>
          have enqueues : p.enqueues message = true := by rw [Publisher.enqueues, result]
          rw [List.filter_cons_of_pos enqueues, List.map_cons, List.append_cons publicados _ (List.map _ _)]
          exact ih (publicados ++ [message.id])
      | error detalle =>
          have fails : ¬p.enqueues message = true := by simp [Publisher.enqueues, result]
          rw [List.filter_cons_of_neg fails]
          exact follows_settled p _ (fun _ _ => rfl) (ih _)

end Follows

namespace Publisher

variable (p : Publisher)

/-- What a publisher does with one message is about this message. -/
inductive Handles (message : OutboxRow) : Event → Prop where
  | adds {nombre : String} (toQueue : nombre ∈ queuesFor message.eventName) : Handles message (p.added message nombre)
  | fails {detalle : String} (threw : p.outcome message (queuesFor message.eventName) = .error detalle) :
      Handles message (failed message detalle)

theorem mem_adds {message : OutboxRow} {colas : List String} {e : Event} (inside : e ∈ p.adds message colas) :
    ∃ nombre ∈ colas, e = p.added message nombre := by
  induction colas with
  | nil => cases inside
  | cons nombre colas ih =>
      rw [adds] at inside
      split at inside
      · rcases List.mem_cons.mp inside with isFirst | later
        · exact ⟨nombre, List.mem_cons_self, isFirst⟩
        · split at later
          · obtain ⟨nombre', among, isAdd⟩ := ih later
            exact ⟨nombre', List.mem_cons_of_mem _ among, isAdd⟩
          · cases later
      · cases inside

theorem handles_of_mem {message : OutboxRow} {e : Event} (inside : e ∈ p.handling message) : p.Handles message e := by
  rcases List.mem_append.mp inside with adds | failure
  · obtain ⟨nombre, toQueue, rfl⟩ := p.mem_adds adds
    exact .adds toQueue
  · split at failure
    · cases failure
    · rename_i detalle threw
      exact List.mem_singleton.mp failure ▸ .fails threw

/-- A message that gets into all of its queues is in them: they have answered, and hold it. -/
theorem added_of_ok {message : OutboxRow} {colas : List String} (ok : p.outcome message colas = .ok ())
    {nombre : String} (among : nombre ∈ colas) :
    p.added message nombre ∈ p.adds message colas ∧ p.fate nombre message.id = .answers := by
  induction colas with
  | nil => cases among
  | cons first colas ih =>
      rw [outcome] at ok
      rw [adds]
      split at ok
      · rename_i isRegistered
        split at ok
        · rename_i answers
          rw [if_pos isRegistered, if_pos answers]
          rcases List.mem_cons.mp among with rfl | later
          · exact ⟨List.mem_cons_self, answers⟩
          · have inside := ih ok later
            exact ⟨List.mem_cons_of_mem _ inside.1, inside.2⟩
        · cases ok
      · cases ok

theorem enqueues_iff (message : OutboxRow) :
    p.enqueues message = true ↔ p.outcome message (queuesFor message.eventName) = .ok () := by
  unfold enqueues
  cases p.outcome message (queuesFor message.eventName) <;> simp

/-- No message is added to a queue twice in a row of queues. -/
theorem countP_adds_le (message : OutboxRow) (colas : List String) (queue : String) (id : Uuid) :
    (p.adds message colas).countP (addsTo queue id) ≤ if message.id = id then colas.count queue else 0 := by
  induction colas with
  | nil => simp [adds]
  | cons nombre colas ih =>
      have rest : (if p.fate nombre message.id = .answers then p.adds message colas else []).countP (addsTo queue id) ≤
          if message.id = id then colas.count queue else 0 := by
        split
        · exact ih
        · simp
      rw [adds]
      split
      · rw [List.countP_cons]
        by_cases isMessage : message.id = id
        · rw [if_pos isMessage] at rest ⊢
          rw [List.count_cons]
          by_cases isQueue : nombre = queue
          · simpa [added, addsTo, isQueue, isMessage] using rest
          · simpa [added, addsTo, isQueue] using rest
        · rw [if_neg isMessage] at rest ⊢
          simpa [added, addsTo, isMessage] using rest
      · simp

theorem nodup_queuesFor (eventName : String) : (queuesFor eventName).Nodup := by
  unfold queuesFor
  repeat' split
  all_goals decide

theorem countP_handling_le (message : OutboxRow) (queue : String) (id : Uuid) :
    (p.handling message).countP (addsTo queue id) ≤ if message.id = id then 1 else 0 := by
  have failures : (match p.outcome message (queuesFor message.eventName) with
      | .ok _ => []
      | .error detalle => [failed message detalle]).countP (addsTo queue id) = 0 := by
    split <;> simp [failed, addsTo]
  rw [handling, List.countP_append, failures, Nat.add_zero]
  apply (p.countP_adds_le message _ queue id).trans
  split
  · exact List.nodup_iff_count_le_one.mp (nodup_queuesFor message.eventName) queue
  · exact Nat.le_refl 0

/-- A message is added to a queue as often as its batch holds it, at most. -/
theorem countP_script_le (batch : List OutboxRow) (queue : String) (id : Uuid) :
    (p.script batch).countP (addsTo queue id) ≤ (batch.map OutboxRow.id).count id := by
  have closings : ∀ ids, (p.closing ids).countP (addsTo queue id) = 0 := by
    intro ids
    unfold closing
    split <;> simp [published, addsTo]
  rw [script, List.countP_append, closings, Nat.add_zero]
  induction batch with
  | nil => simp
  | cons message batch ih =>
      have first := p.countP_handling_le message queue id
      rw [List.flatMap_cons, List.countP_append, List.map_cons, List.count_cons]
      simp only [beq_iff_eq]
      omega

/-- What a publisher has done with its batch when it marks a message as published. -/
theorem marked_of_isPrefix {batch : List OutboxRow} {trace : List Event} (isPrefix : trace <+: p.script batch)
    {id : Uuid} (marked : id ∈ markedIn trace) :
    trace = p.script batch ∧ ∃ m ∈ batch, m.id = id ∧ p.enqueues m = true := by
  have unmarked : ∀ e ∈ batch.flatMap p.handling, marksOf e = [] := by
    intro e inside
    obtain ⟨message, _, handled⟩ := List.mem_flatMap.mp inside
    cases p.handles_of_mem handled <;> rfl
  obtain ⟨e, inside, isMark⟩ := List.mem_flatMap.mp marked
  rw [script, closing] at isPrefix ⊢
  by_cases isEmpty : ((batch.filter p.enqueues).map OutboxRow.id).length = 0
  · -- nothing is marked
    rw [if_pos isEmpty, List.append_nil] at isPrefix
    rw [unmarked e (isPrefix.subset inside)] at isMark
    cases isMark
  · rw [if_neg isEmpty] at isPrefix ⊢
    rcases List.prefix_concat_iff.mp isPrefix with whole | earlier
    · refine ⟨whole, ?_⟩
      rcases List.mem_append.mp (whole ▸ inside) with handled | last
      · rw [unmarked e handled] at isMark
        cases isMark
      · rw [List.mem_singleton.mp last] at isMark
        obtain ⟨m, among, isId⟩ := List.mem_map.mp isMark
        obtain ⟨member, enqueues⟩ := List.mem_filter.mp among
        exact ⟨m, member, isId, enqueues⟩
    · rw [unmarked e (earlier.subset inside)] at isMark
      cases isMark

end Publisher

/-- What a session has done by some time. -/
inductive Played : Job → List Event → Prop where
  | fresh (job : Job) : Played job []
  | publishing {p : Publisher} {batch : List OutboxRow} {trace : List Event}
      (distinct : (batch.map OutboxRow.id).Nodup) (isPrefix : trace <+: p.script batch) :
      Played (.publishPending p) (p.claimed batch :: trace)
  | appending {records : List OutboxRecord} {requestId : Option String}
      {o : Outcome sig Write Uuid (.outboxAppend records requestId)}
      (writes : ∀ w ∈ o.writes, w = .insertOutbox (records.map (·.row requestId))) (effects : o.effects = [])
      (locks : o.locks = []) : Played (.useCase records requestId) [⟨.outboxAppend records requestId, o⟩]

/-- A batch holds a message once: the messages have one row each. -/
theorem nodup_claimBatch (limit maxAttempts : Nat) (held : Uuid → Bool) (db : Db) :
    ((claimBatch limit maxAttempts held db).map OutboxRow.id).Nodup := by
  let pending := db.outbox.rows.filter fun m => m.publishedAt = none ∧ m.attempts < maxAttempts ∧ held m.id = false
  have distinct : (pending.map OutboxRow.id).Nodup :=
    List.Nodup.sublist (List.filter_sublist.map OutboxRow.id) db.outbox.keysDistinct
  have sorted : ((pending.insertionSort oldestFirst).map OutboxRow.id).Nodup :=
    ((List.perm_insertionSort oldestFirst pending).map OutboxRow.id).nodup_iff.mpr distinct
  exact sorted.sublist ((List.take_sublist limit _).map OutboxRow.id)

/-- Every session of publishers and use cases does what its job is, up to some point. -/
theorem played_of_run {db : Db} {jobs : List Job} {history : List (Config outbox × Move outbox)} {c : Config outbox}
    (run : Run Config.step (Config.start db jobs) history c) : c.Conforms Played fun _ _ _ => True := by
  refine Config.conforms_of_run (fun job => ⟨.fresh job, ?_⟩) run
  cases job with
  | publishPending p =>
      intro o produced
      obtain ⟨held, db', member⟩ := produced
      have answered : answer p held (.claimBatch p.limit p.maxAttempts) db' = some o := Option.mem_toList.mp member
      cases answered
      let batch := claimBatch p.limit p.maxAttempts held db'
      have distinct : (batch.map OutboxRow.id).Nodup := nodup_claimBatch p.limit p.maxAttempts held db'
      refine ⟨.publishing distinct List.nil_prefix, ?_⟩
      have follows := ((follows_publishBatch p batch []).bind (f := fun _ => .done batch.length)
        (Proc.follows_done batch.length)).satisfies [p.claimed batch]
      rw [List.append_nil] at follows
      refine follows.mono (fun trace isPrefix => ?_) fun _ _ _ => trivial
      rcases List.prefix_cons_iff.mp isPrefix with rfl | ⟨trace', rfl, later⟩
      · exact .fresh _
      · exact .publishing distinct (by simpa [Publisher.script] using later)
  | useCase records requestId =>
      refine (Proc.satisfies_map (fun _ => 0) _ []).mpr ?_
      intro o produced
      obtain ⟨held, db', member⟩ := produced
      have answered : answer (Job.useCase records requestId).publisher held (.outboxAppend records requestId) db' =
        some o := Option.mem_toList.mp member
      rw [answer] at answered
      split at answered
      · cases answered
        refine ⟨.appending ?_ rfl rfl, trivial⟩
        intro w written
        split at written
        · cases written
        · exact List.mem_singleton.mp written
      · cases answered

end Helpdesk.Outbox
