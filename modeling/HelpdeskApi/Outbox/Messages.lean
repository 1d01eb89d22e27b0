/-
Module: HelpdeskApi.Outbox.Messages
Layer: Outbox
Purpose: What the statements of publishers and use cases do to the messages: a message keeps what it says,
  it is published once and for all, and what a queue has taken it has taken.
Trusted boundary: none
Main exports: OutboxRow.Becomes, Write.RowAfter, Write.find?_outbox, Write.mem_outbox, Db.Grows,
  grows_applyAll
-/
import HelpdeskApi.Outbox.Publisher
import HelpdeskApi.Store.Lemmas

namespace Helpdesk

/-- What a message may look like later. -/
structure OutboxRow.Becomes (old new : OutboxRow) : Prop where
  columns : new = { old with publishedAt := new.publishedAt, attempts := new.attempts, lastError := new.lastError }
  published : ∀ when, old.publishedAt = some when → new.publishedAt = some when

namespace OutboxRow

variable {m m' m'' : OutboxRow}

theorem Becomes.refl (m : OutboxRow) : m.Becomes m := ⟨rfl, fun _ same => same⟩

theorem Becomes.trans (first : m.Becomes m') (second : m'.Becomes m'') : m.Becomes m'' where
  columns := by rw [second.columns, first.columns]
  published when set := second.published when (first.published when set)

theorem Becomes.id (becomes : m.Becomes m') : m'.id = m.id := by rw [becomes.columns]

theorem Becomes.eventName (becomes : m.Becomes m') : m'.eventName = m.eventName := by rw [becomes.columns]

/-- A message is added to a queue as the same job whenever that is. -/
theorem Becomes.data (becomes : m.Becomes m') : OutboxPublisher.data m' = OutboxPublisher.data m := by
  rw [becomes.columns]
  rfl

end OutboxRow

namespace Outbox

open Relational Txn

variable {w : Write} {db db' : Db} {m : OutboxRow}

/-- What a statement makes of a message that is there: it is published afterwards if it was before, or if
    the statement says so of it. -/
structure Write.RowAfter (w : Write) (old new : OutboxRow) : Prop where
  becomes : old.Becomes new
  published : new.publishedAt.isSome = true ↔
    old.publishedAt.isSome = true ∨ ∃ ids now, w = .markPublished ids now ∧ old.id ∈ ids

/-- What a statement that publishes nothing leaves unpublished. -/
theorem Write.rowAfter_of_other {old new : OutboxRow} (becomes : old.Becomes new)
    (same : new.publishedAt = old.publishedAt) (other : ∀ ids now, w ≠ .markPublished ids now) :
    w.RowAfter old new where
  becomes := becomes
  published := by
    rw [same]
    exact ⟨.inl, fun either => either.elim (fun set => set) fun ⟨ids, now, isMark, _⟩ => absurd isMark (other ids now)⟩

theorem Write.rowAfter_markPublished (ids : List Uuid) (now : Instant) (m : OutboxRow) :
    (Write.markPublished ids now).RowAfter m (if publishes ids m then { m with publishedAt := some now } else m) := by
  by_cases hit : publishes ids m = true
  · rw [if_pos hit]
    simp only [publishes, Bool.and_eq_true, decide_eq_true_eq, List.contains_iff_mem] at hit
    constructor
    · exact ⟨rfl, fun when set => by simp [hit.2] at set⟩
    · exact iff_of_true rfl (.inr ⟨ids, now, rfl, hit.1⟩)
  · rw [if_neg hit]
    simp only [publishes, Bool.and_eq_true, decide_eq_true_eq, List.contains_iff_mem, not_and] at hit
    constructor
    · exact .refl m
    · refine ⟨.inl, fun either => either.elim (fun set => set) fun ⟨ids', now', same, inside⟩ => ?_⟩
      cases same
      exact Option.isSome_iff_ne_none.mpr (hit inside)

theorem Write.rowAfter_markFailed (id : Uuid) (error : String) (m : OutboxRow) :
    (Write.markFailed id error).RowAfter m
      (if m.id = id then { m with attempts := m.attempts + 1, lastError := some (left1000 error) } else m) := by
  split
  · exact rowAfter_of_other ⟨rfl, fun _ same => same⟩ rfl nofun
  · exact rowAfter_of_other (.refl m) rfl nofun

/-- A message that is there is there after the statement. -/
theorem Write.find?_outbox {id : Uuid} (stored : db.outbox.find? id = some m) :
    ∃ m', (w.apply db).outbox.find? id = some m' ∧ w.RowAfter m m' := by
  cases w with
  | insertOutbox rows => exact ⟨m, find?_insertAll stored, rowAfter_of_other (.refl m) rfl nofun⟩
  | markPublished ids now =>
      refine ⟨_, ?_, rowAfter_markPublished ids now m⟩
      rw [apply, Table.find?_updateWhere, stored]
      rfl
  | markFailed id' error =>
      refine ⟨_, ?_, rowAfter_markFailed id' error m⟩
      rw [apply, Table.find?_updateWhere, stored]
      simp
  | accept queue job => exact ⟨m, stored, rowAfter_of_other (.refl m) rfl nofun⟩

/-- A message after the statement was there before, or the statement has inserted it. -/
theorem Write.mem_outbox (stored : m ∈ (w.apply db).outbox.rows) :
    (∃ old ∈ db.outbox.rows, w.RowAfter old m) ∨ ∃ rows, w = .insertOutbox rows ∧ m ∈ rows := by
  cases w with
  | insertOutbox rows =>
      rcases mem_outbox_insertAll stored with old | new
      · exact .inl ⟨m, old, rowAfter_of_other (.refl m) rfl nofun⟩
      · exact .inr ⟨rows, rfl, new⟩
  | markPublished ids now =>
      obtain ⟨old, inside, rfl⟩ := List.mem_map.mp stored
      exact .inl ⟨old, inside, rowAfter_markPublished ids now old⟩
  | markFailed id error =>
      obtain ⟨old, inside, rfl⟩ := List.mem_map.mp stored
      refine .inl ⟨old, inside, ?_⟩
      simpa using rowAfter_markFailed id error old
  | accept queue job => exact .inl ⟨m, stored, rowAfter_of_other (.refl m) rfl nofun⟩

/-- What the statements leave of a database. -/
structure Db.Grows (db db' : Db) : Prop where
  outbox : ∀ id m, db.outbox.find? id = some m → ∃ m', db'.outbox.find? id = some m' ∧ m.Becomes m'
  accepted : db.accepted <+: db'.accepted

theorem Db.Grows.refl (db : Db) : db.Grows db := ⟨fun _ m found => ⟨m, found, .refl m⟩, List.prefix_rfl⟩

theorem Db.Grows.trans {db₁ db₂ db₃ : Db} (first : db₁.Grows db₂) (second : db₂.Grows db₃) : db₁.Grows db₃ where
  outbox id m found := by
    obtain ⟨m', found', becomes⟩ := first.outbox id m found
    obtain ⟨m'', found'', becomes'⟩ := second.outbox id m' found'
    exact ⟨m'', found'', becomes.trans becomes'⟩
  accepted := first.accepted.trans second.accepted

theorem grows_apply (w : Write) (db : Db) : db.Grows (w.apply db) where
  outbox _ _ found := by
    obtain ⟨m', found', after⟩ := Write.find?_outbox (w := w) found
    exact ⟨m', found', after.becomes⟩
  accepted := by
    cases w with
    | accept queue job => exact List.prefix_append _ _
    | _ => exact List.prefix_rfl

theorem grows_applyAll (writes : List Write) (db : Db) : db.Grows (store.applyAll writes db) := by
  induction writes generalizing db with
  | nil => exact .refl db
  | cons w writes ih => exact (grows_apply w db).trans (ih _)

/-- A message that is there is there after the statements, published if it was before or if one of them
    says so of it. -/
theorem find?_applyAll {writes : List Write} {id : Uuid} (stored : db.outbox.find? id = some m) :
    ∃ m', (store.applyAll writes db).outbox.find? id = some m' ∧ m.Becomes m' ∧
      (m'.publishedAt.isSome = true ↔
        m.publishedAt.isSome = true ∨ ∃ ids now, .markPublished ids now ∈ writes ∧ id ∈ ids) := by
  induction writes generalizing db m with
  | nil => exact ⟨m, stored, .refl m, by simp⟩
  | cons w writes ih =>
      obtain ⟨m₁, stored₁, after⟩ := Write.find?_outbox (w := w) stored
      obtain ⟨m₂, stored₂, becomes, published⟩ := ih stored₁
      have sameId : m.id = id := Table.key_of_find? stored
      refine ⟨m₂, stored₂, after.becomes.trans becomes, ?_⟩
      rw [published, after.published, sameId]
      simp only [List.mem_cons]
      grind

/-- A message that is not published stays so, where no statement says otherwise. -/
theorem unpublished_applyAll {writes : List Write} {id : Uuid}
    (inserts : ∀ rows, .insertOutbox rows ∈ writes → ∀ row ∈ rows, row.publishedAt = none)
    (unmarked : ∀ ids now, .markPublished ids now ∈ writes → id ∉ ids)
    (before : ∀ m, db.outbox.find? id = some m → m.publishedAt = none) :
    ∀ m, (store.applyAll writes db).outbox.find? id = some m → m.publishedAt = none := by
  induction writes generalizing db with
  | nil => exact before
  | cons w writes ih =>
      refine ih (fun rows later => inserts rows (List.mem_cons_of_mem _ later))
        (fun ids now later => unmarked ids now (List.mem_cons_of_mem _ later)) ?_
      intro m stored
      have sameId : m.id = id := Table.key_of_find? stored
      rcases Write.mem_outbox (Table.mem_of_find? stored) with ⟨old, there, after⟩ | ⟨rows, isInsert, inserted⟩
      · have sameId' : old.id = id := after.becomes.id.symm.trans sameId
        have unpublished := before old ((Table.find?_eq_some_iff _ _ _).mpr ⟨there, sameId'⟩)
        rw [← Option.not_isSome_iff_eq_none, after.published]
        intro either
        rcases either with set | ⟨ids, now, isMark, among⟩
        · simp [unpublished] at set
        · exact unmarked ids now (isMark ▸ List.mem_cons_self) (sameId' ▸ among)
      · exact inserts rows (isInsert ▸ List.mem_cons_self) m inserted

/-- Queues hold what they have taken. -/
theorem mem_accepted_applyAll {writes : List Write} {queue : String} {job : WireJob}
    (takes : .accept queue job ∈ writes) (db : Db) : (queue, job) ∈ (store.applyAll writes db).accepted := by
  induction writes generalizing db with
  | nil => cases takes
  | cons w writes ih =>
      rcases List.mem_cons.mp takes with rfl | later
      · apply (grows_applyAll writes _).accepted.subset
        exact List.mem_append_right db.accepted List.mem_cons_self
      · exact ih later _

/-- Queues taking messages change nothing about the messages. -/
theorem outbox_applyAll_of_accepts {writes : List Write} (accepts : ∀ w ∈ writes, ∃ queue job, w = .accept queue job)
    (db : Db) : (store.applyAll writes db).outbox = db.outbox := by
  induction writes generalizing db with
  | nil => rfl
  | cons w writes ih =>
      obtain ⟨queue, job, rfl⟩ := accepts w List.mem_cons_self
      exact ih (fun w later => accepts w (List.mem_cons_of_mem _ later)) _

/-- What a statement makes of a row. -/
def Write.row : Write → OutboxRow → OutboxRow
  | .markPublished ids now, m => if publishes ids m then { m with publishedAt := some now } else m
  | .markFailed id error, m =>
      if m.id = id then { m with attempts := m.attempts + 1, lastError := some (left1000 error) } else m
  | .insertOutbox _, m => m
  | .accept _ _, m => m

theorem row_markPublished_of_mem {ids : List Uuid} {now : Instant} (inside : m.id ∈ ids)
    (unpublished : m.publishedAt = none) : (Write.markPublished ids now).row m = { m with publishedAt := some now } :=
  if_pos (by simp [Write.publishes, inside, unpublished])

theorem row_markPublished_of_not_mem {ids : List Uuid} {now : Instant} (outside : m.id ∉ ids) :
    (Write.markPublished ids now).row m = m :=
  if_neg (by simp [Write.publishes, outside])

/-- What statements make of a row, one after the other. -/
def rowAfter (writes : List Write) (m : OutboxRow) : OutboxRow :=
  writes.foldl (fun m w => w.row m) m

@[simp] theorem rowAfter_nil (m : OutboxRow) : rowAfter [] m = m := rfl

@[simp] theorem rowAfter_cons (w : Write) (writes : List Write) (m : OutboxRow) :
    rowAfter (w :: writes) m = rowAfter writes (w.row m) := rfl

@[simp] theorem rowAfter_append (writes writes' : List Write) (m : OutboxRow) :
    rowAfter (writes ++ writes') m = rowAfter writes' (rowAfter writes m) :=
  List.foldl_append

/-- Where nothing is inserted, the rows are those that were there, each with what was made of it. -/
theorem rows_applyAll {writes : List Write} (noInserts : ∀ rows, .insertOutbox rows ∉ writes) (db : Db) :
    (store.applyAll writes db).outbox.rows = db.outbox.rows.map (rowAfter writes) := by
  induction writes generalizing db with
  | nil => exact (List.map_id _).symm
  | cons w writes ih =>
      have first : (w.apply db).outbox.rows = db.outbox.rows.map w.row := by
        cases w with
        | insertOutbox rows => exact absurd List.mem_cons_self (noInserts rows)
        | markPublished ids now => rfl
        | markFailed id error => simp [Write.apply, Table.updateWhere, Write.row]
        | accept queue job => exact (List.map_id _).symm
      have rest := ih (fun rows later => noInserts rows (List.mem_cons_of_mem w later)) (w.apply db)
      rw [Store.applyAll_cons, rest, first, List.map_map]
      rfl

end Outbox

end Helpdesk
