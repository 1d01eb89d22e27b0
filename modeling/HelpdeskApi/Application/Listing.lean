/-
Module: HelpdeskApi.Application.Listing
Layer: Application
Purpose: What `TicketReadModel.list` answers: a page of the tickets that match the filter, in the order of
  their positions. The position of a ticket is given by its `createdAt` and its id, which nothing that is
  ever written to a ticket changes.
Trusted boundary: human-reviewed spec
Main exports: wanted, matching, listed, Position, position, listed_eq, KeepsPlaces, keepsPlaces_serve
-/
import HelpdeskApi.Application.Jobs
import HelpdeskApi.Store.Lemmas
import HelpdeskApi.Library.Paging
import Mathlib.Data.Prod.Lex
import Mathlib.Order.Nat

namespace Helpdesk

open Relational Txn

/-- Whether a ticket matches the filter of a request. -/
def wanted (input : ListTicketsInput) (r : TicketRow) : Bool :=
  r.tenantId = input.tenantId ∧ (∀ s ∈ input.status, r.status = s) ∧
    (∀ u ∈ input.assigneeId, r.assigneeId = some u) ∧ (∀ u ∈ input.requesterId, r.requesterId = u)

/-- The tickets that match, in the order of the list. -/
def matching (input : ListTicketsInput) (db : Db) : List TicketRow :=
  ((db.visible (some input.tenantId)).tickets.rows.filter (wanted input)).insertionSort newestFirst

/-- What the list answers to a request with this cursor. -/
def listed (input : ListTicketsInput) (cursor : Option TicketId) (db : Db) : Option TicketPage :=
  ((TicketReadModel.list { input with cursor := cursor }).run repositories
    { tenant := some input.tenantId, requestId := none } db).map Prod.fst

section Positions

/-- Where a ticket is in the list. -/
def Position : Type :=
  ℤᵒᵈ ×ₗ ℕᵒᵈ

instance : LinearOrder Position :=
  inferInstanceAs (LinearOrder (ℤᵒᵈ ×ₗ ℕᵒᵈ))

def position (createdAt : Instant) (id : TicketId) : Position :=
  toLex (OrderDual.toDual createdAt, OrderDual.toDual id.uuid)

def TicketRow.position (r : TicketRow) : Position :=
  Helpdesk.position r.createdAt r.id

def TicketSummary.position (s : TicketSummary) : Position :=
  Helpdesk.position s.createdAt s.id

theorem id_of_position {createdAt createdAt' : Instant} {id id' : TicketId}
    (same : position createdAt id = position createdAt' id') : id = id' := by
  obtain ⟨_, sameId⟩ := Prod.mk.inj same
  cases id
  cases id'
  exact congrArg TicketId.mk sameId

theorem newestFirst_iff (a b : TicketRow) : newestFirst a b ↔ a.position ≤ b.position := by
  change _ ↔ toLex (OrderDual.toDual a.createdAt, OrderDual.toDual a.id.uuid) ≤
    toLex (OrderDual.toDual b.createdAt, OrderDual.toDual b.id.uuid)
  rw [Prod.Lex.toLex_le_toLex]
  simp only [newestFirst, OrderDual.toDual_lt_toDual, OrderDual.toDual_le_toDual, OrderDual.toDual_inj, eq_comm]

/-- `ORDER BY created_at DESC, id DESC` sorts. -/
theorem sorted_insertionSort (rows : List TicketRow) :
    ((rows.insertionSort newestFirst).map TicketRow.position).Pairwise (· ≤ ·) := by
  have total : Std.Total newestFirst := ⟨fun a b => by
    rw [newestFirst_iff, newestFirst_iff]
    exact le_total _ _⟩
  have trans : IsTrans TicketRow newestFirst := ⟨fun a b c first second => by
    rw [newestFirst_iff] at *
    exact first.trans second⟩
  refine List.pairwise_map.mpr ((List.pairwise_insertionSort newestFirst rows).imp ?_)
  intro a b
  exact (newestFirst_iff a b).mp

end Positions

section Matching

variable {input : ListTicketsInput} {db : Db}

theorem mem_matching (r : TicketRow) :
    r ∈ matching input db ↔ db.tickets.find? r.id = some r ∧ wanted input r = true := by
  rw [matching, List.mem_insertionSort, List.mem_filter, Table.find?_eq_some_iff]
  constructor
  · rintro ⟨inside, matches_⟩
    exact ⟨⟨(List.mem_filter.mp inside).1, rfl⟩, matches_⟩
  · rintro ⟨⟨inside, _⟩, matches_⟩
    have ofTenant : r.tenantId = input.tenantId := (of_decide_eq_true matches_).1
    exact ⟨List.mem_filter.mpr ⟨inside, by simp [ofTenant]⟩, matches_⟩

/-- No two tickets are in one place. -/
theorem sorted_matching (input : ListTicketsInput) (db : Db) :
    ((matching input db).map TicketRow.position).Pairwise (· < ·) := by
  have distinct : ((matching input db).map TicketRow.position).Nodup := by
    have ids : ((matching input db).map TicketRow.id).Nodup := by
      apply ((List.perm_insertionSort _ _).map TicketRow.id).nodup_iff.mpr
      exact (List.filter_sublist.map _).nodup (db.visible (some input.tenantId)).tickets.keysDistinct
    refine List.Nodup.of_map (fun p : Position => TicketId.mk (OrderDual.ofDual (ofLex p).2)) ?_
    rw [List.map_map]
    exact ids
  refine (sorted_insertionSort _).imp₂ ?_ distinct
  intro a b
  exact lt_of_le_of_ne

/-- The rows a request finds. -/
def pageRows (input : ListTicketsInput) (cursor : Option TicketId) (db : Db) : List TicketRow :=
  ticketPage (db.visible (some input.tenantId)) input.tenantId input.status input.assigneeId input.requesterId cursor
    (TicketReadModel.pageSize input.limit)

/-- The list answers with a page, whatever the request. -/
theorem listed_eq (input : ListTicketsInput) (cursor : Option TicketId) (db : Db) :
    listed input cursor db = some
      { items := (pageRows input cursor db).map TicketRow.summary
        nextCursor :=
          if (pageRows input cursor db).length = TicketReadModel.pageSize input.limit then
            (pageRows input cursor db).getLast?.map TicketRow.id
          else none } := rfl

theorem pageRows_first (input : ListTicketsInput) (db : Db) :
    (pageRows input none db).map TicketRow.position =
      Paging.page ((matching input db).map TicketRow.position) none (TicketReadModel.pageSize input.limit) :=
  List.map_take

theorem pageRows_next {id : TicketId} {r : TicketRow} (found : db.ticketOf input.tenantId id = some r) :
    (pageRows input (some id) db).map TicketRow.position =
      Paging.page ((matching input db).map TicketRow.position) (some r.position)
        (TicketReadModel.pageSize input.limit) := by
  have sameTest : (fun b => decide (newestFirst r b)) =
      (fun p => decide (r.position ≤ p)) ∘ TicketRow.position := by
    funext b
    exact decide_eq_decide.mpr (newestFirst_iff r b)
  rw [← Db.visible_tickets_find?] at found
  simp only [pageRows, ticketPage, found, Paging.page, Paging.rest, List.map_take, List.map_drop, List.filter_map,
    sameTest]
  rfl

end Matching

/-- Tickets stay, and stay where they are. -/
def KeepsPlaces (db db' : Db) : Prop :=
  ∀ id r, db.tickets.find? id = some r →
    ∃ r', db'.tickets.find? id = some r' ∧ r'.createdAt = r.createdAt ∧ r'.tenantId = r.tenantId

theorem KeepsPlaces.refl (db : Db) : KeepsPlaces db db :=
  fun _ r found => ⟨r, found, rfl, rfl⟩

theorem KeepsPlaces.trans {db db' db'' : Db} (first : KeepsPlaces db db') (second : KeepsPlaces db' db'') :
    KeepsPlaces db db'' := by
  intro id r found
  obtain ⟨r', found', sameInstant, sameTenant⟩ := first id r found
  obtain ⟨r'', found'', sameInstant', sameTenant'⟩ := second id r' found'
  exact ⟨r'', found'', sameInstant'.trans sameInstant, sameTenant'.trans sameTenant⟩

theorem keepsPlaces_apply (w : Write) (db : Db) : KeepsPlaces db (w.apply db) := by
  cases w with
  | upsertTicket ticket =>
      intro id r found
      change ∃ r', (db.tickets.upsert _ _ _).find? id = some r' ∧ _
      rw [Table.find?_upsert, found]
      split
      · exact ⟨_, rfl, rfl, rfl⟩
      · exact ⟨r, rfl, rfl, rfl⟩
  | _ => exact .refl _

theorem keepsPlaces_serve (e : Execution) (db : Db) : KeepsPlaces db (serve e db).2 :=
  Handler.transact_kept .refl .trans keepsPlaces_apply _ _ _

end Helpdesk
