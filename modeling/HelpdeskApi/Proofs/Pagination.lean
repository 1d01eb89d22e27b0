/-
Module: HelpdeskApi.Proofs.Pagination
Layer: Proofs
Purpose: A client that follows `nextCursor` while tickets are created, moved and reassigned. No ticket comes
  twice. A ticket that matches throughout can be left out in one way only: the ticket the cursor stands for
  does not match any more, so that `skip: 1` skips the next one in its place.
Trusted boundary: none
Main exports: Traversal, follow, follow_ends, Throughout, passedOver, complete_iff_notPassedOver
-/
import HelpdeskApi.Application.Listing

namespace Helpdesk

open Relational Txn

/-- The database after some executions, one after the other. -/
def serveAll (es : List Execution) (db : Db) : Db :=
  es.foldl (fun db e => (serve e db).2) db

/-- The databases before the executions, between them and after them. -/
def visited (es : List Execution) (db : Db) : List Db :=
  es.scanl (fun db e => (serve e db).2) db

/-- A client has followed `nextCursor` to its end: what it asked for and when, the states of the database
    meanwhile, and what it got. -/
structure Traversal where
  requests : List (Option TicketId × Db)
  states : List Db
  items : List TicketSummary

/-- Follow `nextCursor` from some cursor on, with some executions after each request. The client gets to the
    end if there is a request without a `nextCursor`. -/
def follow (input : ListTicketsInput) (cursor : Option TicketId) (db : Db) : List (List Execution) → Option Traversal
  | [] => do
      let page ← listed input cursor db
      match page.nextCursor with
      | none => some { requests := [(cursor, db)], states := [db], items := page.items }
      | some _ => none
  | es :: rounds => do
      let page ← listed input cursor db
      match page.nextCursor with
      | none => some { requests := [(cursor, db)], states := [db], items := page.items }
      | some next =>
          let later ← follow input (some next) (serveAll es db) rounds
          some
            { requests := (cursor, db) :: later.requests
              states := visited es db ++ later.states
              items := page.items ++ later.items }

/-- The ticket is there and matches the filter during the whole traversal. -/
def Throughout (input : ListTicketsInput) (t : Traversal) (id : TicketId) : Prop :=
  ∀ db ∈ t.states, ∃ r, db.tickets.find? id = some r ∧ wanted input r = true

/-- The ticket that is skipped in place of the one the cursor stands for, where that one does not match. -/
def passedOver (input : ListTicketsInput) (cursor : Option TicketId) (db : Db) : Option TicketId :=
  match cursor.bind (db.ticketOf input.tenantId) with
  | none => none
  | some delivered =>
      if wanted input delivered then none
      else ((matching input db).find? fun r => newestFirst delivered r).map TicketRow.id

/-- No ticket comes twice, and every ticket that matches throughout comes exactly once. -/
def NeitherRepeatsNorSkips (input : ListTicketsInput) (t : Traversal) : Prop :=
  (t.items.map TicketSummary.id).Nodup ∧
    ∀ id, Throughout input t id → (t.items.map TicketSummary.id).count id = 1

section Traversals

variable {input : ListTicketsInput} {cursor : Option TicketId} {db : Db} {rounds : List (List Execution)}
  {t : Traversal}

theorem keepsPlaces_serveAll (es : List Execution) (db : Db) : KeepsPlaces db (serveAll es db) := by
  induction es generalizing db with
  | nil => exact .refl db
  | cons e es ih => exact (keepsPlaces_serve e db).trans (ih _)

theorem keepsPlaces_visited (es : List Execution) {db : Db} : ∀ db' ∈ visited es db, KeepsPlaces db db' := by
  induction es generalizing db with
  | nil =>
      intro db' inside
      rw [List.mem_singleton.mp inside]
      exact .refl db
  | cons e es ih =>
      intro db' inside
      rw [visited, List.scanl_cons] at inside
      rcases List.mem_cons.mp inside with rfl | later
      · exact .refl db'
      · exact (keepsPlaces_serve e db).trans (ih db' later)

theorem keepsPlaces_of_visited (es : List Execution) {db : Db} :
    ∀ db' ∈ visited es db, KeepsPlaces db' (serveAll es db) := by
  induction es generalizing db with
  | nil =>
      intro db' inside
      rw [List.mem_singleton.mp inside]
      exact .refl db
  | cons e es ih =>
      intro db' inside
      rw [visited, List.scanl_cons] at inside
      rcases List.mem_cons.mp inside with rfl | later
      · exact keepsPlaces_serveAll (e :: es) db'
      · exact ih db' later

theorem mem_visited (es : List Execution) (db : Db) : db ∈ visited es db := by
  cases es with
  | nil => exact List.mem_singleton_self db
  | cons e es =>
      rw [visited, List.scanl_cons]
      exact List.mem_cons_self

theorem follow_of_noNext {page : TicketPage} (answer : listed input cursor db = some page)
    (noNext : page.nextCursor = none) :
    follow input cursor db rounds = some { requests := [(cursor, db)], states := [db], items := page.items } := by
  cases rounds <;> simp [follow, answer, noNext]

theorem follow_of_next {page : TicketPage} {next : TicketId} {es : List Execution}
    (answer : listed input cursor db = some page) (isNext : page.nextCursor = some next)
    (later : follow input (some next) (serveAll es db) rounds = some t) :
    follow input cursor db (es :: rounds) = some
      { requests := (cursor, db) :: t.requests
        states := visited es db ++ t.states
        items := page.items ++ t.items } := by
  simp [follow, answer, isNext, later]

/-- The two ways a traversal goes on after a request. -/
theorem follow_cases (followed : follow input cursor db rounds = some t) :
    (∃ page, listed input cursor db = some page ∧ page.nextCursor = none ∧
        t = { requests := [(cursor, db)], states := [db], items := page.items }) ∨
      ∃ page next es later rounds', listed input cursor db = some page ∧ page.nextCursor = some next ∧
        rounds = es :: rounds' ∧ follow input (some next) (serveAll es db) rounds' = some later ∧
        t = { requests := (cursor, db) :: later.requests, states := visited es db ++ later.states
              items := page.items ++ later.items } := by
  cases rounds with
  | nil =>
      rw [follow] at followed
      obtain ⟨page, answer, ends⟩ := Option.bind_eq_some_iff.mp followed
      split at ends
      · rename_i noNext
        exact .inl ⟨page, answer, noNext, (Option.some.inj ends).symm⟩
      · cases ends
  | cons es rounds =>
      rw [follow] at followed
      obtain ⟨page, answer, ends⟩ := Option.bind_eq_some_iff.mp followed
      split at ends
      · rename_i noNext
        exact .inl ⟨page, answer, noNext, (Option.some.inj ends).symm⟩
      · rename_i next isNext
        obtain ⟨later, followedLater, same⟩ := Option.bind_eq_some_iff.mp ends
        exact .inr ⟨page, next, es, later, rounds, answer, isNext, rfl, followedLater, (Option.some.inj same).symm⟩

/-- Induction along a traversal: its last request, and a request with what follows it. -/
theorem follow_induct {motive : Option TicketId → Db → Traversal → Prop}
    (last : ∀ cursor db page, listed input cursor db = some page → page.nextCursor = none →
      motive cursor db { requests := [(cursor, db)], states := [db], items := page.items })
    (more : ∀ cursor db page next es later, listed input cursor db = some page → page.nextCursor = some next →
      motive (some next) (serveAll es db) later →
      motive cursor db
        { requests := (cursor, db) :: later.requests, states := visited es db ++ later.states
          items := page.items ++ later.items })
    (followed : follow input cursor db rounds = some t) : motive cursor db t := by
  induction rounds generalizing cursor db t with
  | nil =>
      rcases follow_cases followed with ⟨page, answer, noNext, rfl⟩ | ⟨_, _, es, _, rounds', _, _, none, _⟩
      · exact last cursor db page answer noNext
      · cases none
  | cons es rounds ih =>
      rcases follow_cases followed with ⟨page, answer, noNext, rfl⟩ |
        ⟨page, next, es, later, rounds, answer, isNext, same, followedLater, rfl⟩
      · exact last cursor db page answer noNext
      · cases same
        exact more cursor db page next _ later answer isNext (ih followedLater)

/-- A traversal goes through the states it says, from the first to a last one, and keeps all tickets in their
    places. -/
theorem states_of_follow (followed : follow input cursor db rounds = some t) :
    db ∈ t.states ∧ (∃ last, ∀ db' ∈ t.states, KeepsPlaces db db' ∧ KeepsPlaces db' last) ∧
      ∀ request ∈ t.requests, request.2 ∈ t.states := by
  refine follow_induct (motive := fun _ db t => db ∈ t.states ∧
    (∃ last, ∀ db' ∈ t.states, KeepsPlaces db db' ∧ KeepsPlaces db' last) ∧
      ∀ request ∈ t.requests, request.2 ∈ t.states) ?_ ?_ followed
  · intro cursor db page _ _
    exact ⟨by simp, ⟨db, by simp [KeepsPlaces.refl]⟩, by simp⟩
  · intro cursor db page next es later _ _ ih
    obtain ⟨first, ⟨last, keeps⟩, inside⟩ := ih
    refine ⟨List.mem_append_left _ (mem_visited es db), ⟨last, fun db' isState => ?_⟩, ?_⟩
    · rcases List.mem_append.mp isState with isFirst | isSecond
      · exact ⟨keepsPlaces_visited es db' isFirst, (keepsPlaces_of_visited es db' isFirst).trans (keeps _ first).2⟩
      · exact ⟨(keepsPlaces_serveAll es db).trans (keeps db' isSecond).1, (keeps db' isSecond).2⟩
    · intro request isRequest
      rcases List.mem_cons.mp isRequest with rfl | second
      · exact List.mem_append_left _ (mem_visited es db)
      · exact List.mem_append_right _ (inside request second)

/-- The positions of the tickets that match. -/
def positions (input : ListTicketsInput) (db : Db) : List Position :=
  (matching input db).map TicketRow.position

/-- The position of the ticket the cursor stands for. -/
def place (input : ListTicketsInput) (cursor : Option TicketId) (db : Db) : Option Position :=
  (cursor.bind (db.ticketOf input.tenantId)).map TicketRow.position

/-- The cursor stands for a ticket of the tenant. -/
def Located (input : ListTicketsInput) (cursor : Option TicketId) (db : Db) : Prop :=
  ∀ id ∈ cursor, ∃ r, db.ticketOf input.tenantId id = some r

theorem page_positions (located : Located input cursor db) :
    (pageRows input cursor db).map TicketRow.position =
      Paging.page (positions input db) (place input cursor db) (TicketReadModel.pageSize input.limit) := by
  cases cursor with
  | none => exact pageRows_first input db
  | some id =>
      obtain ⟨r, found⟩ := located id rfl
      rw [pageRows_next found, place, Option.bind_some, found]
      rfl

theorem listed_cases {page : TicketPage} (answer : listed input cursor db = some page) :
    page.items.map TicketSummary.position = (pageRows input cursor db).map TicketRow.position ∧
      page.items.map TicketSummary.id = (pageRows input cursor db).map TicketRow.id ∧
      page.nextCursor =
        if (pageRows input cursor db).length = TicketReadModel.pageSize input.limit then
          (pageRows input cursor db).getLast?.map TicketRow.id
        else none := by
  rw [listed_eq] at answer
  cases answer
  refine ⟨?_, ?_, rfl⟩ <;> rw [List.map_map] <;> rfl

theorem pageSize_pos (limit : Int) : 0 < TicketReadModel.pageSize limit := by
  unfold TicketReadModel.pageSize TICKETS_PAGE_SIZE_MAX
  omega

/-- The list goes on after a full page only. -/
theorem short_of_noNext {page : TicketPage} (answer : listed input cursor db = some page)
    (noNext : page.nextCursor = none) :
    (pageRows input cursor db).length ≠ TicketReadModel.pageSize input.limit := by
  intro full
  rw [(listed_cases answer).2.2, if_pos full, Option.map_eq_none_iff, List.getLast?_eq_none_iff] at noNext
  rw [noNext] at full
  exact (pageSize_pos input.limit).ne full

theorem full_of_next {page : TicketPage} {next : TicketId} (answer : listed input cursor db = some page)
    (isNext : page.nextCursor = some next) :
    (pageRows input cursor db).length = TicketReadModel.pageSize input.limit ∧
      ∃ r, (pageRows input cursor db).getLast? = some r ∧ r.id = next := by
  rw [(listed_cases answer).2.2] at isNext
  split at isNext
  · rename_i full
    exact ⟨full, Option.map_eq_some_iff.mp isNext⟩
  · cases isNext

theorem matching_of_mem_pageRows {r : TicketRow} (inside : r ∈ pageRows input cursor db) :
    r ∈ matching input db := by
  unfold pageRows ticketPage at inside
  cases cursor with
  | none => exact List.mem_of_mem_take inside
  | some id =>
      dsimp only at inside
      split at inside
      · cases inside
      · exact (List.mem_filter.mp (List.mem_of_mem_drop (List.mem_of_mem_take inside))).1

theorem ticketOf_of_matching {r : TicketRow} (inside : r ∈ matching input db) :
    db.ticketOf input.tenantId r.id = some r := by
  obtain ⟨found, isWanted⟩ := (mem_matching r).mp inside
  exact Db.ticketOf_eq_some_iff.mpr ⟨found, (of_decide_eq_true isWanted).1⟩

/-- A ticket of the tenant keeps its position. -/
theorem KeepsPlaces.ticketOf {db' : Db} (keeps : KeepsPlaces db db') {tenantId : TenantId} {id : TicketId}
    {r : TicketRow} (found : db.ticketOf tenantId id = some r) :
    ∃ r', db'.ticketOf tenantId id = some r' ∧ r'.position = r.position := by
  obtain ⟨isRow, ofTenant⟩ := Db.ticketOf_eq_some_iff.mp found
  obtain ⟨r', isRow', sameInstant, sameTenant⟩ := keeps id r isRow
  have isId : r.id = id := Table.key_of_find? isRow
  have isId' : r'.id = id := Table.key_of_find? isRow'
  refine ⟨r', Db.ticketOf_eq_some_iff.mpr ⟨isRow', sameTenant.trans ofTenant⟩, ?_⟩
  rw [TicketRow.position, TicketRow.position, sameInstant, isId, isId']

/-- The last ticket of a page, which the next cursor stands for. -/
theorem last_of_next {page : TicketPage} {next : TicketId} (located : Located input cursor db)
    (answer : listed input cursor db = some page) (isNext : page.nextCursor = some next) :
    ∃ r, db.ticketOf input.tenantId next = some r ∧
      (Paging.page (positions input db) (place input cursor db)
        (TicketReadModel.pageSize input.limit)).getLast? = some r.position := by
  obtain ⟨_, r, isLast, rfl⟩ := full_of_next answer isNext
  refine ⟨r, ticketOf_of_matching (matching_of_mem_pageRows (List.mem_of_getLast? isLast)), ?_⟩
  rw [← page_positions located, List.getLast?_map, isLast]
  rfl

/-- What a client does that follows `nextCursor` is what the pages are meant for. -/
theorem follows_of_follow (located : Located input cursor db)
    (followed : follow input cursor db rounds = some t) :
    Paging.Follows (TicketReadModel.pageSize input.limit) (place input cursor db)
      (t.requests.map fun request => (positions input request.2, place input request.1 request.2))
      (t.items.map TicketSummary.position) := by
  refine follow_induct (motive := fun cursor db t => Located input cursor db →
    Paging.Follows (TicketReadModel.pageSize input.limit) (place input cursor db)
      (t.requests.map fun request => (positions input request.2, place input request.1 request.2))
      (t.items.map TicketSummary.position)) ?_ ?_ followed located
  · intro cursor db page answer noNext located
    have short := short_of_noNext answer noNext
    rw [← List.length_map TicketRow.position, page_positions located] at short
    rw [(listed_cases answer).1, page_positions located, List.map_singleton]
    exact .last short
  · intro cursor db page next es later answer isNext ih located
    obtain ⟨full, _⟩ := full_of_next answer isNext
    rw [← List.length_map TicketRow.position, page_positions located] at full
    obtain ⟨r, found, isLast⟩ := last_of_next located answer isNext
    obtain ⟨r', found', samePosition⟩ := (keepsPlaces_serveAll es db).ticketOf found
    have samePlace : place input (some next) (serveAll es db) = some r.position := by
      rw [place, Option.bind_some, found', Option.map_some, samePosition]
    have goesOn := ih fun id isCursor => ⟨r', Option.some.inj isCursor ▸ found'⟩
    rw [samePlace] at goesOn
    rw [List.map_append, (listed_cases answer).1, page_positions located, List.map_cons]
    exact .next full isLast goesOn

/-- What is delivered is a ticket of one of the states. -/
theorem found_of_delivered (followed : follow input cursor db rounds = some t) :
    ∀ item ∈ t.items, ∃ db' ∈ t.states, ∃ r, db'.tickets.find? item.id = some r ∧ r.position = item.position := by
  have onPage : ∀ {cursor db page} (item : TicketSummary), listed input cursor db = some page → item ∈ page.items →
      ∃ r, db.tickets.find? item.id = some r ∧ r.position = item.position := by
    intro cursor db page item answer inside
    rw [listed_eq] at answer
    cases answer
    obtain ⟨r, isRow, rfl⟩ := List.mem_map.mp inside
    exact ⟨r, ((mem_matching r).mp (matching_of_mem_pageRows isRow)).1, rfl⟩
  refine follow_induct (motive := fun _ _ t => ∀ item ∈ t.items, ∃ db' ∈ t.states, ∃ r,
    db'.tickets.find? item.id = some r ∧ r.position = item.position) ?_ ?_ followed
  · intro cursor db page answer _ item inside
    exact ⟨db, List.mem_singleton_self db, onPage item answer inside⟩
  · intro cursor db page next es later answer _ ih item inside
    rcases List.mem_append.mp inside with first | second
    · exact ⟨db, List.mem_append_left _ (mem_visited es db), onPage item answer first⟩
    · obtain ⟨db', isState, found⟩ := ih item second
      exact ⟨db', List.mem_append_right _ isState, found⟩

/-- Whatever happens meanwhile, no ticket comes twice. -/
theorem nodup_of_follow (located : Located input cursor db) (followed : follow input cursor db rounds = some t) :
    (t.items.map TicketSummary.id).Nodup := by
  have sorted := (Paging.sorted_of_follows (follows_of_follow located followed) (by
    intro request isRequest
    obtain ⟨_, _, rfl⟩ := List.mem_map.mp isRequest
    exact sorted_matching input _)).1
  have distinct : (t.items.map TicketSummary.position).Nodup := sorted.imp fun before => before.ne
  obtain ⟨_, ⟨last, keeps⟩, _⟩ := states_of_follow followed
  apply (List.Nodup.of_map _ distinct).map_on
  intro item isItem item' isItem' sameId
  apply List.inj_on_of_nodup_map distinct isItem isItem'
  obtain ⟨db₁, isState, r, found, isPosition⟩ := found_of_delivered followed item isItem
  obtain ⟨db₂, isState', r', found', isPosition'⟩ := found_of_delivered followed item' isItem'
  obtain ⟨_, found₁, sameInstant, _⟩ := (keeps db₁ isState).2 item.id r found
  obtain ⟨_, found₂, sameInstant', _⟩ := (keeps db₂ isState').2 item'.id r' found'
  rw [sameId] at found₁
  cases found₁.symm.trans found₂
  have isId : r.id = item.id := Table.key_of_find? found
  have isId' : r'.id = item'.id := Table.key_of_find? found'
  rw [← isPosition, ← isPosition', TicketRow.position, TicketRow.position, ← sameInstant, ← sameInstant', isId, isId',
    sameId]

/-- While nothing happens, a client gets to the end. -/
theorem follow_ends_alone (located : Located input cursor db) :
    ∃ more t, follow input cursor db (List.replicate more []) = some t := by
  induction isLeft : (Paging.left (positions input db) (place input cursor db)).length using Nat.strong_induction_on
    generalizing cursor with
  | _ n ih =>
      obtain ⟨page, answer⟩ : ∃ page, listed input cursor db = some page := ⟨_, listed_eq input cursor db⟩
      cases isNext : page.nextCursor with
      | none => exact ⟨0, _, follow_of_noNext answer isNext⟩
      | some next =>
          obtain ⟨r, found, isLast⟩ := last_of_next located answer isNext
          have nextPlace : place input (some next) db = some r.position := by
            rw [place, Option.bind_some, found, Option.map_some]
          have fewer := Paging.length_left_lt (sorted_matching input db) (List.mem_of_getLast? isLast)
          rw [← nextPlace, show (matching input db).map TicketRow.position = positions input db from rfl, isLeft] at fewer
          have nextLocated : Located input (some next) db := fun id isCursor => ⟨r, Option.some.inj isCursor ▸ found⟩
          obtain ⟨more, t, followed⟩ := ih _ fewer nextLocated rfl
          exact ⟨more + 1, _, follow_of_next answer isNext followed⟩

/-- Whatever happens meanwhile, as long as it comes to an end, a client gets to the end. -/
theorem follow_ends (located : Located input cursor db) (rounds : List (List Execution)) :
    ∃ more t, follow input cursor db (rounds ++ List.replicate more []) = some t := by
  induction rounds generalizing cursor db with
  | nil => exact follow_ends_alone located
  | cons es rounds ih =>
      obtain ⟨page, answer⟩ : ∃ page, listed input cursor db = some page := ⟨_, listed_eq input cursor db⟩
      cases isNext : page.nextCursor with
      | none => exact ⟨0, _, follow_of_noNext answer isNext⟩
      | some next =>
          obtain ⟨r, found, _⟩ := last_of_next located answer isNext
          obtain ⟨r', found', _⟩ := (keepsPlaces_serveAll es db).ticketOf found
          have nextLocated : Located input (some next) (serveAll es db) := fun id isCursor =>
            ⟨r', Option.some.inj isCursor ▸ found'⟩
          obtain ⟨more, t, followed⟩ := ih nextLocated
          exact ⟨more, _, follow_of_next answer isNext followed⟩

/-- The ticket that is skipped is the one a page passes over. -/
theorem passedOver_cases (input : ListTicketsInput) (cursor : Option TicketId) (db : Db) :
    ∃ skipped : Option TicketRow, (∀ r ∈ skipped, r ∈ matching input db) ∧
      passedOver input cursor db = skipped.map TicketRow.id ∧
      Paging.passedOver (positions input db) (place input cursor db) = skipped.map TicketRow.position := by
  unfold passedOver place
  cases found : cursor.bind (db.ticketOf input.tenantId) with
  | none => exact ⟨none, fun r isNone => (Option.not_mem_none r isNone).elim, rfl, rfl⟩
  | some delivered =>
      obtain ⟨id, _, isRow⟩ := Option.bind_eq_some_iff.mp found
      obtain ⟨isRow, _⟩ := Db.ticketOf_eq_some_iff.mp isRow
      have isId : delivered.id = id := Table.key_of_find? isRow
      rw [← isId] at isRow
      have present : delivered.position ∈ positions input db ↔ wanted input delivered = true := by
        constructor
        · intro inside
          obtain ⟨r, isMatch, samePosition⟩ := List.mem_map.mp inside
          obtain ⟨isRow', isWanted⟩ := (mem_matching r).mp isMatch
          have sameId : r.id = delivered.id := id_of_position samePosition
          rw [sameId] at isRow'
          cases isRow.symm.trans isRow'
          exact isWanted
        · intro isWanted
          exact List.mem_map_of_mem ((mem_matching delivered).mpr ⟨isRow, isWanted⟩)
      rw [Option.map_some, Paging.passedOver]
      by_cases isWanted : wanted input delivered = true
      · refine ⟨none, fun r isNone => (Option.not_mem_none r isNone).elim, if_pos isWanted, ?_⟩
        exact if_pos (present.mpr isWanted)
      · have sameTest : (fun p => decide (delivered.position ≤ p)) ∘ TicketRow.position =
            fun r => decide (newestFirst delivered r) := by
          funext r
          exact (decide_eq_decide.mpr (newestFirst_iff delivered r)).symm
        refine ⟨(matching input db).find? fun r => newestFirst delivered r, fun r first => ?_, if_neg isWanted, ?_⟩
        · exact List.mem_of_find?_eq_some first
        · rw [if_neg fun inside => isWanted (present.mp inside), List.head?_filter, positions, List.find?_map, sameTest]

/-- A ticket that matches throughout is delivered, unless it is skipped. -/
theorem delivered_iff (located : Located input cursor db) (first : cursor = none)
    (followed : follow input cursor db rounds = some t) {id : TicketId} (throughout : Throughout input t id) :
    id ∈ t.items.map TicketSummary.id ↔
      ∀ request ∈ t.requests, passedOver input request.1 request.2 ≠ some id := by
  obtain ⟨isFirst, ⟨last, keeps⟩, inside⟩ := states_of_follow followed
  obtain ⟨r, found, _⟩ := throughout db isFirst
  have isId : r.id = id := Table.key_of_find? found
  have stays : ∀ db' ∈ t.states, ∀ r', db'.tickets.find? id = some r' → r'.position = r.position := by
    intro db' isState r' found'
    obtain ⟨r'', found'', sameInstant, _⟩ := (keeps db' isState).1 id r found
    cases found'.symm.trans found''
    have isId' : r'.id = id := Table.key_of_find? found'
    rw [TicketRow.position, TicketRow.position, sameInstant, isId, isId']
  have present : ∀ db' ∈ t.states, ∃ r' ∈ matching input db', r'.id = id ∧ r'.position = r.position := by
    intro db' isState
    obtain ⟨r', found', isWanted⟩ := throughout db' isState
    have isId' : r'.id = id := Table.key_of_find? found'
    exact ⟨r', (mem_matching r').mpr ⟨by rw [isId']; exact found', isWanted⟩, isId', stays db' isState r' found'⟩
  have delivered : id ∈ t.items.map TicketSummary.id ↔ r.position ∈ t.items.map TicketSummary.position := by
    constructor
    · intro isDelivered
      obtain ⟨item, isItem, rfl⟩ := List.mem_map.mp isDelivered
      obtain ⟨db', isState, r', found', isPosition⟩ := found_of_delivered followed item isItem
      exact List.mem_map.mpr ⟨item, isItem, isPosition.symm.trans (stays db' isState r' found')⟩
    · intro isDelivered
      obtain ⟨item, isItem, samePosition⟩ := List.mem_map.mp isDelivered
      exact List.mem_map.mpr ⟨item, isItem, (id_of_position samePosition).trans isId⟩
  have skipped : ∀ request ∈ t.requests,
      (passedOver input request.1 request.2 = some id ↔
        Paging.passedOver (positions input request.2) (place input request.1 request.2) = some r.position) := by
    intro request isRequest
    obtain ⟨skipped, isMatch, atCode, atPage⟩ := passedOver_cases input request.1 request.2
    rw [atCode, atPage]
    constructor
    · intro isSkipped
      obtain ⟨r', rfl, isId'⟩ := Option.map_eq_some_iff.mp isSkipped
      have found' := ((mem_matching r').mp (isMatch r' rfl)).1
      rw [isId'] at found'
      exact congrArg some (stays request.2 (inside request isRequest) r' found')
    · intro isSkipped
      obtain ⟨r', rfl, samePosition⟩ := Option.map_eq_some_iff.mp isSkipped
      exact congrArg some ((id_of_position samePosition).trans isId)
  subst first
  rw [delivered, Paging.mem_iff_of_follows (follows_of_follow located followed) (x := r.position)]
  · rw [List.forall_mem_map]
    exact forall₂_congr fun request isRequest => not_congr (skipped request isRequest).symm
  · intro request isRequest
    obtain ⟨_, _, rfl⟩ := List.mem_map.mp isRequest
    exact sorted_matching input _
  · intro c isCursor
    cases isCursor
  · intro request isRequest
    obtain ⟨request', isRequest', rfl⟩ := List.mem_map.mp isRequest
    obtain ⟨r', isMatch, _, samePosition⟩ := present request'.2 (inside request' isRequest')
    exact List.mem_map.mpr ⟨r', isMatch, samePosition⟩

end Traversals

/-- A client that has followed `nextCursor` from the first page to the last has got every ticket that matched
    throughout exactly once if and only if none of these was skipped in place of a ticket the cursor stood for
    and that did not match any more. -/
theorem complete_iff_notPassedOver {input : ListTicketsInput} {db : Db} {rounds : List (List Execution)}
    {t : Traversal} (followed : follow input none db rounds = some t) :
    NeitherRepeatsNorSkips input t ↔
      ∀ request ∈ t.requests, ∀ id, passedOver input request.1 request.2 = some id → ¬Throughout input t id := by
  have located : Located input none db := nofun
  have distinct := nodup_of_follow located followed
  have once : ∀ id, (t.items.map TicketSummary.id).count id = 1 ↔ id ∈ t.items.map TicketSummary.id := by
    intro id
    constructor
    · intro isOne
      exact List.count_pos_iff.mp (by omega)
    · exact List.count_eq_one_of_mem distinct
  constructor
  · intro complete request isRequest id isSkipped throughout
    have isDelivered := (once id).mp (complete.2 id throughout)
    exact (delivered_iff located rfl followed throughout).mp isDelivered request isRequest isSkipped
  · intro notSkipped
    refine ⟨distinct, fun id throughout => (once id).mpr ?_⟩
    apply (delivered_iff located rfl followed throughout).mpr
    intro request isRequest isSkipped
    exact notSkipped request isRequest id isSkipped throughout

section Example

/-- An open ticket of the one tenant, created at the instant its id says. -/
private def openTicket (id : Nat) : TicketRow where
  id := ⟨id⟩
  tenantId := ⟨1⟩
  number := id
  subject := "Printer"
  description := "No paper"
  status := .OPEN
  priority := .NORMAL
  requesterId := ⟨3⟩
  assigneeId := none
  createdAt := id
  updatedAt := id
  resolvedAt := none
  closedAt := none

private def twoOpen : Db :=
  { Db.empty with tickets := (Table.empty.insert (openTicket 11)).insert (openTicket 12) }

/-- The open tickets, one at a time. -/
private def openOneByOne : ListTicketsInput where
  tenantId := ⟨1⟩
  status := some .OPEN
  assigneeId := none
  requesterId := none
  limit := 1
  cursor := none

/-- Somebody starts to work on the newer ticket. -/
private def started : Execution where
  useCase := .changeTicketStatus { tenantId := ⟨1⟩, actorId := ⟨3⟩, ticketId := ⟨12⟩, status := .IN_PROGRESS }
  ambient := { now := 20, uuid := fun i => 100 + i }
  requestId := none

/-- The older ticket is open throughout and is never delivered: the newer one, which the cursor stands for, is
    not open any more at the second request. -/
theorem follow_skips :
    ¬∀ (input : ListTicketsInput) (db : Db) (rounds : List (List Execution)) (t : Traversal),
      follow input none db rounds = some t → NeitherRepeatsNorSkips input t := by
  intro complete
  have possible : (follow openOneByOne none twoOpen [[started]]).map (fun t =>
      (t.states.all fun db => (db.tickets.find? ⟨11⟩).any (wanted openOneByOne),
        (t.items.map TicketSummary.id).count ⟨11⟩)) = some (true, 0) := by decide
  obtain ⟨t, followed, both⟩ := Option.map_eq_some_iff.mp possible
  obtain ⟨isOpen, notDelivered⟩ := Prod.mk.inj both
  have throughout : Throughout openOneByOne t ⟨11⟩ := fun db isState =>
    (Option.any_eq_true _ _).mp (List.all_eq_true.mp isOpen db isState)
  have once := (complete openOneByOne twoOpen [[started]] t followed).2 ⟨11⟩ throughout
  rw [notDelivered] at once
  cases once

/-- While nobody works on either of them, both are delivered. -/
theorem complete_iff_notPassedOver_alone :
    ∃ t, follow openOneByOne none twoOpen [[], []] = some t ∧ t.items.length = 2 ∧
      NeitherRepeatsNorSkips openOneByOne t := by
  have possible : (follow openOneByOne none twoOpen [[], []]).map (fun t =>
      (t.requests.all fun request => passedOver openOneByOne request.1 request.2 = none, t.items.length)) =
      some (true, 2) := by decide
  obtain ⟨t, followed, both⟩ := Option.map_eq_some_iff.mp possible
  obtain ⟨noneSkipped, two⟩ := Prod.mk.inj both
  refine ⟨t, followed, two, (complete_iff_notPassedOver followed).mpr ?_⟩
  intro request isRequest id isSkipped
  have isNone := of_decide_eq_true (List.all_eq_true.mp noneSkipped request isRequest)
  cases isNone.symm.trans isSkipped

end Example

end Helpdesk
