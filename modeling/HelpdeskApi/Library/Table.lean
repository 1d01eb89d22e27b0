/-
Module: HelpdeskApi.Library.Table
Layer: Library
Purpose: Relational tables as lists of rows in insertion order, with a primary key that no two rows share.
  Distinctness is a field of the table, so every operation has to keep it and no later proof re-proves
  it. Lookups go by key (`find?`), queries by predicate (`findFirst`, `filter`), and the writes are the
  ones an SQL store offers: `insert` (on conflict do nothing), `upsert` (on conflict do update),
  `updateWhere` and `deleteWhere`.
Trusted boundary: none
Main exports: Keyed, Table, Table.find?, Table.insert, Table.upsert, Table.updateWhere, Table.deleteWhere,
  Table.find?_upsert, Table.find?_insert, Table.find?_updateWhere, Table.mem_upsert_iff,
  Table.find?_eq_some_iff, Table.filter_upsert_of_pass, Table.filter_upsert_of_fail
-/
import Mathlib.Data.List.Nodup

namespace Relational

/-- A row type whose primary key is a function of the row. -/
class Keyed (R : Type) (K : outParam Type) where
  key : R → K

open Keyed (key)

/-- Rows in insertion order, no two of them with the same key. -/
structure Table (R : Type) {K : Type} [Keyed R K] where
  rows : List R
  keysDistinct : (rows.map key).Nodup

namespace Table

variable {R K : Type} [Keyed R K]

@[ext] theorem ext_rows {t u : Table R} (same : t.rows = u.rows) : t = u := by
  cases t
  cases u
  cases same
  rfl

/-- The table without rows. -/
def empty : Table R where
  rows := []
  keysDistinct := List.nodup_nil

section Queries

/-- Whether some row satisfies a test. -/
def any (t : Table R) (test : R → Bool) : Bool :=
  t.rows.any test

/-- The first row, in insertion order, that satisfies a test. -/
def findFirst (t : Table R) (test : R → Bool) : Option R :=
  t.rows.find? test

/-- The rows that satisfy a test, as a table. -/
def filter (t : Table R) (test : R → Bool) : Table R where
  rows := t.rows.filter test
  keysDistinct := t.keysDistinct.sublist (List.filter_sublist.map key)

/-- Delete every row that satisfies a test. -/
def deleteWhere (t : Table R) (test : R → Bool) : Table R :=
  t.filter fun r => !test r

/-- Rewrite every row that satisfies a test. The rewriting may not touch the key. -/
def updateWhere (t : Table R) (test : R → Bool) (f : R → R) (keeps : ∀ r, key (f r) = key r) : Table R where
  rows := t.rows.map fun r => if test r then f r else r
  keysDistinct := by
    have sameKeys : (t.rows.map fun r => if test r then f r else r).map key = t.rows.map key := by
      rw [List.map_map]
      apply List.map_congr_left
      intro r _
      by_cases hit : test r = true
      · simp [hit, keeps]
      · simp [hit]
    rw [sameKeys]
    exact t.keysDistinct

/-- Rows of another kind with the same keys. -/
def map {R' : Type} [Keyed R' K] (t : Table R) (f : R → R') (keeps : ∀ r, key (f r) = key r) : Table R' where
  rows := t.rows.map f
  keysDistinct := by
    have sameKeys : (t.rows.map f).map key = t.rows.map key := by
      rw [List.map_map]
      apply List.map_congr_left
      intro r _
      exact keeps r
    rw [sameKeys]
    exact t.keysDistinct

theorem findFirst_mem {t : Table R} {test : R → Bool} {r : R} (found : t.findFirst test = some r) :
    r ∈ t.rows ∧ test r = true :=
  ⟨List.mem_of_find?_eq_some found, List.find?_some found⟩

@[simp] theorem rows_empty : (empty : Table R).rows = [] := rfl

end Queries

variable [DecidableEq K]

/-- The row with a given key. -/
def find? (t : Table R) (k : K) : Option R :=
  t.rows.find? fun r => key r = k

/-- Rewrite the row with key `k`, if there is one. The rewriting may not touch the key. -/
def modify (t : Table R) (k : K) (f : R → R) (keeps : ∀ r, key (f r) = key r) : Table R where
  rows := t.rows.map fun r => if key r = k then f r else r
  keysDistinct := by
    have sameKeys : (t.rows.map fun r => if key r = k then f r else r).map key = t.rows.map key := by
      rw [List.map_map]
      apply List.map_congr_left
      intro r _
      by_cases hit : key r = k
      · simp [hit, keeps]
      · simp [hit]
    rw [sameKeys]
    exact t.keysDistinct

theorem find?_eq_none_iff (t : Table R) (k : K) : t.find? k = none ↔ k ∉ t.rows.map key := by
  simp [find?, List.find?_eq_none]

/-- A key that no row has leads to nothing. -/
theorem free_of_mem {t : Table R} {k : K} (new : ∀ r ∈ t.rows, key r ≠ k) : t.find? k = none := by
  rw [find?_eq_none_iff]
  intro taken
  obtain ⟨r, inside, same⟩ := List.mem_map.mp taken
  exact new r inside same

/-- Add a row, unless its key is taken. -/
def insert (t : Table R) (r : R) : Table R :=
  if free : t.find? (key r) = none then
    { rows := t.rows ++ [r]
      keysDistinct := by
        rw [List.map_append, List.map_singleton, ← List.concat_eq_append]
        exact t.keysDistinct.concat ((t.find?_eq_none_iff _).mp free) }
  else t

/-- Add a row, or rewrite the row that already has its key. -/
def upsert (t : Table R) (create : R) (update : R → R) (keeps : ∀ r, key (update r) = key r) : Table R :=
  match t.find? (key create) with
  | none => t.insert create
  | some _ => t.modify (key create) update keeps

/-- A row of the table is what looking up its key finds, and conversely. -/
theorem find?_eq_some_iff (t : Table R) (k : K) (r : R) :
    t.find? k = some r ↔ r ∈ t.rows ∧ key r = k := by
  constructor
  · intro found
    have hit := List.find?_some found
    exact ⟨List.mem_of_find?_eq_some found, by simpa using hit⟩
  · rintro ⟨member, rfl⟩
    cases found : t.find? (key r) with
    | none =>
        rw [find?_eq_none_iff] at found
        exact absurd (List.mem_map_of_mem member) found
    | some r' =>
        have member' := List.mem_of_find?_eq_some found
        have sameKey : key r' = key r := by simpa using List.find?_some found
        rw [List.inj_on_of_nodup_map t.keysDistinct member' member sameKey]

theorem find?_key {t : Table R} {r : R} (member : r ∈ t.rows) : t.find? (key r) = some r :=
  (t.find?_eq_some_iff _ _).mpr ⟨member, rfl⟩

/-- Two rows with one key are one row. -/
theorem eq_of_key {t : Table R} {r r' : R} (member : r ∈ t.rows) (member' : r' ∈ t.rows)
    (sameKey : key r = key r') : r = r' :=
  Option.some.inj ((find?_key member).symm.trans (sameKey ▸ find?_key member'))

theorem mem_of_find? {t : Table R} {k : K} {r : R} (found : t.find? k = some r) : r ∈ t.rows :=
  ((t.find?_eq_some_iff _ _).mp found).1

theorem key_of_find? {t : Table R} {k : K} {r : R} (found : t.find? k = some r) : key r = k :=
  ((t.find?_eq_some_iff _ _).mp found).2

@[simp] theorem find?_empty (k : K) : (empty : Table R).find? k = none := rfl

theorem rows_insert_of_free {t : Table R} {r : R} (free : t.find? (key r) = none) :
    (t.insert r).rows = t.rows ++ [r] := by
  simp [insert, free]

theorem insert_of_taken {t : Table R} {r old : R} (taken : t.find? (key r) = some old) :
    t.insert r = t := by
  simp [insert, taken]

theorem upsert_of_free {t : Table R} {create : R} {update : R → R}
    {keeps : ∀ r, key (update r) = key r} (free : t.find? (key create) = none) :
    t.upsert create update keeps = t.insert create := by
  simp [upsert, free]

theorem upsert_of_taken {t : Table R} {create old : R} {update : R → R}
    {keeps : ∀ r, key (update r) = key r} (taken : t.find? (key create) = some old) :
    t.upsert create update keeps = t.modify (key create) update keeps := by
  simp [upsert, taken]

theorem rows_upsert_of_free {t : Table R} {create : R} {update : R → R}
    {keeps : ∀ r, key (update r) = key r} (free : t.find? (key create) = none) :
    (t.upsert create update keeps).rows = t.rows ++ [create] := by
  rw [upsert_of_free free, rows_insert_of_free free]

/-- Inserting adds the row, or nothing. -/
theorem mem_of_mem_insert {t : Table R} {r new : R} (member : r ∈ (t.insert new).rows) :
    r ∈ t.rows ∨ r = new := by
  cases taken : t.find? (key new) with
  | none =>
      rw [rows_insert_of_free taken, List.mem_append, List.mem_singleton] at member
      exact member
  | some old =>
      rw [insert_of_taken taken] at member
      exact .inl member

theorem mem_insert_of_mem {t : Table R} {r : R} (new : R) (member : r ∈ t.rows) :
    r ∈ (t.insert new).rows := by
  cases taken : t.find? (key new) with
  | none =>
      rw [rows_insert_of_free taken]
      exact List.mem_append_left _ member
  | some old =>
      rw [insert_of_taken taken]
      exact member

/-- A table leaves keys free from some number on. -/
theorem exists_free_from (t : Table R) {f : Nat → K} (injective : ∀ m n, f m = f n → m = n) :
    ∃ bound, ∀ n, bound ≤ n → t.find? (f n) = none := by
  have beyond : ∀ keys : List K, ∃ bound, ∀ n, bound ≤ n → f n ∉ keys := by
    intro keys
    induction keys with
    | nil => exact ⟨0, fun n _ => List.not_mem_nil⟩
    | cons k keys ih =>
        obtain ⟨bound, free⟩ := ih
        by_cases named : ∃ m, f m = k
        · obtain ⟨m, rfl⟩ := named
          refine ⟨max bound (m + 1), fun n large => ?_⟩
          rw [List.mem_cons, not_or]
          refine ⟨fun same => ?_, free n (by omega)⟩
          have := injective n m same
          omega
        · refine ⟨bound, fun n large => ?_⟩
          rw [List.mem_cons, not_or]
          exact ⟨fun same => named ⟨n, same⟩, free n large⟩
  obtain ⟨bound, free⟩ := beyond (t.rows.map key)
  exact ⟨bound, fun n large => (t.find?_eq_none_iff _).mpr (free n large)⟩

/-- Inserting answers lookups of the new key only if it was free. -/
theorem find?_insert (t : Table R) (r : R) (k : K) :
    (t.insert r).find? k = (t.find? k).or (if key r = k then some r else none) := by
  by_cases free : t.find? (key r) = none
  · simp only [find?, rows_insert_of_free free, List.find?_append]
    congr 1
    by_cases hit : key r = k <;> simp [hit]
  · obtain ⟨old, taken⟩ := Option.ne_none_iff_exists'.mp free
    rw [insert_of_taken taken]
    by_cases hit : key r = k
    · subst hit
      simp [taken]
    · simp [hit]

theorem find?_insert_self {t : Table R} {r : R} (free : t.find? (key r) = none) :
    (t.insert r).find? (key r) = some r := by
  simp [find?_insert, free]

/-- Inserting takes the key of the row, and no other. -/
theorem isSome_find?_insert (t : Table R) (r : R) (k : K) :
    ((t.insert r).find? k).isSome = true ↔ (t.find? k).isSome = true ∨ k = key r := by
  rw [find?_insert, Option.isSome_or, Bool.or_eq_true]
  by_cases hit : key r = k
  · simp [hit]
  · simp [hit, Ne.symm hit]

theorem find?_modify (t : Table R) (k : K) (f : R → R) (keeps : ∀ r, key (f r) = key r) (k' : K) :
    (t.modify k f keeps).find? k' = (t.find? k').map fun r => if k' = k then f r else r := by
  simp only [find?, modify, List.find?_map]
  have sameTest : ((fun r => decide (key r = k')) ∘ fun r => if key r = k then f r else r)
      = fun r => decide (key r = k') := by
    funext r
    by_cases hit : key r = k <;> simp [hit, keeps]
  rw [sameTest]
  cases found : t.rows.find? fun r => decide (key r = k') with
  | none => rfl
  | some r =>
      have sameKey : key r = k' := by simpa using List.find?_some found
      simp [sameKey]

/-- After an update a key holds what it held, rewritten where it satisfies the test. -/
theorem find?_updateWhere (t : Table R) (test : R → Bool) (f : R → R) (keeps : ∀ r, key (f r) = key r) (k : K) :
    (t.updateWhere test f keeps).find? k = (t.find? k).map fun r => if test r then f r else r := by
  simp only [find?, updateWhere, List.find?_map]
  have sameTest : ((fun r => decide (key r = k)) ∘ fun r => if test r then f r else r)
      = fun r => decide (key r = k) := by
    funext r
    by_cases hit : test r = true <;> simp [hit, keeps]
  rw [sameTest]

omit [DecidableEq K] in
/-- An update that a search does not look at keeps what the search finds, rewritten. -/
theorem findFirst_updateWhere (t : Table R) {wanted : R → Bool} (test : R → Bool) (f : R → R)
    (keeps : ∀ r, key (f r) = key r) (unseen : ∀ r, wanted (f r) = wanted r) :
    (t.updateWhere test f keeps).findFirst wanted =
      (t.findFirst wanted).map fun r => if test r then f r else r := by
  have sameSearch : (wanted ∘ fun r => if test r then f r else r) = wanted := by
    funext r
    by_cases hit : test r = true <;> simp [hit, unseen]
  simp only [findFirst, updateWhere, List.find?_map, sameSearch]

/-- A new row comes after the one a search finds. -/
theorem findFirst_insert_of_found {t : Table R} {wanted : R → Bool} {r : R} (found : t.findFirst wanted = some r)
    (new : R) : (t.insert new).findFirst wanted = some r := by
  unfold insert
  split
  · simp only [findFirst] at found ⊢
    rw [List.find?_append, found, Option.some_or]
  · exact found

/-- After an upsert the key holds the rewritten row, or the new row if the key was free; every other key
    is as before. -/
theorem find?_upsert (t : Table R) (create : R) (update : R → R)
    (keeps : ∀ r, key (update r) = key r) (k : K) :
    (t.upsert create update keeps).find? k =
      if k = key create then some ((t.find? k).elim create update) else t.find? k := by
  cases found : t.find? (key create) with
  | none =>
      rw [upsert_of_free found, find?_insert]
      by_cases hit : k = key create
      · subst hit
        simp [found]
      · simp [hit, Ne.symm hit]
  | some old =>
      rw [upsert_of_taken found, find?_modify]
      by_cases hit : k = key create
      · subst hit
        simp [found]
      · simp [hit]

theorem mem_rows_iff (t : Table R) (r : R) : r ∈ t.rows ↔ t.find? (key r) = some r := by
  simp [find?_eq_some_iff]

/-- The rows after an upsert are the rows with other keys, and the row the key now holds. -/
theorem mem_upsert_iff (t : Table R) (create : R) (update : R → R) (keeps : ∀ r, key (update r) = key r)
    (r : R) :
    r ∈ (t.upsert create update keeps).rows ↔
      (r ∈ t.rows ∧ key r ≠ key create) ∨ r = (t.find? (key create)).elim create update := by
  have sameKey : key ((t.find? (key create)).elim create update) = key create := by
    cases found : t.find? (key create) with
    | none => rfl
    | some old => exact (keeps old).trans (key_of_find? found)
  rw [mem_rows_iff, find?_upsert]
  by_cases hit : key r = key create
  · rw [if_pos hit, Option.some.injEq, hit, eq_comm]
    simp
  · rw [if_neg hit, ← mem_rows_iff]
    refine ⟨fun old => .inl ⟨old, hit⟩, ?_⟩
    rintro (⟨old, _⟩ | rfl)
    · exact old
    · exact absurd sameKey hit

omit [DecidableEq K] in
/-- Two tables with the same rows of a kind have as many of them. -/
theorem countP_eq_of_mem {t t' : Table R} {p : R → Bool}
    (same : ∀ r, p r = true → (r ∈ t'.rows ↔ r ∈ t.rows)) : t'.rows.countP p = t.rows.countP p := by
  have distinct : ∀ u : Table R, (u.rows.filter p).Nodup := fun u => u.keysDistinct.of_map.filter _
  have perm : (t'.rows.filter p).Perm (t.rows.filter p) := by
    apply (List.perm_ext_iff_of_nodup (distinct t') (distinct t)).mpr
    intro r
    rw [List.mem_filter, List.mem_filter]
    exact and_congr_left fun passes => same r passes
  rw [List.countP_eq_length_filter, List.countP_eq_length_filter, perm.length_eq]

/-- Inserting under a free key adds one to a count, or nothing. -/
theorem countP_insert {t : Table R} {r : R} (free : t.find? (key r) = none) (p : R → Bool) :
    (t.insert r).rows.countP p = t.rows.countP p + (p r).toNat := by
  rw [rows_insert_of_free free, List.countP_append, List.countP_singleton]
  cases p r <;> rfl

/-- Rewriting one row takes it out of a count and puts what it becomes into it. -/
theorem countP_upsert {t : Table R} {create old : R} {update : R → R} {keeps : ∀ r, key (update r) = key r}
    {k : K} (taken : t.find? k = some old) (isKey : key create = k) (p : R → Bool) :
    (t.upsert create update keeps).rows.countP p + (p old).toNat = t.rows.countP p + (p (update old)).toNat := by
  subst isKey
  rw [upsert_of_taken taken]
  obtain ⟨member, sameKey⟩ := (t.find?_eq_some_iff _ _).mp taken
  obtain ⟨before, after, split⟩ := List.append_of_mem member
  have distinct := t.keysDistinct
  rw [split, List.map_append, List.map_cons, List.nodup_append'] at distinct
  obtain ⟨_, last, apart⟩ := distinct
  have other {rows : List R} (absent : key old ∉ rows.map key) :
      (rows.map fun r => if key r = key create then update r else r) = rows := by
    refine (List.map_congr_left fun r inside => if_neg ?_).trans (List.map_id rows)
    intro same
    exact absent (List.mem_map.mpr ⟨r, inside, same.trans sameKey.symm⟩)
  have noneBefore : key old ∉ before.map key := fun inside =>
    List.disjoint_left.mp apart inside List.mem_cons_self
  have noneAfter : key old ∉ after.map key := (List.nodup_cons.mp last).1
  simp only [modify, split, List.map_append, List.map_cons, other noneBefore, other noneAfter, if_pos sameKey,
    List.countP_append, List.countP_cons]
  cases p old <;> cases p (update old) <;> simp <;> omega

/-- A filter answers with the rows that pass it. -/
theorem find?_filter (t : Table R) (test : R → Bool) (k : K) :
    (t.filter test).find? k = (t.find? k).filter test := by
  cases found : t.find? k with
  | none =>
      rw [find?_eq_none_iff] at found
      apply free_of_mem
      rintro r inside rfl
      exact found (List.mem_map_of_mem (List.mem_filter.mp inside).1)
  | some r =>
      have row := (t.find?_eq_some_iff _ _).mp found
      by_cases passes : test r = true
      · rw [Option.filter_some, if_pos passes, find?_eq_some_iff]
        exact ⟨List.mem_filter.mpr ⟨row.1, passes⟩, row.2⟩
      · rw [Option.filter_some, if_neg passes]
        apply free_of_mem
        intro r' inside sameKey
        have inside' := List.mem_filter.mp inside
        have same : r' = r :=
          List.inj_on_of_nodup_map t.keysDistinct inside'.1 row.1 (sameKey.trans row.2.symm)
        exact passes (same ▸ inside'.2)

/-- What is left once the row of a key is deleted. -/
theorem find?_deleteKey (t : Table R) (k k' : K) :
    (t.deleteWhere fun r => decide (key r = k)).find? k' = if k' = k then none else t.find? k' := by
  rw [deleteWhere, find?_filter]
  cases found : t.find? k' with
  | none => simp
  | some r =>
      have sameKey : key r = k' := key_of_find? found
      by_cases same : k' = k
      · simp [sameKey, same]
      · simp [sameKey, same]

section Filters

variable (t : Table R) {test : R → Bool}

theorem modify_of_absent {t : Table R} {k : K} {f : R → R} {keeps : ∀ r, key (f r) = key r}
    (absent : t.find? k = none) : t.modify k f keeps = t := by
  apply ext_rows
  rw [find?_eq_none_iff] at absent
  refine (List.map_congr_left fun r member => ?_).trans (List.map_id _)
  have other : key r ≠ k := fun hit => absent (hit ▸ List.mem_map_of_mem member)
  simp [other]

/-- Rewriting rows without changing how they fare in a test commutes with filtering. -/
theorem filter_modify (k : K) (f : R → R) (keeps : ∀ r, key (f r) = key r)
    (same : ∀ r, test (f r) = test r) : (t.modify k f keeps).filter test = (t.filter test).modify k f keeps := by
  apply ext_rows
  simp only [filter, modify, List.filter_map]
  congr 2
  funext r
  by_cases hit : key r = k <;> simp [hit, same]

omit [DecidableEq K] in
/-- Likewise for the rows that satisfy another test. -/
theorem filter_updateWhere (hit : R → Bool) (f : R → R) (keeps : ∀ r, key (f r) = key r)
    (same : ∀ r, test (f r) = test r) :
    (t.updateWhere hit f keeps).filter test = (t.filter test).updateWhere hit f keeps := by
  apply ext_rows
  simp only [filter, updateWhere, List.filter_map]
  congr 2
  funext r
  by_cases isHit : hit r = true <;> simp [isHit, same]

omit [DecidableEq K] in
/-- Rewriting only rows that fail a test does not show in the filter. -/
theorem filter_updateWhere_of_fail {hit : R → Bool} {f : R → R} (keeps : ∀ r, key (f r) = key r)
    (same : ∀ r, test (f r) = test r) (fails : ∀ r ∈ t.rows, hit r = true → test r = false) :
    (t.updateWhere hit f keeps).filter test = t.filter test := by
  rw [filter_updateWhere t hit f keeps same]
  apply ext_rows
  refine (List.map_congr_left fun r member => ?_).trans (List.map_id _)
  obtain ⟨inside, passes⟩ := List.mem_filter.mp member
  have missed : hit r = false := by
    rw [← Bool.not_eq_true]
    intro isHit
    exact Bool.false_ne_true ((fails r inside isHit).symm.trans passes)
  simp [missed]

omit [DecidableEq K] in
/-- A first row that passes a filter is the first row of the filter. -/
theorem findFirst_filter {wanted : R → Bool} (passes : ∀ r, t.findFirst wanted = some r → test r = true) :
    (t.filter test).findFirst wanted = t.findFirst wanted := by
  cases found : t.findFirst wanted with
  | none =>
      simp only [findFirst, List.find?_eq_none] at found ⊢
      intro r member
      exact found r (List.mem_filter.mp member).1
  | some r =>
      obtain ⟨isWanted, before, after, split, unwanted⟩ := List.find?_eq_some_iff_append.mp found
      have kept : (t.filter test).rows = before.filter test ++ r :: after.filter test := by
        simp [filter, split, List.filter_append, passes r found]
      refine List.find?_eq_some_iff_append.mpr ⟨isWanted, _, _, kept, ?_⟩
      intro r' member
      exact unwanted r' (List.mem_filter.mp member).1

theorem filter_insert_of_pass {t : Table R} {r : R} (free : t.find? (key r) = none) (passes : test r = true) :
    (t.insert r).filter test = (t.filter test).insert r := by
  have free' : (t.filter test).find? (key r) = none := by rw [find?_filter, free, Option.filter_none]
  apply ext_rows
  rw [rows_insert_of_free free']
  simp [filter, rows_insert_of_free free, List.filter_append, passes]

theorem filter_insert_of_fail {t : Table R} {r : R} (fails : test r = false) :
    (t.insert r).filter test = t.filter test := by
  cases taken : t.find? (key r) with
  | none =>
      apply ext_rows
      simp [filter, rows_insert_of_free taken, List.filter_append, fails]
  | some old => rw [insert_of_taken taken]

/-- An upsert of a row that passes a test, over a row that passes it if there is one, commutes with
    filtering. -/
theorem filter_upsert_of_pass {t : Table R} {create : R} {update : R → R}
    {keeps : ∀ r, key (update r) = key r} (same : ∀ r, test (update r) = test r)
    (passes : (t.find? (key create)).elim (test create) test = true) :
    (t.upsert create update keeps).filter test = (t.filter test).upsert create update keeps := by
  cases found : t.find? (key create) with
  | none =>
      have found' : (t.filter test).find? (key create) = none := by
        rw [find?_filter, found, Option.filter_none]
      rw [found] at passes
      have passes' : test create = true := passes
      rw [upsert_of_free found, upsert_of_free found', filter_insert_of_pass found passes']
  | some old =>
      rw [found] at passes
      have passes' : test old = true := passes
      have found' : (t.filter test).find? (key create) = some old := by
        rw [find?_filter, found, Option.filter_some, if_pos passes']
      rw [upsert_of_taken found, upsert_of_taken found', filter_modify t _ _ _ same]

/-- An upsert of a row that fails a test, over a row that fails it if there is one, does not show in the
    filter. -/
theorem filter_upsert_of_fail {t : Table R} {create : R} {update : R → R}
    {keeps : ∀ r, key (update r) = key r} (same : ∀ r, test (update r) = test r)
    (fails : (t.find? (key create)).elim (test create) test = false) :
    (t.upsert create update keeps).filter test = t.filter test := by
  cases found : t.find? (key create) with
  | none =>
      rw [found] at fails
      have fails' : test create = false := fails
      rw [upsert_of_free found, filter_insert_of_fail fails']
  | some old =>
      rw [found] at fails
      have fails' : test old = false := fails
      have absent : (t.filter test).find? (key create) = none := by
        rw [find?_filter, found, Option.filter_some, if_neg (by simp [fails'])]
      rw [upsert_of_taken found, filter_modify t _ _ _ same, modify_of_absent absent]

omit [DecidableEq K] in
theorem filter_deleteWhere (gone : R → Bool) :
    (t.deleteWhere gone).filter test = (t.filter test).deleteWhere gone := by
  apply ext_rows
  simp [filter, deleteWhere, List.filter_filter, Bool.and_comm]

omit [DecidableEq K] in
theorem deleteWhere_of_none {t : Table R} {gone : R → Bool} (none : ∀ r ∈ t.rows, gone r = false) :
    t.deleteWhere gone = t := by
  apply ext_rows
  exact List.filter_eq_self.mpr fun r member => by simp [none r member]

end Filters

end Table

end Relational
