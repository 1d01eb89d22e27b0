/-
Module: HelpdeskApi.Library.Batches
Layer: Library
Purpose: Batches taken from a pool in the order of a key: the first items of a listing that goes by the
  key, where items with the same key may come in any order. An item that is due and is left out has been
  crowded out by as many items as the batch takes, none of them later than itself.
Trusted boundary: none
Main exports: Listing, Listing.crowded, Listing.of_insertionSort, exists_listing_without, countP_lt,
  countP_le_of_subset
-/
import Mathlib.Algebra.Order.BigOperators.Group.List
import Mathlib.Algebra.Ring.Nat
import Mathlib.Data.List.Count
import Mathlib.Data.List.Sort
import Mathlib.Data.Prod.Lex

namespace Batches

variable {α κ : Type} [LinearOrder κ] {key : α → κ} {pool order : List α} {t : α}

/-- A listing of a pool by its key. -/
structure Listing (key : α → κ) (pool order : List α) : Prop where
  perm : order.Perm pool
  sorted : order.Pairwise fun a b => key a ≤ key b

namespace Listing

theorem mem_batch (listing : Listing key pool order) {limit : Nat} (taken : t ∈ order.take limit) : t ∈ pool :=
  listing.perm.mem_iff.mp (List.mem_of_mem_take taken)

/-- An item that is left out of a batch is crowded out of it. -/
theorem crowded (listing : Listing key pool order) {limit : Nat} (inside : t ∈ pool) (out : t ∉ order.take limit) :
    (order.take limit).length = limit ∧ ∀ a ∈ order.take limit, key a ≤ key t := by
  have member : t ∈ order := listing.perm.mem_iff.mpr inside
  have split : order.take limit ++ order.drop limit = order := List.take_append_drop limit order
  rw [← split] at member
  have later : t ∈ order.drop limit := (List.mem_append.mp member).resolve_left out
  constructor
  · have shorter : limit < order.length := by
      by_contra all
      rw [List.drop_eq_nil_of_le (Nat.le_of_not_lt all)] at later
      cases later
    rw [List.length_take]
    omega
  · intro a earlier
    have sorted := listing.sorted
    rw [← split] at sorted
    exact (List.pairwise_append.mp sorted).2.2 a earlier t later

/-- Sorting lists a pool. -/
theorem of_insertionSort (key : α → κ) (pool : List α) :
    Listing key pool (pool.insertionSort fun a b => key a ≤ key b) where
  perm := List.perm_insertionSort _ pool
  sorted := by
    have : Std.Total fun a b : α => key a ≤ key b := ⟨fun a b => le_total (key a) (key b)⟩
    have : IsTrans α fun a b => key a ≤ key b := ⟨fun a b c => le_trans⟩
    exact List.pairwise_insertionSort _ pool

end Listing

/-- Where enough favoured items are not later than an unfavoured one, some listing leaves it out of the
    batch. -/
theorem exists_listing_without {favoured : α → Bool} {limit : Nat}
    (enough : limit ≤ pool.countP fun a => favoured a && decide (key a ≤ key t)) (unfavoured : favoured t = false) :
    ∃ order, Listing key pool order ∧ t ∉ order.take limit := by
  -- among items with the same key the favoured ones come first
  let rank (a : α) : Lex (κ × Bool) := toLex (key a, !favoured a)
  have listing := Listing.of_insertionSort rank pool
  generalize (pool.insertionSort fun a b => rank a ≤ rank b) = order at listing
  have split : order.take limit ++ order.drop limit = order := List.take_append_drop limit order
  refine ⟨order, ⟨listing.perm, listing.sorted.imp fun before => ?_⟩, ?_⟩
  · rcases Prod.Lex.toLex_le_toLex.mp before with earlier | ⟨same, _⟩
    · exact le_of_lt earlier
    · exact le_of_eq same
  · intro taken
    have ahead : ∀ a ∈ order.drop limit, ¬(favoured a && decide (key a ≤ key t)) = true := by
      intro a later both
      rw [Bool.and_eq_true, decide_eq_true_eq] at both
      have sorted := listing.sorted
      rw [← split] at sorted
      have before : rank t ≤ rank a := (List.pairwise_append.mp sorted).2.2 t taken a later
      rcases Prod.Lex.toLex_le_toLex.mp before with earlier | ⟨_, order⟩
      · exact absurd both.2 (not_le_of_gt earlier)
      · simp only [both.1, unfavoured] at order
        exact absurd order (by decide)
    have notAll : (order.take limit).countP (fun a => favoured a && decide (key a ≤ key t)) <
        (order.take limit).length := by
      rw [List.countP_lt_length_iff]
      exact ⟨t, taken, by rw [unfavoured, Bool.false_and]⟩
    rw [← listing.perm.countP_eq, ← split, List.countP_append, List.countP_eq_zero.mpr ahead] at enough
    have short := List.length_take_le limit order
    omega

section Counts

variable {l l' : List α} {p q : α → Bool} {a : α}

omit [LinearOrder κ] in
/-- A narrower test counts fewer items, if some item tells them apart. -/
theorem countP_lt (narrower : ∀ a ∈ l, q a = true → p a = true) (inside : a ∈ l) (passes : p a = true)
    (fails : q a = false) : l.countP q < l.countP p := by
  have kept : l.countP q = (l.filter p).countP q := by
    rw [List.countP_filter]
    apply List.countP_congr
    intro a member
    rw [Bool.and_eq_true]
    exact ⟨fun hit => ⟨hit, narrower a member hit⟩, And.left⟩
  rw [kept, List.countP_eq_length_filter (p := p), List.countP_lt_length_iff]
  exact ⟨a, List.mem_filter.mpr ⟨inside, passes⟩, fails⟩

omit [LinearOrder κ] in
/-- Distinct items that are all there are counted there. -/
theorem countP_le_of_subset (distinct : l.Nodup) (there : ∀ a ∈ l, p a = true → a ∈ l') :
    l.countP p ≤ l'.countP p := by
  have subset : l.filter p ⊆ l'.filter p := by
    intro a member
    obtain ⟨inside, passes⟩ := List.mem_filter.mp member
    exact List.mem_filter.mpr ⟨there a inside passes, passes⟩
  rw [List.countP_eq_length_filter, List.countP_eq_length_filter]
  exact (List.subperm_of_subset (distinct.filter p) subset).length_le

omit [LinearOrder κ] in
/-- A test that no two items of the list pass counts one at most. -/
theorem countP_le_one_of_sole
    (sole : ∀ (i j : Nat) (a b : α), l[i]? = some a → l[j]? = some b → p a = true → p b = true → i = j) :
    l.countP p ≤ 1 := by
  induction l with
  | nil => exact Nat.zero_le 1
  | cons a l ih =>
      have rest := ih fun i j b b' at_i at_j passes passes' =>
        Nat.succ.inj (sole (i + 1) (j + 1) b b' at_i at_j passes passes')
      rw [List.countP_cons]
      split
      · rename_i passes
        have none : l.countP p = 0 := by
          rw [List.countP_eq_zero]
          intro b inside passes'
          obtain ⟨j, at_j⟩ := List.mem_iff_getElem?.mp inside
          exact Nat.succ_ne_zero j (sole 0 (j + 1) a b rfl at_j passes passes').symm
        omega
      · exact rest

omit [LinearOrder κ] in
/-- What two tests cover between them. -/
theorem countP_le_add {r : α → Bool} (covers : ∀ a ∈ l, p a = true → q a = true ∨ r a = true) :
    l.countP p ≤ l.countP q + l.countP r := by
  induction l with
  | nil => exact Nat.le_refl 0
  | cons a l ih =>
      have rest := ih fun b inside => covers b (List.mem_cons_of_mem a inside)
      have first := covers a List.mem_cons_self
      simp only [List.countP_cons]
      by_cases passes : p a = true
      · rw [if_pos passes]
        rcases first passes with hit | hit
        · rw [if_pos hit]
          omega
        · rw [if_pos hit]
          omega
      · rw [if_neg passes]
        omega

omit [LinearOrder κ] in
/-- Items that weigh one at most where they pass a test, and nothing where they do not. -/
theorem sum_map_le_countP {weight : α → Nat} (each : ∀ a ∈ l, weight a ≤ if p a = true then 1 else 0) :
    (l.map weight).sum ≤ l.countP p := by
  induction l with
  | nil => exact Nat.le_refl 0
  | cons a l ih =>
      have rest := ih fun b inside => each b (List.mem_cons_of_mem a inside)
      have first := each a List.mem_cons_self
      rw [List.map_cons, List.sum_cons, List.countP_cons]
      omega

end Counts

end Batches
