/-
Module: HelpdeskApi.Library.Paging
Layer: Library
Purpose: Pages of an ordered collection that changes between the requests. A client asks for the items from
  the last one it got on, without the first of them. That item may be gone by then, and the first of the
  others is then passed over. `mem_iff_of_follows` says that this is the only way to miss an item that was
  there all along, and `sorted_of_follows` that no item comes twice.
Trusted boundary: none
Main exports: rest, page, passedOver, Follows, sorted_of_follows, mem_iff_of_follows
-/
import Mathlib.Order.Lattice
import Mathlib.Data.List.Basic
import Mathlib.Data.List.Count

namespace Paging

variable {K : Type} [LinearOrder K]

/-- The items from a cursor on, without the first of them. -/
def rest (items : List K) : Option K → List K
  | none => items
  | some c => (items.filter (c ≤ ·)).drop 1

/-- The first so many of them. -/
def page (items : List K) (cursor : Option K) (take : Nat) : List K :=
  (rest items cursor).take take

/-- An item that comes after the cursor. -/
def Behind (cursor : Option K) (x : K) : Prop :=
  ∀ c ∈ cursor, c < x

/-- The item that is left out in place of a cursor that is gone. -/
def passedOver (items : List K) : Option K → Option K
  | none => none
  | some c => if c ∈ items then none else (items.filter (c ≤ ·)).head?

section Pages

variable {items : List K} {cursor : Option K} {take : Nat} {x : K}

theorem sorted_rest (sorted : items.Pairwise (· < ·)) (cursor : Option K) :
    (rest items cursor).Pairwise (· < ·) := by
  cases cursor with
  | none => exact sorted
  | some c => exact (sorted.filter _).drop

/-- What a page can be taken from is everything behind the cursor, but for the item that is passed over. -/
theorem mem_rest_iff (sorted : items.Pairwise (· < ·)) (cursor : Option K) (x : K) :
    x ∈ rest items cursor ↔ x ∈ items ∧ Behind cursor x ∧ passedOver items cursor ≠ some x := by
  cases cursor with
  | none => simp [rest, passedOver, Behind]
  | some c =>
      have sorted' : (items.filter (c ≤ ·)).Pairwise (· < ·) := sorted.filter _
      have inFilter : ∀ y, y ∈ items.filter (c ≤ ·) ↔ y ∈ items ∧ c ≤ y := by simp
      have isBehind : Behind (some c) x ↔ c < x := by simp [Behind]
      rw [isBehind, rest, passedOver]
      cases whole : items.filter (c ≤ ·) with
      | nil =>
          have noneLeft : ¬(x ∈ items ∧ c ≤ x) := by
            rw [← inFilter, whole]
            exact List.not_mem_nil
          apply iff_of_false List.not_mem_nil
          rintro ⟨inside, later, _⟩
          exact noneLeft ⟨inside, later.le⟩
      | cons first others =>
          rw [whole] at sorted' inFilter
          obtain ⟨isFirst, _⟩ := List.pairwise_cons.mp sorted'
          have inOthers : x ∈ others ↔ x ∈ items ∧ c ≤ x ∧ x ≠ first := by
            rw [← and_assoc, ← inFilter, List.mem_cons]
            constructor
            · intro later
              exact ⟨.inr later, (isFirst x later).ne'⟩
            · rintro ⟨isFirst | later, notFirst⟩
              · exact absurd isFirst notFirst
              · exact later
          have firstInside := (inFilter first).mp List.mem_cons_self
          rw [List.drop_one, List.tail_cons, inOthers, List.head?_cons]
          by_cases present : c ∈ items
          · have isCursor : first = c := by
              rcases List.mem_cons.mp ((inFilter c).mpr ⟨present, le_rfl⟩) with same | later
              · exact same.symm
              · exact absurd (isFirst c later) firstInside.2.not_gt
            rw [if_pos present, isCursor]
            simp only [lt_iff_le_and_ne, ne_eq, reduceCtorEq, not_false_eq_true, and_true, eq_comm]
          · have notCursor : x ∈ items → x ≠ c := by
              rintro inside rfl
              exact present inside
            simp only [if_neg present, Option.some.injEq, ne_eq]
            constructor
            · rintro ⟨inside, later, notFirst⟩
              exact ⟨inside, lt_of_le_of_ne later (notCursor inside).symm, fun same => notFirst same.symm⟩
            · rintro ⟨inside, later, notFirst⟩
              exact ⟨inside, later.le, fun same => notFirst same.symm⟩

/-- The item that is passed over is behind the cursor, and before the page. -/
theorem passedOver_spec (sorted : items.Pairwise (· < ·)) (passed : passedOver items cursor = some x) :
    Behind cursor x ∧ ∀ y ∈ rest items cursor, x < y := by
  cases cursor with
  | none => cases passed
  | some c =>
      rw [passedOver] at passed
      split at passed
      · cases passed
      · rename_i absent
        obtain ⟨others, whole⟩ := List.head?_eq_some_iff.mp passed
        have inside : x ∈ items.filter (c ≤ ·) := by
          rw [whole]
          exact List.mem_cons_self
        obtain ⟨isItem, later⟩ := List.mem_filter.mp inside
        have notCursor : c ≠ x := by
          rintro rfl
          exact absent isItem
        have sorted' : (items.filter (c ≤ ·)).Pairwise (· < ·) := sorted.filter _
        rw [whole] at sorted'
        constructor
        · intro c' isCursor
          cases isCursor
          exact lt_of_le_of_ne (of_decide_eq_true later) notCursor
        · intro y inRest
          rw [rest, whole] at inRest
          exact (List.pairwise_cons.mp sorted').1 y inRest

theorem sorted_page (sorted : items.Pairwise (· < ·)) : (page items cursor take).Pairwise (· < ·) :=
  (sorted_rest sorted cursor).take

theorem behind_of_mem_page (sorted : items.Pairwise (· < ·)) (inside : x ∈ page items cursor take) :
    Behind cursor x :=
  ((mem_rest_iff sorted cursor x).mp (List.mem_of_mem_take inside)).2.1

/-- The items that are still to come. -/
def left (items : List K) : Option K → List K
  | none => items
  | some c => items.filter (c < ·)

theorem mem_left_iff (items : List K) (cursor : Option K) (x : K) :
    x ∈ left items cursor ↔ x ∈ items ∧ Behind cursor x := by
  cases cursor <;> simp [left, Behind]

/-- Every page leaves fewer of them. -/
theorem length_left_lt (sorted : items.Pairwise (· < ·)) {c : K} (delivered : c ∈ page items cursor take) :
    (left items (some c)).length < (left items cursor).length := by
  have isBehind := behind_of_mem_page sorted delivered
  have isItem := ((mem_rest_iff sorted cursor c).mp (List.mem_of_mem_take delivered)).1
  have fewer : left items (some c) = (left items cursor).filter (c < ·) := by
    cases cursor with
    | none => rfl
    | some c' =>
        have before : c' < c := isBehind c' rfl
        rw [left, left, List.filter_filter]
        apply List.filter_congr
        intro x _
        rw [eq_comm, Bool.and_eq_left_iff_imp]
        intro later
        exact decide_eq_true (before.trans (of_decide_eq_true later))
  rw [fewer, List.length_filter_lt_length_iff_exists]
  exact ⟨c, (mem_left_iff items cursor c).mpr ⟨isItem, isBehind⟩, by simp⟩

/-- An item of a sorted list that is not among the first ones comes after them. -/
theorem lt_of_not_mem_take {l : List K} (sorted : l.Pairwise (· < ·)) {x y : K} (inside : x ∈ l)
    (notTaken : x ∉ l.take take) (taken : y ∈ l.take take) : y < x := by
  rw [← List.take_append_drop take l] at sorted inside
  have dropped : x ∈ l.drop take := (List.mem_append.mp inside).resolve_left notTaken
  exact (List.pairwise_append.mp sorted).2.2 y taken x dropped

end Pages

/-- What a client does that follows the cursor: it asks for a page; if the page is full, it asks for the next
    one from its last item on, and if not, it stops. -/
inductive Follows (take : Nat) : Option K → List (List K × Option K) → List K → Prop where
  | last {items : List K} {cursor : Option K} (short : (page items cursor take).length ≠ take) :
      Follows take cursor [(items, cursor)] (page items cursor take)
  | next {items : List K} {cursor : Option K} {c : K} {requests : List (List K × Option K)} {out : List K}
      (full : (page items cursor take).length = take) (isLast : (page items cursor take).getLast? = some c)
      (later : Follows take (some c) requests out) :
      Follows take cursor ((items, cursor) :: requests) (page items cursor take ++ out)

section Traversals

variable {take : Nat} {cursor : Option K} {requests : List (List K × Option K)} {out : List K}

/-- The last item of a page comes after the others, and after everything that comes before the page. -/
theorem le_last {items : List K} {c x : K} (sorted : items.Pairwise (· < ·))
    (isLast : (page items cursor take).getLast? = some c) (inside : x ∈ page items cursor take) : x ≤ c := by
  obtain ⟨before, whole⟩ := List.getLast?_eq_some_iff.mp isLast
  have sorted' : (page items cursor take).Pairwise (· < ·) := sorted_page sorted
  rw [whole] at sorted' inside
  rcases List.mem_append.mp inside with earlier | same
  · exact ((List.pairwise_append.mp sorted').2.2 x earlier c (List.mem_singleton_self c)).le
  · exact (List.mem_singleton.mp same).le

/-- Whatever happens between the requests, the items come in order, and none comes twice. -/
theorem sorted_of_follows (follows : Follows take cursor requests out)
    (sorted : ∀ request ∈ requests, request.1.Pairwise (· < ·)) :
    out.Pairwise (· < ·) ∧ ∀ x ∈ out, Behind cursor x := by
  induction follows with
  | last short =>
      have sortedItems := sorted _ (List.mem_singleton_self _)
      exact ⟨sorted_page sortedItems, fun x inside => behind_of_mem_page sortedItems inside⟩
  | @next items cursor c requests out full isLast later ih =>
      have sortedItems := sorted _ List.mem_cons_self
      obtain ⟨sortedOut, behind⟩ := ih fun request inside => sorted request (List.mem_cons_of_mem _ inside)
      have isInside : c ∈ page items cursor take := List.mem_of_getLast? isLast
      constructor
      · refine List.pairwise_append.mpr ⟨sorted_page sortedItems, sortedOut, fun x first y second => ?_⟩
        exact (le_last sortedItems isLast first).trans_lt (behind y second c rfl)
      · intro x inside
        rcases List.mem_append.mp inside with first | second
        · exact behind_of_mem_page sortedItems first
        · intro c' isCursor
          exact (behind_of_mem_page sortedItems isInside c' isCursor).trans (behind x second c rfl)

/-- No request passes over anything that comes before the first cursor. -/
theorem behind_of_passedOver (follows : Follows take cursor requests out)
    (sorted : ∀ request ∈ requests, request.1.Pairwise (· < ·)) {x : K} :
    ∀ request ∈ requests, passedOver request.1 request.2 = some x → Behind cursor x := by
  induction follows with
  | last short =>
      intro request inside passed
      have sortedItems := sorted _ (List.mem_singleton_self _)
      rw [List.mem_singleton.mp inside] at passed
      exact (passedOver_spec sortedItems passed).1
  | @next items cursor c requests out full isLast later ih =>
      intro request inside passed
      have sortedItems := sorted _ List.mem_cons_self
      rcases List.mem_cons.mp inside with rfl | inside
      · exact (passedOver_spec sortedItems passed).1
      · have behind := ih (fun request inside => sorted request (List.mem_cons_of_mem _ inside)) request inside passed
        intro c' isCursor
        exact (behind_of_mem_page sortedItems (List.mem_of_getLast? isLast) c' isCursor).trans (behind c rfl)

/-- A page that is not full is all that is left. -/
theorem page_of_short {items : List K} (short : (page items cursor take).length ≠ take) :
    page items cursor take = rest items cursor := by
  apply List.take_of_length_le
  rw [page, List.length_take] at short
  omega

/-- An item that is there at every request is delivered, unless a request passes over it. -/
theorem mem_iff_of_follows (follows : Follows take cursor requests out)
    (sorted : ∀ request ∈ requests, request.1.Pairwise (· < ·)) {x : K} (behind : Behind cursor x)
    (present : ∀ request ∈ requests, x ∈ request.1) :
    x ∈ out ↔ ∀ request ∈ requests, passedOver request.1 request.2 ≠ some x := by
  induction follows with
  | @last items cursor short =>
      have sortedItems := sorted _ (List.mem_singleton_self _)
      have isItem := present _ (List.mem_singleton_self _)
      rw [page_of_short short, mem_rest_iff sortedItems]
      simp [isItem, behind]
  | @next items cursor c requests out full isLast later ih =>
      have sortedItems := sorted _ List.mem_cons_self
      have sortedLater : ∀ request ∈ requests, request.1.Pairwise (· < ·) := fun request inside =>
        sorted request (List.mem_cons_of_mem _ inside)
      have isItem : x ∈ items := present _ List.mem_cons_self
      have lastInside : c ∈ page items cursor take := List.mem_of_getLast? isLast
      rw [List.forall_mem_cons, List.mem_append]
      by_cases passed : passedOver items cursor = some x
      · -- everything that is still to come is behind the last item of the page, and so behind `x`
        have notInPage : x ∉ page items cursor take := fun inside =>
          ((mem_rest_iff sortedItems cursor x).mp (List.mem_of_mem_take inside)).2.2 passed
        have beforeLast : x < c := (passedOver_spec sortedItems passed).2 c (List.mem_of_mem_take lastInside)
        have notInOut : x ∉ out := fun inside =>
          ((sorted_of_follows later sortedLater).2 x inside c rfl).asymm beforeLast
        simp [notInPage, notInOut, passed]
      · have inRest : x ∈ rest items cursor := (mem_rest_iff sortedItems cursor x).mpr ⟨isItem, behind, passed⟩
        by_cases inPage : x ∈ page items cursor take
        · have notLater : ∀ request ∈ requests, passedOver request.1 request.2 ≠ some x := fun request inside again =>
            (behind_of_passedOver later sortedLater request inside again c rfl).not_ge
              (le_last sortedItems isLast inPage)
          simp only [inPage, true_or, true_iff]
          exact ⟨passed, notLater⟩
        · have isBehind : Behind (some c) x := by
            intro c' isCursor
            cases isCursor
            exact lt_of_not_mem_take (sorted_rest sortedItems cursor) inRest inPage lastInside
          have goesOn := ih sortedLater isBehind fun request inside => present request (List.mem_cons_of_mem _ inside)
          simp only [inPage, false_or, goesOn]
          exact ⟨fun all => ⟨passed, all⟩, fun both => both.2⟩

end Traversals

end Paging
