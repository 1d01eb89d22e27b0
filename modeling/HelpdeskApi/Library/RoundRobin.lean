/-
Module: HelpdeskApi.Library.RoundRobin
Layer: Library
Purpose: Taking turns by number. The members of a list take turns with the numbers 1, 2, 3 and so on, from
  the first member again after the last. In any window of consecutive numbers no member has two turns more
  than another, and so it is for whatever is handed out by turns, in whatever order, as long as each number of
  the window is handed out once.
Trusted boundary: none
Main exports: turn, turns, turn_isSome, turns_le, countP_served, served_le
-/
import Mathlib.Data.Int.CardIntervalMod
import Mathlib.Data.List.Perm.Basic

namespace RoundRobin

variable {α : Type} [DecidableEq α]

/-- The member whose turn comes with a number, the first number being 1. -/
def turn (members : List α) (number : Nat) : Option α :=
  members[(number - 1) % members.length]?

/-- How many of the `k` numbers after `a` are turns of a member. -/
def turns (members : List α) (a k : Nat) (u : α) : Nat :=
  Nat.count (fun i => turn members (a + i + 1) = some u) k

section Turns

variable {members : List α} {u v : α}

omit [DecidableEq α] in
/-- It is always somebody's turn. -/
theorem turn_isSome (nonempty : members ≠ []) (number : Nat) : ∃ u ∈ members, turn members number = some u := by
  have inside : (number - 1) % members.length < members.length :=
    Nat.mod_lt _ (List.length_pos_iff.mpr nonempty)
  exact ⟨members[(number - 1) % members.length], List.getElem_mem inside, List.getElem?_eq_getElem inside⟩

omit [DecidableEq α] in
/-- The turns of a member are the numbers of one remainder. -/
theorem turn_succ_iff (distinct : members.Nodup) {r : Nat} (inside : r < members.length) (i : Nat) :
    turn members (i + 1) = some members[r] ↔ i ≡ r [MOD members.length] := by
  have position : i % members.length < members.length := Nat.mod_lt _ (by omega)
  rw [turn, Nat.add_sub_cancel, List.getElem?_eq_getElem position, Option.some.injEq, distinct.getElem_inj_iff,
    Nat.ModEq, Nat.mod_eq_of_lt inside]

/-- Turns are counted by where the window begins and where it ends. -/
theorem turns_add (distinct : members.Nodup) {r : Nat} (inside : r < members.length) (a k : Nat) :
    a / members.length + (if r < a % members.length then 1 else 0) + turns members a k members[r] =
      (a + k) / members.length + if r < (a + k) % members.length then 1 else 0 := by
  have pos : 0 < members.length := by omega
  have upTo (b : Nat) := Nat.count_modEq_card b pos r
  rw [Nat.mod_eq_of_lt inside] at upTo
  have whole := Nat.count_add (fun i => i ≡ r [MOD members.length]) a k
  have window : turns members a k members[r] = Nat.count (fun i => a + i ≡ r [MOD members.length]) k := by
    unfold turns
    simp only [turn_succ_iff distinct inside]
  rw [upTo, upTo, ← window] at whole
  exact whole.symm

/-- Nobody has two turns more than somebody else. -/
theorem turns_le (distinct : members.Nodup) (a k : Nat) (one : u ∈ members) (other : v ∈ members) :
    turns members a k u ≤ turns members a k v + 1 := by
  obtain ⟨r, inside, rfl⟩ := List.getElem_of_mem one
  obtain ⟨r', inside', rfl⟩ := List.getElem_of_mem other
  have turnsOfOne := turns_add distinct inside a k
  have turnsOfOther := turns_add distinct inside' a k
  split_ifs at turnsOfOne turnsOfOther <;> omega

end Turns

section Served

variable {β : Type} {members : List α} {served : List β} {number : β → Nat} {picked : β → Option α} {a k : Nat}

/-- What is handed out by turns, each number of a window once, is handed out as often as turns come. -/
theorem countP_served (once : (served.map number).Nodup)
    (window : ∀ i, i ∈ served.map number ↔ a < i ∧ i ≤ a + k)
    (byTurn : ∀ x ∈ served, picked x = turn members (number x)) (u : α) :
    (served.countP fun x => picked x = some u) = turns members a k u := by
  have all : (served.map number).Perm ((List.range k).map fun i => a + i + 1) := by
    have increasing : ((List.range k).map fun i => a + i + 1).Nodup :=
      List.nodup_range.map fun i j same => by omega
    rw [List.perm_ext_iff_of_nodup once increasing]
    intro i
    rw [window, List.mem_map]
    constructor
    · intro inside
      exact ⟨i - a - 1, List.mem_range.mpr (by omega), by omega⟩
    · intro counted
      obtain ⟨j, below, rfl⟩ := counted
      rw [List.mem_range] at below
      omega
  have sameTurns : (served.countP fun x => picked x = some u) =
      (served.map number).countP fun i => turn members i = some u := by
    rw [List.countP_map]
    apply List.countP_congr
    intro x inside
    rw [byTurn x inside]
    rfl
  rw [sameTurns, all.countP_eq, List.countP_map]
  rfl

/-- Nobody is given two more than somebody else. -/
theorem served_le (distinct : members.Nodup) (once : (served.map number).Nodup)
    (window : ∀ i, i ∈ served.map number ↔ a < i ∧ i ≤ a + k)
    (byTurn : ∀ x ∈ served, picked x = turn members (number x)) {u v : α} (one : u ∈ members)
    (other : v ∈ members) :
    (served.countP fun x => picked x = some u) ≤ (served.countP fun x => picked x = some v) + 1 := by
  rw [countP_served once window byTurn, countP_served once window byTurn]
  exact turns_le distinct a k one other

end Served

end RoundRobin
