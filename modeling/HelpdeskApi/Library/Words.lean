/-
Module: HelpdeskApi.Library.Words
Layer: Library
Purpose: Texts of words with single separators between them. `collapse` makes one separator of every run of
  other characters and `strip` takes the separators from the edges; what both leave are the words of the text,
  and a text of words is what both leave alone. A cut keeps a text of words unless it falls right after a
  separator.
Trusted boundary: none
Main exports: Words.collapse, Words.strip, Words.words, Words.Joined, Words.Neat, Words.joined_iff,
  Words.Neat.take_iff, Words.strip_collapse, Words.getElem?_intercalate
-/
import Mathlib.Algebra.Ring.Nat
import Mathlib.Data.List.Chain
import Mathlib.Data.List.DropRight

namespace Words

variable {α : Type} (letter : α → Bool) (sep : α)

/-- One separator for every run of characters that are no letters, where `inRun` tells that the run has begun. -/
def collapse : Bool → List α → List α
  | _, [] => []
  | inRun, c :: cs =>
      if letter c then c :: collapse false cs
      else if inRun then collapse true cs
      else sep :: collapse true cs

/-- The text without the separators at its edges. -/
def strip [DecidableEq α] (l : List α) : List α :=
  (l.dropWhile (· = sep)).rdropWhile (· = sep)

/-- The words of a text: its longest runs of letters. -/
def words (l : List α) : List (List α) :=
  (l.splitOnP fun c => !letter c).filter fun w => !w.isEmpty

/-- Words, with one separator between any two. -/
inductive Joined : List α → Prop where
  | word {w : List α} (nonempty : w ≠ []) (letters : ∀ c ∈ w, letter c = true) : Joined w
  | join {w rest : List α} (nonempty : w ≠ []) (letters : ∀ c ∈ w, letter c = true) (joined : Joined rest) :
      Joined (w ++ sep :: rest)

/-- No two separators stand next to each other. -/
def Single (l : List α) : Prop :=
  l.IsChain fun a b => ¬(a = sep ∧ b = sep)

/-- Letters and single separators, none of them at an edge. -/
structure Neat (l : List α) : Prop where
  chars : ∀ c ∈ l, letter c = true ∨ c = sep
  single : Single sep l
  first : l.head? ≠ some sep
  last : l.getLast? ≠ some sep

section Joining

variable {letter sep} {l : List α} {c : α}

theorem Joined.cons (joined : Joined letter sep l) (isLetter : letter c = true) : Joined letter sep (c :: l) := by
  cases joined with
  | @word w nonempty letters =>
      exact .word (by simp) (List.forall_mem_cons.mpr ⟨isLetter, letters⟩)
  | @join w rest nonempty letters joined =>
      exact .join (w := c :: w) (by simp) (List.forall_mem_cons.mpr ⟨isLetter, letters⟩) joined

/-- What follows a first separator, or the whole text if there is none, is made of words. -/
theorem joined_of_single (chars : ∀ c ∈ l, letter c = true ∨ c = sep) (single : Single sep l)
    (last : l.getLast? ≠ some sep) :
    (l ≠ [] → l.head? ≠ some sep → Joined letter sep l) ∧
      (l.head? = some sep → ∃ rest, l = sep :: rest ∧ Joined letter sep rest) := by
  induction l with
  | nil => exact ⟨fun nonempty => absurd rfl nonempty, fun first => by cases first⟩
  | cons c cs ih =>
      obtain ⟨isChar, chars⟩ := List.forall_mem_cons.mp chars
      have laterLast : cs.getLast? ≠ some sep := by
        cases cs with
        | nil => simp
        | cons d ds => simpa [List.getLast?_cons_cons] using last
      obtain ⟨whole, afterSep⟩ := ih chars single.tail laterLast
      constructor
      · intro _ first
        have isLetter : letter c = true := by
          apply isChar.resolve_right
          rintro rfl
          exact first rfl
        cases cs with
        | nil => exact .word (by simp) (by simpa using isLetter)
        | cons d ds =>
            by_cases begins : d = sep
            · obtain ⟨rest, isRest, joined⟩ := afterSep (congrArg some begins)
              rw [isRest]
              exact .join (w := [c]) (by simp) (by simpa using isLetter) joined
            · exact (whole (by simp) (by simpa using begins)).cons isLetter
      · intro first
        cases Option.some.inj first
        refine ⟨cs, rfl, whole ?_ ?_⟩
        · rintro rfl
          exact last rfl
        · cases cs with
          | nil => simp
          | cons d ds =>
              intro begins
              exact (List.isChain_cons_cons.mp single).1 ⟨rfl, Option.some.inj begins⟩

/-- A text without separators. -/
theorem neat_of_letters (plain : letter sep = false) (letters : ∀ c ∈ l, letter c = true) : Neat letter sep l := by
  have noSep : ∀ c ∈ l, c ≠ sep := by
    rintro c member rfl
    exact Bool.false_ne_true (plain.symm.trans (letters c member))
  constructor
  · intro c member
    exact .inl (letters c member)
  · apply List.Pairwise.isChain
    exact List.pairwise_of_forall_mem_list fun a member b _ both => noSep a member both.1
  · intro first
    exact noSep sep (List.mem_of_mem_head? first) rfl
  · intro last
    exact noSep sep (List.mem_of_mem_getLast? last) rfl

theorem Joined.ne_nil (joined : Joined letter sep l) : l ≠ [] := by
  cases joined with
  | word nonempty => exact nonempty
  | join => simp

theorem Joined.neat (plain : letter sep = false) (joined : Joined letter sep l) : Neat letter sep l := by
  induction joined with
  | word nonempty letters => exact neat_of_letters plain letters
  | @join w rest nonempty letters joined ih =>
      have word : Neat letter sep w := neat_of_letters plain letters
      have restNonempty := joined.ne_nil
      constructor
      · intro c member
        rcases List.mem_append.mp member with inWord | later
        · exact word.chars c inWord
        · rcases List.mem_cons.mp later with rfl | inRest
          · exact .inr rfl
          · exact ih.chars c inRest
      · apply word.single.append
        · apply List.isChain_cons.mpr
          exact ⟨fun d begins both => ih.first (both.2 ▸ begins), ih.single⟩
        · intro c ends d _ both
          exact word.last (both.1 ▸ ends)
      · rw [List.head?_append_of_ne_nil _ nonempty]
        exact word.first
      · obtain ⟨d, ds, rfl⟩ := List.exists_cons_of_ne_nil restNonempty
        rw [List.getLast?_append_cons, List.getLast?_cons_cons]
        exact ih.last

/-- Texts of words are the texts that are not empty and have single separators inside. -/
theorem joined_iff (plain : letter sep = false) : Joined letter sep l ↔ l ≠ [] ∧ Neat letter sep l := by
  constructor
  · intro joined
    exact ⟨joined.ne_nil, joined.neat plain⟩
  · intro neat
    exact (joined_of_single neat.2.chars neat.2.single neat.2.last).1 neat.1 neat.2.first

end Joining

section Rewriting

variable {letter sep} {l : List α}

theorem chars_collapse (inRun : Bool) : ∀ c ∈ collapse letter sep inRun l, letter c = true ∨ c = sep := by
  induction l generalizing inRun with
  | nil =>
      intro c member
      cases member
  | cons d ds ih =>
      intro c member
      rw [collapse] at member
      split at member
      · rename_i isLetter
        rcases List.mem_cons.mp member with rfl | later
        · exact .inl isLetter
        · exact ih false c later
      · split at member
        · exact ih true c member
        · rcases List.mem_cons.mp member with rfl | later
          · exact .inr rfl
          · exact ih true c later

/-- Runs become single separators, and the rest of a run adds none. -/
theorem single_collapse (plain : letter sep = false) (inRun : Bool) : Single sep (collapse letter sep inRun l) ∧
    (inRun = true → (collapse letter sep inRun l).head? ≠ some sep) := by
  induction l generalizing inRun with
  | nil => exact ⟨.nil, fun _ first => by cases first⟩
  | cons c cs ih =>
      rw [collapse]
      split
      · rename_i isLetter
        have notSep : c ≠ sep := by
          rintro rfl
          exact Bool.false_ne_true (plain.symm.trans isLetter)
        constructor
        · apply List.isChain_cons.mpr
          exact ⟨fun d _ both => notSep both.1, (ih false).1⟩
        · intro _ first
          exact notSep (Option.some.inj first)
      · split
        · exact ⟨(ih true).1, fun _ => (ih true).2 rfl⟩
        · rename_i begins
          constructor
          · apply List.isChain_cons.mpr
            exact ⟨fun d first both => (ih true).2 rfl (both.2 ▸ first), (ih true).1⟩
          · intro inside
            exact absurd inside begins

theorem collapse_eq_self (plain : letter sep = false) (chars : ∀ c ∈ l, letter c = true ∨ c = sep)
    (single : Single sep l) (inRun : Bool) (first : inRun = true → l.head? ≠ some sep) :
    collapse letter sep inRun l = l := by
  induction l generalizing inRun with
  | nil => rfl
  | cons c cs ih =>
      obtain ⟨isChar, chars⟩ := List.forall_mem_cons.mp chars
      rw [collapse]
      rcases isChar with isLetter | rfl
      · rw [if_pos isLetter, ih chars single.tail false fun inside => by cases inside]
      · rw [if_neg (by simp [plain]), if_neg fun inside => first inside rfl, ih chars single.tail true ?_]
        intro _ next
        exact (List.isChain_cons.mp single).1 c next ⟨rfl, rfl⟩

variable [DecidableEq α]

theorem head?_strip_ne : (strip sep l).head? ≠ some sep := by
  intro first
  obtain ⟨rest, whole⟩ := List.rdropWhile_prefix (fun c => decide (c = sep)) (l := l.dropWhile (· = sep))
  obtain ⟨tail, begins⟩ := List.head?_eq_some_iff.mp first
  have dropped : (l.dropWhile (· = sep)).head? = some sep := by
    rw [← whole]
    change (strip sep l ++ rest).head? = some sep
    rw [begins]
    rfl
  have stops := List.head?_dropWhile_not (fun c => decide (c = sep)) l
  rw [dropped] at stops
  simp at stops

theorem getLast?_strip_ne : (strip sep l).getLast? ≠ some sep := by
  intro last
  have nonempty : strip sep l ≠ [] := by
    intro empty
    rw [empty] at last
    cases last
  have ends := List.rdropWhile_last_not (fun c => decide (c = sep)) (l.dropWhile (· = sep)) nonempty
  rw [List.getLast?_eq_some_getLast nonempty] at last
  exact ends (decide_eq_true (Option.some.inj last))

/-- What is left of single separators is neat. -/
theorem neat_strip (chars : ∀ c ∈ l, letter c = true ∨ c = sep) (single : Single sep l) :
    Neat letter sep (strip sep l) := by
  have inside : strip sep l <:+: l :=
    (List.rdropWhile_prefix _ _).isInfix.trans (List.dropWhile_suffix _).isInfix
  exact ⟨fun c member => chars c (inside.subset member), single.infix inside, head?_strip_ne, getLast?_strip_ne⟩

theorem strip_eq_self (neat : Neat letter sep l) : strip sep l = l := by
  have first : l.dropWhile (· = sep) = l := by
    cases l with
    | nil => rfl
    | cons c cs =>
        have notSep : c ≠ sep := fun same => neat.first (congrArg some same)
        simp [notSep]
  rw [strip, first, List.rdropWhile_eq_self_iff]
  intro nonempty last
  exact neat.last (by rw [List.getLast?_eq_some_getLast nonempty]; simpa using last)

omit [DecidableEq α] in
/-- A cut keeps a neat text neat unless it falls right after a separator. -/
theorem Neat.take_iff (neat : Neat letter sep l) (n : Nat) :
    Neat letter sep (l.take (n + 1)) ↔ l[n]? ≠ some sep := by
  have ends : (l.take (n + 1)).getLast? = l[n]?.or l.getLast? := by
    rw [List.getLast?_take, if_neg (Nat.succ_ne_zero n), Nat.add_sub_cancel]
  constructor
  · intro cut isSep
    apply cut.last
    rw [ends, isSep]
    rfl
  · intro notSep
    constructor
    · intro c member
      exact neat.chars c (List.mem_of_mem_take member)
    · exact neat.single.take (n + 1)
    · rw [List.head?_take, if_neg (Nat.succ_ne_zero n)]
      exact neat.first
    · rw [ends]
      cases last : l[n]? with
      | none => exact neat.last
      | some c =>
          rw [last] at notSep
          exact notSep

end Rewriting

section Runs

variable {letter sep} {l : List α}

theorem word_of_mem {w : List α} (member : w ∈ words letter l) : w ≠ [] := by
  have kept := (List.mem_filter.mp member).2
  simpa using kept

theorem intercalate_words (w : List α) (l : List α) :
    [sep].intercalate (w :: words letter l) =
      if [sep].intercalate (words letter l) = [] then w else w ++ sep :: [sep].intercalate (words letter l) := by
  cases split : words letter l with
  | nil => simp
  | cons v vs =>
      have nonempty : v ≠ [] := word_of_mem (split ▸ List.mem_cons_self)
      have notNil : [sep].intercalate (v :: vs) ≠ [] := by
        cases vs with
        | nil => simpa using nonempty
        | cons u us => simp [List.intercalate_cons_cons]
      rw [if_neg notNil, List.intercalate_cons_cons, List.append_assoc]
      rfl

theorem letters_of_splitOnPPrepend {acc : List α} (letters : ∀ c ∈ acc, letter c = true) :
    ∀ w ∈ l.splitOnPPrepend (fun c => !letter c) acc, ∀ c ∈ w, letter c = true := by
  induction l generalizing acc with
  | nil =>
      intro w member c inWord
      cases List.mem_singleton.mp member
      exact letters c (List.mem_reverse.mp inWord)
  | cons d ds ih =>
      intro w member
      by_cases isLetter : letter d = true
      · rw [List.splitOnPPrepend_cons_neg (by simp [isLetter])] at member
        exact ih (List.forall_mem_cons.mpr ⟨isLetter, letters⟩) w member
      · rw [List.splitOnPPrepend_cons_pos (by simp [isLetter])] at member
        rcases List.mem_cons.mp member with rfl | later
        · intro c inWord
          exact letters c (List.mem_reverse.mp inWord)
        · have none : ∀ c ∈ ([] : List α), letter c = true := fun c inside => by cases inside
          exact ih none w later

theorem letters_of_mem {w : List α} (member : w ∈ words letter l) : ∀ c ∈ w, letter c = true := by
  have none : ∀ c ∈ ([] : List α), letter c = true := fun c inside => by cases inside
  exact letters_of_splitOnPPrepend none w (List.mem_filter.mp member).1

/-- Where the separators stand between words. -/
theorem getElem?_intercalate (plain : letter sep = false) {ws : List (List α)}
    (letters : ∀ w ∈ ws, ∀ c ∈ w, letter c = true) (n : Nat) :
    ([sep].intercalate ws)[n]? = some sep ↔
      ∃ k, 0 < k ∧ k < ws.length ∧ ((ws.take k).map fun w => w.length + 1).sum = n + 1 := by
  induction ws generalizing n with
  | nil => simp
  | cons w ws ih =>
      obtain ⟨wordLetters, letters⟩ := List.forall_mem_cons.mp letters
      have inWord : w[n]? ≠ some sep := fun isSep =>
        Bool.false_ne_true (plain.symm.trans (wordLetters sep (List.mem_of_getElem? isSep)))
      have shift (k : Nat) : (((w :: ws).take (k + 1)).map fun w => w.length + 1).sum =
          w.length + 1 + ((ws.take k).map fun w => w.length + 1).sum := by
        simp
      cases ws with
      | nil =>
          rw [List.intercalate_singleton]
          constructor
          · intro isSep
            exact absurd isSep inWord
          · rintro ⟨k, positive, within, _⟩
            simp only [List.length_singleton] at within
            omega
      | cons v vs =>
          rw [List.intercalate_cons_cons, List.append_assoc, List.singleton_append]
          rcases Nat.lt_trichotomy n w.length with inside | rfl | behind
          · rw [List.getElem?_append_left inside]
            constructor
            · intro isSep
              exact absurd isSep inWord
            · rintro ⟨k, positive, _, total⟩
              obtain ⟨j, rfl⟩ := Nat.exists_eq_succ_of_ne_zero positive.ne'
              rw [shift] at total
              omega
          · rw [List.getElem?_append_right le_rfl, Nat.sub_self]
            refine iff_of_true rfl ⟨1, Nat.one_pos, by simp, ?_⟩
            simp
          · rw [List.getElem?_append_right behind.le]
            obtain ⟨m, rfl⟩ : ∃ m, n = w.length + 1 + m := ⟨n - (w.length + 1), by omega⟩
            have rest : w.length + 1 + m - w.length = m + 1 := by omega
            rw [rest, List.getElem?_cons_succ, ih letters]
            constructor
            · rintro ⟨k, positive, within, total⟩
              refine ⟨k + 1, Nat.succ_pos k, Nat.succ_lt_succ within, ?_⟩
              rw [shift, total]
              omega
            · rintro ⟨k, positive, within, total⟩
              obtain ⟨j, rfl⟩ := Nat.exists_eq_succ_of_ne_zero positive.ne'
              rw [shift] at total
              have first : j ≠ 0 := by
                rintro rfl
                simp at total
                omega
              exact ⟨j, Nat.pos_of_ne_zero first, Nat.lt_of_succ_lt_succ within, by omega⟩

variable [DecidableEq α]

theorem rdropWhile_join {w rest : List α} (last : w.getLast? ≠ some sep) :
    (w ++ sep :: rest).rdropWhile (· = sep) =
      if rest.rdropWhile (· = sep) = [] then w else w ++ sep :: rest.rdropWhile (· = sep) := by
  have ends : w.reverse.dropWhile (· = sep) = w.reverse := by
    cases reversed : w.reverse with
    | nil => rfl
    | cons c cs =>
        have notSep : c ≠ sep := by
          rintro rfl
          apply last
          rw [List.getLast?_eq_head?_reverse, reversed]
          rfl
        simp [notSep]
  rw [List.rdropWhile, List.reverse_append, List.reverse_cons, List.append_assoc, List.dropWhile_append]
  by_cases none : rest.rdropWhile (· = sep) = []
  · have empty : rest.reverse.dropWhile (· = sep) = [] := List.reverse_eq_nil_iff.mp none
    rw [if_pos none, if_pos (by rw [empty]; rfl), List.singleton_append, List.dropWhile_cons_of_pos (by simp), ends,
      List.reverse_reverse]
  · have some : rest.reverse.dropWhile (· = sep) ≠ [] := fun empty => none (List.reverse_eq_nil_iff.mpr empty)
    rw [if_neg none, if_neg (by simpa using some)]
    simp [List.rdropWhile]

/-- What is left of a text, behind a word that has begun or between words. -/
theorem rdropWhile_collapse (plain : letter sep = false) (l : List α) :
    (collapse letter sep true l).rdropWhile (· = sep) = [sep].intercalate (words letter l) ∧
      ∀ acc : List α, acc ≠ [] → (∀ c ∈ acc, letter c = true) →
        (acc.reverse ++ collapse letter sep false l).rdropWhile (· = sep) =
          [sep].intercalate ((l.splitOnPPrepend (fun c => !letter c) acc).filter fun w => !w.isEmpty) := by
  have lastOf {acc : List α} (letters : ∀ c ∈ acc, letter c = true) : acc.reverse.getLast? ≠ some sep :=
    (neat_of_letters plain fun c member => letters c (List.mem_reverse.mp member)).last
  induction l with
  | nil =>
      refine ⟨rfl, ?_⟩
      intro acc nonempty letters
      have kept : acc.reverse.rdropWhile (· = sep) = acc.reverse := by
        rw [List.rdropWhile_eq_self_iff]
        intro notNil isSep
        apply lastOf letters
        rw [List.getLast?_eq_some_getLast notNil]
        exact congrArg some (of_decide_eq_true isSep)
      simp [collapse, kept, nonempty]
  | cons c cs ih =>
      by_cases isLetter : letter c = true
      · constructor
        · rw [collapse, if_pos isLetter, words, List.splitOnP_eq_splitOnPPrepend,
            List.splitOnPPrepend_cons_neg (by simp [isLetter])]
          exact ih.2 [c] (by simp) (by simpa using isLetter)
        · intro acc nonempty letters
          rw [collapse, if_pos isLetter, List.splitOnPPrepend_cons_neg (by simp [isLetter]),
            ← ih.2 (c :: acc) (by simp) (List.forall_mem_cons.mpr ⟨isLetter, letters⟩), List.reverse_cons,
            List.append_assoc]
          rfl
      · constructor
        · have whole : (c :: cs).splitOnP (fun c => !letter c) = (c :: cs).splitOnPPrepend (fun c => !letter c) [] :=
            List.splitOnP_eq_splitOnPPrepend
          rw [collapse, if_neg isLetter, if_pos rfl, ih.1, words, words, whole,
            List.splitOnPPrepend_cons_pos (by simp [isLetter])]
          rfl
        · intro acc nonempty letters
          have kept : (acc.reverse :: cs.splitOnP fun c => !letter c).filter (fun w => !w.isEmpty) =
              acc.reverse :: words letter cs := by
            rw [List.filter_cons_of_pos (by simpa using nonempty)]
            rfl
          rw [collapse, if_neg isLetter, if_neg Bool.false_ne_true, rdropWhile_join (lastOf letters), ih.1,
            List.splitOnPPrepend_cons_pos (by simp [isLetter]), kept, intercalate_words]

/-- Collapsing and stripping leave the words of a text, with one separator between any two. -/
theorem strip_collapse (plain : letter sep = false) (l : List α) :
    strip sep (collapse letter sep false l) = [sep].intercalate (words letter l) := by
  have first : (collapse letter sep false l).dropWhile (· = sep) = collapse letter sep true l := by
    cases l with
    | nil => rfl
    | cons c cs =>
        rw [collapse, collapse]
        by_cases isLetter : letter c = true
        · have notSep : c ≠ sep := by
            rintro rfl
            exact Bool.false_ne_true (plain.symm.trans isLetter)
          rw [if_pos isLetter, if_pos isLetter, List.dropWhile_cons_of_neg (by simpa using notSep)]
        · rw [if_neg isLetter, if_neg isLetter, if_neg Bool.false_ne_true, if_pos rfl,
            List.dropWhile_cons_of_pos (by simp)]
          have begins := (single_collapse (l := cs) plain true).2 rfl
          cases rest : collapse letter sep true cs with
          | nil => rfl
          | cons d ds =>
              rw [rest] at begins
              exact List.dropWhile_cons_of_neg (by simpa using begins)
  rw [strip, first]
  exact (rdropWhile_collapse plain l).1

end Runs

end Words
