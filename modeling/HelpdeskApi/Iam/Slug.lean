/-
Module: HelpdeskApi.Iam.Slug
Layer: Domain
Purpose: The slug of an organisation, which is its name for a login. The text is normalised, put into lower
  case and reduced to words of letters and digits with hyphens between them, and then cut at fifty characters.
  What Unicode says about a text is left open, except that it leaves plain text alone.
Trusted boundary: human-reviewed spec
Main exports: Unicode, plainName, slugText, slugify
-/
import HelpdeskApi.Domain.Values
import HelpdeskApi.Library.Words

namespace Helpdesk.Iam

/-- `[a-z0-9]`. -/
def isAlphanumeric (c : Char) : Bool :=
  c.isLower || c.isDigit

/-- A text over `[a-z0-9-]`. -/
def Plain (text : String) : Prop :=
  ∀ c ∈ text.toList, isAlphanumeric c = true ∨ c = '-'

/-- `normalize('NFKD')` and `toLowerCase`, which leave plain text unchanged. -/
structure Unicode where
  normalize : String → String
  toLowerCase : String → String
  normalize_plain : ∀ text, Plain text → normalize text = text
  toLowerCase_plain : ∀ text, Plain text → toLowerCase text = text

/-- `COMBINING_MARKS`. -/
def isCombiningMark (c : Char) : Bool :=
  0x300 ≤ c.toNat && c.toNat ≤ 0x36f

/-- The text without its combining marks. -/
def removeMarks (text : String) : String :=
  String.ofList (text.toList.filter fun c => !isCombiningMark c)

/-- The text the words of a slug are taken from. -/
def plainName (unicode : Unicode) (name : String) : String :=
  trim (unicode.toLowerCase (removeMarks (unicode.normalize name)))

/-- The slug before it is cut. -/
def slugText (unicode : Unicode) (name : String) : List Char :=
  Words.strip '-' (Words.collapse isAlphanumeric '-' false (plainName unicode name).toList)

/-- The characters left are single UTF-16 units, so that `slice(0, 50)` counts characters. -/
def slugify (unicode : Unicode) (name : String) : String :=
  String.ofList ((slugText unicode name).take 50)

section Plain

theorem isAlphanumeric_hyphen : isAlphanumeric '-' = false := rfl

/-- The codes of the characters of a plain text. -/
theorem toNat_plain {c : Char} (isChar : isAlphanumeric c = true ∨ c = '-') :
    (97 ≤ c.toNat ∧ c.toNat ≤ 122) ∨ (48 ≤ c.toNat ∧ c.toNat ≤ 57) ∨ c.toNat = 45 := by
  rcases isChar with isLetter | rfl
  · change (decide (c.val ≥ 97) && decide (c.val ≤ 122) || (decide (c.val ≥ 48) && decide (c.val ≤ 57))) = true at isLetter
    simp only [Bool.or_eq_true, Bool.and_eq_true, decide_eq_true_eq, ge_iff_le, UInt32.le_iff_toNat_le] at isLetter
    rcases isLetter with lower | digit
    · exact .inl lower
    · exact .inr (.inl digit)
  · exact .inr (.inr rfl)

variable {text : String}

theorem removeMarks_plain (plain : Plain text) : removeMarks text = text := by
  have noMarks : text.toList.filter (fun c => !isCombiningMark c) = text.toList := by
    apply List.filter_eq_self.mpr
    intro c member
    have codes := toNat_plain (plain c member)
    simp only [isCombiningMark, Bool.not_eq_true', Bool.and_eq_false_iff, decide_eq_false_iff_not]
    omega
  rw [removeMarks, noMarks, String.ofList_toList]

theorem isWhiteSpace_plain {c : Char} (isChar : isAlphanumeric c = true ∨ c = '-') : isWhiteSpace c = false := by
  have codes := toNat_plain isChar
  simp only [isWhiteSpace, List.contains_eq_mem, List.mem_cons, List.not_mem_nil, or_false,
    Bool.or_eq_false_iff, decide_eq_false_iff_not, Bool.and_eq_false_iff]
  omega

theorem dropWhile_plain {l : List Char} (plain : ∀ c ∈ l, isAlphanumeric c = true ∨ c = '-') :
    l.dropWhile isWhiteSpace = l := by
  cases l with
  | nil => rfl
  | cons c cs => rw [List.dropWhile_cons, isWhiteSpace_plain (plain c List.mem_cons_self)]; rfl

theorem trim_plain (plain : Plain text) : trim text = text := by
  have backwards : ∀ c ∈ text.toList.reverse, isAlphanumeric c = true ∨ c = '-' := fun c member =>
    plain c (List.mem_reverse.mp member)
  rw [trim, dropWhile_plain plain, dropWhile_plain backwards, List.reverse_reverse, String.ofList_toList]

/-- Of a plain text only the hyphens change. -/
theorem slugText_plain (unicode : Unicode) (plain : Plain text) :
    slugText unicode text = Words.strip '-' (Words.collapse isAlphanumeric '-' false text.toList) := by
  rw [slugText, plainName, unicode.normalize_plain text plain, removeMarks_plain plain, unicode.toLowerCase_plain text plain,
    trim_plain plain]

end Plain

/-- A slug is made of words before it is cut. -/
theorem neat_slugText (unicode : Unicode) (name : String) : Words.Neat isAlphanumeric '-' (slugText unicode name) := by
  apply Words.neat_strip
  · exact Words.chars_collapse false
  · exact (Words.single_collapse isAlphanumeric_hyphen false).1

end Helpdesk.Iam
