/-
Module: HelpdeskApi.Proofs.CanonicalSlugs
Layer: Proofs
Purpose: Which names have a canonical slug: words of letters and digits with single hyphens between them, of
  which the slug is itself again. Hyphens are taken from the edges before the text is cut, so a cut right
  after a hyphen leaves one at the end.
Trusted boundary: none
Main exports: SlugForm, CanonicalSlug, CutAfterHyphen, canonicalSlug_iff
-/
import HelpdeskApi.Iam.Slug

namespace Helpdesk.Iam

/-- `[a-z0-9]+(-[a-z0-9]+)*`, or nothing at all, in fifty characters. -/
def SlugForm (slug : String) : Prop :=
  slug = "" ∨ (slug.toList.length ≤ 50 ∧ Words.Joined isAlphanumeric '-' slug.toList)

/-- The slug of a name has the form of one, and is its own slug. -/
def CanonicalSlug (unicode : Unicode) (name : String) : Prop :=
  SlugForm (slugify unicode name) ∧ slugify unicode (slugify unicode name) = slugify unicode name

/-- Some first words of the name take forty-nine characters with hyphens between them, and more words follow. -/
def CutAfterHyphen (unicode : Unicode) (name : String) : Prop :=
  let words := Words.words isAlphanumeric (plainName unicode name).toList
  ∃ k, 0 < k ∧ k < words.length ∧ ((words.take k).map fun w => w.length + 1).sum = 50

theorem neat_of_slugForm {slug : String} (form : SlugForm slug) : Words.Neat isAlphanumeric '-' slug.toList := by
  rcases form with rfl | ⟨_, joined⟩
  · exact Words.neat_of_letters isAlphanumeric_hyphen (fun c member => by cases member)
  · exact joined.neat isAlphanumeric_hyphen

section Slugs

variable (unicode : Unicode) (name : String)

theorem toList_slugify : (slugify unicode name).toList = (slugText unicode name).take 50 :=
  String.toList_ofList

theorem slugForm_iff : SlugForm (slugify unicode name) ↔ Words.Neat isAlphanumeric '-' (slugify unicode name).toList := by
  constructor
  · exact neat_of_slugForm
  · intro neat
    by_cases empty : (slugify unicode name).toList = []
    · exact .inl (String.toList_inj.mp empty)
    · refine .inr ⟨?_, (Words.joined_iff isAlphanumeric_hyphen).mpr ⟨empty, neat⟩⟩
      rw [toList_slugify]
      exact List.length_take_le 50 _

/-- A neat slug is its own slug. -/
theorem slugify_of_neat {slug : String} (neat : Words.Neat isAlphanumeric '-' slug.toList)
    (short : slug.toList.length ≤ 50) : slugify unicode slug = slug := by
  have collapsed : Words.collapse isAlphanumeric '-' false slug.toList = slug.toList := by
    apply Words.collapse_eq_self isAlphanumeric_hyphen neat.chars neat.single
    intro inside
    cases inside
  rw [slugify, slugText_plain unicode neat.chars, collapsed, Words.strip_eq_self neat, List.take_of_length_le short,
    String.ofList_toList]

/-- The text before the cut has a hyphen in its fiftieth place where some words fill the places before it. -/
theorem slugText_iff : (slugText unicode name)[49]? = some '-' ↔ CutAfterHyphen unicode name := by
  rw [slugText, Words.strip_collapse isAlphanumeric_hyphen]
  apply Words.getElem?_intercalate isAlphanumeric_hyphen
  intro w member
  exact Words.letters_of_mem member

/-- The slug of a name is canonical unless the cut at fifty characters falls right after a hyphen. -/
theorem canonicalSlug_iff : CanonicalSlug unicode name ↔ ¬CutAfterHyphen unicode name := by
  have neatSlug := (neat_slugText unicode name).take_iff 49
  rw [← toList_slugify, Ne, slugText_iff] at neatSlug
  rw [CanonicalSlug, slugForm_iff, ← neatSlug]
  constructor
  · exact And.left
  · intro neat
    have short : (slugify unicode name).toList.length ≤ 50 := by
      rw [toList_slugify]
      exact List.length_take_le 50 _
    exact ⟨neat, slugify_of_neat unicode neat short⟩

end Slugs

section Example

theorem toLower_plain {c : Char} (isChar : isAlphanumeric c = true ∨ c = '-') : c.toLower = c := by
  have codes := toNat_plain isChar
  apply dif_neg
  intro upper
  have codesUpper : 65 ≤ c.toNat ∧ c.toNat ≤ 90 := by
    simpa [UInt32.le_iff_toNat_le] using upper
  omega

/-- Unicode as far as ASCII goes. -/
def ascii : Unicode where
  normalize text := text
  toLowerCase text := String.ofList (text.toList.map Char.toLower)
  normalize_plain _ _ := rfl
  toLowerCase_plain text plain := by
    have same : text.toList.map Char.toLower = text.toList := by
      rw [List.map_congr_left fun c member => toLower_plain (plain c member)]
      exact List.map_id _
    rw [same, String.ofList_toList]

/-- A name whose fiftieth character is a space. -/
def spacedName : String :=
  String.ofList (List.replicate 49 'a') ++ " b"

theorem canonicalSlug_spacedName : ¬CanonicalSlug ascii spacedName := by
  intro canonical
  have neat := neat_of_slugForm canonical.1
  have ends : (slugify ascii spacedName).toList.getLast? = some '-' := by decide
  exact neat.last ends

end Example

end Helpdesk.Iam
