/-
Module: HelpdeskApi.Observability.RequestContext
Layer: Observability
Purpose: The id by which a request and everything it causes are found in the logs. It is the one a client sends,
  if that is harmless, or a generated one, and it is checked again whenever it comes back out of the database.
  What passes the check once passes it unchanged again.
Trusted boundary: human-reviewed spec
Main exports: REQUEST_ID_MAX_LENGTH, sanitizeRequestId, RandomUuid, requestIdMiddleware, genReqId, HttpRequest,
  runWithJobContext, IdText, sanitizeRequestId_idText, idText_of_sanitized
-/
import HelpdeskApi.Realtime.Gateway

namespace Helpdesk

def REQUEST_ID_MAX_LENGTH : Nat := 128

/-- The codes of `[\w.:-]`. -/
def isIdCode (n : Nat) : Bool :=
  (48 ≤ n ∧ n ≤ 57) ∨ (65 ≤ n ∧ n ≤ 90) ∨ (97 ≤ n ∧ n ≤ 122) ∨ n = 95 ∨ n = 46 ∨ n = 58 ∨ n = 45

/-- The string of units that are characters by themselves. -/
def textOf (units : JsString) : String :=
  String.ofList (units.map fun u => Char.ofNat u.toNat)

/-- `sanitizeRequestId`, where `none` is anything but a string. The cut may fall between the two units of a
    character, and then what is left of it fails the test. -/
def sanitizeRequestId (valor : Option String) : Option String :=
  match valor with
  | none => none
  | some text =>
      let limpio := (js (trim text)).take REQUEST_ID_MAX_LENGTH
      if limpio ≠ [] ∧ (limpio.all fun u => isIdCode u.toNat) then some (textOf limpio) else none

/-- What `randomUUID` returns: hexadecimal digits and hyphens. -/
structure RandomUuid where
  text : String
  length : text.toList.length = 36
  chars : ∀ c ∈ text.toList,
    (48 ≤ c.toNat ∧ c.toNat ≤ 57) ∨ (97 ≤ c.toNat ∧ c.toNat ≤ 102) ∨ c.toNat = 45

/-- The id a request is given by whoever comes first, and keeps. -/
def assignRequestId (id header : Option String) (generated : RandomUuid) : String :=
  let yaAsignado := sanitizeRequestId id
  let entrante := sanitizeRequestId header
  (yaAsignado <|> entrante).getD generated.text

/-- `requestIdMiddleware`, as far as the id is concerned. -/
def requestIdMiddleware (id header : Option String) (generated : RandomUuid) : String :=
  assignRequestId id header generated

/-- `genReqId` of the logger. -/
def genReqId (id header : Option String) (generated : RandomUuid) : String :=
  assignRequestId id header generated

/-- A request with its `x-request-id`, what is generated for it, and whether the logger or the middleware sees
    it first. -/
structure HttpRequest where
  header : Option String
  loggerFirst : Bool
  first : RandomUuid
  second : RandomUuid

namespace HttpRequest

/-- The id the request is handled under. -/
def requestId (request : HttpRequest) : String :=
  if request.loggerFirst then
    requestIdMiddleware (some (genReqId none request.header request.first)) request.header request.second
  else requestIdMiddleware none request.header request.first

/-- The id the logger has for it. -/
def loggedId (request : HttpRequest) : String :=
  if request.loggerFirst then genReqId none request.header request.first
  else genReqId (some (requestIdMiddleware none request.header request.first)) request.header request.second

end HttpRequest

/-- The id `runWithJobContext` runs a job under. -/
def runWithJobContext (requestId : Option String) (generated : RandomUuid) : String :=
  (sanitizeRequestId requestId).getD generated.text

/-- A harmless id. -/
structure IdText (text : String) : Prop where
  nonempty : text.toList ≠ []
  bounded : text.toList.length ≤ REQUEST_ID_MAX_LENGTH
  chars : ∀ c ∈ text.toList, isIdCode c.toNat = true

section Characters

theorem isIdCode_iff (n : Nat) : isIdCode n = true ↔
    (48 ≤ n ∧ n ≤ 57) ∨ (65 ≤ n ∧ n ≤ 90) ∨ (97 ≤ n ∧ n ≤ 122) ∨ n = 95 ∨ n = 46 ∨ n = 58 ∨ n = 45 := by
  simp [isIdCode]

theorem toNat_ofNat_of_idCode {n : Nat} (isId : isIdCode n = true) : (Char.ofNat n).toNat = n := by
  have small : n < 123 := by
    have codes := (isIdCode_iff n).mp isId
    omega
  have all : ∀ n < 123, (Char.ofNat n).toNat = n := by decide
  exact all n small

theorem toNat_unit_of_idCode {n : Nat} (isId : isIdCode n = true) : (UInt16.ofNat n).toNat = n := by
  have codes := (isIdCode_iff n).mp isId
  rw [UInt16.toNat_ofNat']
  omega

theorem isWhiteSpace_of_idCode {c : Char} (isId : isIdCode c.toNat = true) : isWhiteSpace c = false := by
  have codes := (isIdCode_iff _).mp isId
  simp only [isWhiteSpace, List.contains_eq_mem, List.mem_cons, List.not_mem_nil, or_false,
    Bool.or_eq_false_iff, decide_eq_false_iff_not, Bool.and_eq_false_iff]
  omega

/-- A harmless character is one unit. -/
theorem utf16_of_idCode {c : Char} (isId : isIdCode c.toNat = true) : utf16 c = [.ofNat c.toNat] := by
  have codes := (isIdCode_iff _).mp isId
  have single : c.toNat < 0x10000 := by omega
  rw [utf16, if_pos single]

end Characters

section Sanitizing

variable {text : String}

theorem dropWhile_idCode {l : List Char} (chars : ∀ c ∈ l, isIdCode c.toNat = true) :
    l.dropWhile isWhiteSpace = l := by
  cases l with
  | nil => rfl
  | cons c cs => rw [List.dropWhile_cons, isWhiteSpace_of_idCode (chars c List.mem_cons_self)]; rfl

theorem trim_idText (idText : IdText text) : trim text = text := by
  have backwards : ∀ c ∈ text.toList.reverse, isIdCode c.toNat = true := fun c member =>
    idText.chars c (List.mem_reverse.mp member)
  rw [trim, dropWhile_idCode idText.chars, dropWhile_idCode backwards, List.reverse_reverse, String.ofList_toList]

theorem flatMap_utf16 {l : List Char} (chars : ∀ c ∈ l, isIdCode c.toNat = true) :
    l.flatMap utf16 = l.map fun c => .ofNat c.toNat := by
  induction l with
  | nil => rfl
  | cons c cs ih =>
      rw [List.flatMap_cons, utf16_of_idCode (chars c List.mem_cons_self),
        ih fun c member => chars c (List.mem_cons_of_mem _ member)]
      rfl

theorem map_units {l : List Char} (chars : ∀ c ∈ l, isIdCode c.toNat = true) :
    ((l.map fun c => UInt16.ofNat c.toNat).map fun u => Char.ofNat u.toNat) = l := by
  induction l with
  | nil => rfl
  | cons c cs ih =>
      rw [List.map_cons, List.map_cons, toNat_unit_of_idCode (chars c List.mem_cons_self), Char.ofNat_toNat,
        ih fun c member => chars c (List.mem_cons_of_mem _ member)]

/-- A harmless id passes the check as it is. -/
theorem sanitizeRequestId_idText (idText : IdText text) : sanitizeRequestId (some text) = some text := by
  have units : (js (trim text)).take REQUEST_ID_MAX_LENGTH = text.toList.map fun c => .ofNat c.toNat := by
    rw [trim_idText idText, js, flatMap_utf16 idText.chars]
    apply List.take_of_length_le
    rw [List.length_map]
    exact idText.bounded
  have passes : (text.toList.map fun c => UInt16.ofNat c.toNat) ≠ [] ∧
      ((text.toList.map fun c => UInt16.ofNat c.toNat).all fun u => isIdCode u.toNat) = true := by
    refine ⟨by simpa using idText.nonempty, ?_⟩
    rw [List.all_map, List.all_eq_true]
    intro c member
    rw [Function.comp_apply, toNat_unit_of_idCode (idText.chars c member)]
    exact idText.chars c member
  have same : textOf (text.toList.map fun c => .ofNat c.toNat) = text := by
    rw [textOf, map_units idText.chars, String.ofList_toList]
  simp only [sanitizeRequestId, units]
  rw [if_pos passes, same]

/-- The text of harmless units. -/
theorem idText_textOf {units : JsString} (nonempty : units ≠ []) (bounded : units.length ≤ REQUEST_ID_MAX_LENGTH)
    (codes : ∀ u ∈ units, isIdCode u.toNat = true) : IdText (textOf units) where
  nonempty := by simpa [textOf] using nonempty
  bounded := by
    rw [textOf, String.toList_ofList, List.length_map]
    exact bounded
  chars c member := by
    rw [textOf, String.toList_ofList] at member
    obtain ⟨u, inside, rfl⟩ := List.mem_map.mp member
    rw [toNat_ofNat_of_idCode (codes u inside)]
    exact codes u inside

/-- Whatever passes the check has become a harmless id. -/
theorem idText_of_sanitized {valor : Option String} (sanitized : sanitizeRequestId valor = some text) :
    IdText text := by
  unfold sanitizeRequestId at sanitized
  split at sanitized
  · cases sanitized
  · rename_i text'
    simp only at sanitized
    split at sanitized
    · rename_i passes
      rw [Option.some.injEq] at sanitized
      rw [← sanitized]
      exact idText_textOf passes.1 (List.length_take_le _ _) (List.all_eq_true.mp passes.2)
    · cases sanitized

theorem RandomUuid.idText (generated : RandomUuid) : IdText generated.text where
  nonempty := by
    intro empty
    have length := generated.length
    simp [empty] at length
  bounded := by
    rw [generated.length]
    decide
  chars c member := by
    rw [isIdCode_iff]
    have codes := generated.chars c member
    omega

end Sanitizing

/-- What the generator hands out in an example. -/
def exampleUuid : RandomUuid where
  text := "9b2c1d4e-0000-4000-8000-000000000001"
  length := by decide
  chars := by
    have checked : ("9b2c1d4e-0000-4000-8000-000000000001".toList.all fun c =>
        decide ((48 ≤ c.toNat ∧ c.toNat ≤ 57) ∨ (97 ≤ c.toNat ∧ c.toNat ≤ 102) ∨ c.toNat = 45)) = true := by decide
    intro c member
    exact of_decide_eq_true (List.all_eq_true.mp checked c member)

end Helpdesk
