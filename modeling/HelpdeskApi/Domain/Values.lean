/-
Module: HelpdeskApi.Domain.Values
Layer: Domain
Purpose: The values the domain is written in: identifiers, instants, JavaScript's `undefined` next to
  `null`, its `trim` and `length`, its numbers where they are validated, and the JSON values that travel
  in event payloads.
Trusted boundary: human-reviewed spec
Main exports: Uuid, TenantId, UserId, TicketId, CommentId, AuditLogId, SlaTimerId, Instant, Nullable,
  JsNumber, Value, Payload, trim, jsLength
-/
import Mathlib.Data.Rat.Defs
import Mathlib.Data.Rat.Init
import Mathlib.Algebra.Order.Ring.Rat

namespace Helpdesk

/-- UUIDs, compared and ordered by value. -/
abbrev Uuid := Nat

structure TenantId where
  uuid : Uuid
deriving DecidableEq, Repr, Inhabited

structure UserId where
  uuid : Uuid
deriving DecidableEq, Repr, Inhabited

structure TicketId where
  uuid : Uuid
deriving DecidableEq, Repr, Inhabited

structure CommentId where
  uuid : Uuid
deriving DecidableEq, Repr, Inhabited

structure AuditLogId where
  uuid : Uuid
deriving DecidableEq, Repr, Inhabited

structure SlaTimerId where
  uuid : Uuid
deriving DecidableEq, Repr, Inhabited

/-- Milliseconds since the epoch, the resolution of both `Date` and `timestamp(3)`. -/
abbrev Instant := Int

/-- A value that may be `null`, or missing altogether. -/
inductive Nullable (α : Type) where
  | undefined
  | null
  | value (a : α)
deriving DecidableEq, Repr

namespace Nullable

variable {α : Type}

/-- What a nullable column reads as. -/
def ofColumn : Option α → Nullable α
  | none => .null
  | some a => .value a

/-- What a nullable column holds after an update that was given this: `undefined` leaves the column
    alone. -/
def toColumn (old : Option α) : Nullable α → Option α
  | .undefined => old
  | .null => none
  | .value a => some a

@[simp] theorem toColumn_ofColumn (old column : Option α) : (ofColumn column).toColumn old = column := by
  cases column <;> rfl

end Nullable

/-- A JavaScript number, as far as a validation can tell numbers apart. -/
inductive JsNumber where
  | nan
  | posInfinity
  | negInfinity
  | finite (q : ℚ)
deriving DecidableEq

/-- `Number.isInteger`, with the integer it found. -/
def JsNumber.integer? : JsNumber → Option Int
  | .finite q => if q.den = 1 then some q.num else none
  | _ => none

/-- The JSON values event payloads are made of. An instant stands for the text `toISOString` gives, a
    UUID for its canonical text. -/
inductive Value where
  | null
  | num (n : Int)
  | str (s : String)
  | uuid (u : Uuid)
  | iso (t : Instant)
deriving DecidableEq, Repr

/-- A flat JSON object. -/
abbrev Payload := List (String × Value)

namespace Payload

/-- The value of a field, if the object has it. -/
def field? (p : Payload) (name : String) : Option Value :=
  p.lookup name

/-- A field that may be `undefined`, which JSON leaves out. -/
def optional (name : String) : Nullable Value → Payload
  | .undefined => []
  | .null => [(name, .null)]
  | .value v => [(name, v)]

end Payload

/-- The characters `String.prototype.trim` removes: the white space and the line terminators of
    ECMAScript. -/
def isWhiteSpace (c : Char) : Bool :=
  [0x09, 0x0A, 0x0B, 0x0C, 0x0D, 0x20, 0xA0, 0x1680, 0x2028, 0x2029, 0x202F, 0x205F, 0x3000,
    0xFEFF].contains c.toNat || (0x2000 ≤ c.toNat && c.toNat ≤ 0x200A)

/-- `String.prototype.trim`. -/
def trim (s : String) : String :=
  String.ofList (((s.toList.dropWhile isWhiteSpace).reverse.dropWhile isWhiteSpace).reverse)

/-- `String.prototype.length`, which counts UTF-16 code units. -/
def jsLength (s : String) : Nat :=
  s.toList.foldl (fun n c => n + if c.toNat < 0x10000 then 1 else 2) 0

end Helpdesk
