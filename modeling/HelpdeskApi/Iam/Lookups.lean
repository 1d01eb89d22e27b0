/-
Module: HelpdeskApi.Iam.Lookups
Layer: Store
Purpose: What is looked up of an organisation before anybody is logged in to it, and what its members are shown.
  A user is read back as an entity, which throws where the row is not one that was ever saved. The list of the
  members is joined from memberships and users, in the order the database compares addresses by.
Trusted boundary: human-reviewed spec
Main exports: PasswordHash.fromHash, toUser, MemberView, Collation, Lookup, Accounts.sig, Accounts.exec,
  Accounts.repositories
-/
import HelpdeskApi.Iam.Directory
import Mathlib.Data.List.Sort

namespace Helpdesk.Iam

open Relational Txn

/-- `none` where it throws: the hash is blank. -/
def PasswordHash.fromHash (value : String) : Option PasswordHash :=
  if notBlank : jsLength (trim value) ≠ 0 then some ⟨value, notBlank⟩ else none

theorem PasswordHash.eq_of_value {one other : PasswordHash} (same : one.value = other.value) : one = other := by
  obtain ⟨value, notBlank⟩ := one
  obtain ⟨value', notBlank'⟩ := other
  change value = value' at same
  subst same
  rfl

/-- `none` where it throws: the address or the hash of the row is not well formed. -/
def toUser (unicode : Unicode) (row : UserRow) : Option User :=
  match Email.create unicode row.email with
  | .error _ => none
  | .ok email => do
      let passwordHash ← PasswordHash.fromHash row.passwordHash
      return {
        id := row.id
        tenantId := row.tenantId
        email := email
        passwordHash := passwordHash
        createdAt := row.createdAt }

structure MemberView where
  userId : UserId
  email : String
  role : Role
  joinedAt : Instant
deriving DecidableEq, Repr

def toMemberView (m : Membership) (u : UserRow) : MemberView where
  userId := u.id
  email := u.email
  role := m.role
  joinedAt := m.createdAt

/-- The order of texts in the database. -/
structure Collation where
  le : String → String → Prop
  [decidable : DecidableRel le]
  total : ∀ a b, le a b ∨ le b a
  trans : ∀ a b c, le a b → le b c → le a c

instance (collation : Collation) : DecidableRel collation.le := collation.decidable

/-- What is read of an organisation. -/
inductive Lookup where
  | findIdBySlug (slug : String)
  | usersFindByEmail (tenantId : TenantId) (email : Email)
  | membersList (tenantId : TenantId)
  | membersFindById (tenantId : TenantId) (userId : UserId)

@[reducible] def Lookup.Reply : Lookup → Type
  | .findIdBySlug _ => Option TenantId
  | .usersFindByEmail _ _ => Option User
  | .membersList _ => List MemberView
  | .membersFindById _ _ => Option MemberView

abbrev lookups : Signature where
  Call := Lookup
  Reply := Lookup.Reply

namespace Directory.Db

/-- `iam_resolve_tenant_by_slug`, which reads the organisations of all tenants. -/
def findIdBySlug (db : Db) (slug : String) : Option TenantId :=
  (db.organizations.findFirst fun o => o.slug = slug).map Organization.id

/-- The user of a membership, as row level security shows it. The relation is a required one: `none` where the
    query throws because nobody is there. -/
def memberView (db : Db) (m : Membership) : Option MemberView :=
  (db.users.findFirst fun u => u.id = m.userId && u.tenantId = m.tenantId).map (toMemberView m)

def memberViews (db : Db) (tenantId : TenantId) : Option (List MemberView) :=
  (db.memberships.rows.filter fun m => m.tenantId = tenantId).mapM db.memberView

end Directory.Db

namespace Accounts

/-- The repositories, and what is looked up beside them. -/
abbrev sig : Signature := Directory.sig.sum lookups

variable (unicode : Unicode) (collation : Collation)

/-- A lookup writes nothing; `none` where it throws. -/
def lookup (c : Lookup) (db : Directory.Db) : Option c.Reply :=
  match c with
  | .findIdBySlug slug => some (db.findIdBySlug slug)
  | .usersFindByEmail tenantId email =>
      match db.users.findFirst fun u => u.tenantId = tenantId && u.email = email.value with
      | none => some none
      | some row => (toUser unicode row).map some
  | .membersList tenantId =>
      (db.memberViews tenantId).map fun views => views.insertionSort fun a b => collation.le a.email b.email
  | .membersFindById tenantId userId =>
      match db.memberships.find? (tenantId, userId) with
      | none => some none
      | some m => (db.memberView m).map some

def exec (c : sig.Call) (db : Directory.Db) : Option (sig.Reply c × List Directory.Write) :=
  match c with
  | .inl c => Directory.exec c db
  | .inr c => (lookup unicode collation c db).map fun reply => (reply, [])

abbrev repositories : Handler sig where
  Db := Directory.Db
  Ctx := Unit
  Write := Directory.Write
  Key := Empty
  apply := Directory.Write.apply
  exec _ := exec unicode collation
  wants _ _ := []
  keys _ := []

end Accounts

end Helpdesk.Iam
