/-
Module: HelpdeskApi.Iam.Directory
Layer: Store
Purpose: The tables that organisations are registered in, and the repositories over them. Looking for a slug,
  provisioning an organisation and saving a session are a transaction each. A transaction that a constraint
  or row level security refuses throws and writes nothing.
Trusted boundary: human-reviewed spec
Main exports: UserRow, createUserRow, Directory.Db, Directory.Db.refuses, Directory.Write, Directory.sig,
  Directory.exec, Directory.repositories
-/
import HelpdeskApi.Iam.Accounts
import HelpdeskApi.Iam.Repositories
import HelpdeskApi.Library.Faults

namespace Helpdesk.Iam

open Relational Txn

structure UserRow where
  id : UserId
  tenantId : TenantId
  email : String
  passwordHash : String
  createdAt : Instant
deriving DecidableEq, Repr

/-- The `data` a user is created with. -/
def createUserRow (user : User) : UserRow where
  id := user.id
  tenantId := user.tenantId
  email := user.email.value
  passwordHash := user.passwordHash.value
  createdAt := user.createdAt

/-- What the refresh of a session reads of a membership. -/
def Membership.toRow (m : Membership) : MembershipRow where
  tenantId := m.tenantId
  userId := m.userId
  role := m.role

instance : Keyed Organization TenantId := ⟨Organization.id⟩

instance : Keyed UserRow UserId := ⟨UserRow.id⟩

/-- By the unique index; the ids are told apart where a membership is created. -/
instance : Keyed Membership (TenantId × UserId) := ⟨fun m => (m.tenantId, m.userId)⟩

section Keys

@[simp] theorem key_organization (o : Organization) : Keyed.key o = o.id := rfl

@[simp] theorem key_userRow (u : UserRow) : Keyed.key u = u.id := rfl

@[simp] theorem key_membership (m : Membership) : Keyed.key m = (m.tenantId, m.userId) := rfl

end Keys

namespace Directory

structure Db where
  organizations : Table Organization
  users : Table UserRow
  memberships : Table Membership
  refreshTokens : Table RefreshToken

namespace Db

def empty : Db where
  organizations := .empty
  users := .empty
  memberships := .empty
  refreshTokens := .empty

/-- The tables as sessions see them. -/
def sessions (db : Db) : Iam.Db where
  memberships := db.memberships.map Membership.toRow fun _ => rfl
  refreshTokens := db.refreshTokens

/-- Whether an organisation has a slug, as `iam_resolve_tenant_by_slug` sees across all tenants. -/
def hasSlug (db : Db) (slug : String) : Bool :=
  db.organizations.any fun o => o.slug = slug

/-- Whether provisioning throws: a primary key or a unique index is violated, row level security does not
    accept a row for the tenant that is set, or a user that is referred to is missing. -/
def refuses (db : Db) (input : ProvisionOrganizationInput) : Bool :=
  let organization := input.organization
  let owner := input.owner
  let membership := input.membership
  db.organizations.any (fun o => o.id = organization.id || o.slug = organization.slug) ||
    db.users.any (fun u => u.id = owner.id || (u.tenantId = owner.tenantId && u.email = owner.email.value)) ||
    db.memberships.any (fun m => m.id = membership.id ||
      (m.tenantId = membership.tenantId && m.userId = membership.userId)) ||
    owner.tenantId != organization.id || membership.tenantId != organization.id ||
    !(membership.userId = owner.id || db.users.any (fun u => u.id = membership.userId))

/-- A token that is saved refers to an organisation and a user. -/
def dangles (db : Db) : Iam.Call → Bool
  | .refreshTokensSave token =>
      !(db.organizations.any (fun o => o.id = token.tenantId) && db.users.any (fun u => u.id = token.userId))
  | _ => false

end Db

/-- One transaction that changes the database. -/
inductive Write where
  | provision (input : ProvisionOrganizationInput)
  | session (write : Iam.Write)

def Write.apply : Write → Db → Db
  | .provision input, db =>
      { db with
        organizations := db.organizations.insert input.organization
        users := db.users.insert (createUserRow input.owner)
        memberships := db.memberships.insert input.membership }
  | .session write, db => { db with refreshTokens := (write.apply db.sessions).refreshTokens }

/-- The methods of the repository of organisations. -/
inductive Call where
  | existsBySlug (slug : String)
  | provision (input : ProvisionOrganizationInput)

@[reducible] def Call.Reply : Call → Type
  | .existsBySlug _ => Bool
  | .provision _ => Unit

abbrev organizations : Signature where
  Call := Call
  Reply := Call.Reply

/-- The repositories of sessions and of organisations. -/
abbrev sig : Signature := Iam.sig.sum organizations

/-- What a call answers and writes; `none` where it throws. -/
def exec (c : sig.Call) (db : Db) : Option (sig.Reply c × List Write) :=
  match c with
  | .inl c =>
      if db.dangles c then none
      else (Iam.exec c db.sessions).map fun result => (result.1, result.2.map .session)
  | .inr (.existsBySlug slug) => some (db.hasSlug slug, [])
  | .inr (.provision input) => if db.refuses input then none else some ((), [.provision input])

/-- The repositories as a store. -/
abbrev repositories : Handler sig where
  Db := Db
  Ctx := Unit
  Write := Write
  Key := Empty
  apply := Write.apply
  exec _ := exec
  wants _ _ := []
  keys _ := []

end Directory

end Helpdesk.Iam
