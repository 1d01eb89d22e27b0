/-
Module: HelpdeskApi.Iam.Repositories
Layer: Store
Purpose: The repositories of the identity context that a session goes through. Each of their methods opens
  a transaction of its own, so every call takes effect at once.
Trusted boundary: human-reviewed spec
Main exports: Db, Write, Call, sig, exec, repositories
-/
import HelpdeskApi.Iam.RefreshToken
import HelpdeskApi.Library.Handler

namespace Helpdesk.Iam

open Relational Txn

structure Db where
  memberships : Table MembershipRow
  refreshTokens : Table RefreshToken

/-- The `data` of `PrismaRefreshTokenRepository.save`: the two columns it does not list stay null. -/
def createRefreshTokenRow (token : RefreshToken) : RefreshToken :=
  { token with rotatedAt := none, revokedAt := none }

/-- One statement that changes the database. -/
inductive Write where
  | insertRefreshToken (token : RefreshToken)
  | markRotated (tenantId : TenantId) (id : RefreshTokenId) (rotatedAt : Instant)
  | revokeFamily (tenantId : TenantId) (familyId : RefreshFamilyId) (revokedAt : Instant)

namespace Write

/-- The rows `markRotated` updates. -/
def rotates (tenantId : TenantId) (id : RefreshTokenId) (r : RefreshToken) : Bool :=
  r.id = id && r.tenantId = tenantId && r.rotatedAt = none

/-- The rows `revokeFamily` updates. -/
def revokes (tenantId : TenantId) (familyId : RefreshFamilyId) (r : RefreshToken) : Bool :=
  r.familyId = familyId && r.tenantId = tenantId && r.revokedAt = none

def apply : Write → Db → Db
  | .insertRefreshToken token, db =>
      { db with refreshTokens := db.refreshTokens.insert (createRefreshTokenRow token) }
  | .markRotated tenantId id rotatedAt, db =>
      { db with
        refreshTokens := db.refreshTokens.updateWhere (rotates tenantId id)
          (fun r => { r with rotatedAt := some rotatedAt }) fun _ => rfl }
  | .revokeFamily tenantId familyId revokedAt, db =>
      { db with
        refreshTokens := db.refreshTokens.updateWhere (revokes tenantId familyId)
          (fun r => { r with revokedAt := some revokedAt }) fun _ => rfl }

end Write

/-- The methods of the repositories. -/
inductive Call where
  | refreshTokensSave (token : RefreshToken)
  | refreshTokensFindByHash (tenantId : TenantId) (tokenHash : String)
  | refreshTokensMarkRotated (tenantId : TenantId) (id : RefreshTokenId) (rotatedAt : Instant)
  | refreshTokensRevokeFamily (tenantId : TenantId) (familyId : RefreshFamilyId) (revokedAt : Instant)
  | membershipsFindByUserId (tenantId : TenantId) (userId : UserId)

@[reducible] def Call.Reply : Call → Type
  | .refreshTokensSave _ => Unit
  | .refreshTokensFindByHash _ _ => Option RefreshToken
  | .refreshTokensMarkRotated _ _ _ => Unit
  | .refreshTokensRevokeFamily _ _ _ => Unit
  | .membershipsFindByUserId _ _ => Option MembershipRow

abbrev sig : Signature where
  Call := Call
  Reply := Call.Reply

/-- What a call answers and writes; `none` where it throws. Every call runs under the tenant it names, so
    row level security shows it exactly the rows its own filter asks for. -/
def exec (c : Call) (db : Db) : Option (c.Reply × List Write) :=
  match c with
  | .refreshTokensSave token =>
      -- the primary key and the unique index on the hash
      if db.refreshTokens.any (fun r => r.id = token.id || r.tokenHash = token.tokenHash) then none
      else some ((), [.insertRefreshToken token])
  | .refreshTokensFindByHash tenantId tokenHash =>
      some (db.refreshTokens.findFirst fun r => r.tokenHash = tokenHash && r.tenantId = tenantId, [])
  | .refreshTokensMarkRotated tenantId id rotatedAt => some ((), [.markRotated tenantId id rotatedAt])
  | .refreshTokensRevokeFamily tenantId familyId revokedAt =>
      some ((), [.revokeFamily tenantId familyId revokedAt])
  | .membershipsFindByUserId tenantId userId => some (db.memberships.find? (tenantId, userId), [])

/-- The repositories as a store. Nothing waits for anything: a transaction is over when its call is. -/
abbrev repositories : Handler sig where
  Db := Db
  Ctx := Unit
  Write := Write
  Key := Empty
  apply := Write.apply
  exec _ := exec
  wants _ _ := []
  keys _ := []

end Helpdesk.Iam
