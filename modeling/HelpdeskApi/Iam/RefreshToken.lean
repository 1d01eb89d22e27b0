/-
Module: HelpdeskApi.Iam.RefreshToken
Layer: Domain
Purpose: The refresh token of the identity context, its errors, and what the use cases ask of the service
  that signs and verifies tokens.
Trusted boundary: human-reviewed spec
Main exports: RefreshToken, RefreshToken.isSpent, RefreshToken.isExpired, RefreshToken.issue, IamError,
  TokenService
-/
import HelpdeskApi.Store.Schema

namespace Helpdesk.Iam

structure RefreshTokenId where
  uuid : Uuid
deriving DecidableEq, Repr

/-- The tokens of a family are chained by rotation. -/
structure RefreshFamilyId where
  uuid : Uuid
deriving DecidableEq, Repr

/-- The entity, which is also the row it is stored in. Of the token itself only the hash is kept. -/
structure RefreshToken where
  id : RefreshTokenId
  tenantId : TenantId
  userId : UserId
  familyId : RefreshFamilyId
  tokenHash : String
  expiresAt : Instant
  rotatedAt : Option Instant
  revokedAt : Option Instant
  createdAt : Instant
deriving DecidableEq, Repr

namespace RefreshToken

def isExpired (t : RefreshToken) (now : Instant) : Bool :=
  t.expiresAt ≤ now

/-- Rotated or revoked: presenting it again is reuse. -/
def isSpent (t : RefreshToken) : Bool :=
  t.rotatedAt.isSome || t.revokedAt.isSome

def issue (id : RefreshTokenId) (tenantId : TenantId) (userId : UserId) (familyId : RefreshFamilyId)
    (tokenHash : String) (expiresAt now : Instant) : RefreshToken where
  id := id
  tenantId := tenantId
  userId := userId
  familyId := familyId
  tokenHash := tokenHash
  expiresAt := expiresAt
  rotatedAt := none
  revokedAt := none
  createdAt := now

/-- The family of a token, which is only looked up within a tenant. -/
def family (t : RefreshToken) : TenantId × RefreshFamilyId :=
  (t.tenantId, t.familyId)

theorem isSpent_eq_false_iff (t : RefreshToken) :
    t.isSpent = false ↔ t.rotatedAt = none ∧ t.revokedAt = none := by
  simp [isSpent]

end RefreshToken

instance : Relational.Keyed RefreshToken RefreshTokenId := ⟨RefreshToken.id⟩

@[simp] theorem key_refreshToken (t : RefreshToken) : Relational.Keyed.key t = t.id := rfl

/-- The errors of the identity context that refreshing a session can end with. -/
inductive IamError where
  | invalidCredentials
  | refreshTokenInvalid
  | refreshTokenReuse
deriving DecidableEq, Repr

namespace IamError

def code : IamError → String
  | .invalidCredentials => "iam.invalid_credentials"
  | .refreshTokenInvalid => "iam.refresh_token_invalid"
  | .refreshTokenReuse => "iam.refresh_token_reuse"

def message : IamError → String
  | .invalidCredentials => "Credenciales inválidas."
  | .refreshTokenInvalid => "El refresh token es inválido o expiró."
  | .refreshTokenReuse => "Se detectó reutilización de un refresh token; la sesión fue revocada."

end IamError

structure AccessTokenClaims where
  userId : UserId
  tenantId : TenantId
  role : Role
deriving DecidableEq, Repr

structure RefreshTokenClaims where
  userId : UserId
  tenantId : TenantId
  familyId : RefreshFamilyId
  tokenId : RefreshTokenId
deriving DecidableEq, Repr

structure IssuedRefreshToken where
  token : String
  tokenHash : String
  tokenId : Uuid
  expiresAt : Instant
deriving DecidableEq, Repr

/-- What the token service answers in one execution. It signs and verifies with secrets and keys of its
    own, so its answers are given and nothing is assumed of them here. -/
structure TokenService where
  signAccessToken : AccessTokenClaims → String
  issueRefreshToken : UserId → TenantId → RefreshFamilyId → IssuedRefreshToken
  verifyRefreshToken : String → Option RefreshTokenClaims
  hashRefreshToken : String → String

end Helpdesk.Iam
