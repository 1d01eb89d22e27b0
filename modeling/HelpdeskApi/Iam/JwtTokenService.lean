/-
Module: HelpdeskApi.Iam.JwtTokenService
Layer: Application
Purpose: The token service the use cases are wired with. Signing and verifying is a library's, and so is
  the digest; which fields are signed, what is kept of a token and what is asked of a payload is the
  service's own.
Trusted boundary: human-reviewed spec, and what the library of JSON web tokens promises
Main exports: RefreshPayload, Jwt, JwtTokenService.service, JwtTokenService.verify_issued
-/
import HelpdeskApi.Iam.RefreshToken

namespace Helpdesk.Iam

/-- What is signed in a refresh token. -/
structure RefreshPayload where
  sub : UserId
  tenantId : TenantId
  familyId : RefreshFamilyId
  jti : Uuid
deriving DecidableEq, Repr

/-- A payload as it is read from a token. A field that is missing, or is no string, is `none`. -/
structure ReadPayload where
  sub : Option UserId
  tenantId : Option TenantId
  familyId : Option RefreshFamilyId
  jti : Option Uuid
deriving DecidableEq, Repr

def RefreshPayload.read (payload : RefreshPayload) : ReadPayload where
  sub := some payload.sub
  tenantId := some payload.tenantId
  familyId := some payload.familyId
  jti := some payload.jti

/-- The libraries, with the secrets of the configuration. -/
structure Jwt where
  signAccess : Instant → AccessTokenClaims → String
  signRefresh : Instant → RefreshPayload → String
  /-- The `exp` of what is signed, in seconds. -/
  exp : Instant → RefreshPayload → Int
  /-- `none` where `verifyAsync` throws: the signature is wrong, the token is malformed or has expired. -/
  verifyRefresh : Instant → String → Option ReadPayload
  sha256 : String → String
  /-- What has been signed is read back, for as long as it verifies. -/
  verify_signed : ∀ signed payload now, verifyRefresh now (signRefresh signed payload) = none ∨
    verifyRefresh now (signRefresh signed payload) = some payload.read

namespace JwtTokenService

variable (jwt : Jwt)

def hashRefreshToken (token : String) : String :=
  jwt.sha256 token

/-- `tokenId` is what `randomUUID` answers. -/
def issueRefreshToken (now : Instant) (tokenId : Uuid) (userId : UserId) (tenantId : TenantId)
    (familyId : RefreshFamilyId) : IssuedRefreshToken :=
  let payload : RefreshPayload :=
    { sub := userId, tenantId := tenantId, familyId := familyId, jti := tokenId }
  let token := jwt.signRefresh now payload
  { token := token
    tokenHash := hashRefreshToken jwt token
    tokenId := tokenId
    expiresAt := jwt.exp now payload * 1000 }

def verifyRefreshToken (now : Instant) (token : String) : Option RefreshTokenClaims := do
  let payload ← jwt.verifyRefresh now token
  let userId ← payload.sub
  let tenantId ← payload.tenantId
  let familyId ← payload.familyId
  let tokenId ← payload.jti
  return { userId := userId, tenantId := tenantId, familyId := familyId, tokenId := ⟨tokenId⟩ }

/-- The service, as a request meets it that verifies and signs at these instants. -/
def service (verifiedAt signedAt : Instant) (tokenId : Uuid) : TokenService where
  signAccessToken := jwt.signAccess signedAt
  issueRefreshToken := issueRefreshToken jwt signedAt tokenId
  verifyRefreshToken := verifyRefreshToken jwt verifiedAt
  hashRefreshToken := hashRefreshToken jwt

/-- A token that was issued names the tenant it was issued in, whenever it still verifies. -/
theorem verify_issued {signed now : Instant} {tokenId : Uuid} {userId : UserId} {tenantId : TenantId}
    {familyId : RefreshFamilyId} {claims : RefreshTokenClaims}
    (verified : verifyRefreshToken jwt now (issueRefreshToken jwt signed tokenId userId tenantId familyId).token =
      some claims) : claims.tenantId = tenantId := by
  have either := jwt.verify_signed signed
    { sub := userId, tenantId := tenantId, familyId := familyId, jti := tokenId } now
  rcases either with expired | read
  · simp [verifyRefreshToken, issueRefreshToken, expired] at verified
  · simp only [verifyRefreshToken, issueRefreshToken, read, RefreshPayload.read, Option.bind_eq_bind,
      Option.bind_some, Option.pure_def, Option.some.injEq] at verified
    rw [← verified]

end JwtTokenService

end Helpdesk.Iam
