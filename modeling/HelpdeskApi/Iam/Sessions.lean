/-
Module: HelpdeskApi.Iam.Sessions
Layer: Application
Purpose: The use cases that go on with a session, as programs over the repositories, and the system of
  requests that interleave call by call. Where something a request calls throws, the request is over with
  what its earlier calls have done: in the system it aborts there.
Trusted boundary: human-reviewed spec
Main exports: Ambient, AuthTokens, SessionIssuer.issue, RefreshTokens.execute, Logout.execute, UseCase,
  Execution, iam
-/
import HelpdeskApi.Iam.Repositories

namespace Helpdesk.Iam

open Txn

/-- What a request gets from the token service, the id generator and the clock. -/
structure Ambient where
  tokenService : TokenService
  uuid : Nat → Uuid
  /-- The successive answers of `Clock.now`. -/
  now : Nat → Instant

namespace RefreshTokenRepository

@[simp] def save (token : RefreshToken) : Proc sig Unit :=
  .ask (S := sig) (.refreshTokensSave token)

@[simp] def findByHash (tenantId : TenantId) (tokenHash : String) : Proc sig (Option RefreshToken) :=
  .ask (S := sig) (.refreshTokensFindByHash tenantId tokenHash)

@[simp] def markRotated (tenantId : TenantId) (id : RefreshTokenId) (rotatedAt : Instant) : Proc sig Unit :=
  .ask (S := sig) (.refreshTokensMarkRotated tenantId id rotatedAt)

@[simp] def revokeFamily (tenantId : TenantId) (familyId : RefreshFamilyId) (revokedAt : Instant) :
    Proc sig Unit :=
  .ask (S := sig) (.refreshTokensRevokeFamily tenantId familyId revokedAt)

end RefreshTokenRepository

namespace MembershipRepository

@[simp] def findByUserId (tenantId : TenantId) (userId : UserId) : Proc sig (Option MembershipRow) :=
  .ask (S := sig) (.membershipsFindByUserId tenantId userId)

end MembershipRepository

structure AuthTokens where
  accessToken : String
  refreshToken : String
  refreshTokenExpiresAt : Instant
deriving DecidableEq, Repr

/-- Mints a session: in the given family, or in a new one. `now` is what the clock answers here. -/
def SessionIssuer.issue (ambient : Ambient) (now : Instant) (userId : UserId) (tenantId : TenantId) (role : Role)
    (family : Option RefreshFamilyId) : Proc sig AuthTokens := do
  let familyId := family.getD ⟨ambient.uuid 0⟩
  let accessToken := ambient.tokenService.signAccessToken
    { userId := userId, tenantId := tenantId, role := role }
  let issued := ambient.tokenService.issueRefreshToken userId tenantId familyId
  let refreshToken :=
    RefreshToken.issue ⟨issued.tokenId⟩ tenantId userId familyId issued.tokenHash issued.expiresAt now
  RefreshTokenRepository.save refreshToken
  return {
    accessToken := accessToken
    refreshToken := issued.token
    refreshTokenExpiresAt := issued.expiresAt }

structure RefreshTokensInput where
  refreshToken : String
deriving DecidableEq, Repr

def RefreshTokens.execute (input : RefreshTokensInput) (ambient : Ambient) :
    Proc sig (Except IamError AuthTokens) :=
  match ambient.tokenService.verifyRefreshToken input.refreshToken with
  | none => return .error .refreshTokenInvalid
  | some claims => do
      let tenantId := claims.tenantId
      let tokenHash := ambient.tokenService.hashRefreshToken input.refreshToken
      match ← RefreshTokenRepository.findByHash tenantId tokenHash with
      | none => return .error .refreshTokenInvalid
      | some stored =>
          let now := ambient.now 0
          if stored.isSpent then
            RefreshTokenRepository.revokeFamily tenantId stored.familyId now
            return .error .refreshTokenReuse
          else if stored.isExpired now then return .error .refreshTokenInvalid
          else
            match ← MembershipRepository.findByUserId tenantId stored.userId with
            | none => return .error .invalidCredentials
            | some membership =>
                RefreshTokenRepository.markRotated tenantId stored.id now
                let tokens ← SessionIssuer.issue ambient (ambient.now 1) stored.userId tenantId
                  membership.role (some stored.familyId)
                return .ok tokens

structure LogoutInput where
  refreshToken : String
deriving DecidableEq, Repr

def Logout.execute (input : LogoutInput) (ambient : Ambient) : Proc sig (Except IamError Unit) :=
  match ambient.tokenService.verifyRefreshToken input.refreshToken with
  | none => return .ok ()
  | some claims => do
      let tenantId := claims.tenantId
      let tokenHash := ambient.tokenService.hashRefreshToken input.refreshToken
      match ← RefreshTokenRepository.findByHash tenantId tokenHash with
      | none => return .ok ()
      | some stored =>
          RefreshTokenRepository.revokeFamily tenantId stored.familyId (ambient.now 0)
          return .ok ()

inductive UseCase where
  | refreshTokens (input : RefreshTokensInput)
  | logout (input : LogoutInput)

structure Execution where
  useCase : UseCase
  ambient : Ambient

/-- What the use cases answer with. -/
inductive Output where
  | tokens (tokens : AuthTokens)
  | done
deriving DecidableEq, Repr

/-- The calls of a request. -/
def Execution.program (e : Execution) : Proc sig (Except IamError Output) :=
  match e.useCase with
  | .refreshTokens input => (·.map .tokens) <$> RefreshTokens.execute input e.ambient
  | .logout input => (·.map fun _ => .done) <$> Logout.execute input e.ambient

/-- A request that answers `Ok`. -/
def returnsOk {α : Type} : Except IamError α → Bool
  | .ok _ => true
  | .error _ => false

/-- The requests, interleaved one repository call at a time. There is nothing to commit in the end, so
    the committed sessions are those that have answered `Ok`. -/
abbrev iam : App where
  sig := sig
  store := repositories.autocommit
  Job := Execution
  Out := Except IamError Output
  ctx _ := ()
  program := Execution.program
  commits := returnsOk

end Helpdesk.Iam
