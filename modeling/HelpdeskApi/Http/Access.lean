/-
Module: HelpdeskApi.Http.Access
Layer: Http
Purpose: Who a request is made by, and what it may ask for. The principal is read from the access token of the
  `Authorization` header, by a library that verifies it; whoever has none is nobody. A route may ask for a
  rank of role, and for anybody at all.
Trusted boundary: human-reviewed spec, and what the library of JSON web tokens promises
Main exports: Role.text, Role.ofText?, AccessJwt, AccessTokenVerifier.verify, AccessTokenVerifier.extractBearer,
  principalOf, Refusal, RolesGuard.canActivate, JwtAuthGuard.canActivate
-/
import HelpdeskApi.Iam.JwtTokenService

namespace Helpdesk

namespace Role

/-- `ROLES`. -/
def all : List Role := [.ADMIN, .AGENT, .VIEWER]

def text : Role → String
  | .ADMIN => "ADMIN"
  | .AGENT => "AGENT"
  | .VIEWER => "VIEWER"

/-- `isRole`, with the role it recognised. -/
def ofText? (text : String) : Option Role :=
  all.find? fun r => r.text == text

@[simp] theorem ofText?_text (r : Role) : ofText? r.text = some r := by
  cases r <;> decide

end Role

namespace Http

open Iam

/-- The payload of an access token as it is read. A field that is missing, or is no string, is `none`. -/
structure ReadAccessPayload where
  sub : Option UserId
  tenantId : Option TenantId
  role : Option String
deriving DecidableEq, Repr

/-- What `signAccessToken` signs, as it is read. -/
def readAccess (claims : AccessTokenClaims) : ReadAccessPayload where
  sub := some claims.userId
  tenantId := some claims.tenantId
  role := some claims.role.text

/-- The library, as it verifies access tokens too. -/
structure AccessJwt extends Jwt where
  /-- `none` where `verifyAsync` throws. -/
  verifyAccess : Instant → String → Option ReadAccessPayload
  /-- What has been signed is read back, for as long as it verifies. -/
  verify_signedAccess : ∀ signed claims now, verifyAccess now (signAccess signed claims) = none ∨
    verifyAccess now (signAccess signed claims) = some (readAccess claims)

namespace AccessTokenVerifier

/-- A payload whose fields are not what they should be is nobody's. -/
def verify (jwt : AccessJwt) (now : Instant) (token : String) : Option AccessTokenClaims := do
  let payload ← jwt.verifyAccess now token
  let userId ← payload.sub
  let tenantId ← payload.tenantId
  let role ← payload.role.bind Role.ofText?
  return { userId := userId, tenantId := tenantId, role := role }

/-- The token of `Bearer <token>`: the text up to a second space, which must not be empty. -/
def extractBearer (header : String) : Option String :=
  let scheme := header.toList.takeWhile (· != ' ')
  match header.toList.dropWhile (· != ' ') with
  | [] => none
  | _ :: rest =>
      let token := rest.takeWhile (· != ' ')
      if scheme.map Char.toLower = "bearer".toList ∧ token ≠ [] then some (String.ofList token) else none

/-- What was signed for somebody is read as theirs, for as long as it verifies. -/
theorem verify_signed {jwt : AccessJwt} {signed now : Instant} {claims claims' : AccessTokenClaims}
    (verified : verify jwt now (jwt.signAccess signed claims) = some claims') : claims' = claims := by
  rcases jwt.verify_signedAccess signed claims now with expired | read
  · simp [verify, expired] at verified
  · simp only [verify, read, readAccess, Option.bind_eq_bind, Option.bind_some, Role.ofText?_text, Option.pure_def,
      Option.some.injEq] at verified
    exact verified.symm

end AccessTokenVerifier

/-- The principal that `TenantContextMiddleware` makes the context of a request of. -/
def principalOf (jwt : AccessJwt) (now : Instant) (authorization : Option String) : Option AccessTokenClaims := do
  let header ← authorization
  let token ← AccessTokenVerifier.extractBearer header
  AccessTokenVerifier.verify jwt now token

/-- Why a guard does not let a request through. -/
inductive Refusal where
  | unauthorized
  | forbidden (required : Role)
deriving DecidableEq, Repr

def Refusal.message : Refusal → String
  | .unauthorized => "Se requiere autenticación."
  | .forbidden required => "Se requiere el rol " ++ required.text ++ " o superior."

def RolesGuard.canActivate (required : Option Role) (principal : Option AccessTokenClaims) : Except Refusal Unit :=
  match required with
  | none => .ok ()
  | some required =>
      match principal with
      | none => .error .unauthorized
      | some principal => if hasAtLeastRole principal.role required then .ok () else .error (.forbidden required)

def JwtAuthGuard.canActivate (principal : Option AccessTokenClaims) : Except Refusal AccessTokenClaims :=
  match principal with
  | none => .error .unauthorized
  | some principal => .ok principal

end Http

end Helpdesk
