/-
Module: HelpdeskApi.Iam.Login
Layer: Application
Purpose: The login, as a program over the repositories, and the system of everything that is done with accounts:
  registrations, logins, refreshes and logouts, which interleave call by call. Whatever is wrong with a login,
  its error is the same.
Trusted boundary: human-reviewed spec
Main exports: Login.execute, AuthRequest, AuthUseCase, AuthError, accounts
-/
import HelpdeskApi.Iam.Lookups
import HelpdeskApi.Iam.Registrations

namespace Helpdesk.Iam

open Txn

namespace OrganizationRepository

@[simp] def findIdBySlug (slug : String) : Proc Accounts.sig (Option TenantId) :=
  .ask (S := Accounts.sig) (.inr (.findIdBySlug slug))

end OrganizationRepository

namespace UserRepository

@[simp] def findByEmail (tenantId : TenantId) (email : Email) : Proc Accounts.sig (Option User) :=
  .ask (S := Accounts.sig) (.inr (.usersFindByEmail tenantId email))

end UserRepository

structure LoginInput where
  organizationSlug : String
  email : String
  password : String
deriving DecidableEq, Repr

/-- `verify` is the hasher's, which answers `false` for a hash it cannot read. -/
def Login.execute (unicode : Unicode) (input : LoginInput) (ambient : Ambient)
    (verify : String → PasswordHash → Bool) : Proc Accounts.sig (Except IamError AuthTokens) := do
  match ← OrganizationRepository.findIdBySlug input.organizationSlug with
  | none => return .error .invalidCredentials
  | some tenantId =>
      match Email.create unicode input.email with
      | .error _ => return .error .invalidCredentials
      | .ok email =>
          match ← UserRepository.findByEmail tenantId email with
          | none => return .error .invalidCredentials
          | some user =>
              if verify input.password user.passwordHash then
                match ← (MembershipRepository.findByUserId tenantId user.id).left.left with
                | none => return .error .invalidCredentials
                | some membership =>
                    let tokens ← (SessionIssuer.issue ambient (ambient.now 0) user.id tenantId membership.role
                      none).left.left
                    return .ok tokens
              else return .error .invalidCredentials

/-- What can be asked for without an access token. -/
inductive AuthUseCase where
  | register (input : RegisterOrganizationInput)
  | login (input : LoginInput)
  | refresh (input : RefreshTokensInput)
  | logout (input : LogoutInput)
deriving DecidableEq, Repr

/-- The hasher. -/
structure PasswordHasher where
  hash : Password → PasswordHash
  verify : String → PasswordHash → Bool

/-- A request, with what it gets from outside while it is served. -/
structure AuthRequest where
  useCase : AuthUseCase
  ambient : Ambient
  hasher : PasswordHasher

inductive AuthError where
  | registration (error : RegistrationError)
  | session (error : IamError)
deriving DecidableEq, Repr

namespace AuthRequest

variable (unicode : Unicode)

/-- The calls of a request. -/
def program (r : AuthRequest) : Proc Accounts.sig (Except AuthError Output) :=
  match r.useCase with
  | .register input =>
      (fun result => (result.mapError .registration).map .tokens) <$>
        (RegisterOrganization.execute unicode input r.ambient r.hasher.hash).left
  | .login input =>
      (fun result => (result.mapError .session).map .tokens) <$>
        Login.execute unicode input r.ambient r.hasher.verify
  | .refresh input =>
      (fun result => (result.mapError .session).map .tokens) <$> (RefreshTokens.execute input r.ambient).left.left
  | .logout input =>
      (fun result => (result.mapError .session).map fun _ => .done) <$> (Logout.execute input r.ambient).left.left

end AuthRequest

/-- The requests, interleaved one repository call at a time. -/
abbrev accounts (unicode : Unicode) (collation : Collation) : App :=
  Config.onTheirOwn (Accounts.repositories unicode collation) (fun _ => ()) (AuthRequest.program unicode) Except.isOk

end Helpdesk.Iam
