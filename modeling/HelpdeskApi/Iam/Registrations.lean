/-
Module: HelpdeskApi.Iam.Registrations
Layer: Application
Purpose: The registration of an organisation, as a program over the repositories, and the system of
  registrations that interleave call by call. What a request does depends on what its slug is and on how far
  it has got; where one of its calls throws, it aborts there.
Trusted boundary: human-reviewed spec
Main exports: RegisterOrganization.accept, RegisterOrganization.create, RegisterOrganization.execute,
  Registration, registrations, Registration.asksFor, Course, course_of_leads
-/
import HelpdeskApi.Iam.Directory
import HelpdeskApi.Iam.Sessions
import HelpdeskApi.Library.Reservation

namespace Helpdesk.Iam

open Relational Txn

namespace OrganizationRepository

@[simp] def existsBySlug (slug : String) : Proc Directory.sig Bool :=
  .ask (S := Directory.sig) (.inr (.existsBySlug slug))

@[simp] def provision (input : ProvisionOrganizationInput) : Proc Directory.sig Unit :=
  .ask (S := Directory.sig) (.inr (.provision input))

end OrganizationRepository

structure RegisterOrganizationInput where
  organizationName : String
  email : String
  password : String
deriving DecidableEq, Repr

/-- What a request asks for once it has been checked. -/
structure Accepted where
  email : Email
  password : Password
  name : String
  slug : String
deriving DecidableEq, Repr

namespace RegisterOrganization

/-- What is checked before the slug is looked for. -/
def accept (unicode : Unicode) (input : RegisterOrganizationInput) : Except RegistrationError Accepted := do
  let email ← Email.create unicode input.email
  let password ← Password.create input.password
  let name := trim input.organizationName
  let slug := slugify unicode name
  if jsLength name < 2 ∨ jsLength slug = 0 then .error .invalidOrganizationName
  else .ok { email := email, password := password, name := name, slug := slug }

/-- What is provisioned for a request. -/
def create (ambient : Ambient) (hash : Password → PasswordHash) (accepted : Accepted) : ProvisionOrganizationInput :=
  let now := ambient.now 0
  let tenantId : TenantId := ⟨ambient.uuid 0⟩
  let organization := Organization.create tenantId accepted.name accepted.slug now
  let passwordHash := hash accepted.password
  let userId : UserId := ⟨ambient.uuid 1⟩
  let owner := User.register userId tenantId accepted.email passwordHash now
  let membership := Membership.create ⟨ambient.uuid 2⟩ tenantId userId .ADMIN now
  { organization := organization, owner := owner, membership := membership }

/-- What is left of the ambient once three ids have been drawn. -/
def sessionAmbient (ambient : Ambient) : Ambient :=
  { ambient with uuid := fun n => ambient.uuid (n + 3) }

def execute (unicode : Unicode) (input : RegisterOrganizationInput) (ambient : Ambient)
    (hash : Password → PasswordHash) : Proc Directory.sig (Except RegistrationError AuthTokens) :=
  match accept unicode input with
  | .error error => return .error error
  | .ok accepted => do
      if ← OrganizationRepository.existsBySlug accepted.slug then
        return .error (.organizationNameTaken accepted.slug)
      else
        let created := create ambient hash accepted
        OrganizationRepository.provision created
        let tokens ← (SessionIssuer.issue (sessionAmbient ambient) (ambient.now 1) created.owner.id
          created.organization.id .ADMIN none).left
        return .ok tokens

end RegisterOrganization

/-- A request, with what it draws and what the hasher makes of passwords in it. -/
structure Registration where
  input : RegisterOrganizationInput
  ambient : Ambient
  hash : Password → PasswordHash

namespace Registration

def tenantId (r : Registration) : TenantId := ⟨r.ambient.uuid 0⟩

def userId (r : Registration) : UserId := ⟨r.ambient.uuid 1⟩

def membershipId (r : Registration) : MembershipId := ⟨r.ambient.uuid 2⟩

def familyId (r : Registration) : RefreshFamilyId := ⟨r.ambient.uuid 3⟩

def issued (r : Registration) : IssuedRefreshToken :=
  r.ambient.tokenService.issueRefreshToken r.userId r.tenantId r.familyId

/-- The token of the session that the request opens. -/
def token (r : Registration) : RefreshToken :=
  .issue ⟨r.issued.tokenId⟩ r.tenantId r.userId r.familyId r.issued.tokenHash r.issued.expiresAt (r.ambient.now 1)

/-- What the client gets of it. -/
def tokens (r : Registration) : AuthTokens where
  accessToken := r.ambient.tokenService.signAccessToken { userId := r.userId, tenantId := r.tenantId, role := .ADMIN }
  refreshToken := r.issued.token
  refreshTokenExpiresAt := r.issued.expiresAt

/-- The organisation, the user and the membership of a request. -/
def created (r : Registration) (accepted : Accepted) : ProvisionOrganizationInput :=
  RegisterOrganization.create r.ambient r.hash accepted

section Programs

variable (unicode : Unicode)

def program (r : Registration) : Proc Directory.sig (Except RegistrationError AuthTokens) :=
  RegisterOrganization.execute unicode r.input r.ambient r.hash

/-- The request is in order, and its slug is this one. -/
def asksFor (slug : String) (r : Registration) : Bool :=
  match RegisterOrganization.accept unicode r.input with
  | .ok accepted => accepted.slug = slug
  | .error _ => false

theorem asksFor_iff {unicode : Unicode} {slug : String} {r : Registration} :
    r.asksFor unicode slug = true ↔ ∃ accepted, RegisterOrganization.accept unicode r.input = .ok accepted ∧
      accepted.slug = slug := by
  unfold asksFor
  cases RegisterOrganization.accept unicode r.input with
  | error e => simp
  | ok accepted => simp

end Programs

/-- Once the organisation is provisioned, the session is saved. -/
def saving (r : Registration) : Proc Directory.sig (Except RegistrationError AuthTokens) :=
  .call (.inl (.refreshTokensSave r.token)) fun _ => .done (.ok r.tokens)

/-- Once the slug was found free, the organisation is provisioned. -/
def provisioning (r : Registration) (accepted : Accepted) : Proc Directory.sig (Except RegistrationError AuthTokens) :=
  .call (.inr (.provision (r.created accepted))) fun _ => r.saving

end Registration

/-- What can be left of a registration. -/
inductive Course (unicode : Unicode) (r : Registration) : Proc Directory.sig (Except RegistrationError AuthTokens) → Prop
    where
  | rejected (error : RegistrationError) (invalid : RegisterOrganization.accept unicode r.input = .error error) :
      Course unicode r (.done (.error error))
  | looking (accepted : Accepted) (valid : RegisterOrganization.accept unicode r.input = .ok accepted)
      (next : Bool → Proc Directory.sig (Except RegistrationError AuthTokens))
      (refused : next true = .done (.error (.organizationNameTaken accepted.slug)))
      (cleared : next false = r.provisioning accepted) :
      Course unicode r (.call (.inr (.existsBySlug accepted.slug)) next)
  | refused (accepted : Accepted) (valid : RegisterOrganization.accept unicode r.input = .ok accepted) :
      Course unicode r (.done (.error (.organizationNameTaken accepted.slug)))
  | provisioning (accepted : Accepted) (valid : RegisterOrganization.accept unicode r.input = .ok accepted) :
      Course unicode r (r.provisioning accepted)
  | saving (accepted : Accepted) (valid : RegisterOrganization.accept unicode r.input = .ok accepted) :
      Course unicode r r.saving
  | served (accepted : Accepted) (valid : RegisterOrganization.accept unicode r.input = .ok accepted) :
      Course unicode r (.done (.ok r.tokens))

theorem course_program (unicode : Unicode) (r : Registration) : Course unicode r (r.program unicode) := by
  unfold Registration.program RegisterOrganization.execute
  cases accepts : RegisterOrganization.accept unicode r.input with
  | error error => exact .rejected error accepts
  | ok accepted => exact .looking accepted accepts _ rfl rfl

/-- Whatever its calls answer, a registration stays on its course. -/
theorem Course.leads {unicode : Unicode} {r : Registration}
    {p q : Proc Directory.sig (Except RegistrationError AuthTokens)} (course : Course unicode r p) (leads : p.Leads q) :
    Course unicode r q := by
  induction leads with
  | refl p => exact course
  | call reply _ ih =>
      apply ih
      cases course with
      | looking accepted valid next refused cleared =>
          cases reply with
          | true => exact refused ▸ .refused accepted valid
          | false => exact cleared ▸ .provisioning accepted valid
      | provisioning accepted valid => exact .saving accepted valid
      | saving accepted valid => exact .served accepted valid

theorem course_of_leads {unicode : Unicode} {r : Registration}
    {rest : Proc Directory.sig (Except RegistrationError AuthTokens)} (leads : (r.program unicode).Leads rest) :
    Course unicode r rest :=
  (course_program unicode r).leads leads

/-- The registrations, interleaved one repository call at a time. -/
abbrev registrations (unicode : Unicode) : App :=
  Config.onTheirOwn Directory.repositories (fun _ => ()) (Registration.program unicode) Except.isOk

end Helpdesk.Iam
