/-
Module: HelpdeskApi.Iam.Accounts
Layer: Domain
Purpose: What an organisation is registered with: the addresses and passwords that are accepted, the errors for
  those that are not, and the three entities that come into being. A value that has been accepted carries the
  proof that it is well formed.
Trusted boundary: human-reviewed spec
Main exports: RegistrationError, Email, Email.create, Password, Password.create, PasswordHash, Organization, User,
  Membership, ProvisionOrganizationInput
-/
import HelpdeskApi.Iam.Slug
import HelpdeskApi.Store.Schema

namespace Helpdesk.Iam

/-- The errors of the identity context that a registration can end with. -/
inductive RegistrationError where
  | invalidEmail (raw : String)
  | weakPassword (reason : String)
  | invalidOrganizationName
  | organizationNameTaken (slug : String)
deriving DecidableEq, Repr

namespace RegistrationError

def code : RegistrationError → String
  | .invalidEmail _ => "iam.invalid_email"
  | .weakPassword _ => "iam.weak_password"
  | .invalidOrganizationName => "iam.invalid_organization_name"
  | .organizationNameTaken _ => "iam.organization_name_taken"

def message : RegistrationError → String
  | .invalidEmail raw => "El email \"" ++ raw ++ "\" no tiene un formato válido."
  | .weakPassword reason => reason
  | .invalidOrganizationName => "El nombre de la organización no es válido."
  | .organizationNameTaken slug => "Ya existe una organización con el identificador \"" ++ slug ++ "\"."

end RegistrationError

/-- `[^\s@]`. -/
def isEmailChar (c : Char) : Bool :=
  !isWhiteSpace c && c != '@'

/-- `EMAIL_REGEX`. Behind the one `@` there is a dot that neither begins nor ends the domain. -/
def isEmail (text : String) : Bool :=
  let user := text.toList.takeWhile isEmailChar
  match text.toList.dropWhile isEmailChar with
  | '@' :: domain => !user.isEmpty && domain.all isEmailChar && (domain.drop 1).dropLast.contains '.'
  | _ => false

structure Email where
  value : String
  wellFormed : isEmail value = true
deriving DecidableEq, Repr

def Email.create (unicode : Unicode) (raw : String) : Except RegistrationError Email :=
  let normalized := unicode.toLowerCase (trim raw)
  if wellFormed : isEmail normalized = true then .ok ⟨normalized, wellFormed⟩
  else .error (.invalidEmail raw)

def Password.MIN_LENGTH : Nat := 8

def Password.MAX_LENGTH : Nat := 200

/-- A password in plain text, which is only kept to be hashed. -/
structure Password where
  value : String
  longEnough : Password.MIN_LENGTH ≤ jsLength value
  notTooLong : jsLength value ≤ Password.MAX_LENGTH
deriving DecidableEq, Repr

def Password.create (raw : String) : Except RegistrationError Password :=
  if short : jsLength raw < MIN_LENGTH then
    .error (.weakPassword ("El password debe tener al menos " ++ toString MIN_LENGTH ++ " caracteres."))
  else if long : MAX_LENGTH < jsLength raw then
    .error (.weakPassword ("El password no puede superar " ++ toString MAX_LENGTH ++ " caracteres."))
  else .ok ⟨raw, Nat.le_of_not_lt short, Nat.le_of_not_lt long⟩

/-- What the hasher makes of a password. A blank hash would be a defect of the hasher, and throws. -/
structure PasswordHash where
  value : String
  notBlank : jsLength (trim value) ≠ 0
deriving DecidableEq, Repr

structure MembershipId where
  uuid : Uuid
deriving DecidableEq, Repr

/-- The tenant: its id is the one that everything else is kept apart by. -/
structure Organization where
  id : TenantId
  name : String
  slug : String
  createdAt : Instant
deriving DecidableEq, Repr

def Organization.create (id : TenantId) (name slug : String) (now : Instant) : Organization where
  id := id
  name := name
  slug := slug
  createdAt := now

structure User where
  id : UserId
  tenantId : TenantId
  email : Email
  passwordHash : PasswordHash
  createdAt : Instant
deriving DecidableEq, Repr

def User.register (id : UserId) (tenantId : TenantId) (email : Email) (passwordHash : PasswordHash) (now : Instant) :
    User where
  id := id
  tenantId := tenantId
  email := email
  passwordHash := passwordHash
  createdAt := now

/-- The role of a user in an organisation. -/
structure Membership where
  id : MembershipId
  tenantId : TenantId
  userId : UserId
  role : Role
  createdAt : Instant
deriving DecidableEq, Repr

def Membership.create (id : MembershipId) (tenantId : TenantId) (userId : UserId) (role : Role) (now : Instant) :
    Membership where
  id := id
  tenantId := tenantId
  userId := userId
  role := role
  createdAt := now

structure ProvisionOrganizationInput where
  organization : Organization
  owner : User
  membership : Membership
deriving DecidableEq, Repr

end Helpdesk.Iam
