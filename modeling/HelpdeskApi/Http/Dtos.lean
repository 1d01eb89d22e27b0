/-
Module: HelpdeskApi.Http.Dtos
Layer: Http
Purpose: What the bodies, queries and path segments of requests are validated to. A field that a DTO does not
  know is refused, and so is one that is not what its decorators say; what the library measures and recognises
  of a text is given.
Trusted boundary: human-reviewed spec, and what the library of validators promises
Main exports: Json, Validators, forbidNonWhitelisted, RegisterOrganizationDto, LoginDto, CreateTicketDto,
  AssignTicketDto, ChangeTicketStatusDto, AddCommentDto, ListTicketsQueryDto, UpdateSlaPolicyDto
-/
import HelpdeskApi.Application.ReadModel
import HelpdeskApi.Domain.Sla

namespace Helpdesk.Http

/-- The values of a JSON body, as far as the decorators tell them apart. -/
inductive Json where
  | null
  | num (n : JsNumber)
  | str (s : String)
  | other
deriving DecidableEq

/-- An object that was parsed from a body, or the parameters of a query, by name. -/
abbrev JsonObject := List (String × Json)

/-- What the libraries make of a text. -/
structure Validators where
  /-- What `@Length` and `@MaxLength` measure. -/
  length : String → Nat
  isEmail : String → Bool
  /-- `@IsUUID`, with the id that the text stands for. -/
  isUUID : String → Option Uuid
  /-- `ParseUUIDPipe`, with the id that the text stands for. -/
  parseUUIDPipe : String → Option Uuid
  /-- `Number(text)`. -/
  number : String → JsNumber

section Decorators

variable (v : Validators)

/-- `whitelist` with `forbidNonWhitelisted`: every field is one of the DTO's. -/
def forbidNonWhitelisted (known : List String) (body : JsonObject) : Option Unit :=
  guard (body.all fun field => known.contains field.1)

/-- `@IsString`. -/
def stringField (name : String) (body : JsonObject) : Option String :=
  match body.lookup name with
  | some (.str s) => some s
  | _ => none

/-- `@IsString`, `@Length`. -/
def textField (name : String) (min max : Nat) (body : JsonObject) : Option String := do
  let s ← stringField name body
  guard (min ≤ v.length s ∧ v.length s ≤ max)
  return s

/-- `@IsEmail`, `@MaxLength(320)`. -/
def emailField (name : String) (body : JsonObject) : Option String := do
  let s ← stringField name body
  guard (v.isEmail s ∧ v.length s ≤ 320)
  return s

/-- `@IsOptional`: nothing is asked of a field that is missing or `null`. -/
def optionalField {α : Type} (check : String → JsonObject → Option α) (name : String) (body : JsonObject) :
    Option (Option α) :=
  match body.lookup name with
  | none => some none
  | some .null => some none
  | some _ => (check name body).map some

/-- `@IsIn`, over the literals of an enumeration. -/
def enumField {α : Type} (ofText? : String → Option α) (name : String) (body : JsonObject) : Option α :=
  (stringField name body).bind ofText?

/-- `@IsUUID`. -/
def uuidField (name : String) (body : JsonObject) : Option Uuid :=
  (stringField name body).bind v.isUUID

/-- `@IsInt`, `@Min`, `@Max`. -/
def isIntIn (n : JsNumber) (min max : Int) : Option Int := do
  let i ← n.integer?
  guard (min ≤ i ∧ i ≤ max)
  return i

def intField (name : String) (min max : Int) (body : JsonObject) : Option Int :=
  match body.lookup name with
  | some (.num n) => isIntIn n min max
  | _ => none

/-- `@Type(() => Number)`, which makes a number of any value, and then `@IsInt`, `@Min`, `@Max`. -/
def numberField (min max : Int) (name : String) (query : JsonObject) : Option Int :=
  match query.lookup name with
  | some (.num n) => isIntIn n min max
  | some (.str s) => isIntIn (v.number s) min max
  | _ => none

end Decorators

structure RegisterOrganizationDto where
  organizationName : String
  email : String
  password : String
deriving DecidableEq, Repr

structure LoginDto where
  organizationSlug : String
  email : String
  password : String
deriving DecidableEq, Repr

structure CreateTicketDto where
  subject : String
  description : String
  priority : Option TicketPriority
deriving DecidableEq, Repr

structure AssignTicketDto where
  assigneeId : Uuid
deriving DecidableEq, Repr

structure ChangeTicketStatusDto where
  status : TicketStatus
deriving DecidableEq, Repr

structure AddCommentDto where
  body : String
deriving DecidableEq, Repr

structure ListTicketsQueryDto where
  status : Option TicketStatus
  assigneeId : Option Uuid
  requesterId : Option Uuid
  limit : Option Int
  cursor : Option Uuid
deriving DecidableEq, Repr

structure UpdateSlaPolicyDto where
  responseMinutes : Int
  resolutionMinutes : Int
deriving DecidableEq, Repr

variable (v : Validators)

def RegisterOrganizationDto.validate (body : JsonObject) : Option RegisterOrganizationDto := do
  forbidNonWhitelisted ["organizationName", "email", "password"] body
  return {
    organizationName := ← textField v "organizationName" 2 120 body
    email := ← emailField v "email" body
    password := ← textField v "password" 8 200 body }

def LoginDto.validate (body : JsonObject) : Option LoginDto := do
  forbidNonWhitelisted ["organizationSlug", "email", "password"] body
  return {
    organizationSlug := ← textField v "organizationSlug" 1 140 body
    email := ← emailField v "email" body
    password := ← textField v "password" 1 200 body }

def CreateTicketDto.validate (body : JsonObject) : Option CreateTicketDto := do
  forbidNonWhitelisted ["subject", "description", "priority"] body
  return {
    subject := ← textField v "subject" 1 200 body
    description := ← textField v "description" 1 10000 body
    priority := ← optionalField (enumField TicketPriority.ofText?) "priority" body }

def AssignTicketDto.validate (body : JsonObject) : Option AssignTicketDto := do
  forbidNonWhitelisted ["assigneeId"] body
  return { assigneeId := ← uuidField v "assigneeId" body }

def ChangeTicketStatusDto.validate (body : JsonObject) : Option ChangeTicketStatusDto := do
  forbidNonWhitelisted ["status"] body
  return { status := ← enumField TicketStatus.ofText? "status" body }

def AddCommentDto.validate (body : JsonObject) : Option AddCommentDto := do
  forbidNonWhitelisted ["body"] body
  return { body := ← textField v "body" 1 10000 body }

def ListTicketsQueryDto.validate (query : JsonObject) : Option ListTicketsQueryDto := do
  forbidNonWhitelisted ["status", "assigneeId", "requesterId", "limit", "cursor"] query
  return {
    status := ← optionalField (enumField TicketStatus.ofText?) "status" query
    assigneeId := ← optionalField (uuidField v) "assigneeId" query
    requesterId := ← optionalField (uuidField v) "requesterId" query
    limit := ← optionalField (numberField v 1 100) "limit" query
    cursor := ← optionalField (uuidField v) "cursor" query }

def UpdateSlaPolicyDto.validate (body : JsonObject) : Option UpdateSlaPolicyDto := do
  forbidNonWhitelisted ["responseMinutes", "resolutionMinutes"] body
  return {
    responseMinutes := ← intField "responseMinutes" 1 SLA_MAX_MINUTES body
    resolutionMinutes := ← intField "resolutionMinutes" 1 SLA_MAX_MINUTES body }

end Helpdesk.Http
