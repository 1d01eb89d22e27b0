/-
Module: HelpdeskApi.Http.Api
Layer: Http
Purpose: The HTTP interface: the routes of all controllers, the guards and pipes before them, and what their
  handlers make of the use cases, as programs over the repositories. The whole application is all of that at once:
  requests of any number of clients, and beside them the jobs of the background, on one database.
Trusted boundary: human-reviewed spec
Main exports: Endpoint, Endpoint.minRole, Endpoint.needsSession, HttpRequest, HttpRequest.passGuards,
  HttpRequest.program, Job, Response, application
-/
import HelpdeskApi.Http.Answers
import HelpdeskApi.Http.Dtos
import HelpdeskApi.Http.World

namespace Helpdesk.Http

open Iam Txn

/-- The routes, with what the client sends on them. -/
inductive Endpoint where
  | register (body : JsonObject)
  | login (body : JsonObject)
  | refresh
  | logout
  | me
  | listMembers
  | createTicket (body : JsonObject)
  | listTickets (query : JsonObject)
  | ticketDetail (id : String)
  | ticketHistory (id : String)
  | assignTicket (id : String) (body : JsonObject)
  | unassignTicket (id : String)
  | patchStatus (id : String) (body : JsonObject)
  | comment (id : String) (body : JsonObject)
  | currentPolicy
  | updatePolicy (priority : String) (body : JsonObject)
  | resetPolicy (priority : String)
deriving DecidableEq

namespace Endpoint

/-- `@MinRole`. -/
def minRole : Endpoint → Option Role
  | .register _ | .login _ | .refresh | .logout | .me => none
  | .createTicket _ | .listTickets _ | .ticketDetail _ | .comment _ _ => some .VIEWER
  | .listMembers | .ticketHistory _ | .assignTicket _ _ | .unassignTicket _ | .patchStatus _ _ => some .AGENT
  | .currentPolicy | .updatePolicy _ _ | .resetPolicy _ => some .ADMIN

/-- `@UseGuards(JwtAuthGuard)`. -/
def needsSession : Endpoint → Bool
  | .register _ | .login _ | .refresh | .logout => false
  | _ => true

end Endpoint

/-- A request, with what is drawn and read from outside while it is served. -/
structure HttpRequest where
  endpoint : Endpoint
  authorization : Option String
  /-- The cookie `refresh_token`, unless it is missing or empty. -/
  refreshCookie : Option String
  /-- `ThrottlerGuard` finds the quota of the client used up. -/
  throttled : Bool
  verifiedAt : Instant
  signedAt : Instant
  tokenId : Uuid
  uuid : Nat → Uuid
  now : Nat → Instant
  hasher : PasswordHasher
  ambient : Helpdesk.Ambient
  requestId : Option String

/-- The access token that a request presents. -/
def HttpRequest.bearer (r : HttpRequest) : Option String :=
  r.authorization.bind AccessTokenVerifier.extractBearer

section Handlers

variable (unicode : Unicode) (v : Validators) (jwt : AccessJwt)

/-- A use case of the identity context, each of whose calls is a transaction. -/
def HttpRequest.authenticate (r : HttpRequest) (useCase : AuthUseCase) : Proc sig (Except AuthError Iam.Output) :=
  (AuthRequest.program unicode {
    useCase := useCase
    ambient :=
      { tokenService := JwtTokenService.service jwt.toJwt r.verifiedAt r.signedAt r.tokenId
        uuid := r.uuid
        now := r.now }
    hasher := r.hasher }).left

/-- `respondWithSession`, or the problem. -/
def respondWithSession (status : Nat) (onError : CookieChange) : Except AuthError Iam.Output → Answer
  | .error error => { iamException error with cookie := onError }
  | .ok (.tokens tokens) =>
      { status := status
        body := .session tokens.accessToken
        cookie := .set tokens.refreshToken tokens.refreshTokenExpiresAt }
  | .ok .done => { status := status, body := .nothing }

/-- `toSummary`. -/
def toSummary (t : Ticket) : TicketSummaryDto where
  id := t.id
  number := t.number
  subject := t.subject
  status := t.status
  priority := t.priority
  requesterId := t.requesterId
  assigneeId := t.assigneeId
  createdAt := t.createdAt
  updatedAt := t.updatedAt

/-- What the controllers make of an output. -/
def bodyOf : Helpdesk.Output → Body
  | .ticket t => .ticket (toSummary t)
  | .comment c => .comment { id := c.id, authorId := c.authorId, body := c.body, createdAt := c.createdAt }
  | .policy policy => .policy policy
  | .page page => .page page
  | .detail (some ticket) => .detail ticket
  | .history entries => .history entries
  | _ => .nothing

def respond (status : Nat) : Except TicketingError Helpdesk.Output → Answer
  | .error error => ticketingException error
  | .ok (.detail none) => exception 404 "El ticket no existe."
  | .ok output => { status := status, body := bodyOf output }

/-- `parsePriority`. -/
def parsePriority (value : String) : Except Answer TicketPriority :=
  match TicketPriority.ofText? value with
  | some priority => .ok priority
  | none => .error (exception 400 ("Prioridad desconocida: \"" ++ value ++ "\". Válidas: " ++
      ", ".intercalate (TicketPriority.all.map TicketPriority.text) ++ "."))

/-- The use case of the ticketing context that a handler executes for its principal, and the status of its success:
    the pipes come first. -/
def useCaseOf (principal : AccessTokenClaims) : Endpoint → Except Answer (Nat × UseCase)
  | .createTicket body =>
      match CreateTicketDto.validate v body with
      | none => .error invalid
      | some dto => .ok (201, .createTicket {
          tenantId := principal.tenantId
          actorId := principal.userId
          subject := dto.subject
          description := dto.description
          priority := dto.priority.getD .NORMAL })
  | .listTickets query =>
      match ListTicketsQueryDto.validate v query with
      | none => .error invalid
      | some dto => .ok (200, .listTickets {
          tenantId := principal.tenantId
          status := dto.status
          assigneeId := dto.assigneeId.map UserId.mk
          requesterId := dto.requesterId.map UserId.mk
          limit := dto.limit.getD 20
          cursor := dto.cursor.map TicketId.mk })
  | .ticketDetail id =>
      match v.parseUUIDPipe id with
      | none => .error invalid
      | some id => .ok (200, .ticketDetail principal.tenantId ⟨id⟩)
  | .ticketHistory id =>
      match v.parseUUIDPipe id with
      | none => .error invalid
      | some id => .ok (200, .ticketHistory principal.tenantId ⟨id⟩)
  | .assignTicket id body =>
      match v.parseUUIDPipe id, AssignTicketDto.validate v body with
      | some id, some dto => .ok (200, .assignTicket {
          tenantId := principal.tenantId
          actorId := principal.userId
          ticketId := ⟨id⟩
          assigneeId := some ⟨dto.assigneeId⟩ })
      | _, _ => .error invalid
  | .unassignTicket id =>
      match v.parseUUIDPipe id with
      | none => .error invalid
      | some id => .ok (200, .assignTicket {
          tenantId := principal.tenantId
          actorId := principal.userId
          ticketId := ⟨id⟩
          assigneeId := none })
  | .patchStatus id body =>
      match v.parseUUIDPipe id, ChangeTicketStatusDto.validate body with
      | some id, some dto => .ok (200, .changeTicketStatus {
          tenantId := principal.tenantId
          actorId := principal.userId
          ticketId := ⟨id⟩
          status := dto.status })
      | _, _ => .error invalid
  | .comment id body =>
      match v.parseUUIDPipe id, AddCommentDto.validate v body with
      | some id, some dto => .ok (201, .addComment {
          tenantId := principal.tenantId
          actorId := principal.userId
          actorRole := principal.role.text
          ticketId := ⟨id⟩
          body := dto.body })
      | _, _ => .error invalid
  | .currentPolicy => .ok (200, .getSlaPolicy principal.tenantId)
  | .updatePolicy priority body =>
      match UpdateSlaPolicyDto.validate body with
      | none => .error invalid
      | some dto => do
          let priority ← parsePriority priority
          return (200, .updateSlaPolicy {
            tenantId := principal.tenantId
            actorId := principal.userId
            priority := priority
            responseMinutes := .finite dto.responseMinutes
            resolutionMinutes := .finite dto.resolutionMinutes })
  | .resetPolicy priority => do
      let priority ← parsePriority priority
      return (200, .resetSlaPolicy {
        tenantId := principal.tenantId
        actorId := principal.userId
        priority := priority })
  | _ => .error invalid

namespace HttpRequest

/-- The guards, in the order in which Nest runs them: those of the application first, then the one of the route. -/
def passGuards (r : HttpRequest) : Except Answer (Option AccessTokenClaims) :=
  let principal := principalOf jwt r.verifiedAt r.authorization
  if r.throttled then .error (exception 429 "ThrottlerException: Too Many Requests")
  else
    match RolesGuard.canActivate r.endpoint.minRole principal with
    | .error refusal => .error (refuse refusal)
    | .ok () =>
        if r.endpoint.needsSession then
          match JwtAuthGuard.canActivate principal with
          | .error refusal => .error (refuse refusal)
          | .ok principal => .ok (some principal)
        else .ok none

/-- The handlers of the routes that ask for no session. -/
def handlePublic (r : HttpRequest) : Proc sig Answer :=
  match r.endpoint with
  | .register body =>
      match RegisterOrganizationDto.validate v body with
      | none => return invalid
      | some dto =>
          respondWithSession 201 .keep <$> r.authenticate unicode jwt (.register {
            organizationName := dto.organizationName, email := dto.email, password := dto.password })
  | .login body =>
      match LoginDto.validate v body with
      | none => return invalid
      | some dto =>
          respondWithSession 200 .keep <$> r.authenticate unicode jwt (.login {
            organizationSlug := dto.organizationSlug, email := dto.email, password := dto.password })
  | .refresh =>
      match r.refreshCookie with
      | none => return exception 401 "Falta el refresh token."
      | some token => respondWithSession 200 .clear <$> r.authenticate unicode jwt (.refresh { refreshToken := token })
  | .logout =>
      match r.refreshCookie with
      | none => return { status := 204, body := .nothing, cookie := .clear }
      | some token =>
          -- whatever comes of it
          (fun _ => { status := 204, body := .nothing, cookie := .clear }) <$>
            r.authenticate unicode jwt (.logout { refreshToken := token })
  | _ => return invalid

/-- What `GET /auth/me` makes of the member it has found. -/
def respondMe (principal : AccessTokenClaims) : Option MemberView → Answer
  | none => exception 401 "La sesión ya no corresponde a un usuario."
  | some member =>
      { status := 200, body := .me principal.userId principal.tenantId principal.role member.email }

/-- The execution of a use case of the ticketing context. -/
def execution (r : HttpRequest) (useCase : UseCase) : Execution where
  useCase := useCase
  ambient := r.ambient
  requestId := r.requestId

/-- The handlers of the routes that ask for a session. -/
def handlePrivate (r : HttpRequest) (principal : AccessTokenClaims) : Proc sig Answer :=
  match r.endpoint with
  | .me =>
      respondMe principal <$>
        Proc.ask (S := sig) (.inl (.inr (.membersFindById principal.tenantId principal.userId)))
  | .listMembers =>
      (fun items => { status := 200, body := .members items }) <$>
        Proc.ask (S := sig) (.inl (.inr (.membersList principal.tenantId)))
  | endpoint =>
      match useCaseOf v principal endpoint with
      | .error answer => return answer
      | .ok (status, useCase) => respond status <$> (r.execution useCase).program.right

/-- A request from its arrival to its answer. -/
def program (r : HttpRequest) : Proc sig Answer :=
  match r.passGuards jwt with
  | .error answer => return answer
  | .ok none => r.handlePublic unicode v jwt
  | .ok (some principal) => r.handlePrivate v principal

end HttpRequest

end Handlers

/-- What the application works at. -/
inductive Job where
  | request (r : HttpRequest)
  | background (e : Execution)

inductive Response where
  | answer (answer : Answer)
  | outcome (result : Except TicketingError Helpdesk.Output)

/-- What ends well is committed. -/
def Response.commits : Response → Bool
  | .answer a => a.status < 400
  | .outcome result => commitsResult result

section Application

variable (unicode : Unicode) (collation : Collation) (v : Validators) (jwt : AccessJwt)

/-- The tenant that the transaction of a job is opened for. -/
def Job.ctx : Job → Helpdesk.Ctx
  | .request r =>
      { tenant := (principalOf jwt r.verifiedAt r.authorization).map AccessTokenClaims.tenantId
        requestId := r.requestId }
  | .background e => e.ctx

def Job.program : Job → Proc sig Response
  | .request r => .answer <$> r.program unicode v jwt
  | .background e => .outcome <$> e.program.right

/-- All jobs on one database, interleaved call by call. -/
abbrev application : Txn.App where
  sig := sig
  store := store unicode collation
  Job := Job
  Out := Response
  ctx := Job.ctx jwt
  program := Job.program unicode v jwt
  commits := Response.commits

end Application

end Helpdesk.Http
