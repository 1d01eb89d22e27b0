/-
Module: HelpdeskApi.Http.Answers
Layer: Http
Purpose: What a request is answered with. An error of a context becomes a problem with the status that its code
  is mapped to, and the code stands in the body; a code without a status would be an internal error.
Trusted boundary: human-reviewed spec
Main exports: Body, CookieChange, Answer, IAM_STATUS_BY_CODE, TICKETING_STATUS_BY_CODE, problem, iamException,
  ticketingException, exception, refuse, invalid
-/
import HelpdeskApi.Http.Access
import HelpdeskApi.Iam.Login
import HelpdeskApi.Application.Jobs

namespace Helpdesk

namespace Iam.AuthError

def code : AuthError → String
  | .registration error => error.code
  | .session error => error.code

def message : AuthError → String
  | .registration error => error.message
  | .session error => error.message

end Iam.AuthError

namespace Http

open Iam

structure TicketSummaryDto where
  id : TicketId
  number : Int
  subject : String
  status : TicketStatus
  priority : TicketPriority
  requesterId : UserId
  assigneeId : Nullable UserId
  createdAt : Instant
  updatedAt : Instant
deriving DecidableEq, Repr

inductive Body where
  | nothing
  /-- `application/problem+json`. -/
  | problem (type title : String) (status : Nat) (code : String)
  /-- What Nest makes of an exception of its own. -/
  | exception (status : Nat) (message : String)
  /-- What `ValidationPipe` makes of a request that is not in order. -/
  | invalid
  | session (accessToken : String)
  | me (userId : UserId) (tenantId : TenantId) (role : Role) (email : String)
  | members (items : List MemberView)
  | ticket (summary : TicketSummaryDto)
  | page (page : TicketPage)
  | detail (ticket : TicketDetail)
  | history (entries : List AuditEntryView)
  | comment (comment : CommentView)
  | policy (policy : List EffectiveSlaTarget)
deriving DecidableEq

/-- What becomes of the cookie `refresh_token`. -/
inductive CookieChange where
  | keep
  | set (refreshToken : String) (expires : Instant)
  | clear
deriving DecidableEq, Repr

structure Answer where
  status : Nat
  body : Body
  cookie : CookieChange := .keep
deriving DecidableEq

/-- The statuses of the identity context. -/
def IAM_STATUS_BY_CODE : List (String × Nat) :=
  [("iam.invalid_email", 400), ("iam.weak_password", 400), ("iam.invalid_organization_name", 400),
    ("iam.organization_name_taken", 409), ("iam.invalid_credentials", 401), ("iam.refresh_token_invalid", 401),
    ("iam.refresh_token_reuse", 401)]

/-- The statuses of the ticketing context. -/
def TICKETING_STATUS_BY_CODE : List (String × Nat) :=
  [("ticketing.invalid_subject", 400), ("ticketing.invalid_description", 400), ("ticketing.empty_comment", 400),
    ("ticketing.invalid_sla_target", 400), ("ticketing.ticket_not_found", 404), ("ticketing.assignee_not_found", 404),
    ("ticketing.invalid_transition", 409), ("ticketing.ticket_closed", 409)]

/-- `toHttpException`, which both contexts have, over their own statuses. -/
def problem (statuses : List (String × Nat)) (code title : String) : Answer :=
  let status := (statuses.lookup code).getD 500
  { status := status, body := .problem ("https://helpdesk.dev/errors/" ++ code) title status code }

def iamException (error : AuthError) : Answer :=
  problem IAM_STATUS_BY_CODE error.code error.message

def ticketingException (error : TicketingError) : Answer :=
  problem TICKETING_STATUS_BY_CODE error.code error.message

/-- An exception of Nest's own. -/
def exception (status : Nat) (message : String) : Answer :=
  { status := status, body := .exception status message }

def refuse : Refusal → Answer
  | .unauthorized => exception 401 Refusal.unauthorized.message
  | .forbidden required => exception 403 (Refusal.forbidden required).message

def invalid : Answer :=
  { status := 400, body := .invalid }

end Http

end Helpdesk
