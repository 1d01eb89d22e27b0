/-
Module: HelpdeskApi.Http.Requests
Layer: Http
Purpose: What each job of the application may do and what its answer says. A request goes through the guards with
  a principal, without one, or not at all. With one it touches what its organisation sees of the tickets at most,
  and nothing if it is a query; without one it touches accounts at most. Whoever is handed an access token is a
  member, and whoever is a member is answered as such.
Trusted boundary: none
Main exports: Endpoint.isQuery, passGuards_spec, useCaseOf_spec, HttpRequest.Does, HttpRequest.Gives, Job.Does,
  Job.Gives, Background, Job.Trusted, Job.Trusted.goes, begins_of_trusted
-/
import HelpdeskApi.Http.Api
import HelpdeskApi.Http.Sharing
import HelpdeskApi.Iam.Members

namespace Helpdesk.Http

open Iam Relational Txn

section Guards

variable {jwt : AccessJwt} {r : HttpRequest}

/-- How the guards decide. -/
theorem passGuards_spec {admitted : Option AccessTokenClaims} (passes : r.passGuards jwt = .ok admitted) :
    r.throttled = false ∧
      match admitted with
      | some principal => r.endpoint.needsSession = true ∧
          principalOf jwt r.verifiedAt r.authorization = some principal ∧
          ∀ required, r.endpoint.minRole = some required → hasAtLeastRole principal.role required = true
      | none => r.endpoint.needsSession = false := by
  unfold HttpRequest.passGuards at passes
  dsimp only at passes
  split at passes
  · cases passes
  · rename_i notThrottled
    split at passes
    · cases passes
    · rename_i allowed
      refine ⟨by simpa using notThrottled, ?_⟩
      split at passes
      · rename_i needsSession
        cases isPrincipal : principalOf jwt r.verifiedAt r.authorization with
        | none =>
            rw [isPrincipal] at passes
            cases passes
        | some principal =>
            rw [isPrincipal] at passes allowed
            cases passes
            refine ⟨needsSession, rfl, fun required isRequired => ?_⟩
            rw [isRequired] at allowed
            simp only [RolesGuard.canActivate] at allowed
            split at allowed
            · assumption
            · cases allowed
      · rename_i isPublic
        cases passes
        simpa using isPublic

end Guards

/-- The routes that only read. -/
def Endpoint.isQuery : Endpoint → Bool
  | .me | .listMembers | .listTickets _ | .ticketDetail _ | .ticketHistory _ | .currentPolicy => true
  | _ => false

/-- What a route makes of the principal: the use case is of its organisation and in its name. -/
structure Acts (principal : AccessTokenClaims) (useCase : UseCase) : Prop where
  tenant : useCase.tenantId = principal.tenantId
  actor : ∀ u, useCase.actorId = some u → u = principal.userId
  ticket : useCase.startsFor = none

/-- A use case in the name of the principal, for one that is not a query. -/
theorem acts_of_actor {principal : AccessTokenClaims} {useCase : UseCase} (tenant : useCase.tenantId = principal.tenantId)
    (actor : useCase.actorId = some principal.userId) (ticket : useCase.startsFor = none) : Acts principal useCase :=
  ⟨tenant, fun _ isActor => Option.some.inj (isActor.symm.trans actor), ticket⟩

theorem useCaseOf_spec {v : Validators} {principal : AccessTokenClaims} {endpoint : Endpoint} {status : Nat}
    {useCase : UseCase} (isUseCase : useCaseOf v principal endpoint = .ok (status, useCase)) :
    Acts principal useCase ∧ (endpoint.isQuery = true → useCase.reads = true) := by
  cases endpoint with
  | register | login | refresh | logout | me | listMembers => cases isUseCase
  | createTicket | unassignTicket =>
      simp only [useCaseOf] at isUseCase
      split at isUseCase
      · cases isUseCase
      · cases isUseCase
        exact ⟨acts_of_actor rfl rfl rfl, nofun⟩
  | assignTicket | patchStatus | comment =>
      simp only [useCaseOf] at isUseCase
      split at isUseCase
      · cases isUseCase
        exact ⟨acts_of_actor rfl rfl rfl, nofun⟩
      · cases isUseCase
  | listTickets | ticketDetail | ticketHistory =>
      simp only [useCaseOf] at isUseCase
      split at isUseCase
      · cases isUseCase
      · cases isUseCase
        exact ⟨⟨rfl, nofun, rfl⟩, fun _ => rfl⟩
  | currentPolicy =>
      cases isUseCase
      exact ⟨⟨rfl, nofun, rfl⟩, fun _ => rfl⟩
  | updatePolicy priority body =>
      simp only [useCaseOf] at isUseCase
      split at isUseCase
      · cases isUseCase
      · obtain ⟨parsed, _, isOk⟩ := exists_of_bind isUseCase
        cases isOk
        exact ⟨acts_of_actor rfl rfl rfl, nofun⟩
  | resetPolicy priority =>
      obtain ⟨parsed, _, isOk⟩ := exists_of_bind isUseCase
      cases isOk
      exact ⟨acts_of_actor rfl rfl rfl, nofun⟩

section Tokens

/-- The access token in an answer. -/
def Answer.accessToken (a : Answer) : Option String :=
  match a.body with
  | .session token => some token
  | _ => none

theorem accessToken_of_refused {jwt : AccessJwt} {r : HttpRequest} {a : Answer} (refused : r.passGuards jwt = .error a) :
    a.accessToken = none := by
  unfold HttpRequest.passGuards at refused
  dsimp only at refused
  split at refused
  · cases refused
    rfl
  · split at refused
    · rename_i refusal _
      cases refused
      cases refusal <;> rfl
    · split at refused
      · split at refused
        · rename_i refusal _
          cases refused
          cases refusal <;> rfl
        · cases refused
      · cases refused

theorem accessToken_of_parsePriority {value : String} {a : Answer} (refused : parsePriority value = .error a) :
    a.accessToken = none := by
  unfold parsePriority at refused
  split at refused
  · cases refused
  · cases refused
    rfl

/-- What is refused by a pipe. -/
theorem accessToken_of_invalid {v : Validators} {principal : AccessTokenClaims} {endpoint : Endpoint} {a : Answer}
    (refused : useCaseOf v principal endpoint = .error a) : a.accessToken = none := by
  cases endpoint with
  | register | login | refresh | logout | me | listMembers =>
      cases refused
      rfl
  | createTicket | unassignTicket | listTickets | ticketDetail | ticketHistory =>
      simp only [useCaseOf] at refused
      split at refused
      · cases refused
        rfl
      · cases refused
  | assignTicket | patchStatus | comment =>
      simp only [useCaseOf] at refused
      split at refused
      · cases refused
      · cases refused
        rfl
  | currentPolicy => cases refused
  | updatePolicy priority body =>
      simp only [useCaseOf] at refused
      split at refused
      · cases refused
        rfl
      · cases parsed : parsePriority priority with
        | error answer =>
            rw [parsed] at refused
            cases refused
            exact accessToken_of_parsePriority parsed
        | ok priority =>
            rw [parsed] at refused
            cases refused
  | resetPolicy priority =>
      simp only [useCaseOf] at refused
      cases parsed : parsePriority priority with
      | error answer =>
          rw [parsed] at refused
          cases refused
          exact accessToken_of_parsePriority parsed
      | ok priority =>
          rw [parsed] at refused
          cases refused

theorem accessToken_respond (status : Nat) (result : Except TicketingError Helpdesk.Output) :
    (respond status result).accessToken = none := by
  unfold respond
  split
  · rfl
  · rfl
  · rename_i output _
    unfold Answer.accessToken bodyOf
    cases output with
    | detail found => cases found <;> rfl
    | _ => rfl

end Tokens

section Jobs

variable {unicode : Unicode} {collation : Collation} {v : Validators} {jwt : AccessJwt} {w w' : World}

/-- What a request does to the database, at most: one of a public route leaves the tickets alone, and one of a
    principal everything but what their organisation sees of them. -/
def HttpRequest.Does (jwt : AccessJwt) (r : HttpRequest) (w w' : World) : Prop :=
  match r.passGuards jwt with
  | .error _ => w' = w
  | .ok none => w'.tickets = w.tickets
  | .ok (some principal) => OnlyOf principal.tenantId w w' ∧ (r.endpoint.isQuery = true → w' = w)

/-- Whoever is given an access token is a member. -/
def Answer.Vouched (jwt : AccessJwt) (a : Answer) (w : World) : Prop :=
  ∀ token, a.accessToken = some token → ∃ claims signedAt, token = jwt.signAccess signedAt claims ∧
    Member w.directory claims

/-- What somebody who is logged in is answered: members are shown as they are, and no tokens are given. -/
def Endpoint.Shows (principal : AccessTokenClaims) (endpoint : Endpoint) (a : Answer) (w : World) : Prop :=
  match endpoint with
  | .me => ∃ email, a = { status := 200, body := .me principal.userId principal.tenantId principal.role email } ∧
      ∃ u ∈ w.directory.users.rows, u.id = principal.userId ∧ u.tenantId = principal.tenantId ∧ u.email = email
  | .listMembers => ∃ items, a = { status := 200, body := .members items } ∧
      ∀ item ∈ items, Shown w.directory principal.tenantId item
  | _ => a.accessToken = none

def HttpRequest.Gives (jwt : AccessJwt) (r : HttpRequest) (a : Answer) (w : World) : Prop :=
  match r.passGuards jwt with
  | .error refusal => a = refusal
  | .ok none => a.Vouched jwt w
  | .ok (some principal) => r.endpoint.Shows principal a w

def Job.Does (jwt : AccessJwt) : Job → World → World → Prop
  | .request r => r.Does jwt
  | .background e => OnlyOf e.useCase.tenantId

/-- Each job ends in its own way. -/
def Job.Gives (jwt : AccessJwt) : Job → Response → World → Prop
  | .request r, .answer a, w => r.Gives jwt a w
  | .background _, .outcome _, _ => True
  | _, _, _ => False

/-- What is done in the background: a worker takes the job of a message of the outbox, or a sweep marks a timer. -/
inductive Background (db : Helpdesk.Db) (e : Execution) : Prop where
  | job {worker : Worker} {messageId : Uuid} {generated : RandomUuid} {ambient : Ambient}
      (runs : (BackendAction.job worker messageId generated ambient).execution db = some e)
  | mark {input : MarkSlaBreachedInput} {ambient : Ambient}
      (marks : (BackendAction.mark input ambient).execution db = some e)

/-- What has been asked for goes on to be asked for. -/
theorem Background.goes {db db' : Helpdesk.Db} {e : Execution} (background : Background db e)
    (messages : KeepsMessages db db') : Background db' e := by
  cases background with
  | mark marks => exact .mark marks
  | @job worker messageId generated ambient runs =>
      obtain ⟨m, found, _⟩ := BackendAction.execution_job runs
      have same : (BackendAction.job worker messageId generated ambient).execution db' =
          (BackendAction.job worker messageId generated ambient).execution db := by
        simp only [BackendAction.execution, found, messages messageId m found]
      exact .job (same.trans runs)

/-- A worker runs what it dispatches. -/
theorem useCase_eq_some_iff {d : Dispatch} {useCase : UseCase} : d.useCase = some useCase ↔ d = .run useCase := by
  cases d <;> simp [Dispatch.useCase]

/-- The background acts in nobody's name, and on tickets that are there. -/
theorem knownIn_of_background {db : Helpdesk.Db} {e : Execution} (linked : db.Linked) (background : Background db e) :
    e.KnownIn db := by
  cases background with
  | mark marks =>
      cases marks
      exact ⟨nofun, nofun⟩
  | @job worker messageId generated ambient runs =>
      obtain ⟨m, found, _, asked, _⟩ := BackendAction.execution_job runs
      have there : db.Has m.tenantId ⟨m.aggregateId⟩ := linked.announced m (Table.mem_of_find? found)
      obtain ⟨useCase, ambient', requestId⟩ := e
      cases worker with
      | realtime => cases asked
      | ticketRouting =>
          obtain ⟨_, numero, _, rfl⟩ := TicketRoutingProcessor.process_run (useCase_eq_some_iff.mp asked)
          exact ⟨nofun, nofun⟩
      | sla =>
          rcases SlaProcessor.despachar_run (useCase_eq_some_iff.mp asked) with ⟨priority, rfl⟩ | ⟨kind, rfl⟩
          · refine ⟨nofun, fun id isTicket => ?_⟩
            cases isTicket
            exact there
          · exact ⟨nofun, nofun⟩

/-- A job that may come: the tables are in order, a principal is a member, and the background does what it was asked
    for. -/
structure Job.Trusted (unicode : Unicode) (jwt : AccessJwt) (job : Job) (w : World) : Prop where
  coherent : Coherent unicode w.directory
  linked : w.ticketing.Linked
  principal : ∀ r, job = .request r → ∀ principal, principalOf jwt r.verifiedAt r.authorization = some principal →
    Member w.directory principal
  background : ∀ e, job = .background e → Background w.ticketing e

theorem Job.Trusted.goes {job : Job} (trusted : job.Trusted unicode jwt w) (goes : w.Goes unicode w') :
    job.Trusted unicode jwt w' where
  coherent := goes.directory.coherent trusted.coherent
  linked := goes.linked trusted.linked
  principal r isRequest principal isPrincipal :=
    (trusted.principal r isRequest principal isPrincipal).grows goes.directory
  background e isBackground := (trusted.background e isBackground).goes goes.messages

/-- Tokens are only given on public routes. -/
theorem vouched_of_gives {r : HttpRequest} {a : Answer} (gives : r.Gives jwt a w) : a.Vouched jwt w := by
  intro token isToken
  unfold HttpRequest.Gives at gives
  cases passes : r.passGuards jwt with
  | error refusal =>
      rw [passes] at gives
      rw [gives, accessToken_of_refused passes] at isToken
      cases isToken
  | ok admitted =>
      rw [passes] at gives
      cases admitted with
      | none => exact gives token isToken
      | some principal =>
          have none : a.accessToken = none := by
            unfold Endpoint.Shows at gives
            dsimp only at gives
            split at gives
            · obtain ⟨email, rfl, _⟩ := gives
              rfl
            · obtain ⟨items, rfl, _⟩ := gives
              rfl
            · exact gives
          rw [none] at isToken
          cases isToken

/-- A member, as the tables of tickets know them. -/
theorem knows_of_member {claims : AccessTokenClaims} (member : Member w.directory claims) :
    w.ticketing.Knows claims.tenantId claims.userId := by
  obtain ⟨m, inside, tenant, user, _⟩ := member
  exact ⟨m.toRow, List.mem_map_of_mem inside, tenant, user⟩

/-- A use case in the name of a member. -/
theorem known_of_acts {principal : AccessTokenClaims} {e : Execution} (acts : Acts principal e.useCase)
    (member : Member w.directory principal) : e.KnownIn w.ticketing where
  actor u isActor := by
    rw [acts.tenant, acts.actor u isActor]
    exact knows_of_member member
  ticket id taken := by
    rw [acts.ticket] at taken
    cases taken

end Jobs

section Programs

variable {unicode : Unicode} {collation : Collation} {v : Validators} {jwt : AccessJwt} {ctx : Helpdesk.Ctx}
  {commits : Answer → Bool} {r : HttpRequest} {w : World}

/-- An answer that comes of itself. -/
theorem keeps_public_done {a : Answer} (noToken : a.accessToken = none) :
    (Proc.done a : Proc sig Answer).Keeps (sharing unicode collation) ctx commits
      (fun w w' => w'.tickets = w.tickets) (Answer.Vouched jwt) [] [] w :=
  Proc.keeps_done (fun _ => rfl) fun _ _ token isToken => by
    rw [noToken] at isToken
    cases isToken

/-- What the identity context is asked for. -/
theorem keeps_authenticate (lowersOnce : LowersOnce unicode) (coherent : Coherent unicode w.directory)
    (useCase : AuthUseCase) {f : Except AuthError Iam.Output → Answer}
    (tokens : ∀ out token, (f out).accessToken = some token → ∃ tokens, out = .ok (.tokens tokens) ∧
      token = tokens.accessToken) :
    (f <$> r.authenticate unicode jwt useCase).Keeps (sharing unicode collation) ctx commits
      (fun w w' => w'.tickets = w.tickets) (Answer.Vouched jwt) [] [] w := by
  apply Proc.Keeps.map
  refine (keeps_of_upholds (upholds_request lowersOnce _ coherent)).mono (fun _ _ same => same) ?_
  intro out later promise token isToken
  obtain ⟨granted, isOk, rfl⟩ := tokens out token isToken
  obtain ⟨claims, familyId, _, member, rfl⟩ := promise granted isOk
  exact ⟨claims, r.signedAt, rfl, member⟩

theorem token_of_respondWithSession {status : Nat} {onError : CookieChange} (out : Except AuthError Iam.Output)
    (token : String) (isToken : (respondWithSession status onError out).accessToken = some token) :
    ∃ tokens, out = .ok (.tokens tokens) ∧ token = tokens.accessToken := by
  cases out with
  | error error => cases isToken
  | ok output =>
      cases output with
      | done => cases isToken
      | tokens granted =>
          cases isToken
          exact ⟨granted, rfl, rfl⟩

/-- The routes that ask for no session. -/
theorem keeps_public (lowersOnce : LowersOnce unicode) (coherent : Coherent unicode w.directory) :
    (r.handlePublic unicode v jwt).Keeps (sharing unicode collation) ctx commits
      (fun w w' => w'.tickets = w.tickets) (Answer.Vouched jwt) [] [] w := by
  unfold HttpRequest.handlePublic
  cases r.endpoint with
  | register body =>
      dsimp only
      cases RegisterOrganizationDto.validate v body with
      | none => exact keeps_public_done rfl
      | some dto => exact keeps_authenticate lowersOnce coherent _ token_of_respondWithSession
  | login body =>
      dsimp only
      cases LoginDto.validate v body with
      | none => exact keeps_public_done rfl
      | some dto => exact keeps_authenticate lowersOnce coherent _ token_of_respondWithSession
  | refresh =>
      dsimp only
      cases r.refreshCookie with
      | none => exact keeps_public_done rfl
      | some token => exact keeps_authenticate lowersOnce coherent _ token_of_respondWithSession
  | logout =>
      dsimp only
      cases r.refreshCookie with
      | none => exact keeps_public_done rfl
      | some token => exact keeps_authenticate lowersOnce coherent _ nofun
  | me | listMembers | createTicket | listTickets | ticketDetail | ticketHistory | assignTicket | unassignTicket
  | patchStatus | comment | currentPolicy | updatePolicy | resetPolicy => exact keeps_public_done rfl

/-- An answer of a route with a principal that comes of itself. -/
theorem keeps_private_done {a : Answer} {t : TenantId} {isQuery : Bool} {gives : Answer → World → Prop}
    (given : ∀ w, gives a w) :
    (Proc.done a : Proc sig Answer).Keeps (sharing unicode collation) ctx commits
      (fun w w' => OnlyOf t w w' ∧ (isQuery = true → w' = w)) gives [] [] w :=
  Proc.keeps_done (fun w => ⟨.refl t w, fun _ => rfl⟩) fun onwards _ => given onwards

/-- What is only looked up, and goes on to be so. -/
theorem keeps_lookup {c : Lookup} {f : c.Reply → Answer} {t : TenantId} {isQuery : Bool}
    {gives : Answer → World → Prop}
    (given : ∀ later reply, (sharing unicode collation).goes w later →
      Accounts.lookup unicode collation c later.directory = some reply →
      ∀ onwards, (sharing unicode collation).goes later onwards → gives (f reply) onwards) :
    (f <$> Proc.ask (S := sig) (.inl (.inr c)) : Proc sig Answer).Keeps (sharing unicode collation) ctx commits
      (fun w w' => OnlyOf t w w' ∧ (isQuery = true → w' = w)) gives [] [] w := by
  have answered {held : RowKey → Bool} {later : World} {o : Outcome sig Write RowKey (.inl (.inr c))}
      (member : o ∈ (store unicode collation).answers ctx held (.inl (.inr c)) later) :
      Accounts.lookup unicode collation c later.directory = some o.reply ∧ o.writes = [] ∧ o.effects = [] := by
    obtain ⟨writes, read, same⟩ := mem_accountAnswers member
    obtain ⟨reply, isReply, pair⟩ := Option.map_eq_some_iff.mp read
    obtain ⟨rfl, rfl⟩ := Prod.mk.inj pair
    exact ⟨isReply, by rw [same], by rw [same]; rfl⟩
  apply Proc.Keeps.map
  apply Proc.keeps_of_silent (S := sig) (c := .inl (.inr c)) (f := id)
  · exact fun held db o member => (answered member).2
  · exact fun w => ⟨.refl t w, fun _ => rfl⟩
  · intro later held goes o member onwards goesOn
    exact given later o.reply goes (answered member).1 onwards goesOn

/-- A query makes something of one answer, and writes nothing. -/
theorem keeps_query {e : Execution} {t : TenantId} (isQuery : e.useCase.reads = true) (own : ctx = e.ctx)
    {commits : Except TicketingError Helpdesk.Output → Bool} :
    (e.program.right : Proc sig _).Keeps (sharing unicode collation) ctx commits
      (fun w w' => OnlyOf t w w' ∧ w' = w) (fun _ _ => True) [] [] w := by
  obtain ⟨c, f, quiet, isProgram⟩ := program_of_reads isQuery
  rw [isProgram]
  apply Proc.keeps_of_silent (S := sig) (c := .inr c) (f := f)
  · intro held db o member
    obtain ⟨_, writes, answered, same⟩ := mem_ticketAnswers member
    have nothing : writes = [] := by
      rcases exec_writes answered with none | ⟨write, written, _⟩
      · exact none
      · rw [own] at written
        cases quiet.symm.trans written
    rw [same, nothing]
    exact ⟨rfl, rfl⟩
  · exact fun w => ⟨.refl t w, rfl⟩
  · exact fun _ _ _ _ _ _ _ => trivial

/-- A use case of the ticketing context. -/
theorem keeps_execution {principal : AccessTokenClaims} {e : Execution} {isQuery : Bool} {status : Nat}
    (acts : Acts principal e.useCase) (reads : isQuery = true → e.useCase.reads = true)
    (own : ctx = e.ctx) (linked : w.ticketing.Linked) (member : Member w.directory principal) :
    (respond status <$> e.program.right : Proc sig Answer).Keeps (sharing unicode collation) ctx commits
      (fun w w' => OnlyOf principal.tenantId w w' ∧ (isQuery = true → w' = w)) (fun a _ => a.accessToken = none) [] []
      w := by
  apply Proc.Keeps.map
  cases isQuery with
  | false =>
      have orderly := orderly_of_known (known_of_acts acts member)
      rw [acts.tenant, ← own] at orderly
      have tenant : ctx.tenant = some principal.tenantId := by
        rw [own]
        exact congrArg some acts.tenant
      exact (keeps_of_orderly_start tenant linked orderly).mono (fun _ _ only => ⟨only, nofun⟩)
        fun result _ _ => accessToken_respond status result
  | true =>
      exact (keeps_query (reads rfl) own).mono (fun _ _ done => ⟨done.1, fun _ => done.2⟩)
        fun result _ _ => accessToken_respond status result

/-- The handlers that execute a use case for a principal. -/
theorem keeps_useCase {principal : AccessTokenClaims} {endpoint : Endpoint}
    (own : ctx = { tenant := some principal.tenantId, requestId := r.requestId }) (linked : w.ticketing.Linked)
    (member : Member w.directory principal) :
    (match useCaseOf v principal endpoint with
      | .error answer => return answer
      | .ok (status, useCase) => respond status <$> (r.execution useCase).program.right : Proc sig Answer).Keeps
      (sharing unicode collation) ctx commits
      (fun w w' => OnlyOf principal.tenantId w w' ∧ (endpoint.isQuery = true → w' = w))
      (fun a _ => a.accessToken = none) [] [] w := by
  cases outcome : useCaseOf v principal endpoint with
  | error answer => exact keeps_private_done fun _ => accessToken_of_invalid outcome
  | ok result =>
      obtain ⟨status, useCase⟩ := result
      obtain ⟨acts, reads⟩ := useCaseOf_spec outcome
      have same : ctx = (r.execution useCase).ctx := by
        rw [own, ← acts.tenant]
        rfl
      exact keeps_execution acts reads same linked member

/-- The routes that ask for a session. -/
theorem keeps_private {principal : AccessTokenClaims}
    (own : ctx = { tenant := some principal.tenantId, requestId := r.requestId }) (linked : w.ticketing.Linked)
    (member : Member w.directory principal) :
    (r.handlePrivate v principal).Keeps (sharing unicode collation) ctx commits
      (fun w w' => OnlyOf principal.tenantId w w' ∧ (r.endpoint.isQuery = true → w' = w))
      (r.endpoint.Shows principal) [] [] w := by
  unfold HttpRequest.handlePrivate
  cases r.endpoint with
  | me =>
      apply keeps_lookup
      intro later found goes read onwards goesOn
      obtain ⟨view, rfl, shown, isTheirs⟩ := shown_of_found (member.grows goes.directory) read
      obtain ⟨u, inside, isUser, isHome, isAddress⟩ := (shown.grows goesOn.directory).address
      exact ⟨view.email, rfl, u, inside, isUser.trans isTheirs, isHome, isAddress⟩
  | listMembers =>
      apply keeps_lookup
      intro later items _ read onwards goesOn
      exact ⟨items, rfl, fun item listed => (shown_of_list read item listed).grows goesOn.directory⟩
  | register | login | refresh | logout | createTicket | listTickets | ticketDetail | ticketHistory | assignTicket
  | unassignTicket | patchStatus | comment | currentPolicy | updatePolicy | resetPolicy =>
      exact keeps_useCase (v := v) own linked member

/-- Every job that may come keeps to what all count on. -/
theorem begins_of_trusted (lowersOnce : LowersOnce unicode) {job : Job} (trusted : job.Trusted unicode jwt w) :
    (application unicode collation v jwt).Begins (sharing unicode collation) (Job.Does jwt) (Job.Gives jwt) job w := by
  cases job with
  | background e =>
      apply Proc.Keeps.map
      have orderly := orderly_of_known (knownIn_of_background trusted.linked (trusted.background e rfl))
      exact (keeps_of_orderly_start rfl trusted.linked orderly).mono (fun _ _ only => only) fun _ _ _ => trivial
  | request r =>
      apply Proc.Keeps.map
      change (r.program unicode v jwt).Keeps (sharing unicode collation) (Job.ctx jwt (.request r))
        (fun a => Response.commits (.answer a)) (r.Does jwt) (r.Gives jwt) [] [] w
      unfold HttpRequest.program HttpRequest.Does HttpRequest.Gives
      cases passes : r.passGuards jwt with
      | error refusal => exact Proc.keeps_done (fun _ => rfl) fun _ _ => rfl
      | ok admitted =>
          cases admitted with
          | none => exact keeps_public lowersOnce trusted.coherent
          | some principal =>
              obtain ⟨_, _, isPrincipal, _⟩ := passGuards_spec passes
              have own : Job.ctx jwt (.request r) = { tenant := some principal.tenantId, requestId := r.requestId } := by
                simp only [Job.ctx, isPrincipal, Option.map_some]
              exact keeps_private own trusted.linked (trusted.principal r rfl principal isPrincipal)

end Programs

end Helpdesk.Http
