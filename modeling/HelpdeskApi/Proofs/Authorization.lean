/-
Module: HelpdeskApi.Proofs.Authorization
Layer: Proofs
Purpose: The whole application at work: any number of requests on all routes and any number of jobs of the
  background, interleaved call by call, with sessions that die anywhere. The tables always fit together. Whatever
  changes in the database is changed by somebody who may: accounts on public routes only, and what an organisation
  sees of its tickets by commands of its own members, of the rank that the route asks for, or by the background.
  And whoever is given an access token is who they are said to be wherever it is presented.
Trusted boundary: none
Main exports: Entitled, integrity_of_run, authorized_of_step, me_of_issued
-/
import HelpdeskApi.Http.Traffic
import HelpdeskApi.Proofs.AccountAccess

namespace Helpdesk.Http

open Iam Relational Txn Transition

/-- On a route that asks for nobody. -/
def Anonymous : Job → Prop
  | .request r => r.throttled = false ∧ r.endpoint.needsSession = false
  | .background _ => False

/-- Who may change what an organisation sees of its tickets: whoever has a membership there of the rank that the
    command asks for, and the background, for what a message or a sweep asks for. -/
def Entitled (jwt : AccessJwt) (w : World) (t : TenantId) : Job → Prop
  | .request r => r.throttled = false ∧ r.endpoint.needsSession = true ∧ r.endpoint.isQuery = false ∧
      ∃ principal, principalOf jwt r.verifiedAt r.authorization = some principal ∧ principal.tenantId = t ∧
        Member w.directory principal ∧
        ∀ required, r.endpoint.minRole = some required → hasAtLeastRole principal.role required = true
  | .background e => e.useCase.tenantId = t ∧ Background w.ticketing e

section Runs

variable {unicode : Unicode} {collation : Collation} {v : Validators} {jwt : AccessJwt} {w₀ : World}
  {c c' : Config (application unicode collation v jwt)} {m : Move (application unicode collation v jwt)}
  {history : List (Config (application unicode collation v jwt) × Move (application unicode collation v jwt))}

/-- In every run the tables of accounts fit together, and so do those of tickets: whoever and whatever a row refers
    to is there, in the organisation of the row. -/
theorem integrity_of_run (lowersOnce : LowersOnce unicode) (coherent : Coherent unicode w₀.directory)
    (linked : w₀.ticketing.Linked) (run : Run Config.step (.start w₀ []) history c)
    (admissible : Meets Admissible history) : Coherent unicode c.db.directory ∧ c.db.ticketing.Linked := by
  obtain ⟨goes, _, _⟩ := traffic_of_run lowersOnce coherent linked run admissible
  exact ⟨goes.directory.coherent coherent, goes.linked linked⟩

/-- What a request does, by what the guards make of it. -/
theorem authorized_of_does {r : HttpRequest} {w w' : World} (trusted : (Job.request r).Trusted unicode jwt w)
    (does : r.Does jwt w w') : w' = w ∨ (Anonymous (.request r) ∧ w'.tickets = w.tickets ∨
      ∃ t, Entitled jwt w t (.request r) ∧ OnlyOf t w w') := by
  unfold HttpRequest.Does at does
  cases passes : r.passGuards jwt with
  | error refusal =>
      rw [passes] at does
      exact .inl does
  | ok admitted =>
      rw [passes] at does
      obtain ⟨notThrottled, rest⟩ := passGuards_spec passes
      cases admitted with
      | none => exact .inr (.inl ⟨⟨notThrottled, rest⟩, does⟩)
      | some principal =>
          obtain ⟨needsSession, isPrincipal, ranks⟩ := rest
          cases isQuery : r.endpoint.isQuery with
          | true => exact .inl (does.2 isQuery)
          | false =>
              have member := trusted.principal r rfl principal isPrincipal
              exact .inr (.inr ⟨principal.tenantId,
                ⟨notThrottled, needsSession, isQuery, principal, isPrincipal, rfl, member, ranks⟩, does.1⟩)

/-- Every step of a run that changes the database is one of a session that is allowed to. One on a public route
    leaves all tickets alone. One of a member, or of the background, leaves all accounts alone, and all that other
    organisations see. -/
theorem authorized_of_step (lowersOnce : LowersOnce unicode) (coherent : Coherent unicode w₀.directory)
    (linked : w₀.ticketing.Linked) (run : Run Config.step (.start w₀ []) history c)
    (admissible : Meets Admissible history) (comes : Admissible c m) (taken : c.step m = some c') :
    c'.db = c.db ∨ ∃ i s, ((∃ choice, m = .call i choice) ∨ m = .finish i) ∧ c.sessions[i]? = some s ∧
      (Anonymous s.job ∧ c'.db.tickets = c.db.tickets ∨ ∃ t, Entitled jwt c.db t s.job ∧ OnlyOf t c.db c'.db) := by
  obtain ⟨_, _, trusted⟩ := traffic_of_run lowersOnce coherent linked run admissible
  rcases moved_of_run lowersOnce coherent linked run admissible comes taken with same | ⟨i, s, isMove, found, does⟩
  · exact .inl same
  · have trusts := trusted i s found
    cases job : s.job with
    | background e =>
        rw [job] at does trusts
        refine .inr ⟨i, s, isMove, found, .inr ⟨e.useCase.tenantId, ?_, does⟩⟩
        rw [job]
        exact ⟨rfl, trusts.background e rfl⟩
    | request r =>
        rw [job] at does trusts
        rcases authorized_of_does trusts does with same | may
        · exact .inl same
        · refine .inr ⟨i, s, isMove, found, ?_⟩
          rw [job]
          exact may

/-- A request for `GET /auth/me` with a token that verifies, when it is answered. -/
theorem me_of_gives {r : HttpRequest} {a : Answer} {w : World} {token : String} {claims : AccessTokenClaims}
    (isMe : r.endpoint = .me) (notThrottled : r.throttled = false) (presented : r.bearer = some token)
    (verified : AccessTokenVerifier.verify jwt r.verifiedAt token = some claims) (gives : r.Gives jwt a w) :
    ∃ email, a = { status := 200, body := .me claims.userId claims.tenantId claims.role email } ∧
      ∃ u ∈ w.directory.users.rows, u.id = claims.userId ∧ u.tenantId = claims.tenantId ∧ u.email = email := by
  have isPrincipal := principalOf_eq_some_iff.mpr ⟨token, presented, verified⟩
  have passes : r.passGuards jwt = .ok (some claims) := by
    simp [HttpRequest.passGuards, notThrottled, isMe, Endpoint.minRole, Endpoint.needsSession, RolesGuard.canActivate,
      JwtAuthGuard.canActivate, isPrincipal]
  unfold HttpRequest.Gives at gives
  rw [passes] at gives
  simp only [isMe, Endpoint.Shows] at gives
  exact gives

/-- Whoever has been given an access token is a member, for good, and is told so whenever `GET /auth/me` is asked
    with it for as long as it verifies. -/
theorem me_of_issued (lowersOnce : LowersOnce unicode) (coherent : Coherent unicode w₀.directory)
    (linked : w₀.ticketing.Linked) (run : Run Config.step (.start w₀ []) history c)
    (admissible : Meets Admissible history) {token : String} (issued : Issued c token) :
    ∃ claims signedAt, token = jwt.signAccess signedAt claims ∧ Member c.db.directory claims ∧
      ∀ (i : Nat) (s : Session (application unicode collation v jwt)) (r : HttpRequest) (out : Response),
        c.sessions[i]? = some s → s.job = .request r → r.endpoint = .me → r.throttled = false →
        r.bearer = some token → (AccessTokenVerifier.verify jwt r.verifiedAt token).isSome = true → Ended s out →
        ∃ email, out = .answer { status := 200, body := .me claims.userId claims.tenantId claims.role email } ∧
          ∃ u ∈ c.db.directory.users.rows, u.id = claims.userId ∧ u.tenantId = claims.tenantId ∧ u.email = email := by
  obtain ⟨_, kept, _⟩ := traffic_of_run lowersOnce coherent linked run admissible
  obtain ⟨claims, signedAt, isToken, member⟩ := member_of_issued kept issued
  refine ⟨claims, signedAt, isToken, member, ?_⟩
  intro i s r out found job isMe notThrottled presented verifies ended
  obtain ⟨claims', verified⟩ := Option.isSome_iff_exists.mp verifies
  have same : claims' = claims := by
    rw [isToken] at verified
    exact AccessTokenVerifier.verify_signed verified
  rw [same] at verified
  have gives := (kept i s found).returned ended
  rw [job] at gives
  cases out with
  | outcome result => exact gives.elim
  | answer a =>
      obtain ⟨email, rfl, stored⟩ := me_of_gives isMe notThrottled presented verified gives
      exact ⟨email, rfl, stored⟩

end Runs

section Example

/-- The owner of the first organisation that is registered. -/
def ana : AccessTokenClaims := RegisterOrganization.owner (exampleRegistration 1).ambient

/-- A library that has tokens for one user. -/
def exampleAccessJwt : AccessJwt where
  signAccess _ claims := if claims = ana then "ana" else "somebody"
  signRefresh _ _ := "refresh"
  exp _ _ := 604800
  verifyRefresh _ _ := none
  sha256 token := token
  verify_signed _ _ _ := .inl rfl
  verifyAccess _ token := if token = "ana" then some (readAccess ana) else none
  verify_signedAccess _ claims _ := by
    by_cases isAna : claims = ana
    · simp [isAna]
    · simp [isAna]

def exampleValidators : Validators where
  length := String.length
  isEmail _ := true
  isUUID _ := none
  parseUUIDPipe _ := none
  number _ := .nan

/-- A request, with ids of its own. -/
def exampleHttpRequest (endpoint : Endpoint) (authorization : Option String) (n : Nat) : HttpRequest where
  endpoint := endpoint
  authorization := authorization
  refreshCookie := none
  throttled := false
  verifiedAt := 0
  signedAt := 0
  tokenId := 100 + n
  uuid i := 10 * n + i
  now _ := 0
  hasher := plainHasher
  ambient := { now := 0, uuid := fun i => 10 * n + i }
  requestId := none

def postOrganization : HttpRequest :=
  exampleHttpRequest (.register [("organizationName", .str "Acme"), ("email", .str "ana@acme.com"),
    ("password", .str "password")]) none 1

def postTicket : HttpRequest :=
  exampleHttpRequest (.createTicket [("subject", .str "Printer"), ("description", .str "On fire")])
    (some "Bearer ana") 2

def getMe : HttpRequest :=
  exampleHttpRequest .me (some "Bearer ana") 3

abbrev exampleApplication : App :=
  application ascii exampleCollation exampleValidators exampleAccessJwt

abbrev nobody : Config exampleApplication :=
  .start { directory := .empty, tickets := .empty } []

/-- Ana registers, opens a ticket, and asks who she is. -/
def registering : List (Move exampleApplication) :=
  [.arrive (.request postOrganization), .call 0 0, .call 0 0, .call 0 0, .finish 0]

def reporting : List (Move exampleApplication) :=
  [.arrive (.request postTicket), .call 1 0, .call 1 0, .call 1 0, .call 1 0]

def asking : List (Move exampleApplication) :=
  [.arrive (.request getMe), .call 2 0, .finish 2]

/-- What a session has answered. -/
def answered (s : Session exampleApplication) : Option Answer :=
  match s.status with
  | .committed (.answer a) => some a
  | _ => none

theorem ended_of_answered {s : Session exampleApplication} {a : Answer} (isAnswer : answered s = some a) :
    Ended s (.answer a) := by
  unfold answered at isAnswer
  split at isAnswer
  · rename_i status
    cases isAnswer
    exact .inl status
  · cases isAnswer

/-- The access tokens that have been answered, session by session, and the number of tickets. -/
def shows (c : Config exampleApplication) : List (Option (Option String)) × Nat :=
  (c.sessions.map fun s => (answered s).map Answer.accessToken, c.db.tickets.tickets.rows.length)

theorem issued_of_shows {c : Config exampleApplication} {rest : List (Option (Option String))} {n : Nat}
    (isShown : shows c = (some (some "ana") :: rest, n)) : Issued c "ana" := by
  obtain ⟨s, others, sessions, first, _⟩ := List.map_eq_cons_iff.mp (Prod.mk.inj isShown).1
  obtain ⟨a, isAnswer, isToken⟩ := Option.map_eq_some_iff.mp first
  exact ⟨0, s, a, by rw [sessions]; rfl, ended_of_answered isAnswer, isToken⟩

/-- Ana's token may be presented once she has it. -/
theorem arrives_of_shows {r : HttpRequest} (presents : r.bearer = some "ana") {c : Config exampleApplication}
    {rest : List (Option (Option String))} {n : Nat} (isShown : shows c = (some (some "ana") :: rest, n)) :
    Arrives c (.request r) := by
  intro token presented _
  cases presents.symm.trans presented
  exact issued_of_shows isShown

/-- Only the first of the moves is an arrival. -/
theorem admissible_playHistory {c : Config exampleApplication} {job : Job} {moves : List (Move exampleApplication)}
    (arrives : Arrives c job) (goesOn : ∀ m ∈ moves, ∀ job, m ≠ .arrive job) :
    Meets Admissible (playHistory Config.step c (.arrive job :: moves)) := by
  intro entry member job' isArrival
  unfold playHistory at member
  split at member
  · rcases List.mem_cons.mp member with rfl | later
    · cases isArrival
      exact arrives
    · exact absurd isArrival (goesOn _ (mem_schedule later) job')
  · cases member

/-- The day goes as planned. -/
theorem day : ∃ history c c' history' c'', Run Config.step nobody history c ∧ Meets Admissible history ∧
    c.step (.finish 1) = some c' ∧ Run Config.step c' history' c'' ∧ Meets Admissible history' ∧
    shows c = ([some (some "ana"), none], 0) ∧ (shows c').2 = 1 ∧ shows c'' = ([some (some "ana"), some none, some none], 1) ∧
    c''.sessions.map Session.job = [.request postOrganization, .request postTicket, .request getMe] := by
  have registers : (play Config.step nobody registering).map shows = some ([some (some "ana")], 0) := by decide
  have reports : (play Config.step nobody (registering ++ reporting)).map shows =
      some ([some (some "ana"), none], 0) := by decide
  have finishes : (play Config.step nobody (registering ++ (reporting ++ [.finish 1]))).map shows =
      some ([some (some "ana"), some none], 1) := by decide
  have asks : (play Config.step nobody (registering ++ (reporting ++ ([.finish 1] ++ asking)))).map shows =
      some ([some (some "ana"), some none, some none], 1) := by decide
  have jobs : (play Config.step nobody (registering ++ (reporting ++ ([.finish 1] ++ asking)))).map
      (fun c => c.sessions.map Session.job) =
      some [.request postOrganization, .request postTicket, .request getMe] := rfl
  obtain ⟨c₁, played₁, shows₁⟩ := Option.map_eq_some_iff.mp registers
  rw [play_append, played₁, Option.bind_some] at reports finishes asks jobs
  obtain ⟨c₂, played₂, shows₂⟩ := Option.map_eq_some_iff.mp reports
  rw [play_append, played₂, Option.bind_some] at finishes asks jobs
  obtain ⟨c₃, played₃, shows₃⟩ := Option.map_eq_some_iff.mp finishes
  rw [play_append, played₃, Option.bind_some] at asks jobs
  obtain ⟨c₄, played₄, shows₄⟩ := Option.map_eq_some_iff.mp asks
  rw [played₄, Option.map_some, Option.some.injEq] at jobs
  have comes : Arrives nobody (.request postOrganization) := nofun
  have taken : c₂.step (.finish 1) = some c₃ := by simpa [play] using played₃
  refine ⟨_, c₂, c₃, _, c₄, (play_run played₁).append (play_run played₂), ?_, taken, play_run played₄, ?_, shows₂, ?_,
    shows₄, jobs⟩
  · intro entry member
    rcases List.mem_append.mp member with first | second
    · exact admissible_playHistory comes (by simp) entry first
    · exact admissible_playHistory (arrives_of_shows (by decide) shows₁) (by simp) entry second
  · exact admissible_playHistory (arrives_of_shows (by decide) shows₃) (by simp)
  · rw [shows₃]

theorem linked_nobody : nobody.db.ticketing.Linked where
  requesters := List.forall_mem_nil _
  assignees := List.forall_mem_nil _
  authors := List.forall_mem_nil _
  commented := List.forall_mem_nil _
  actors := List.forall_mem_nil _
  audited := List.forall_mem_nil _
  announced := List.forall_mem_nil _
  timed := List.forall_mem_nil _

theorem admissible_finish (c : Config exampleApplication) (i : Nat) : Admissible c (.finish i) := by
  intro job isArrival
  cases isArrival

theorem integrity_of_run_example :
    ∃ history c, Run Config.step nobody history c ∧ (shows c).2 = 1 ∧ Coherent ascii c.db.directory ∧
      c.db.ticketing.Linked := by
  obtain ⟨history, c, c', _, _, run, admissible, taken, _, _, _, rows, _⟩ := day
  have goesOn : Meets Admissible (history ++ [(c, .finish 1)]) := by
    intro entry member
    rcases List.mem_append.mp member with earlier | last
    · exact admissible entry earlier
    · rw [List.mem_singleton.mp last]
      exact admissible_finish c 1
  exact ⟨_, c', run.step taken, rows,
    integrity_of_run lowersOnce_ascii (coherent_empty ascii) linked_nobody (run.step taken) goesOn⟩

theorem authorized_of_step_example :
    ∃ history c c', Run Config.step nobody history c ∧ c.step (.finish 1) = some c' ∧ c'.db.tickets ≠ c.db.tickets ∧
      ∃ s t, c.sessions[1]? = some s ∧ Entitled exampleAccessJwt c.db t s.job ∧ OnlyOf t c.db c'.db := by
  obtain ⟨history, c, c', _, _, run, admissible, taken, _, _, before, after, _⟩ := day
  have changed : c'.db.tickets ≠ c.db.tickets := by
    intro same
    have rows : (shows c').2 = (shows c).2 := by
      unfold shows
      rw [same]
    rw [after, before] at rows
    cases rows
  refine ⟨history, c, c', run, taken, changed, ?_⟩
  rcases authorized_of_step lowersOnce_ascii (coherent_empty ascii) linked_nobody run admissible
    (admissible_finish c 1) taken with same | ⟨i, s, isMove, found, ⟨_, same⟩ | ⟨t, entitled, only⟩⟩
  · exact absurd (congrArg World.tickets same) changed
  · exact absurd same changed
  · rcases isMove with ⟨choice, isCall⟩ | isFinish
    · cases isCall
    · cases isFinish
      exact ⟨s, t, found, entitled, only⟩

theorem me_of_issued_example :
    ∃ history c s email, Run Config.step nobody history c ∧ c.sessions[2]? = some s ∧ s.job = .request getMe ∧
      Ended s (.answer { status := 200, body := .me ana.userId ana.tenantId ana.role email }) := by
  obtain ⟨history, c, c', history', c'', run, admissible, taken, later, admissible', _, _, isShown, jobs⟩ := day
  have goesOn : Meets Admissible (history ++ [(c, .finish 1)] ++ history') := by
    intro entry member
    rcases List.mem_append.mp member with earlier | last
    · rcases List.mem_append.mp earlier with first | second
      · exact admissible entry first
      · rw [List.mem_singleton.mp second]
        exact admissible_finish c 1
    · exact admissible' entry last
  have reached := (run.step taken).append later
  obtain ⟨claims, signedAt, isToken, _, isMe⟩ := me_of_issued lowersOnce_ascii (coherent_empty ascii) linked_nobody
    reached goesOn (issued_of_shows isShown)
  have isAna : claims = ana := by
    by_contra other
    have same : "ana" = "somebody" := isToken.trans (if_neg other)
    simp at same
  have third : (c''.sessions.map Session.job)[2]? = some (.request getMe) := by rw [jobs]; rfl
  rw [List.getElem?_map] at third
  obtain ⟨s, found, job⟩ := Option.map_eq_some_iff.mp third
  have answers : (c''.sessions.map fun s => (answered s).map Answer.accessToken)[2]? = some (some none) := by
    rw [(Prod.mk.inj isShown).1]
    rfl
  rw [List.getElem?_map, found, Option.map_some, Option.some.injEq] at answers
  obtain ⟨a, isAnswer, _⟩ := Option.map_eq_some_iff.mp answers
  have ended := ended_of_answered isAnswer
  obtain ⟨email, isOut, _⟩ := isMe 2 s getMe (.answer a) found job rfl rfl (by decide) (by decide) ended
  rw [isOut, isAna] at ended
  exact ⟨_, c'', s, email, reached, found, job, ended⟩

end Example

end Helpdesk.Http
