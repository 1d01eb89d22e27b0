/-
Module: HelpdeskApi.Iam.SerialSessions
Layer: Application
Purpose: Sessions that are opened, refreshed and closed by requests served one at a time, with what one
  request does to the refresh tokens. Ids are drawn at random and tokens are signed and hashed: that a
  family is opened under an id in use, or that a token is saved under an id or a hash in use, is taken
  not to happen, so a request served is one that ends without an exception.
Trusted boundary: human-reviewed spec
Main exports: Request, Request.program, Request.answer, Request.family?, Step, step, Served,
  served_iff
-/
import HelpdeskApi.Iam.JwtTokenService
import HelpdeskApi.Iam.Sessions
import HelpdeskApi.Iam.TokenRows
import HelpdeskApi.Library.Runs

namespace Helpdesk.Iam

open Relational Txn Transition

/-- What is asked for. `Login` and `RegisterOrganization` end with opening a session for the user they have
    found or created, in a family of its own. -/
inductive Demand where
  | openSession (userId : UserId) (tenantId : TenantId) (role : Role)
  | useCase (useCase : UseCase)

/-- A request, with the instants it reads and the ids it draws. -/
structure Request where
  demand : Demand
  verifiedAt : Instant
  signedAt : Instant
  now : Nat → Instant
  tokenId : Uuid
  familyId : Uuid

/-- A step of the system: a request is served, or the memberships become others by what else goes on in
    the organisations. -/
inductive Step where
  | request (request : Request)
  | memberships (memberships : Table MembershipRow)

/-- The database before the first session. -/
def noSessions (memberships : Table MembershipRow) : Db where
  memberships := memberships
  refreshTokens := .empty

section Serving

variable (jwt : Jwt)

namespace Request

def ambient (r : Request) : Ambient where
  tokenService := JwtTokenService.service jwt r.verifiedAt r.signedAt r.tokenId
  uuid _ := r.familyId
  now := r.now

def program (r : Request) : Proc sig (Except IamError Output) :=
  match r.demand with
  | .openSession userId tenantId role =>
      (fun tokens => .ok (.tokens tokens)) <$>
        SessionIssuer.issue (r.ambient jwt) (r.now 0) userId tenantId role none
  | .useCase useCase => Execution.program ⟨useCase, r.ambient jwt⟩

/-- What the request answers, unless it ends with an exception. -/
def answer (r : Request) (db : Db) : Option (Except IamError Output) :=
  ((r.program jwt).run repositories () db).map Prod.fst

/-- The stored token that a presented one leads to. -/
def finds (r : Request) (db : Db) (token : String) : Option RefreshToken :=
  (JwtTokenService.verifyRefreshToken jwt r.verifiedAt token).bind fun claims =>
    db.refreshTokens.findFirst fun row =>
      row.tokenHash = JwtTokenService.hashRefreshToken jwt token && row.tenantId = claims.tenantId

/-- The family a request is on: the one it opens, or the one of the token it presents. -/
def family? (r : Request) (db : Db) : Option (TenantId × RefreshFamilyId) :=
  match r.demand with
  | .openSession _ tenantId _ => some (tenantId, ⟨r.familyId⟩)
  | .useCase (.refreshTokens input) => (r.finds jwt db input.refreshToken).map RefreshToken.family
  | .useCase (.logout input) => (r.finds jwt db input.refreshToken).map RefreshToken.family

/-- A session is opened in a family that nobody has a token of. -/
def opensNew (r : Request) (db : Db) : Bool :=
  match r.demand with
  | .openSession _ tenantId _ => !db.refreshTokens.any fun row => row.family = (tenantId, ⟨r.familyId⟩)
  | .useCase _ => true

/-- The token that is signed for a session of the request. -/
def issued (r : Request) (userId : UserId) (tenantId : TenantId) (familyId : RefreshFamilyId) :
    IssuedRefreshToken :=
  JwtTokenService.issueRefreshToken jwt r.signedAt r.tokenId userId tenantId familyId

/-- The token that is stored for a session of the request. -/
def minted (r : Request) (now : Instant) (userId : UserId) (tenantId : TenantId) (familyId : RefreshFamilyId) :
    RefreshToken :=
  .issue ⟨r.tokenId⟩ tenantId userId familyId (r.issued jwt userId tenantId familyId).tokenHash
    (r.issued jwt userId tenantId familyId).expiresAt now

/-- What the client gets of it. -/
def handedOut (r : Request) (userId : UserId) (tenantId : TenantId) (role : Role)
    (familyId : RefreshFamilyId) : AuthTokens where
  accessToken := jwt.signAccess r.signedAt { userId := userId, tenantId := tenantId, role := role }
  refreshToken := (r.issued jwt userId tenantId familyId).token
  refreshTokenExpiresAt := (r.issued jwt userId tenantId familyId).expiresAt

end Request

def step (db : Db) : Step → Option Db
  | .request r =>
      if r.opensNew db then ((r.program jwt).run repositories () db).map Prod.snd else none
  | .memberships memberships => some { db with memberships := memberships }

/-- A token may be saved. -/
def Free (db : Db) (token : RefreshToken) : Prop :=
  ∀ row ∈ db.refreshTokens.rows, row.id ≠ token.id ∧ row.tokenHash ≠ token.tokenHash

/-- How a request is served: what it answers and the database it leaves. -/
inductive Served (db : Db) (r : Request) : Except IamError Output → Db → Prop where
  | opened {userId : UserId} {tenantId : TenantId} {role : Role}
      (demand : r.demand = .openSession userId tenantId role)
      (free : Free db (r.minted jwt (r.now 0) userId tenantId ⟨r.familyId⟩)) :
      Served db r (.ok (.tokens (r.handedOut jwt userId tenantId role ⟨r.familyId⟩)))
        ((Write.insertRefreshToken (r.minted jwt (r.now 0) userId tenantId ⟨r.familyId⟩)).apply db)
  | refreshUnknown {token : String} (demand : r.demand = .useCase (.refreshTokens ⟨token⟩))
      (unknown : r.finds jwt db token = none) : Served db r (.error .refreshTokenInvalid) db
  | reused {token : String} {stored : RefreshToken} (demand : r.demand = .useCase (.refreshTokens ⟨token⟩))
      (found : r.finds jwt db token = some stored) (spent : stored.isSpent = true) :
      Served db r (.error .refreshTokenReuse)
        ((Write.revokeFamily stored.tenantId stored.familyId (r.now 0)).apply db)
  | expired {token : String} {stored : RefreshToken} (demand : r.demand = .useCase (.refreshTokens ⟨token⟩))
      (found : r.finds jwt db token = some stored) (unspent : stored.isSpent = false)
      (expired : stored.isExpired (r.now 0) = true) : Served db r (.error .refreshTokenInvalid) db
  | noMember {token : String} {stored : RefreshToken} (demand : r.demand = .useCase (.refreshTokens ⟨token⟩))
      (found : r.finds jwt db token = some stored) (unspent : stored.isSpent = false)
      (valid : stored.isExpired (r.now 0) = false)
      (stranger : db.memberships.find? (stored.tenantId, stored.userId) = none) :
      Served db r (.error .invalidCredentials) db
  | rotated {token : String} {stored : RefreshToken} {membership : MembershipRow}
      (demand : r.demand = .useCase (.refreshTokens ⟨token⟩))
      (found : r.finds jwt db token = some stored) (unspent : stored.isSpent = false)
      (valid : stored.isExpired (r.now 0) = false)
      (member : db.memberships.find? (stored.tenantId, stored.userId) = some membership)
      (free : Free ((Write.markRotated stored.tenantId stored.id (r.now 0)).apply db)
        (r.minted jwt (r.now 1) stored.userId stored.tenantId stored.familyId)) :
      Served db r (.ok (.tokens (r.handedOut jwt stored.userId stored.tenantId membership.role stored.familyId)))
        ((Write.insertRefreshToken (r.minted jwt (r.now 1) stored.userId stored.tenantId stored.familyId)).apply
          ((Write.markRotated stored.tenantId stored.id (r.now 0)).apply db))
  | logoutUnknown {token : String} (demand : r.demand = .useCase (.logout ⟨token⟩))
      (unknown : r.finds jwt db token = none) : Served db r (.ok .done) db
  | loggedOut {token : String} {stored : RefreshToken} (demand : r.demand = .useCase (.logout ⟨token⟩))
      (found : r.finds jwt db token = some stored) :
      Served db r (.ok .done) ((Write.revokeFamily stored.tenantId stored.familyId (r.now 0)).apply db)

variable {jwt}

/-- What a presented token leads to is stored under its hash, in the tenant it names. -/
theorem Request.finds_spec {r : Request} {db : Db} {token : String} {stored : RefreshToken}
    (found : r.finds jwt db token = some stored) :
    stored ∈ db.refreshTokens.rows ∧ stored.tokenHash = JwtTokenService.hashRefreshToken jwt token ∧
      ∃ claims, JwtTokenService.verifyRefreshToken jwt r.verifiedAt token = some claims ∧
        stored.tenantId = claims.tenantId := by
  obtain ⟨claims, verified, first⟩ := Option.bind_eq_some_iff.mp found
  obtain ⟨inside, passes⟩ := Table.findFirst_mem first
  simp only [Bool.and_eq_true, decide_eq_true_eq] at passes
  exact ⟨inside, passes.1, claims, verified, passes.2⟩

theorem Request.family?_refresh {r : Request} {db : Db} {token : String}
    (demand : r.demand = .useCase (.refreshTokens ⟨token⟩)) :
    r.family? jwt db = (r.finds jwt db token).map RefreshToken.family := by
  rw [family?, demand]

theorem Request.family?_logout {r : Request} {db : Db} {token : String}
    (demand : r.demand = .useCase (.logout ⟨token⟩)) :
    r.family? jwt db = (r.finds jwt db token).map RefreshToken.family := by
  rw [family?, demand]

/-- Saving a token throws unless its id and its hash are free. -/
theorem exec_save_eq (token : RefreshToken) (db : Db) [Decidable (Free db token)] :
    exec (.refreshTokensSave token) db = if Free db token then some ((), [.insertRefreshToken token]) else none := by
  by_cases taken : db.refreshTokens.any (fun row => row.id = token.id || row.tokenHash = token.tokenHash) = true
  · have notFree : ¬Free db token := by
      intro free
      obtain ⟨row, inside, same⟩ := List.any_eq_true.mp taken
      simp only [Bool.or_eq_true, decide_eq_true_eq] at same
      exact same.elim (free row inside).1 (free row inside).2
    simp only [exec, if_pos taken, if_neg notFree]
  · have free : Free db token := by simpa [Free, Table.any, not_or] using taken
    simp only [exec, if_neg taken, if_pos free]

theorem run_save (token : RefreshToken) {α : Type} (next : Unit → Proc sig α) (db : Db) (a : α) (db' : Db) :
    (Proc.call (S := sig) (.refreshTokensSave token) next).run repositories () db = some (a, db') ↔
      Free db token ∧
        (next ()).run repositories () ((Write.insertRefreshToken token).apply db) = some (a, db') := by
  classical
  have saved := exec_save_eq token db
  by_cases free : Free db token
  · rw [if_pos free] at saved
    rw [Proc.run_call saved]
    simp [free, Handler.applyAll]
  · rw [if_neg free] at saved
    rw [Proc.run_call_failed saved]
    simp [free]

section Programs

variable {r : Request} {db db' : Db} {out : Except IamError Output} {token : String}

/-- A request is served in one way. -/
theorem Served.unique {out₁ out₂ : Except IamError Output} {db₁ db₂ : Db} (first : Served jwt db r out₁ db₁)
    (second : Served jwt db r out₂ db₂) : out₁ = out₂ ∧ db₁ = db₂ := by
  cases first <;> cases second <;> simp_all

/-- What a run comes to is told by one way of serving the request. -/
theorem ran_iff {ran : Option (Except IamError Output × Db)} {out' : Except IamError Output} {db'' : Db}
    (isRan : ran = some (out', db'')) (served : Served jwt db r out' db'') :
    ran = some (out, db') ↔ Served jwt db r out db' := by
  rw [isRan, Option.some.injEq, Prod.mk.injEq]
  constructor
  · rintro ⟨rfl, rfl⟩
    exact served
  · exact served.unique

theorem run_openSession {userId : UserId} {tenantId : TenantId} {role : Role}
    (demand : r.demand = .openSession userId tenantId role) :
    (r.program jwt).run repositories () db = some (out, db') ↔ Served jwt db r out db' := by
  have isProgram : r.program jwt = .call (S := sig)
      (.refreshTokensSave (r.minted jwt (r.now 0) userId tenantId ⟨r.familyId⟩))
      fun _ => .done (.ok (.tokens (r.handedOut jwt userId tenantId role ⟨r.familyId⟩))) := by
    simp only [Request.program, demand]
    rfl
  rw [isProgram, run_save, Proc.run_done, Option.some.injEq, Prod.mk.injEq]
  constructor
  · rintro ⟨free, rfl, rfl⟩
    exact .opened demand free
  · intro served
    cases served with
    | opened demand' free =>
        cases demand.symm.trans demand'
        exact ⟨free, rfl, rfl⟩
    | _ demand' => cases demand.symm.trans demand'

/-- The search of a presented token finds what the token leads to. -/
theorem run_findByHash {claims : RefreshTokenClaims}
    (verified : JwtTokenService.verifyRefreshToken jwt r.verifiedAt token = some claims) {α : Type}
    (next : Option RefreshToken → Proc sig α) :
    (Proc.call (S := sig) (.refreshTokensFindByHash claims.tenantId (JwtTokenService.hashRefreshToken jwt token))
      next).run repositories () db = (next (r.finds jwt db token)).run repositories () db := by
  have answered : exec (.refreshTokensFindByHash claims.tenantId (JwtTokenService.hashRefreshToken jwt token)) db =
      some (r.finds jwt db token, []) := by
    rw [Request.finds, verified]
    rfl
  rw [Proc.run_call answered, Handler.applyAll_nil]

theorem run_refresh (demand : r.demand = .useCase (.refreshTokens ⟨token⟩)) :
    (r.program jwt).run repositories () db = some (out, db') ↔ Served jwt db r out db' := by
  cases verified : JwtTokenService.verifyRefreshToken jwt r.verifiedAt token with
  | none =>
      have unknown : r.finds jwt db token = none := by rw [Request.finds, verified, Option.bind_none]
      refine ran_iff ?_ (.refreshUnknown demand unknown)
      simp [Request.program, demand, Execution.program, RefreshTokens.execute, Request.ambient,
        JwtTokenService.service, verified, Except.map]
  | some claims =>
      simp only [Request.program, demand, Execution.program, RefreshTokens.execute, Request.ambient,
        JwtTokenService.service, verified, RefreshTokenRepository.findByHash, Proc.ask, Proc.call_bind,
        Proc.map_call, run_findByHash verified]
      cases found : r.finds jwt db token with
      | none => exact ran_iff rfl (.refreshUnknown demand found)
      | some stored =>
          obtain ⟨_, _, claims', verified', sameTenant⟩ := Request.finds_spec found
          cases verified.symm.trans verified'
          simp only [Proc.done_bind, ← sameTenant]
          by_cases spent : stored.isSpent = true
          · rw [if_pos spent]
            exact ran_iff rfl (.reused demand found spent)
          · rw [if_neg spent]
            rw [Bool.not_eq_true] at spent
            by_cases expired : stored.isExpired (r.now 0) = true
            · rw [if_pos expired]
              exact ran_iff rfl (.expired demand found spent expired)
            · rw [if_neg expired]
              rw [Bool.not_eq_true] at expired
              have answered : exec (.membershipsFindByUserId stored.tenantId stored.userId) db =
                  some (db.memberships.find? (stored.tenantId, stored.userId), []) := rfl
              simp only [MembershipRepository.findByUserId, Proc.ask, Proc.call_bind, Proc.map_call]
              rw [Proc.run_call answered, Handler.applyAll_nil]
              cases member : db.memberships.find? (stored.tenantId, stored.userId) with
              | none => exact ran_iff rfl (.noMember demand found spent expired member)
              | some membership =>
                  have marked : exec (.refreshTokensMarkRotated stored.tenantId stored.id (r.now 0)) db =
                      some ((), [.markRotated stored.tenantId stored.id (r.now 0)]) := rfl
                  simp only [Proc.done_bind, RefreshTokenRepository.markRotated, Proc.ask, Proc.call_bind,
                    Proc.map_call]
                  rw [Proc.run_call marked]
                  have save := run_save (r.minted jwt (r.now 1) stored.userId stored.tenantId stored.familyId)
                    (fun _ => .done (.ok (.tokens
                      (r.handedOut jwt stored.userId stored.tenantId membership.role stored.familyId))))
                    ((Write.markRotated stored.tenantId stored.id (r.now 0)).apply db) out db'
                  apply save.trans
                  constructor
                  · rintro ⟨free, ran⟩
                    cases ran
                    exact .rotated demand found spent expired member free
                  · intro served
                    cases served with
                    | rotated demand' found' _ _ member' free =>
                        cases demand.symm.trans demand'
                        cases found.symm.trans found'
                        cases member.symm.trans member'
                        exact ⟨free, rfl⟩
                    | _ => simp_all

theorem run_logout (demand : r.demand = .useCase (.logout ⟨token⟩)) :
    (r.program jwt).run repositories () db = some (out, db') ↔ Served jwt db r out db' := by
  cases verified : JwtTokenService.verifyRefreshToken jwt r.verifiedAt token with
  | none =>
      have unknown : r.finds jwt db token = none := by rw [Request.finds, verified, Option.bind_none]
      refine ran_iff ?_ (.logoutUnknown demand unknown)
      simp [Request.program, demand, Execution.program, Logout.execute, Request.ambient,
        JwtTokenService.service, verified, Except.map]
  | some claims =>
      simp only [Request.program, demand, Execution.program, Logout.execute, Request.ambient,
        JwtTokenService.service, verified, RefreshTokenRepository.findByHash, Proc.ask, Proc.call_bind,
        Proc.map_call, run_findByHash verified]
      cases found : r.finds jwt db token with
      | none => exact ran_iff rfl (.logoutUnknown demand found)
      | some stored =>
          obtain ⟨_, _, claims', verified', sameTenant⟩ := Request.finds_spec found
          cases verified.symm.trans verified'
          rw [← sameTenant]
          exact ran_iff rfl (.loggedOut demand found)

end Programs

/-- A request is served this way exactly if it ends so without an exception. -/
theorem served_iff {r : Request} {db db' : Db} {out : Except IamError Output} :
    (r.program jwt).run repositories () db = some (out, db') ↔ Served jwt db r out db' := by
  cases demand : r.demand with
  | openSession userId tenantId role => exact run_openSession demand
  | useCase useCase =>
      cases useCase with
      | refreshTokens input => exact run_refresh demand
      | logout input => exact run_logout demand

end Serving

end Helpdesk.Iam
