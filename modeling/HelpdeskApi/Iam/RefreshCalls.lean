/-
Module: HelpdeskApi.Iam.RefreshCalls
Layer: Application
Purpose: A refresh with every call it waits for, so that each of them may throw: those of the repositories
  and those that sign the new tokens. With the answers of the token service given it is
  `RefreshTokens.execute`.
Trusted boundary: human-reviewed spec
Main exports: SigningCall, SessionIssuer.issueCalls, RefreshTokens.executeCalls,
  RefreshTokens.resolve_executeCalls, RefreshTokens.attempt, RefreshTokens.execute_of_attempt,
  RefreshTokens.history_of_attempt
-/
import HelpdeskApi.Iam.SerialSessions
import HelpdeskApi.Library.Faults

namespace Helpdesk.Iam

open Relational Txn Transition

/-- The calls of the token service that a session is minted with. Verifying a token answers `null` where
    the library throws, and hashing one is no call that is waited for. -/
inductive SigningCall where
  | signAccessToken (claims : AccessTokenClaims)
  | issueRefreshToken (userId : UserId) (tenantId : TenantId) (familyId : RefreshFamilyId)

@[reducible] def SigningCall.Reply : SigningCall → Type
  | .signAccessToken _ => String
  | .issueRefreshToken _ _ _ => IssuedRefreshToken

abbrev signing : Signature where
  Call := SigningCall
  Reply := SigningCall.Reply

def TokenService.sign (service : TokenService) : (c : SigningCall) → c.Reply
  | .signAccessToken claims => service.signAccessToken claims
  | .issueRefreshToken userId tenantId familyId => service.issueRefreshToken userId tenantId familyId

/-- A call of a repository, among the calls of a refresh. -/
@[simp] def repository (c : Call) : Proc (sig.sum signing) c.Reply :=
  .ask (S := sig.sum signing) (.inl c)

/-- A call of the token service, among the calls of a refresh. -/
@[simp] def tokenService (c : SigningCall) : Proc (sig.sum signing) c.Reply :=
  .ask (S := sig.sum signing) (.inr c)

/-- `SessionIssuer.issue`, call by call. -/
def SessionIssuer.issueCalls (now : Instant) (userId : UserId) (tenantId : TenantId) (role : Role)
    (familyId : RefreshFamilyId) : Proc (sig.sum signing) AuthTokens := do
  let accessToken ← tokenService (.signAccessToken { userId := userId, tenantId := tenantId, role := role })
  let issued ← tokenService (.issueRefreshToken userId tenantId familyId)
  let refreshToken :=
    RefreshToken.issue ⟨issued.tokenId⟩ tenantId userId familyId issued.tokenHash issued.expiresAt now
  repository (.refreshTokensSave refreshToken)
  return {
    accessToken := accessToken
    refreshToken := issued.token
    refreshTokenExpiresAt := issued.expiresAt }

namespace RefreshTokens

/-- What is left once the member is found: the token is marked, and its successor is minted. -/
def rotateCalls (ambient : Ambient) (tenantId : TenantId) (stored : RefreshToken) (membership : MembershipRow) :
    Proc (sig.sum signing) (Except IamError AuthTokens) := do
  repository (.refreshTokensMarkRotated tenantId stored.id (ambient.now 0))
  let tokens ← SessionIssuer.issueCalls (ambient.now 1) stored.userId tenantId membership.role stored.familyId
  return .ok tokens

/-- What is left for a stored token that is unspent. -/
def unspentCalls (ambient : Ambient) (tenantId : TenantId) (stored : RefreshToken) :
    Proc (sig.sum signing) (Except IamError AuthTokens) :=
  if stored.isExpired (ambient.now 0) then return .error .refreshTokenInvalid
  else do
    match ← repository (.membershipsFindByUserId tenantId stored.userId) with
    | none => return .error .invalidCredentials
    | some membership => rotateCalls ambient tenantId stored membership

/-- `RefreshTokens.execute`, call by call. -/
def executeCalls (input : RefreshTokensInput) (ambient : Ambient) :
    Proc (sig.sum signing) (Except IamError AuthTokens) :=
  match ambient.tokenService.verifyRefreshToken input.refreshToken with
  | none => return .error .refreshTokenInvalid
  | some claims => do
      let tenantId := claims.tenantId
      let tokenHash := ambient.tokenService.hashRefreshToken input.refreshToken
      match ← repository (.refreshTokensFindByHash tenantId tokenHash) with
      | none => return .error .refreshTokenInvalid
      | some stored =>
          if stored.isSpent then
            repository (.refreshTokensRevokeFamily tenantId stored.familyId (ambient.now 0))
            return .error .refreshTokenReuse
          else unspentCalls ambient tenantId stored

/-- With the answers of the token service given, these are the calls of `execute`. -/
theorem resolve_executeCalls (input : RefreshTokensInput) (ambient : Ambient) :
    (executeCalls input ambient).resolve ambient.tokenService.sign = execute input ambient := by
  unfold executeCalls execute
  cases ambient.tokenService.verifyRefreshToken input.refreshToken with
  | none => rfl
  | some claims =>
      refine congrArg (Proc.call (S := sig) _) (funext fun found => ?_)
      cases found with
      | none => rfl
      | some stored =>
          change Proc.resolve _ (if stored.isSpent = true then _ else unspentCalls ambient claims.tenantId stored) =
            (if stored.isSpent = true then _ else if _ then _ else _)
          by_cases spent : stored.isSpent = true
          · rw [if_pos spent, if_pos spent]
            rfl
          · rw [if_neg spent, if_neg spent, unspentCalls]
            by_cases expired : stored.isExpired (ambient.now 0) = true
            · rw [if_pos expired, if_pos expired]
              rfl
            · rw [if_neg expired, if_neg expired]
              refine congrArg (Proc.call (S := sig) _) (funext fun member => ?_)
              cases member with
              | none => rfl
              | some membership => rfl

/-- A refresh where `fate n` becomes of its `n`-th call: its answer, or `none` where it throws, and the
    database it leaves. -/
def attempt (input : RefreshTokensInput) (ambient : Ambient) (fate : Nat → Fate) (db : Db) :
    Option (Except IamError AuthTokens) × Db :=
  (executeCalls input ambient).attempt repositories () ambient.tokenService.sign fate db

end RefreshTokens

/-- What a search by hash answers. -/
def Db.byHash (db : Db) (tenantId : TenantId) (tokenHash : String) : Option RefreshToken :=
  db.refreshTokens.findFirst fun r => r.tokenHash = tokenHash && r.tenantId = tenantId

/-- A search goes on finding the row it found, with what the statement makes of it. -/
theorem Write.byHash_apply {w : Write} {db : Db} {tenantId : TenantId} {tokenHash : String} {old : RefreshToken}
    (found : db.byHash tenantId tokenHash = some old) :
    ∃ new, (w.apply db).byHash tenantId tokenHash = some new ∧ w.RowAfter old new := by
  unfold Db.byHash at found ⊢
  cases w with
  | insertRefreshToken token =>
      exact ⟨old, Table.findFirst_insert_of_found found _, rowAfter_insert token old⟩
  | markRotated tenantId' id when =>
      exact ⟨_, (Table.findFirst_updateWhere db.refreshTokens (rotates tenantId' id)
        (fun r => { r with rotatedAt := some when }) (fun _ => rfl) fun _ => rfl).trans (congrArg _ found),
        rowAfter_markRotated tenantId' id when old⟩
  | revokeFamily tenantId' familyId when =>
      exact ⟨_, (Table.findFirst_updateWhere db.refreshTokens (revokes tenantId' familyId)
        (fun r => { r with revokedAt := some when }) (fun _ => rfl) fun _ => rfl).trans (congrArg _ found),
        rowAfter_revokeFamily tenantId' familyId when old⟩

namespace RefreshTokens

section Attempts

variable {db : Db} {input : RefreshTokensInput} {ambient : Ambient} {claims : RefreshTokenClaims}
  {stored : RefreshToken} {fate : Nat → Fate}

/-- An unspent token is found, unless the search throws. -/
theorem attempt_of_found (verified : ambient.tokenService.verifyRefreshToken input.refreshToken = some claims)
    (found : db.byHash claims.tenantId (ambient.tokenService.hashRefreshToken input.refreshToken) = some stored)
    (unspent : stored.isSpent = false) :
    attempt input ambient fate db =
      if fate 0 = .answers then
        (unspentCalls ambient claims.tenantId stored).attempt repositories () ambient.tokenService.sign
          (fun n => fate (n + 1)) db
      else (none, db) := by
  have answered : exec (.refreshTokensFindByHash claims.tenantId
      (ambient.tokenService.hashRefreshToken input.refreshToken)) db = some (some stored, []) := by
    rw [← found]
    rfl
  simp only [attempt, executeCalls, verified]
  refine (Proc.attempt_store (η := repositories) answered).trans ?_
  cases becomes : fate 0 with
  | answers =>
      change (if stored.isSpent = true then _ else _ : Proc _ _).attempt _ _ _ _ _ = _
      rw [if_neg (by rw [unspent]; exact Bool.false_ne_true), if_pos rfl]
      rfl
  | throws => rfl
  | lost => rfl

/-- Where every call answers, an attempt is the request of `execute`. -/
theorem attempt_of_execute {outcome : Except IamError AuthTokens} {db' : Db} (answers : ∀ n, fate n = .answers)
    (served : (execute input ambient).run repositories () db = some (outcome, db')) :
    attempt input ambient fate db = (some outcome, db') := by
  rw [← resolve_executeCalls] at served
  exact Proc.attempt_of_run answers served

/-- An attempt that comes to its end is the request of `execute`. -/
theorem execute_of_attempt {outcome : Except IamError AuthTokens} {db' : Db}
    (ended : attempt input ambient fate db = (some outcome, db')) :
    (execute input ambient).run repositories () db = some (outcome, db') := by
  rw [← resolve_executeCalls]
  exact Proc.run_of_attempt ended

/-- Among the interleaved requests an attempt is one that makes its calls with nobody coming in between,
    and that dies where a call has thrown. -/
theorem history_of_attempt {c : Config iam} {i : Nat} {s : Session iam} (found : c.sessions[i]? = some s)
    (asked : s.job = ⟨.refreshTokens input, ambient⟩) (fresh : s.trace = [])
    (running : s.status = .running s.job.program) (fate : Nat → Fate) :
    ∃ history c' s', Run Config.step c history c' ∧ c'.sessions[i]? = some s' ∧ s'.job = s.job ∧
      c'.db = (attempt input ambient fate c.db).2 ∧
      s'.status = (attempt input ambient fate c.db).1.elim .aborted
        fun outcome => .running (.done (outcome.map .tokens)) := by
  let calls := (fun outcome : Except IamError AuthTokens => outcome.map Output.tokens) <$> executeCalls input ambient
  have resolved : s.job.program = calls.resolve ambient.tokenService.sign := by
    rw [asked, Proc.resolve_map, resolve_executeCalls]
    rfl
  obtain ⟨history, c', s', run, found', sameJob, left, status⟩ :=
    Config.run_attempt (p := calls) found (running.trans (congrArg _ resolved)) (by rw [fresh]; rfl) fate
  rw [Proc.attempt_map] at left status
  refine ⟨history, c', s', run, found', sameJob, left, status.trans ?_⟩
  change Option.elim (Option.map _ (attempt input ambient fate c.db).1) _ _ = _
  cases (attempt input ambient fate c.db).1 with
  | none => rfl
  | some outcome => rfl

end Attempts

end RefreshTokens

end Helpdesk.Iam
