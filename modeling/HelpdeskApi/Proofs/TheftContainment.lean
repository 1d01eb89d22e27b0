/-
Module: HelpdeskApi.Proofs.TheftContainment
Layer: Proofs
Purpose: Sessions whose requests are served one at a time, with tokens presented by whoever holds them. A
  family never has two live tokens; a family that a reuse or a logout has ended stays ended; and what
  happens on one family is as good as not there for all others.
Trusted boundary: none
Main exports: OneLive, Ended, Db.without, Contained, theft_contained
-/
import HelpdeskApi.Iam.SerialSessions

namespace Helpdesk.Iam

open Relational Txn Transition

variable (jwt : Jwt)

/-- The token has been handed out for the family. -/
def Issued (history : List (Db × Step)) (token : String) (family : TenantId × RefreshFamilyId) : Prop :=
  ∃ db r tokens, (db, .request r) ∈ history ∧ r.answer jwt db = some (.ok (.tokens tokens)) ∧
    tokens.refreshToken = token ∧ r.family? jwt db = some family

/-- A request ends the family: a refresh with one of its tokens is answered with reuse, or a logout
    presents one that verifies. -/
inductive Ends (before : List (Db × Step)) (db : Db) (r : Request) (family : TenantId × RefreshFamilyId) : Prop where
  | reuse {token : String} (demand : r.demand = .useCase (.refreshTokens ⟨token⟩))
      (issued : Issued jwt before token family) (answer : r.answer jwt db = some (.error .refreshTokenReuse))
  | logout {token : String} (demand : r.demand = .useCase (.logout ⟨token⟩))
      (issued : Issued jwt before token family)
      (verified : (JwtTokenService.verifyRefreshToken jwt r.verifiedAt token).isSome = true)

def Ended (history : List (Db × Step)) (family : TenantId × RefreshFamilyId) : Prop :=
  ∃ before db r after, history = before ++ (db, .request r) :: after ∧ Ends jwt before db r family

/-- No family has two tokens that are neither rotated nor revoked. -/
def OneLive (db : Db) : Prop :=
  ∀ row ∈ db.refreshTokens.rows, ∀ row' ∈ db.refreshTokens.rows, row.family = row'.family →
    row.isSpent = false → row'.isSpent = false → row = row'

/-- The database as it is for those who do not know of the family. -/
def Db.without (family : TenantId × RefreshFamilyId) (db : Db) : Db where
  memberships := db.memberships
  refreshTokens := db.refreshTokens.filter fun row => row.family ≠ family

/-- Whether a step is a request on the family. -/
def Step.isOn (family : TenantId × RefreshFamilyId) (db : Db) : Step → Bool
  | .request r => r.family? jwt db = some family
  | .memberships _ => false

/-- The steps of a history that are not on the family, each in the database without it. -/
def others (family : TenantId × RefreshFamilyId) (history : List (Db × Step)) : List (Db × Step) :=
  (history.filter fun entry => !entry.2.isOn jwt family entry.1).map fun entry => (entry.1.without family, entry.2)

/-- What holds of every run that has led to `db`. -/
structure Contained (memberships : Table MembershipRow) (history : List (Db × Step)) (db : Db) : Prop where
  oneLive : OneLive db
  /-- No token of a family that has been ended is good for anything, whoever presents it. -/
  ended : ∀ family, Ended jwt history family → ∀ (r : Request) (token : String),
    r.demand = .useCase (.refreshTokens ⟨token⟩) → Issued jwt history token family →
      ∀ out, r.answer jwt db ≠ some (.ok out)
  /-- A request on one family leaves the tokens of the others alone. -/
  untouched : ∀ family (r : Request) db', r.family? jwt db = some family →
    step jwt db (.request r) = some db' → db'.without family = db.without family
  /-- Without the requests on one family the others go the same way, -/
  unaffected : ∀ family,
    Run (step jwt) (noSessions memberships) (others jwt family history) (db.without family)
  /-- and with the same answers. -/
  answered : ∀ family before (r : Request), (before, .request r) ∈ history →
    r.family? jwt before ≠ some family → r.answer jwt (before.without family) = r.answer jwt before

section Steps

variable {jwt} {db db' : Db} {r : Request} {family : TenantId × RefreshFamilyId} {out : Except IamError Output}

theorem step_request (taken : step jwt db (.request r) = some db') :
    r.opensNew db = true ∧ ∃ out, Served jwt db r out db' ∧ r.answer jwt db = some out := by
  simp only [step] at taken
  split at taken
  · rename_i opensNew
    obtain ⟨⟨out, _⟩, ran, rfl⟩ := Option.map_eq_some_iff.mp taken
    exact ⟨opensNew, out, served_iff.mp ran, by rw [Request.answer, ran, Option.map_some]⟩
  · cases taken

theorem answer_of_served (served : Served jwt db r out db') : r.answer jwt db = some out := by
  rw [Request.answer, served_iff.mpr served, Option.map_some]

/-- A request that answers has been served. -/
theorem served_of_answer (answer : r.answer jwt db = some out) : ∃ db', Served jwt db r out db' := by
  obtain ⟨⟨_, db'⟩, ran, rfl⟩ := Option.map_eq_some_iff.mp answer
  exact ⟨db', served_iff.mp ran⟩

/-- A session is opened in a family without tokens. -/
theorem family_ne_of_opensNew (opensNew : r.opensNew db = true) {userId : UserId} {tenantId : TenantId}
    {role : Role} (demand : r.demand = .openSession userId tenantId role) :
    ∀ row ∈ db.refreshTokens.rows, row.family ≠ (tenantId, ⟨r.familyId⟩) := by
  simpa [Request.opensNew, demand, Table.any] using opensNew

/-- Two rows that were one row are one row. -/
theorem eq_of_becomes {old row row' : RefreshToken} (member : row ∈ db.refreshTokens.rows)
    (member' : row' ∈ db.refreshTokens.rows) (becomes : old.Becomes row) (becomes' : old.Becomes row') :
    row = row' :=
  Table.eq_of_key member member' (becomes.id.trans becomes'.id.symm)

end Steps

section OneLive

variable {db : Db} {w : Write}

/-- A statement that only rewrites rows makes no token live. -/
theorem OneLive.rewrite (oneLive : OneLive db) (rewrites : ∀ token, w ≠ .insertRefreshToken token) :
    OneLive (w.apply db) := by
  have older {row : RefreshToken} (member : row ∈ (w.apply db).refreshTokens.rows) (live : row.isSpent = false) :
      ∃ old ∈ db.refreshTokens.rows, old.Becomes row ∧ old.isSpent = false := by
    rcases Write.mem_refreshTokens member with ⟨old, inside, after⟩ | ⟨token, isInsert, _⟩
    · refine ⟨old, inside, after.becomes, ?_⟩
      rw [← Bool.not_eq_true]
      intro spent
      exact Bool.false_ne_true (live.symm.trans (after.becomes.spent spent))
    · exact absurd isInsert (rewrites token)
  intro row member row' member' same live live'
  obtain ⟨old, inside, becomes, oldLive⟩ := older member live
  obtain ⟨old', inside', becomes', oldLive'⟩ := older member' live'
  have sameOld : old.family = old'.family := by rw [← becomes.family, same, becomes'.family]
  cases oneLive old inside old' inside' sameOld oldLive oldLive'
  exact eq_of_becomes member member' becomes becomes'

/-- A token may join a family without live tokens. -/
theorem OneLive.insert (oneLive : OneLive db) {token : RefreshToken}
    (noneLive : ∀ row ∈ db.refreshTokens.rows, row.family = token.family → row.isSpent = true) :
    OneLive ((Write.insertRefreshToken token).apply db) := by
  intro row member row' member' same live live'
  have spent {row : RefreshToken} (inside : row ∈ db.refreshTokens.rows) (live : row.isSpent = false)
      (joined : row.family = token.family) : False :=
    Bool.false_ne_true (live.symm.trans (noneLive row inside joined))
  rcases Table.mem_of_mem_insert member with old | rfl
  · rcases Table.mem_of_mem_insert member' with old' | rfl
    · exact oneLive row old row' old' same live live'
    · exact (spent old live same).elim
  · rcases Table.mem_of_mem_insert member' with old' | rfl
    · exact (spent old' live' same.symm).elim
    · rfl

end OneLive

section Invariants

/-- The family has tokens, and none of them is live. -/
structure Closed (family : TenantId × RefreshFamilyId) (db : Db) : Prop where
  some : ∃ row ∈ db.refreshTokens.rows, row.family = family
  spent : ∀ row ∈ db.refreshTokens.rows, row.family = family → row.isSpent = true

variable {jwt} {db db' : Db} {r : Request} {family : TenantId × RefreshFamilyId} {out : Except IamError Output}

/-- What is left of a family once its live token has been rotated is spent. -/
theorem spent_of_marked {stored : RefreshToken} {now : Instant} (oneLive : OneLive db)
    (inside : stored ∈ db.refreshTokens.rows) (unspent : stored.isSpent = false) :
    ∀ row ∈ ((Write.markRotated stored.tenantId stored.id now).apply db).refreshTokens.rows,
      row.family = stored.family → row.isSpent = true := by
  intro row member same
  rcases Write.mem_refreshTokens member with ⟨old, oldInside, after⟩ | ⟨token, isInsert, _⟩
  · by_cases spent : old.isSpent = true
    · exact after.becomes.spent spent
    · rw [Bool.not_eq_true] at spent
      cases oneLive old oldInside stored inside (after.becomes.family.symm.trans same) spent unspent
      have rotated := after.rotated.mpr (.inr ⟨now, rfl⟩)
      simp [RefreshToken.isSpent, rotated]
  · cases isInsert

/-- After a family is revoked none of its tokens is live. -/
theorem spent_of_revoked {stored : RefreshToken} {now : Instant} :
    ∀ row ∈ ((Write.revokeFamily stored.tenantId stored.familyId now).apply db).refreshTokens.rows,
      row.family = stored.family → row.isSpent = true := by
  intro row member same
  rcases Write.mem_refreshTokens member with ⟨old, _, after⟩ | ⟨token, isInsert, _⟩
  · have sameOld := after.becomes.family.symm.trans same
    simp only [RefreshToken.family, Prod.mk.injEq] at sameOld
    have revoked := after.revoked.mpr (.inr ⟨now, by rw [sameOld.1, sameOld.2]⟩)
    simp [RefreshToken.isSpent, revoked]
  · cases isInsert

theorem Closed.revoke {stored : RefreshToken} {now : Instant} (inside : stored ∈ db.refreshTokens.rows) :
    Closed stored.family ((Write.revokeFamily stored.tenantId stored.familyId now).apply db) where
  some := by
    obtain ⟨row, found, after⟩ := Write.find?_refreshTokens (w := .revokeFamily stored.tenantId stored.familyId now)
      (Table.find?_key inside)
    exact ⟨row, Table.mem_of_find? found, after.becomes.family⟩
  spent := spent_of_revoked

theorem oneLive_of_served (oneLive : OneLive db) (opensNew : r.opensNew db = true)
    (served : Served jwt db r out db') : OneLive db' := by
  cases served with
  | opened demand _ =>
      apply oneLive.insert
      intro row inside same
      exact absurd same (family_ne_of_opensNew opensNew demand row inside)
  | rotated _ found unspent _ _ _ =>
      have inside := (Request.finds_spec found).1
      exact (oneLive.rewrite (by simp)).insert (spent_of_marked oneLive inside unspent)
  | reused _ _ _ => exact oneLive.rewrite (by simp)
  | loggedOut _ _ => exact oneLive.rewrite (by simp)
  | refreshUnknown | expired | noMember | logoutUnknown => exact oneLive

theorem uniqueHashes_of_served (unique : UniqueHashes db) (served : Served jwt db r out db') :
    UniqueHashes db' := by
  cases served with
  | opened demand free =>
      apply unique.apply
      intro token isInsert row inside
      cases isInsert
      exact (free row inside).2
  | rotated _ _ _ _ _ free =>
      apply UniqueHashes.apply (unique.apply (by simp))
      intro token isInsert row inside
      cases isInsert
      exact (free row inside).2
  | reused _ _ _ => exact unique.apply (by simp)
  | loggedOut _ _ => exact unique.apply (by simp)
  | refreshUnknown | expired | noMember | logoutUnknown => exact unique

/-- A row that is there stays there. -/
theorem row_of_served (served : Served jwt db r out db') {row : RefreshToken}
    (inside : row ∈ db.refreshTokens.rows) : ∃ row' ∈ db'.refreshTokens.rows, row.Becomes row' := by
  have kept (w : Write) {db : Db} {row : RefreshToken} (inside : row ∈ db.refreshTokens.rows) :
      ∃ row' ∈ (w.apply db).refreshTokens.rows, row.Becomes row' := by
    obtain ⟨row', found, after⟩ := w.find?_refreshTokens (Table.find?_key inside)
    exact ⟨row', Table.mem_of_find? found, after.becomes⟩
  cases served with
  | opened _ _ => exact kept _ inside
  | rotated _ _ _ _ _ _ =>
      obtain ⟨row', inside', becomes⟩ := kept (.markRotated _ _ (r.now 0)) inside
      obtain ⟨row'', inside'', becomes'⟩ := kept (.insertRefreshToken _) inside'
      exact ⟨row'', inside'', becomes.trans becomes'⟩
  | reused _ _ _ => exact kept _ inside
  | loggedOut _ _ => exact kept _ inside
  | refreshUnknown | expired | noMember | logoutUnknown => exact ⟨row, inside, .refl row⟩

/-- What a family was closed with stays as it is: no request gets a token of it any more. -/
theorem closed_of_served (closed : Closed family db) (opensNew : r.opensNew db = true)
    (served : Served jwt db r out db') : Closed family db' where
  some := by
    obtain ⟨row, inside, same⟩ := closed.some
    obtain ⟨row', inside', becomes⟩ := row_of_served served inside
    exact ⟨row', inside', becomes.family.trans same⟩
  spent := by
    have rewritten {w : Write} (rewrites : ∀ token, w ≠ .insertRefreshToken token) :
        ∀ row ∈ (w.apply db).refreshTokens.rows, row.family = family → row.isSpent = true := by
      intro row member same
      rcases w.mem_refreshTokens member with ⟨old, inside, after⟩ | ⟨token, isInsert, _⟩
      · exact after.becomes.spent (closed.spent old inside (after.becomes.family.symm.trans same))
      · exact absurd isInsert (rewrites token)
    cases served with
    | opened demand _ =>
        intro row member same
        rcases Table.mem_of_mem_insert member with inside | rfl
        · exact closed.spent row inside same
        · obtain ⟨old, inside, sameOld⟩ := closed.some
          exact absurd (sameOld.trans same.symm) (family_ne_of_opensNew opensNew demand old inside)
    | rotated _ found unspent _ _ _ =>
        intro row member same
        rcases Table.mem_of_mem_insert member with inside | rfl
        · exact rewritten (by simp) row inside same
        · -- the token that was rotated was live, so it is of another family
          have spent := closed.spent _ (Request.finds_spec found).1 same
          exact absurd (unspent.symm.trans spent) Bool.false_ne_true
    | reused _ _ _ => exact rewritten (by simp)
    | loggedOut _ _ => exact rewritten (by simp)
    | refreshUnknown | expired | noMember | logoutUnknown => exact closed.spent

end Invariants

section Tokens

variable {jwt} {db db' : Db} {r : Request} {family : TenantId × RefreshFamilyId} {out : Except IamError Output}
  {tokens : AuthTokens}

/-- What is known of a token that was handed out for a family: it was signed for it, and it is stored. -/
structure Recorded (jwt : Jwt) (db : Db) (token : String) (family : TenantId × RefreshFamilyId) : Prop where
  signed : ∃ (r : Request) (userId : UserId), token = (r.issued jwt userId family.1 family.2).token
  stored : ∃ row ∈ db.refreshTokens.rows, row.family = family ∧
    row.tokenHash = JwtTokenService.hashRefreshToken jwt token

theorem find?_of_free {token : RefreshToken} (free : Free db token) : db.refreshTokens.find? token.id = none := by
  apply Table.free_of_mem
  intro row inside
  exact (free row inside).1

theorem mem_insert_of_free {token : RefreshToken} (free : Free db token) :
    createRefreshTokenRow token ∈ ((Write.insertRefreshToken token).apply db).refreshTokens.rows :=
  Table.mem_of_find? (Table.find?_insert_self (r := createRefreshTokenRow token) (find?_of_free free))

/-- A token that is handed out is stored in the family of the request. -/
theorem recorded_of_served (served : Served jwt db r (.ok (.tokens tokens)) db')
    (isOn : r.family? jwt db = some family) : Recorded jwt db' tokens.refreshToken family := by
  cases served with
  | @opened userId tenantId role demand free =>
      have isFamily : (tenantId, ⟨r.familyId⟩) = family := by simpa [Request.family?, demand] using isOn
      subst isFamily
      exact ⟨⟨r, userId, rfl⟩, _, mem_insert_of_free free, rfl, rfl⟩
  | @rotated token stored membership demand found unspent valid member free =>
      have isFamily : stored.family = family := by simpa [Request.family?, demand, found] using isOn
      subst isFamily
      exact ⟨⟨r, stored.userId, rfl⟩, _, mem_insert_of_free free, rfl, rfl⟩

theorem Recorded.of_served {token : String} (recorded : Recorded jwt db token family)
    (served : Served jwt db r out db') : Recorded jwt db' token family where
  signed := recorded.signed
  stored := by
    obtain ⟨row, inside, sameFamily, sameHash⟩ := recorded.stored
    obtain ⟨row', inside', becomes⟩ := row_of_served served inside
    exact ⟨row', inside', becomes.family.trans sameFamily, becomes.tokenHash.trans sameHash⟩

/-- What a recorded token leads to is of its family. -/
theorem Recorded.family_of_finds {token : String} (recorded : Recorded jwt db token family)
    (unique : UniqueHashes db) {stored : RefreshToken} (found : r.finds jwt db token = some stored) :
    stored.family = family := by
  obtain ⟨row, inside, sameFamily, sameHash⟩ := recorded.stored
  obtain ⟨inside', sameHash', _⟩ := Request.finds_spec found
  have sameId := unique stored inside' row inside (sameHash'.trans sameHash.symm)
  rw [Table.eq_of_key inside' inside sameId, sameFamily]

/-- A recorded token that verifies leads to what is stored of it. -/
theorem Recorded.finds {token : String} (recorded : Recorded jwt db token family)
    (verified : (JwtTokenService.verifyRefreshToken jwt r.verifiedAt token).isSome = true) :
    ∃ stored, r.finds jwt db token = some stored := by
  obtain ⟨claims, isClaims⟩ := Option.isSome_iff_exists.mp verified
  obtain ⟨signer, userId, rfl⟩ := recorded.signed
  obtain ⟨row, inside, sameFamily, sameHash⟩ := recorded.stored
  have sameTenant : row.tenantId = claims.tenantId := by
    rw [JwtTokenService.verify_issued jwt isClaims, ← sameFamily]
    rfl
  rw [Request.finds, isClaims, Option.bind_some, ← Option.isSome_iff_exists]
  simp only [Table.findFirst, List.find?_isSome]
  exact ⟨row, inside, by simp [sameHash, sameTenant]⟩

end Tokens

section Runs

variable {jwt} {memberships : Table MembershipRow} {history : List (Db × Step)} {db : Db}
  {family : TenantId × RefreshFamilyId}

theorem oneLive_of_run (run : Run (step jwt) (noSessions memberships) history db) : OneLive db := by
  apply run.invariant
  · intro row inside
    cases inside
  · intro db s db' oneLive taken
    cases s with
    | request r =>
        obtain ⟨opensNew, out, served, _⟩ := step_request taken
        exact oneLive_of_served oneLive opensNew served
    | memberships memberships =>
        cases taken
        exact oneLive

theorem uniqueHashes_of_session_run (run : Run (step jwt) (noSessions memberships) history db) :
    UniqueHashes db := by
  apply run.invariant
  · intro row inside
    cases inside
  · intro db s db' unique taken
    cases s with
    | request r =>
        obtain ⟨_, out, served, _⟩ := step_request taken
        exact uniqueHashes_of_served unique served
    | memberships memberships =>
        cases taken
        exact unique

/-- Every token that has been handed out is recorded. -/
theorem recorded_of_issued (run : Run (step jwt) (noSessions memberships) history db) {token : String}
    (issued : Issued jwt history token family) : Recorded jwt db token family := by
  induction run with
  | start =>
      obtain ⟨_, _, _, inside, _⟩ := issued
      cases inside
  | @step history db db' s run taken ih =>
      obtain ⟨before, r, tokens, inside, answer, rfl, isOn⟩ := issued
      rcases List.mem_append.mp inside with older | newest
      · have recorded := ih ⟨before, r, tokens, older, answer, rfl, isOn⟩
        cases s with
        | request r' =>
            obtain ⟨_, out, served, _⟩ := step_request taken
            exact recorded.of_served served
        | memberships memberships =>
            cases taken
            exact ⟨recorded.signed, recorded.stored⟩
      · cases List.mem_singleton.mp newest
        obtain ⟨_, out, served, answer'⟩ := step_request taken
        cases answer.symm.trans answer'
        exact recorded_of_served served isOn

/-- The request that ends a family closes it. -/
theorem closed_of_ends {before : List (Db × Step)} {next : Db} {r : Request}
    (run : Run (step jwt) (noSessions memberships) before db) (taken : step jwt db (.request r) = some next)
    (ends : Ends jwt before db r family) : Closed family next := by
  obtain ⟨_, out, served, answer'⟩ := step_request taken
  cases ends with
  | reuse demand issued answer =>
      have recorded := recorded_of_issued run issued
      cases answer.symm.trans answer'
      cases served with
      | reused demand' found _ =>
          cases demand.symm.trans demand'
          rw [← recorded.family_of_finds (uniqueHashes_of_session_run run) found]
          exact .revoke (Request.finds_spec found).1
  | logout demand issued verified =>
      have recorded := recorded_of_issued run issued
      obtain ⟨stored, leads⟩ := recorded.finds verified
      cases served with
      | loggedOut demand' found =>
          cases demand.symm.trans demand'
          rw [← recorded.family_of_finds (uniqueHashes_of_session_run run) found]
          exact .revoke (Request.finds_spec found).1
      | logoutUnknown demand' unknown =>
          cases demand.symm.trans demand'
          cases leads.symm.trans unknown
      | _ demand' => cases demand.symm.trans demand'

theorem closed_of_ended (run : Run (step jwt) (noSessions memberships) history db)
    (ended : Ended jwt history family) : Closed family db := by
  obtain ⟨before, first, r, after, whole, ends⟩ := ended
  obtain ⟨next, earlier, taken, later⟩ := run.cut whole
  apply later.invariant (closed_of_ends earlier taken ends)
  intro db s db' closed made
  cases s with
  | request r' =>
      obtain ⟨opensNew, out, served, _⟩ := step_request made
      exact closed_of_served closed opensNew served
  | memberships memberships =>
      cases made
      exact ⟨closed.some, closed.spent⟩

/-- A refresh with a token of a closed family does not answer `Ok`. -/
theorem refused_of_closed {r : Request} {token : String} {out : Output} (closed : Closed family db)
    (unique : UniqueHashes db) (recorded : Recorded jwt db token family)
    (demand : r.demand = .useCase (.refreshTokens ⟨token⟩)) : r.answer jwt db ≠ some (.ok out) := by
  intro answer
  obtain ⟨db', served⟩ := served_of_answer answer
  cases served with
  | rotated demand' found unspent _ _ _ =>
      cases demand.symm.trans demand'
      have spent := closed.spent _ (Request.finds_spec found).1 (recorded.family_of_finds unique found)
      exact Bool.false_ne_true (unspent.symm.trans spent)
  | _ demand' => cases demand.symm.trans demand'

end Runs

section Frame

variable {jwt} {db db' : Db} {r : Request} {family : TenantId × RefreshFamilyId} {out : Except IamError Output}

theorem without_insert_of_family {token : RefreshToken} (same : token.family = family) :
    ((Write.insertRefreshToken token).apply db).without family = db.without family := by
  have fails : decide ((createRefreshTokenRow token).family ≠ family) = false := by
    rw [decide_eq_false_iff_not, not_not]
    exact same
  exact congrArg (Db.mk db.memberships) (Table.filter_insert_of_fail fails)

theorem without_insert_of_other {token : RefreshToken} (free : Free db token) (other : token.family ≠ family) :
    ((Write.insertRefreshToken token).apply db).without family =
      (Write.insertRefreshToken token).apply (db.without family) := by
  have passes : decide ((createRefreshTokenRow token).family ≠ family) = true := by
    rw [decide_eq_true_eq]
    exact other
  exact congrArg (Db.mk db.memberships) (Table.filter_insert_of_pass (find?_of_free free) passes)

theorem without_markRotated (tenantId : TenantId) (id : RefreshTokenId) (now : Instant) :
    ((Write.markRotated tenantId id now).apply db).without family =
      (Write.markRotated tenantId id now).apply (db.without family) := by
  exact congrArg (Db.mk db.memberships) (Table.filter_updateWhere _ _ _ _ fun _ => rfl)

theorem without_revokeFamily (tenantId : TenantId) (familyId : RefreshFamilyId) (now : Instant) :
    ((Write.revokeFamily tenantId familyId now).apply db).without family =
      (Write.revokeFamily tenantId familyId now).apply (db.without family) := by
  exact congrArg (Db.mk db.memberships) (Table.filter_updateWhere _ _ _ _ fun _ => rfl)

theorem without_markRotated_of_family {stored : RefreshToken} (inside : stored ∈ db.refreshTokens.rows)
    (now : Instant) :
    ((Write.markRotated stored.tenantId stored.id now).apply db).without stored.family =
      db.without stored.family := by
  refine congrArg (Db.mk db.memberships) (Table.filter_updateWhere_of_fail _ ?_ (fun _ => rfl) ?_)
  · exact fun _ => rfl
  intro row member hit
  simp only [Write.rotates, Bool.and_eq_true, decide_eq_true_eq] at hit
  rw [Table.eq_of_key member inside hit.1.1]
  simp

theorem without_revokeFamily_of_family (stored : RefreshToken) (now : Instant) :
    ((Write.revokeFamily stored.tenantId stored.familyId now).apply db).without stored.family =
      db.without stored.family := by
  refine congrArg (Db.mk db.memberships) (Table.filter_updateWhere_of_fail _ ?_ (fun _ => rfl) ?_)
  · exact fun _ => rfl
  intro row _ hit
  simp only [Write.revokes, Bool.and_eq_true, decide_eq_true_eq] at hit
  have same : row.family = stored.family := Prod.ext hit.1.2 hit.1.1
  simp [same]

theorem free_without {token : RefreshToken} (free : Free db token) : Free (db.without family) token := by
  intro row inside
  exact free row (List.mem_filter.mp inside).1

theorem opensNew_without (opensNew : r.opensNew db = true) : r.opensNew (db.without family) = true := by
  cases demand : r.demand with
  | openSession userId tenantId role =>
      have other := family_ne_of_opensNew opensNew demand
      simp only [Request.opensNew, demand, Table.any, Bool.not_eq_true', List.any_eq_false, decide_eq_true_eq]
      intro row inside
      exact other row (List.mem_filter.mp inside).1
  | useCase useCase => simp [Request.opensNew, demand]

/-- A token that leads to another family leads there without the family. -/
theorem finds_without {token : String}
    (other : ∀ stored, r.finds jwt db token = some stored → stored.family ≠ family) :
    r.finds jwt (db.without family) token = r.finds jwt db token := by
  unfold Request.finds at other ⊢
  cases verified : JwtTokenService.verifyRefreshToken jwt r.verifiedAt token with
  | none => rfl
  | some claims =>
      rw [verified] at other
      apply Table.findFirst_filter
      intro stored found
      simpa using other stored found

/-- A request on the family does not touch the others. -/
theorem without_of_on (served : Served jwt db r out db') (isOn : r.family? jwt db = some family) :
    db'.without family = db.without family := by
  cases served with
  | opened demand free =>
      rw [Request.family?, demand] at isOn
      exact without_insert_of_family (Option.some.inj isOn)
  | rotated demand found _ _ _ free =>
      obtain ⟨_, isStored, isFamily⟩ := Option.map_eq_some_iff.mp (Request.family?_refresh demand ▸ isOn)
      cases found.symm.trans isStored
      subst isFamily
      exact (without_insert_of_family rfl).trans (without_markRotated_of_family (Request.finds_spec found).1 _)
  | reused demand found _ =>
      obtain ⟨_, isStored, isFamily⟩ := Option.map_eq_some_iff.mp (Request.family?_refresh demand ▸ isOn)
      cases found.symm.trans isStored
      subst isFamily
      exact without_revokeFamily_of_family _ _
  | loggedOut demand found =>
      obtain ⟨_, isStored, isFamily⟩ := Option.map_eq_some_iff.mp (Request.family?_logout demand ▸ isOn)
      cases found.symm.trans isStored
      subst isFamily
      exact without_revokeFamily_of_family _ _
  | refreshUnknown | expired | noMember | logoutUnknown => rfl

/-- A request that is not on the family goes the same way without it. -/
theorem served_without (served : Served jwt db r out db') (notOn : r.family? jwt db ≠ some family) :
    Served jwt (db.without family) r out (db'.without family) := by
  have leads {token : String} (presents : r.family? jwt db = (r.finds jwt db token).map RefreshToken.family) :
      r.finds jwt (db.without family) token = r.finds jwt db token := by
    apply finds_without
    intro stored found same
    rw [presents, found, Option.map_some, same] at notOn
    exact notOn rfl
  have other {token : String} {stored : RefreshToken}
      (presents : r.family? jwt db = (r.finds jwt db token).map RefreshToken.family)
      (found : r.finds jwt db token = some stored) : stored.family ≠ family := by
    intro same
    rw [presents, found, Option.map_some, same] at notOn
    exact notOn rfl
  cases served with
  | opened demand free =>
      rw [without_insert_of_other free fun same => notOn (by rw [Request.family?, demand]; exact congrArg some same)]
      exact .opened demand (free_without free)
  | rotated demand found unspent valid member free =>
      have notFamily := other (Request.family?_refresh demand) found
      rw [without_insert_of_other free notFamily, without_markRotated]
      exact .rotated demand ((leads (Request.family?_refresh demand)).trans found) unspent valid member
        (without_markRotated _ _ _ ▸ free_without free)
  | refreshUnknown demand unknown =>
      exact .refreshUnknown demand ((leads (Request.family?_refresh demand)).trans unknown)
  | expired demand found unspent expired =>
      exact .expired demand ((leads (Request.family?_refresh demand)).trans found) unspent expired
  | noMember demand found unspent valid stranger =>
      exact .noMember demand ((leads (Request.family?_refresh demand)).trans found) unspent valid stranger
  | reused demand found spent =>
      rw [without_revokeFamily]
      exact .reused demand ((leads (Request.family?_refresh demand)).trans found) spent
  | logoutUnknown demand unknown =>
      exact .logoutUnknown demand ((leads (Request.family?_logout demand)).trans unknown)
  | loggedOut demand found =>
      rw [without_revokeFamily]
      exact .loggedOut demand ((leads (Request.family?_logout demand)).trans found)

end Frame

section Containment

variable {jwt} {memberships : Table MembershipRow} {history : List (Db × Step)} {db db' : Db} {r : Request}
  {family : TenantId × RefreshFamilyId}

theorem others_append (history : List (Db × Step)) (db : Db) (s : Step) :
    others jwt family (history ++ [(db, s)]) = others jwt family history ++
      if s.isOn jwt family db then [] else [(db.without family, s)] := by
  by_cases isOn : s.isOn jwt family db = true <;> simp [others, isOn]

theorem step_without (taken : step jwt db (.request r) = some db') (notOn : r.family? jwt db ≠ some family) :
    step jwt (db.without family) (.request r) = some (db'.without family) ∧
      r.answer jwt (db.without family) = r.answer jwt db := by
  obtain ⟨opensNew, out, served, answer⟩ := step_request taken
  have served' := served_without served notOn
  constructor
  · simp only [step]
    rw [if_pos (opensNew_without opensNew), served_iff.mpr served', Option.map_some]
  · rw [answer_of_served served', answer]

/-- The run that is left when the requests on a family are taken out. -/
theorem run_without (run : Run (step jwt) (noSessions memberships) history db) :
    Run (step jwt) (noSessions memberships) (others jwt family history) (db.without family) := by
  induction run with
  | start => exact .start
  | @step history db db' s run taken ih =>
      rw [others_append]
      cases s with
      | memberships memberships =>
          cases taken
          exact ih.step rfl
      | request r =>
          by_cases isOn : r.family? jwt db = some family
          · obtain ⟨_, _, served, _⟩ := step_request taken
            have isOnStep : Step.isOn jwt family db (.request r) = true := decide_eq_true isOn
            rw [without_of_on served isOn, if_pos isOnStep, List.append_nil]
            exact ih
          · have notOnStep : ¬Step.isOn jwt family db (.request r) = true := by
              simpa [Step.isOn] using isOn
            rw [if_neg notOnStep]
            exact ih.step (step_without taken isOn).1

/-- However sessions are opened, refreshed and closed one request at a time, and whoever presents which
    token: theft is contained. -/
theorem theft_contained (run : Run (step jwt) (noSessions memberships) history db) :
    Contained jwt memberships history db where
  oneLive := oneLive_of_run run
  ended family ended r token demand issued out :=
    refused_of_closed (closed_of_ended run ended) (uniqueHashes_of_session_run run)
      (recorded_of_issued run issued) demand
  untouched family r db' isOn taken := by
    obtain ⟨_, _, served, _⟩ := step_request taken
    exact without_of_on served isOn
  unaffected family := run_without run
  answered family before r inside notOn := by
    obtain ⟨_, _, _, _, taken, _, _⟩ := run.split inside
    exact (step_without taken notOn).2

end Containment

section Example

/-- The payload of the `n`-th token of a session. -/
def examplePayload (n : Nat) : RefreshPayload where
  sub := ⟨2⟩
  tenantId := ⟨1⟩
  familyId := ⟨10⟩
  jti := 100 + n

/-- Two payloads that are signed to be read back, for a week; what else is signed does not verify. -/
def exampleJwt : Jwt where
  signAccess _ _ := "access"
  signRefresh _ payload :=
    if payload = examplePayload 0 then "first" else if payload = examplePayload 1 then "second" else "other"
  exp signed _ := signed / 1000 + 604800
  verifyRefresh _ token :=
    if token = "first" then some (examplePayload 0).read
    else if token = "second" then some (examplePayload 1).read
    else none
  sha256 token := token
  verify_signed := by
    intro _ payload _
    by_cases first : payload = examplePayload 0
    · simp [first]
    · by_cases second : payload = examplePayload 1
      · simp [second, examplePayload]
      · simp [first, second]

def exampleRequest (demand : Demand) (n : Nat) : Request where
  demand := demand
  verifiedAt := 0
  signedAt := 0
  now _ := 0
  tokenId := 100 + n
  familyId := 10

def exampleMembers : Table MembershipRow :=
  Table.empty.insert { tenantId := ⟨1⟩, userId := ⟨2⟩, role := .AGENT }

/-- A thief rotates the token of a session, and then its holder presents it. -/
def stolen : List Step :=
  [.request (exampleRequest (.openSession ⟨2⟩ ⟨1⟩ .AGENT) 0),
    .request (exampleRequest (.useCase (.refreshTokens ⟨"first"⟩)) 1),
    .request (exampleRequest (.useCase (.refreshTokens ⟨"first"⟩)) 2)]

theorem theft_contained_stolen :
    ∃ (history : List (Db × Step)) (db : Db),
      Run (step exampleJwt) (noSessions exampleMembers) history db ∧
        db.refreshTokens.rows.map (fun row => (row.id, row.isSpent)) = [(⟨100⟩, true), (⟨101⟩, true)] ∧
        Contained exampleJwt exampleMembers history db := by
  have possible : (play (step exampleJwt) (noSessions exampleMembers) stolen).map
      (fun db => db.refreshTokens.rows.map fun row => (row.id, row.isSpent)) =
      some [(⟨100⟩, true), (⟨101⟩, true)] := by decide
  obtain ⟨db, played, rows⟩ := Option.map_eq_some_iff.mp possible
  exact ⟨_, db, play_run played, rows, theft_contained (play_run played)⟩

end Example

end Helpdesk.Iam
