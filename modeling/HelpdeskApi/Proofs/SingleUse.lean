/-
Module: HelpdeskApi.Proofs.SingleUse
Layer: Proofs
Purpose: Any number of requests that present one unspent refresh token, interleaved call by call. The check
  and the mark are separate transactions and the mark reports nothing back, so the token is used once
  exactly as long as no request marks it after another one has.
Trusted boundary: none
Main exports: Live, Presents, SingleUse, MarksUnrotated, refresh_singleUse
-/
import HelpdeskApi.Iam.TokenRuns

namespace Helpdesk.Iam

open Relational Txn Transition

/-- A stored token that is unspent, the only one of its family. -/
structure Live (db₀ : Db) (token : RefreshToken) : Prop where
  stored : token ∈ db₀.refreshTokens.rows
  unspent : token.isSpent = false
  only : ∀ r ∈ db₀.refreshTokens.rows, r.SameFamily token → r.isSpent = false → r = token
  hashes : UniqueHashes db₀

/-- A refresh that presents the token. -/
structure Presents (token : RefreshToken) (e : Execution) : Prop where
  isRefresh : e.isRefresh = true
  hash : e.presentedHash = token.tokenHash

/-- The token has been used once at most: one request has answered `Ok`, one successor is stored, one token
    of the family is neither rotated nor revoked. -/
structure SingleUse (db₀ : Db) (token : RefreshToken) (c : Config iam) : Prop where
  oneOk : ∀ i j, c.Committed i → c.Committed j → i = j
  oneSuccessor : ∀ r ∈ c.db.refreshTokens.rows, ∀ r' ∈ c.db.refreshTokens.rows, r.SameFamily token →
    r'.SameFamily token → db₀.refreshTokens.find? r.id = none → db₀.refreshTokens.find? r'.id = none → r = r'
  oneLive : ∀ r ∈ c.db.refreshTokens.rows, ∀ r' ∈ c.db.refreshTokens.rows, r.SameFamily token →
    r'.SameFamily token → r.isSpent = false → r'.isSpent = false → r = r'

/-- A call that marks a token finds it not rotated. -/
def MarksUnrotated (c : Config iam) (m : Move iam) : Prop :=
  ∀ tenantId id when, c.calling m = some (.refreshTokensMarkRotated tenantId id when) →
    ∀ row, c.db.refreshTokens.find? id = some row → row.rotatedAt = none

/-- The token a call marks. -/
def markedToken? : Call → Option RefreshTokenId
  | .refreshTokensMarkRotated _ id _ => some id
  | _ => none

theorem markedToken?_eq_some_iff {k : Call} {id : RefreshTokenId} :
    markedToken? k = some id ↔ ∃ tenantId when, k = .refreshTokensMarkRotated tenantId id when := by
  cases k <;> simp [markedToken?]

theorem marksUnrotated_iff {c : Config iam} {m : Move iam} : MarksUnrotated c m ↔
    ∀ id ∈ (c.calling m).bind markedToken?, ∀ row ∈ c.db.refreshTokens.find? id, row.rotatedAt = none := by
  constructor
  · intro unrotated id marked row stored
    obtain ⟨k, calls, isMark⟩ := Option.bind_eq_some_iff.mp marked
    obtain ⟨tenantId, when, rfl⟩ := markedToken?_eq_some_iff.mp isMark
    exact unrotated tenantId id when calls row stored
  · intro unrotated tenantId id when calls row stored
    apply unrotated id _ row stored
    rw [calls]
    rfl

instance (c : Config iam) (m : Move iam) : Decidable (MarksUnrotated c m) :=
  decidable_of_iff' _ marksUnrotated_iff

/-- Whether the `i`-th request has marked the token. -/
def Marks (c : Config iam) (token : RefreshToken) (i : Nat) : Prop :=
  .rotated token.tenantId token.id ∈ trailOf c i

/-- A row that some request has saved. -/
def Saved (c : Config iam) (r : RefreshToken) : Prop :=
  ∃ i successor, .saved successor ∈ trailOf c i ∧ (createRefreshTokenRow successor).Becomes r

section Runs

variable {db₀ : Db} {jobs : List Execution} {history : List (Config iam × Move iam)} {c : Config iam}
  {token : RefreshToken}

namespace Live

variable (live : Live db₀ token)
include live

/-- What the requests find is the token, as it was or spent. -/
theorem found_eq (run : Run Config.step (.start db₀ jobs) history c)
    (presents : ∀ s ∈ c.sessions, Presents token s.job) {i : Nat} {stored : RefreshToken}
    (found : .found stored ∈ trailOf c i) : stored.id = token.id ∧ stored.SameFamily token := by
  obtain ⟨s, at_i, inTrail⟩ := session_of_trailOf found
  have way : Trail s.job (trail s.trace) := (trails_conform run i s at_i).trace
  have hash := (way.presented_of_found inTrail).trans (presents s (List.mem_of_getElem? at_i)).hash
  obtain ⟨row, located, becomes⟩ := found_of_run run found
  obtain ⟨row', located', becomes', _⟩ := row_of_run run (Table.find?_key live.stored)
  have sameHash : row.tokenHash = row'.tokenHash := by rw [becomes.tokenHash, becomes'.tokenHash, hash]
  have sameId : row.id = row'.id := uniqueHashes_of_run live.hashes run row (Table.mem_of_find? located) row'
    (Table.mem_of_find? located') sameHash
  have ids : stored.id = token.id := by rw [← becomes.id, sameId, becomes'.id]
  rw [ids] at located
  cases located.symm.trans located'
  exact ⟨ids, becomes.sameFamily.symm.trans becomes'.sameFamily⟩

theorem rotated_eq (run : Run Config.step (.start db₀ jobs) history c)
    (presents : ∀ s ∈ c.sessions, Presents token s.job) {i : Nat} {tenantId : TenantId} {id : RefreshTokenId}
    (rotated : .rotated tenantId id ∈ trailOf c i) : tenantId = token.tenantId ∧ id = token.id := by
  obtain ⟨s, at_i, inTrail⟩ := session_of_trailOf rotated
  have way : Trail s.job (trail s.trace) := (trails_conform run i s at_i).trace
  obtain ⟨stored, found, sameTenant, sameId, _⟩ := way.found_of_rotated inTrail
  obtain ⟨ids, family⟩ := live.found_eq run presents (trailOf_eq at_i ▸ found : .found stored ∈ trailOf c i)
  exact ⟨sameTenant.trans family.tenantId, sameId.trans ids⟩

/-- A request that has saved a successor has marked the token before, and the successor is of its family. -/
theorem marks_of_saved (run : Run Config.step (.start db₀ jobs) history c)
    (presents : ∀ s ∈ c.sessions, Presents token s.job) {i : Nat} {successor : RefreshToken}
    (saved : .saved successor ∈ trailOf c i) : Marks c token i := by
  obtain ⟨s, at_i, inTrail⟩ := session_of_trailOf saved
  have way : Trail s.job (trail s.trace) := (trails_conform run i s at_i).trace
  obtain ⟨stored, _, rotated, _⟩ := way.rotated_of_saved inTrail
  have marked : .rotated stored.tenantId stored.id ∈ trailOf c i := trailOf_eq at_i ▸ rotated
  obtain ⟨sameTenant, sameId⟩ := live.rotated_eq run presents marked
  unfold Marks
  rw [← sameTenant, ← sameId]
  exact marked

/-- The row of the token is rotated exactly if some request has marked it. -/
theorem rotated_iff (run : Run Config.step (.start db₀ jobs) history c) :
    ∃ row, c.db.refreshTokens.find? token.id = some row ∧ token.Becomes row ∧
      (row.rotatedAt.isSome = true ↔ ∃ i, Marks c token i) := by
  obtain ⟨row, stored, becomes, rotated⟩ := row_of_run run (Table.find?_key live.stored)
  refine ⟨row, stored, becomes, rotated.trans ?_⟩
  simp [((RefreshToken.isSpent_eq_false_iff token).mp live.unspent).1, Marks]

/-- Where nobody marks a token that is rotated, only one request marks it. -/
theorem mark_unique (run : Run Config.step (.start db₀ jobs) history c)
    (presents : ∀ s ∈ c.sessions, Presents token s.job) (meets : Meets MarksUnrotated history) :
    ∀ i j, Marks c token i → Marks c token j → i = j := by
  induction run with
  | start =>
      intro i j marks
      simp [Marks, trailOf_start] at marks
  | @step history c c' m run taken ih =>
      rw [meets_append] at meets
      have presents₀ := Config.forall_job_of_later (P := Presents token) (.step .start taken) presents
      have before := ih presents₀ meets.1
      cases tokens_of_step run taken with
      | silent _ _ trails =>
          intro i j marks marks'
          unfold Marks at marks marks'
          rw [trails] at marks marks'
          exact before i j marks marks'
      | call k₀ _ k o _ calls made =>
          -- a request that marks the token now finds it unmarked, so nobody has marked it before
          have first (marking : tokenStep? ⟨k, o⟩ = some (.rotated token.tenantId token.id)) (j : Nat) :
              ¬Marks c token j := by
            obtain ⟨when, isMark⟩ := tokenStep?_eq_rotated_iff.mp marking
            obtain ⟨row, stored, _, rotated⟩ := live.rotated_iff run
            have unset := meets.2 _ _ _ (isMark ▸ calls) row stored
            intro marks
            have set := rotated.mpr ⟨j, marks⟩
            rw [unset] at set
            cases set
          intro i j marks marks'
          rcases (made.mem_trailOf _ i).mp marks with old | ⟨isSelf, new⟩
          · rcases (made.mem_trailOf _ j).mp marks' with old' | ⟨_, new'⟩
            · exact before i j old old'
            · exact absurd old (first new' i)
          · rcases (made.mem_trailOf _ j).mp marks' with old' | ⟨isSelf', _⟩
            · exact absurd old' (first new j)
            · exact isSelf.trans isSelf'.symm

omit live in
/-- A request that has answered `Ok` has saved a successor. -/
theorem saved_of_committed (run : Run Config.step (.start db₀ jobs) history c)
    (presents : ∀ s ∈ c.sessions, Presents token s.job) {i : Nat} (committed : c.Committed i) :
    ∃ successor, .saved successor ∈ trailOf c i := by
  obtain ⟨s, out, at_i, status⟩ := committed
  obtain ⟨ends, succeeds⟩ := (trails_conform run i s at_i).committed out status
  have isRefresh := (presents s (List.mem_of_getElem? at_i)).isRefresh
  rw [trailOf_eq at_i]
  exact (ends.answered isRefresh).mp succeeds

/-- An unspent row that was there from the start is the row of the token, and nobody has marked it. -/
theorem unmarked_of_old (run : Run Config.step (.start db₀ jobs) history c) {r old : RefreshToken}
    (stored : r ∈ c.db.refreshTokens.rows) (inside : old ∈ db₀.refreshTokens.rows) (becomes : old.Becomes r)
    (family : r.SameFamily token) (unspent : r.isSpent = false) :
    c.db.refreshTokens.find? token.id = some r ∧ ∀ i, ¬Marks c token i := by
  have oldUnspent : old.isSpent = false := by
    by_contra spent
    rw [Bool.not_eq_false] at spent
    cases (becomes.spent spent).symm.trans unspent
  have same := live.only old inside (becomes.sameFamily.symm.trans family) oldUnspent
  have located : c.db.refreshTokens.find? token.id = some r := by
    rw [← same, ← becomes.id]
    exact Table.find?_key stored
  refine ⟨located, fun i marks => ?_⟩
  obtain ⟨row, stored, _, rotated⟩ := live.rotated_iff run
  cases located.symm.trans stored
  have set := rotated.mpr ⟨i, marks⟩
  rw [((RefreshToken.isSpent_eq_false_iff r).mp unspent).1] at set
  cases set

/-- Where only one request marks the token, only one row is saved. -/
theorem saved_eq (run : Run Config.step (.start db₀ jobs) history c)
    (presents : ∀ s ∈ c.sessions, Presents token s.job)
    (unique : ∀ i j, Marks c token i → Marks c token j → i = j) {r r' : RefreshToken}
    (stored : r ∈ c.db.refreshTokens.rows) (stored' : r' ∈ c.db.refreshTokens.rows) (saved : Saved c r)
    (saved' : Saved c r') : r = r' := by
  obtain ⟨i, t, inTrail, becomes⟩ := saved
  obtain ⟨j, t', inTrail', becomes'⟩ := saved'
  have isSame := unique i j (live.marks_of_saved run presents inTrail) (live.marks_of_saved run presents inTrail')
  subst isSame
  obtain ⟨s, at_i, member⟩ := session_of_trailOf inTrail
  have way : Trail s.job (trail s.trace) := (trails_conform run i s at_i).trace
  have sameToken := way.saved_unique member (trailOf_eq at_i ▸ inTrail')
  subst sameToken
  have found := Table.find?_key stored
  rw [key_refreshToken, becomes.id, ← becomes'.id, ← key_refreshToken, Table.find?_key stored'] at found
  exact (Option.some.inj found).symm

/-- Where only one request marks the token, it is used once. -/
theorem singleUse_of_mark_unique (run : Run Config.step (.start db₀ jobs) history c)
    (presents : ∀ s ∈ c.sessions, Presents token s.job)
    (unique : ∀ i j, Marks c token i → Marks c token j → i = j) : SingleUse db₀ token c := by
  constructor
  · intro i j committed committed'
    obtain ⟨_, saved⟩ := saved_of_committed run presents committed
    obtain ⟨_, saved'⟩ := saved_of_committed run presents committed'
    exact unique i j (live.marks_of_saved run presents saved) (live.marks_of_saved run presents saved')
  · intro r stored r' stored' _ _ new new'
    have isSaved {r : RefreshToken} (stored : r ∈ c.db.refreshTokens.rows)
        (new : db₀.refreshTokens.find? r.id = none) : Saved c r := by
      apply (mem_of_run run stored).resolve_left
      intro old
      obtain ⟨old, inside, becomes⟩ := old
      rw [becomes.id] at new
      cases (Table.find?_key inside).symm.trans new
    exact live.saved_eq run presents unique stored stored' (isSaved stored new) (isSaved stored' new')
  · intro r stored r' stored' family family' unspent unspent'
    rcases mem_of_run run stored with ⟨old, inside, becomes⟩ | saved
    · obtain ⟨located, unmarked⟩ := live.unmarked_of_old run stored inside becomes family unspent
      rcases mem_of_run run stored' with ⟨old', inside', becomes'⟩ | ⟨j, t, inTrail, _⟩
      · obtain ⟨located', _⟩ := live.unmarked_of_old run stored' inside' becomes' family' unspent'
        exact Option.some.inj (located.symm.trans located')
      · exact absurd (live.marks_of_saved run presents inTrail) (unmarked j)
    · rcases mem_of_run run stored' with ⟨old', inside', becomes'⟩ | saved'
      · obtain ⟨_, unmarked⟩ := live.unmarked_of_old run stored' inside' becomes' family' unspent'
        obtain ⟨i, t, inTrail, _⟩ := saved
        exact absurd (live.marks_of_saved run presents inTrail) (unmarked i)
      · exact live.saved_eq run presents unique stored stored' saved saved'

omit live in
/-- A request that has marked the token and has returned has answered `Ok`. -/
theorem committed_of_marks (run : Run Config.step (.start db₀ jobs) history c)
    (presents : ∀ s ∈ c.sessions, Presents token s.job) (returned : ∀ s ∈ c.sessions, s.Returned) {i : Nat}
    (marks : Marks c token i) : c.Committed i := by
  obtain ⟨s, at_i, marked⟩ := session_of_trailOf marks
  have inside := List.mem_of_getElem? at_i
  have conforms := trails_conform run i s at_i
  rcases returned s inside with ⟨out, status⟩ | ⟨out, status⟩
  · exact ⟨s, out, at_i, status⟩
  · obtain ⟨ends, fails⟩ := conforms.rolledBack out status
    have succeeds := (ends.answered (presents s inside).isRefresh).mpr (ends.completed _ _ marked)
    cases succeeds.symm.trans fails

/-- Where all requests have returned and one of them at most has answered `Ok`, nobody has marked the token
    after somebody else had. -/
theorem meets_of_oneOk (run : Run Config.step (.start db₀ jobs) history c)
    (presents : ∀ s ∈ c.sessions, Presents token s.job) (returned : ∀ s ∈ c.sessions, s.Returned)
    (oneOk : ∀ i j, c.Committed i → c.Committed j → i = j) : Meets MarksUnrotated history := by
  intro entry member tenantId id when calls row stored
  obtain ⟨earlier, later, next, before, taken, after, _⟩ := run.split member
  have rest := Run.cons taken after
  have presents₀ := Config.forall_job_of_later (P := Presents token) rest presents
  have presents₁ := Config.forall_job_of_later (P := Presents token) after presents
  cases tokens_of_step before taken with
  | silent _ silent _ => cases silent.symm.trans calls
  | call i _ k o _ calls' made =>
      cases calls'.symm.trans calls
      have grown : trailOf next i = trailOf entry.1 i ++ [.rotated tenantId id] := made.own
      have marks : .rotated tenantId id ∈ trailOf next i := by
        rw [grown]
        exact List.mem_append_right _ (List.mem_singleton.mpr rfl)
      obtain ⟨sameTenant, sameId⟩ := live.rotated_eq (before.step taken) presents₁ marks
      rw [sameTenant, sameId] at grown marks
      obtain ⟨row', stored', _, rotated⟩ := live.rotated_iff before
      rw [sameId] at stored
      cases stored.symm.trans stored'
      by_contra set
      obtain ⟨j, marks'⟩ := rotated.mp (Option.isSome_iff_ne_none.mpr set)
      -- the other request and this one both go on to answer `Ok`
      have kept {l : Nat} (marked : Marks next token l) : Marks c token l :=
        mem_trailOf_of_run (before.step taken) after marked
      have other : j ≠ i := by
        intro isSelf
        subst isSelf
        obtain ⟨s, at_j, _⟩ := session_of_trailOf marks
        have way : Trail s.job (trail s.trace) := (trails_conform (before.step taken) j s at_j).trace
        rw [← trailOf_eq at_j, grown] at way
        exact way.not_rotated_before marks'
      have marksNext : Marks next token j := mem_trailOf_of_step before taken marks'
      exact other (oneOk j i (committed_of_marks run presents returned (kept marksNext))
        (committed_of_marks run presents returned (kept marks)))

end Live

/-- However requests that present the token interleave, and wherever some of them die: as long as nobody
    marks a token that is rotated already, the token is used once in every state. Where all of them return,
    that is the only way. -/
theorem refresh_singleUse (live : Live db₀ token) (run : Run Config.step (.start db₀ jobs) history c)
    (presents : ∀ s ∈ c.sessions, Presents token s.job) :
    (Meets MarksUnrotated history → Always (SingleUse db₀ token) history c) ∧
      ((∀ s ∈ c.sessions, s.Returned) → Always (SingleUse db₀ token) history c →
        Meets MarksUnrotated history) := by
  constructor
  · intro meets
    constructor
    · intro entry member
      obtain ⟨earlier, later, next, before, taken, after, rfl⟩ := run.split member
      have presents₀ := Config.forall_job_of_later (P := Presents token) (.cons taken after) presents
      have meets₀ : Meets MarksUnrotated earlier := fun entry inside =>
        meets entry (List.mem_append_left _ inside)
      exact live.singleUse_of_mark_unique before presents₀ (live.mark_unique before presents₀ meets₀)
    · exact live.singleUse_of_mark_unique run presents (live.mark_unique run presents meets)
  · intro returned always
    exact live.meets_of_oneOk run presents returned always.2.oneOk

end Runs

section Example

/-- A token service whose tokens are their own hashes, which issues `token` under the given id. -/
def exampleTokenService (token : String) (tokenId : Uuid) : TokenService where
  signAccessToken _ := "access"
  issueRefreshToken _ _ _ := { token := token, tokenHash := token, tokenId := tokenId, expiresAt := 604800000 }
  verifyRefreshToken _ := some { userId := ⟨2⟩, tenantId := ⟨1⟩, familyId := ⟨10⟩, tokenId := ⟨100⟩ }
  hashRefreshToken token := token

/-- A request of minute 1 that presents `presented` and is issued `token`. -/
def exampleRefresh (presented token : String) (tokenId : Uuid) : Execution where
  useCase := .refreshTokens ⟨presented⟩
  ambient :=
    { tokenService := exampleTokenService token tokenId
      uuid := fun _ => 0
      now := fun _ => 60000 }

/-- A token of minute 0, good for a week. -/
def exampleToken : RefreshToken :=
  .issue ⟨100⟩ ⟨1⟩ ⟨2⟩ ⟨10⟩ "first" 604800000 0

/-- A member with a session. -/
def sessionDb : Db where
  memberships := Table.empty.insert { tenantId := ⟨1⟩, userId := ⟨2⟩, role := .AGENT }
  refreshTokens := Table.empty.insert exampleToken

theorem exampleToken_live : Live sessionDb exampleToken where
  stored := by decide
  unspent := rfl
  only := by
    intro r stored _ _
    exact List.mem_singleton.mp (show r ∈ [exampleToken] from stored)
  hashes := by
    unfold UniqueHashes
    decide

/-- Both requests find the token unspent before either of them marks it. -/
def bothRead : List (Move iam) :=
  [.call 0 0, .call 1 0, .call 0 0, .call 0 0, .call 0 0, .finish 0, .call 1 0, .call 1 0, .call 1 0, .finish 1]

/-- The two requests begin. -/
def refreshesStart : Config iam :=
  .start sessionDb [exampleRefresh "first" "second" 101, exampleRefresh "first" "third" 102]

/-- The second request reads the token when the first has marked it and not saved its successor yet. It finds the
    token spent, and fails. -/
def readBetween : List (Move iam) :=
  [.call 0 0, .call 0 0, .call 0 0, .call 1 0, .call 1 0, .finish 1, .call 0 0, .finish 0]

theorem presents_of_jobs {c : Config iam}
    (jobsOf : c.sessions.map (fun (s : Session iam) => (s.job.isRefresh, s.job.presentedHash)) =
      [(true, "first"), (true, "first")]) : ∀ s ∈ c.sessions, Presents exampleToken s.job := by
  intro s inside
  have shown : (s.job.isRefresh, s.job.presentedHash) ∈ [(true, "first"), (true, "first")] :=
    jobsOf ▸ List.mem_map_of_mem
      (f := fun (s : Session iam) => (s.job.isRefresh, s.job.presentedHash)) inside
  simp only [List.mem_cons, Prod.mk.injEq, List.not_mem_nil, or_false, or_self] at shown
  exact ⟨shown.1, shown.2⟩

/-- Both requests answer `Ok`. -/
theorem bothRead_ok :
    ∃ (history : List (Config iam × Move iam)) (c : Config iam), Run Config.step refreshesStart history c ∧
      (∀ s ∈ c.sessions, Presents exampleToken s.job) ∧ c.Committed 0 ∧ c.Committed 1 := by
  have possible : (play Config.step refreshesStart bothRead).map
      (fun c => (c.sessions.map fun (s : Session iam) => (s.job.isRefresh, s.job.presentedHash),
        c.sessions.map Session.isCommitted)) =
      some ([(true, "first"), (true, "first")], [true, true]) := by decide
  obtain ⟨c, played, facts⟩ := Option.map_eq_some_iff.mp possible
  simp only [Prod.mk.injEq] at facts
  obtain ⟨jobsOf, committed⟩ := facts
  exact ⟨_, c, play_run played, presents_of_jobs jobsOf, Config.committed_of_map committed rfl,
    Config.committed_of_map committed rfl⟩

/-- Two requests that both read the token before either marks it both answer `Ok`. -/
theorem bothRead_notSingleUse :
    ∃ (history : List (Config iam × Move iam)) (c : Config iam),
      Run Config.step (.start sessionDb [exampleRefresh "first" "second" 101, exampleRefresh "first" "third" 102])
          history c ∧
        Live sessionDb exampleToken ∧ exampleToken.isExpired 60000 = false ∧
        (∀ s ∈ c.sessions, Presents exampleToken s.job) ∧ ¬SingleUse sessionDb exampleToken c := by
  obtain ⟨history, c, run, presents, first, second⟩ := bothRead_ok
  refine ⟨history, c, run, exampleToken_live, by decide, presents, ?_⟩
  intro singleUse
  cases singleUse.oneOk 0 1 first second

/-- Of two runs in which the requests overlap, one meets the condition, so that the token is used once, and the
    other one does not. -/
theorem refresh_singleUse_overlapping :
    (∃ c, Run Config.step refreshesStart (playHistory Config.step refreshesStart readBetween) c ∧
      c.Committed 0 ∧ Meets MarksUnrotated (playHistory Config.step refreshesStart readBetween) ∧
      Always (SingleUse sessionDb exampleToken) (playHistory Config.step refreshesStart readBetween) c) ∧
    ∃ (history : List (Config iam × Move iam)) (c : Config iam),
      Run Config.step refreshesStart history c ∧ ¬Meets MarksUnrotated history := by
  constructor
  · have possible : (play Config.step refreshesStart readBetween).map
        (fun c => (c.sessions.map fun (s : Session iam) => (s.job.isRefresh, s.job.presentedHash),
          c.sessions.map Session.isCommitted)) =
        some ([(true, "first"), (true, "first")], [true, false]) := by decide
    have meets : Meets MarksUnrotated (playHistory Config.step refreshesStart readBetween) := by decide
    obtain ⟨c, played, facts⟩ := Option.map_eq_some_iff.mp possible
    simp only [Prod.mk.injEq] at facts
    obtain ⟨jobsOf, committed⟩ := facts
    exact ⟨c, play_run played, Config.committed_of_map committed rfl, meets,
      (refresh_singleUse exampleToken_live (play_run played) (presents_of_jobs jobsOf)).1 meets⟩
  · obtain ⟨history, c, run, presents, first, second⟩ := bothRead_ok
    refine ⟨history, c, run, ?_⟩
    intro meets
    have always := (refresh_singleUse exampleToken_live run presents).1 meets
    cases always.2.oneOk 0 1 first second

end Example

end Helpdesk.Iam
