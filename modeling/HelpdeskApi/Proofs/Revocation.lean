/-
Module: HelpdeskApi.Proofs.Revocation
Layer: Proofs
Purpose: Revoking a family of refresh tokens while refreshes of it are on their way. A revocation reaches the
  rows there are, and a refresh that has read its token before saves one more, so a family is over exactly
  where every successor that is saved is followed by a revocation.
Trusted boundary: none
Main exports: SavesIn, Revokes, FamilyOver, revocation_wins
-/
import HelpdeskApi.Proofs.SingleUse

namespace Helpdesk.Iam

open Relational Txn Transition

/-- The step saves a token of the family. -/
def SavesIn (family : TenantId × RefreshFamilyId) (entry : Config iam × Move iam) : Prop :=
  ∃ token, entry.1.calling entry.2 = some (.refreshTokensSave token) ∧ token.family = family

/-- The step revokes the family. -/
def Revokes (family : TenantId × RefreshFamilyId) (entry : Config iam × Move iam) : Prop :=
  ∃ when, entry.1.calling entry.2 = some (.refreshTokensRevokeFamily family.1 family.2 when)

/-- No token of the family is neither rotated nor revoked, and no refresh that arrives later and finds a
    token of the family answers `Ok`. -/
structure FamilyOver (family : TenantId × RefreshFamilyId) (c : Config iam) : Prop where
  spent : ∀ r ∈ c.db.refreshTokens.rows, r.family = family → r.isSpent = true
  noLaterOk : ∀ (history : List (Config iam × Move iam)) (c' : Config iam), Run Config.step c history c' →
    ∀ (i : Nat) (s : Session iam), c.sessions.length ≤ i → c'.sessions[i]? = some s → s.job.isRefresh = true →
      c'.Committed i → ∀ stored, .found stored ∈ trail s.trace → stored.family ≠ family

section Runs

variable {db₀ : Db} {jobs : List Execution} {history : List (Config iam × Move iam)} {c : Config iam}
  {family : TenantId × RefreshFamilyId}

section Sufficient

/-- A call that is a revocation of the family leaves all its rows revoked. -/
theorem TokenCall.revoked {c c' : Config iam} {i : Nat} {k : Call} {o : Outcome sig Write Empty k}
    (made : TokenCall c c' i k o) (revokes : tokenStep? ⟨k, o⟩ = some (.revoked family.1 family.2)) :
    ∀ r ∈ c'.db.refreshTokens.rows, r.family = family → r.revokedAt.isSome = true := by
  intro r stored ofFamily
  rcases made.mem stored with ⟨old, _, after⟩ | ⟨token, saved, _⟩
  · refine after.revoked.mpr (.inr ?_)
    rw [revokes, ← ofFamily, after.becomes.family]
    rfl
  · cases revokes.symm.trans saved

/-- Where every save in the family is followed by a revocation and there is one at all, every row of the
    family is revoked in the end. -/
theorem revoked_of_followed (run : Run Config.step (.start db₀ jobs) history c)
    (some : ∃ entry ∈ history, Revokes family entry)
    (followed : FollowedBy (SavesIn family) (Revokes family) history) :
    ∀ r ∈ c.db.refreshTokens.rows, r.family = family → r.revokedAt.isSome = true := by
  induction run with
  | start =>
      obtain ⟨entry, member, _⟩ := some
      cases member
  | @step history c c' m run taken ih =>
      obtain ⟨notSaved, answered⟩ := (followedBy_append _ _ _ _).mp followed
      by_cases revokes : Revokes family (c, m)
      · obtain ⟨when, calls⟩ := revokes
        cases tokens_of_step run taken with
        | silent _ silent _ => cases silent.symm.trans calls
        | call i _ k o _ calls' made =>
            cases calls'.symm.trans calls
            exact made.revoked rfl
      · have before := ih ?_ (answered.resolve_left revokes)
        · cases tokens_of_step run taken with
          | silent db _ _ =>
              rw [db]
              exact before
          | call i _ k o _ calls made =>
              intro r stored ofFamily
              rcases made.mem stored with ⟨old, inside, after⟩ | ⟨token, saved, rfl⟩
              · exact after.revoked.mpr (.inl (before old inside (after.becomes.family.symm.trans ofFamily)))
              · refine absurd ⟨token, ?_, ofFamily⟩ notSaved
                rw [calls]
                exact congrArg Option.some (tokenStep?_eq_saved_iff.mp saved)
        · obtain ⟨entry, member, answer⟩ := some
          rcases List.mem_append.mp member with older | newest
          · exact ⟨entry, older, answer⟩
          · exact absurd (List.mem_singleton.mp newest ▸ answer) revokes

/-- Where everything has ended and every token of the family is spent, whatever arrives later finds only spent
    tokens of the family, and so it adds none. -/
theorem spent_of_later (run : Run Config.step (.start db₀ jobs) history c)
    (ended : ∀ s ∈ c.sessions, ∀ rest, s.status ≠ .running rest)
    (spent : ∀ r ∈ c.db.refreshTokens.rows, r.family = family → r.isSpent = true)
    {history' : List (Config iam × Move iam)} {c' : Config iam} (later : Run Config.step c history' c') :
    (∀ r ∈ c'.db.refreshTokens.rows, r.family = family → r.isSpent = true) ∧
      ∀ i, c.sessions.length ≤ i → ∀ stored, .found stored ∈ trailOf c' i → stored.family = family →
        stored.isSpent = true := by
  induction later with
  | start =>
      refine ⟨spent, ?_⟩
      intro i beyond stored found
      simp [trailOf, List.getElem?_eq_none beyond] at found
  | @step history' c' c'' m later taken ih =>
      obtain ⟨rows, finds⟩ := ih
      have whole := run.append later
      cases tokens_of_step whole taken with
      | silent db _ trails => simpa only [db, trails] using And.intro rows finds
      | call i₀ _ k o isCall calls made =>
          constructor
          · intro r stored ofFamily
            rcases made.mem stored with ⟨old, inside, after⟩ | ⟨token, saved, rfl⟩
            · exact after.becomes.spent (rows old inside (after.becomes.family.symm.trans ofFamily))
            · -- a save needs an unspent token of the family, which nobody who came later has found
              exfalso
              obtain ⟨i, choice, s, next, sameMove, at_i, running⟩ := Config.running_of_calling calls
              cases isCall.symm.trans sameMove
              have beyond : c.sessions.length ≤ i₀ := Config.arrived_of_running later ended at_i running
              have inTrail := (made.mem_trailOf _ i₀).mpr (.inr ⟨rfl, saved⟩)
              obtain ⟨s'', at_i'', member⟩ := session_of_trailOf inTrail
              have way : Trail s''.job (trail s''.trace) :=
                (trails_conform (whole.step taken) i₀ s'' at_i'').trace
              obtain ⟨stored, found, _, unspent, sameFamily⟩ := way.rotated_of_saved member
              rcases (made.mem_trailOf _ i₀).mp (trailOf_eq at_i'' ▸ found) with before | ⟨_, now⟩
              · have isSpent := finds i₀ beyond stored before (sameFamily.family.symm.trans ofFamily)
                cases isSpent.symm.trans unspent
              · cases saved.symm.trans now
          · intro i beyond stored found ofFamily
            rcases (made.mem_trailOf _ i).mp found with before | ⟨_, now⟩
            · exact finds i beyond stored before ofFamily
            · exact rows stored (made.mem_of_found now) ofFamily

/-- Where everything has ended and every token of the family is spent, the family is over. -/
theorem over_of_spent (run : Run Config.step (.start db₀ jobs) history c)
    (ended : ∀ s ∈ c.sessions, ∀ rest, s.status ≠ .running rest)
    (spent : ∀ r ∈ c.db.refreshTokens.rows, r.family = family → r.isSpent = true) : FamilyOver family c := by
  constructor
  · exact spent
  · intro history' c' later i s beyond at_i isRefresh committed stored found ofFamily
    obtain ⟨s', out, at_i', status⟩ := committed
    cases at_i.symm.trans at_i'
    have conforms := trails_conform (run.append later) i s at_i
    obtain ⟨ends, succeeds⟩ := conforms.committed out status
    obtain ⟨successor, saved⟩ := (ends.answered isRefresh).mp succeeds
    have way : Trail s.job (trail s.trace) := conforms.trace
    obtain ⟨stored', found', _, unspent, _⟩ := way.rotated_of_saved saved
    cases way.found_unique found found'
    have isSpent := (spent_of_later run ended spent later).2 i beyond stored (trailOf_eq at_i ▸ found) ofFamily
    cases isSpent.symm.trans unspent

end Sufficient

section Necessary

/-- The `i`-th request has marked the row and not saved its successor yet. -/
def Rotating (c : Config iam) (r : RefreshToken) (i : Nat) : Prop :=
  .rotated r.tenantId r.id ∈ trailOf c i ∧ ∀ token, .saved token ∉ trailOf c i

/-- A row of the family that nobody has revoked, and if it is rotated then the request that did so still has
    to save its successor. -/
structure Loose (family : TenantId × RefreshFamilyId) (c : Config iam) (r : RefreshToken) : Prop where
  stored : r ∈ c.db.refreshTokens.rows
  ofFamily : r.family = family
  unrevoked : r.revokedAt = none
  unrotated : r.rotatedAt = none ∨ ∃ i, Rotating c r i

/-- What is saved after a row has been marked is of the family of the row. -/
theorem family_of_saved (run : Run Config.step (.start db₀ jobs) history c) {r token : RefreshToken} {i : Nat}
    (stored : r ∈ c.db.refreshTokens.rows) (marked : .rotated r.tenantId r.id ∈ trailOf c i)
    (saved : .saved token ∈ trailOf c i) : token.family = r.family := by
  obtain ⟨s, at_i, member⟩ := session_of_trailOf saved
  have way : Trail s.job (trail s.trace) := (trails_conform run i s at_i).trace
  obtain ⟨read, found, _, _, sameFamily⟩ := way.rotated_of_saved member
  obtain ⟨read', found', _, sameId, _⟩ := way.found_of_rotated (trailOf_eq at_i ▸ marked)
  cases way.found_unique found found'
  obtain ⟨row, located, becomes⟩ := found_of_run run (trailOf_eq at_i ▸ found : .found read ∈ trailOf c i)
  rw [← sameId] at located
  cases located.symm.trans (Table.find?_key stored)
  exact sameFamily.family.trans becomes.family.symm

/-- What a call saves in the family is loose. -/
theorem loose_of_saved {c c' : Config iam} {i : Nat} {token : RefreshToken}
    {o : Outcome sig Write Empty (.refreshTokensSave token)} (made : TokenCall c c' i (.refreshTokensSave token) o)
    (ofFamily : token.family = family) : Loose family c' (createRefreshTokenRow token) := by
  constructor
  · have free : c.db.refreshTokens.find? (Keyed.key (createRefreshTokenRow token)) = none := by
      apply Table.free_of_mem
      intro r stored
      exact (exec_save made.answered r stored).1
    rw [made.db]
    change _ ∈ (c.db.refreshTokens.insert (createRefreshTokenRow token)).rows
    rw [Table.rows_insert_of_free free]
    exact List.mem_append_right _ (List.mem_singleton.mpr rfl)
  · exact ofFamily
  · rfl
  · exact .inl rfl

/-- Every other call but a revocation leaves a loose row loose. -/
theorem Loose.call (run : Run Config.step (.start db₀ jobs) history c) {m : Move iam} {c' : Config iam}
    (taken : c.step m = some c') {i : Nat} {k : Call} {o : Outcome sig Write Empty k}
    (calls : c.calling m = some k) (made : TokenCall c c' i k o) (notSaved : ¬SavesIn family (c, m))
    (notRevoked : ¬Revokes family (c, m)) {r : RefreshToken} (loose : Loose family c r) :
    ∃ r', Loose family c' r' := by
  obtain ⟨r', stored', after⟩ := made.find? (Table.find?_key loose.stored)
  have ofFamily := after.becomes.family.trans loose.ofFamily
  have sameTenant : r'.tenantId = r.tenantId := after.becomes.sameFamily.tenantId
  have sameId : r'.id = r.id := after.becomes.id
  refine ⟨r', Table.mem_of_find? stored', ofFamily, ?_, ?_⟩
  · by_contra set
    rcases after.revoked.mp (Option.isSome_iff_ne_none.mpr set) with before | now
    · rw [loose.unrevoked] at before
      cases before
    · obtain ⟨when, isRevoke⟩ := tokenStep?_eq_revoked_iff.mp now
      refine notRevoked ⟨when, ?_⟩
      rw [calls, isRevoke, ← loose.ofFamily]
      rfl
  · by_cases rotates : tokenStep? ⟨k, o⟩ = some (.rotated r.tenantId r.id)
    · -- the request that marks the row now has saved nothing
      have grown : trailOf c' i = trailOf c i ++ [.rotated r.tenantId r.id] := by
        rw [made.own, rotates]
        rfl
      have marked : .rotated r.tenantId r.id ∈ trailOf c' i := by
        rw [grown]
        exact List.mem_append_right _ (List.mem_singleton.mpr rfl)
      obtain ⟨s, at_i, _⟩ := session_of_trailOf marked
      have way : Trail s.job (trail s.trace) := (trails_conform (run.step taken) i s at_i).trace
      rw [← trailOf_eq at_i, grown] at way
      refine .inr ⟨i, by rw [sameTenant, sameId]; exact marked, ?_⟩
      rw [grown]
      exact fun token => way.not_saved_before
    · rcases loose.unrotated with unset | ⟨j, marked, unsaved⟩
      · refine .inl ?_
        by_contra set
        rcases after.rotated.mp (Option.isSome_iff_ne_none.mpr set) with before | now
        · rw [unset] at before
          cases before
        · exact rotates now
      · have marked' : .rotated r'.tenantId r'.id ∈ trailOf c' j := by
          rw [sameTenant, sameId]
          exact mem_trailOf_of_step run taken marked
        refine .inr ⟨j, marked', ?_⟩
        intro token saved
        rcases (made.mem_trailOf _ j).mp saved with before | ⟨_, now⟩
        · exact unsaved token before
        · have sameFamily := family_of_saved (run.step taken) (Table.mem_of_find? stored') marked' saved
          refine notSaved ⟨token, ?_, sameFamily.trans ofFamily⟩
          rw [calls]
          exact congrArg Option.some (tokenStep?_eq_saved_iff.mp now)

/-- Where some save in the family is not followed by a revocation, some row of the family is loose. -/
theorem loose_of_not_followed (run : Run Config.step (.start db₀ jobs) history c)
    (unfollowed : ¬FollowedBy (SavesIn family) (Revokes family) history) : ∃ r, Loose family c r := by
  induction run with
  | start => exact absurd (followedBy_nil _ _) unfollowed
  | @step history c c' m run taken ih =>
      rw [followedBy_append, not_and_or, not_not, not_or] at unfollowed
      cases tokens_of_step run taken with
      | silent db silent trails =>
          rcases unfollowed with ⟨token, calls, _⟩ | ⟨_, earlier⟩
          · cases silent.symm.trans calls
          · obtain ⟨r, loose⟩ := ih earlier
            refine ⟨r, db ▸ loose.stored, loose.ofFamily, loose.unrevoked, ?_⟩
            simpa only [Rotating, trails] using loose.unrotated
      | call i _ k o _ calls made =>
          by_cases saves : SavesIn family (c, m)
          · obtain ⟨token, calls', ofFamily⟩ := saves
            cases calls.symm.trans calls'
            exact ⟨_, loose_of_saved made ofFamily⟩
          · obtain ⟨notRevoked, earlier⟩ := unfollowed.resolve_left saves
            obtain ⟨r, loose⟩ := ih earlier
            exact loose.call run taken calls made saves notRevoked

/-- Where all requests have returned, a loose row is not spent. -/
theorem Loose.unspent (run : Run Config.step (.start db₀ jobs) history c)
    (returned : ∀ s ∈ c.sessions, s.Returned) {r : RefreshToken} (loose : Loose family c r) :
    r.isSpent = false := by
  rw [RefreshToken.isSpent_eq_false_iff]
  refine ⟨?_, loose.unrevoked⟩
  rcases loose.unrotated with unset | ⟨i, marked, unsaved⟩
  · exact unset
  · obtain ⟨s, at_i, member⟩ := session_of_trailOf marked
    have conforms := trails_conform run i s at_i
    have ends : ∃ out, EndsTrail s.job (trail s.trace) out := by
      rcases returned s (List.mem_of_getElem? at_i) with ⟨out, status⟩ | ⟨out, status⟩
      · exact ⟨out, (conforms.committed out status).1⟩
      · exact ⟨out, (conforms.rolledBack out status).1⟩
    obtain ⟨out, ends⟩ := ends
    obtain ⟨token, saved⟩ := ends.completed _ _ member
    exact absurd (trailOf_eq at_i ▸ saved) (unsaved token)

end Necessary

/-- However logouts and refreshes interleave, and wherever some of them die: once a family has been revoked
    and everything has ended, the family is over if every save of a token of it was followed by a
    revocation. Where all requests return, that is the only way. -/
theorem revocation_wins (run : Run Config.step (.start db₀ jobs) history c)
    (revoked : ∃ entry ∈ history, Revokes family entry)
    (ended : ∀ s ∈ c.sessions, ∀ rest, s.status ≠ .running rest) :
    (FollowedBy (SavesIn family) (Revokes family) history → FamilyOver family c) ∧
      ((∀ s ∈ c.sessions, s.Returned) → FamilyOver family c →
        FollowedBy (SavesIn family) (Revokes family) history) := by
  constructor
  · intro followed
    apply over_of_spent run ended
    intro r stored ofFamily
    rw [RefreshToken.isSpent, revoked_of_followed run revoked followed r stored ofFamily, Bool.or_true]
  · intro returned isOver
    by_contra unfollowed
    obtain ⟨r, loose⟩ := loose_of_not_followed run unfollowed
    have spent := isOver.spent r loose.stored loose.ofFamily
    cases spent.symm.trans (loose.unspent run returned)

end Runs

section Example

def exampleLogout (presented : String) : Execution where
  useCase := .logout ⟨presented⟩
  ambient := (exampleRefresh presented "" 0).ambient

/-- The refresh reads its token, and the logout too. -/
def reading : List (Move iam) :=
  [.call 0 0, .call 1 0]

/-- The logout revokes the family, and then the refresh goes on. -/
def revoking : List (Move iam) :=
  [.call 1 0, .finish 1, .call 0 0, .call 0 0, .call 0 0, .finish 0]

/-- The refresh goes on, and then the logout revokes the family. -/
def revokingLast : List (Move iam) :=
  [.call 0 0, .call 1 0, .call 0 0, .call 0 0, .call 0 0, .finish 0, .call 1 0, .finish 1]

/-- The token a call saves. -/
def savedToken? : Call → Option RefreshToken
  | .refreshTokensSave token => some token
  | _ => none

instance (family : TenantId × RefreshFamilyId) (entry : Config iam × Move iam) : Decidable (SavesIn family entry) :=
  decidable_of_iff (((entry.1.calling entry.2).bind savedToken?).any (fun token => token.family = family) = true) <| by
    have saves (k : Call) (token : RefreshToken) : savedToken? k = some token ↔ k = .refreshTokensSave token := by
      cases k <;> simp [savedToken?]
    simp [SavesIn, Option.any_eq_true, Option.bind_eq_some_iff, saves]

/-- The family a call revokes, and when. -/
def revocation? : Call → Option (TenantId × RefreshFamilyId × Instant)
  | .refreshTokensRevokeFamily tenantId familyId when => some (tenantId, familyId, when)
  | _ => none

theorem revocation?_eq_some_iff {k : Call} {tenantId : TenantId} {familyId : RefreshFamilyId} {when : Instant} :
    revocation? k = some (tenantId, familyId, when) ↔ k = .refreshTokensRevokeFamily tenantId familyId when := by
  cases k <;> simp [revocation?]

instance (family : TenantId × RefreshFamilyId) (entry : Config iam × Move iam) : Decidable (Revokes family entry) :=
  decidable_of_iff (((entry.1.calling entry.2).bind revocation?).any
    (fun revoked => revoked.1 = family.1 ∧ revoked.2.1 = family.2) = true) <| by
    simp [Revokes, Option.any_eq_true, Option.bind_eq_some_iff, revocation?_eq_some_iff]

/-- The logout has revoked the family and both requests have answered `Ok`, and there is an unspent token of
    the family. -/
theorem reading_revoking :
    ∃ (history : List (Config iam × Move iam)) (c : Config iam),
      Run Config.step (.start sessionDb [exampleRefresh "first" "second" 101, exampleLogout "first"]) history c ∧
        (∃ entry ∈ history, Revokes exampleToken.family entry) ∧ c.Committed 0 ∧ c.Committed 1 ∧
        c.sessions.length = 2 ∧
        ∃ r ∈ c.db.refreshTokens.rows, r.family = exampleToken.family ∧ r.isSpent = false := by
  have possible : (play Config.step (.start (A := iam) sessionDb
      [exampleRefresh "first" "second" 101, exampleLogout "first"]) reading).bind
      (fun c => (play Config.step c revoking).map fun c' =>
        ((c.calling (.call 1 0)).bind revocation?, c'.sessions.map Session.isCommitted,
          c'.db.refreshTokens.any fun r => r.family = exampleToken.family && r.isSpent = false)) =
      some (some (⟨1⟩, ⟨10⟩, 60000), [true, true], true) := by decide
  obtain ⟨between, reads, rest⟩ := Option.bind_eq_some_iff.mp possible
  obtain ⟨c, revokes, facts⟩ := Option.map_eq_some_iff.mp rest
  simp only [Prod.mk.injEq, Option.bind_eq_some_iff, revocation?_eq_some_iff, Table.any, List.any_eq_true,
    Bool.and_eq_true, decide_eq_true_eq] at facts
  obtain ⟨⟨_, calls, rfl⟩, committed, r, stored, ofFamily, unspent⟩ := facts
  obtain ⟨next, first, others⟩ := Option.bind_eq_some_iff.mp revokes
  refine ⟨_, c, (play_run reads).append (.cons first (play_run others)),
    ⟨(between, .call 1 0), List.mem_append_right _ List.mem_cons_self, 60000, calls⟩,
    Config.committed_of_map committed rfl, Config.committed_of_map committed rfl,
    by simpa using congrArg List.length committed, r, stored, ofFamily, unspent⟩

theorem ended_of_committed {c : Config iam} (length : c.sessions.length = 2) (first : c.Committed 0)
    (second : c.Committed 1) : ∀ s ∈ c.sessions, ∀ rest, s.status ≠ .running rest := by
  intro s inside rest running
  obtain ⟨i, at_i⟩ := List.mem_iff_getElem?.mp inside
  have bound := (List.getElem?_eq_some_iff.mp at_i).1
  have isEither : c.Committed i := by
    match i with
    | 0 => exact first
    | 1 => exact second
    | i + 2 => omega
  obtain ⟨s', out, at_i', status⟩ := isEither
  cases at_i.symm.trans at_i'
  cases running.symm.trans status

/-- A logout between the read and the mark of a refresh does not end the family. -/
theorem logoutBetween_notOver :
    ∃ (history : List (Config iam × Move iam)) (c : Config iam),
      Run Config.step (.start sessionDb [exampleRefresh "first" "second" 101, exampleLogout "first"]) history c ∧
        (∃ entry ∈ history, Revokes exampleToken.family entry) ∧ c.Committed 0 ∧ c.Committed 1 ∧
        c.sessions.length = 2 ∧ ¬FamilyOver exampleToken.family c := by
  obtain ⟨history, c, run, revokes, first, second, length, r, stored, ofFamily, unspent⟩ := reading_revoking
  refine ⟨history, c, run, revokes, first, second, length, ?_⟩
  intro isOver
  cases (isOver.spent r stored ofFamily).symm.trans unspent

/-- Of two runs in which the requests overlap, one meets the condition, so that the family is over, and the other
    one does not. -/
theorem revocation_wins_overlapping :
    (∃ c, Run Config.step (.start sessionDb [exampleRefresh "first" "second" 101, exampleLogout "first"])
        (playHistory Config.step (.start sessionDb [exampleRefresh "first" "second" 101, exampleLogout "first"])
          revokingLast) c ∧
      c.Committed 0 ∧ c.Committed 1 ∧
      FollowedBy (SavesIn exampleToken.family) (Revokes exampleToken.family) (playHistory Config.step
        (.start sessionDb [exampleRefresh "first" "second" 101, exampleLogout "first"]) revokingLast) ∧
      FamilyOver exampleToken.family c) ∧
    ∃ (history : List (Config iam × Move iam)) (c : Config iam),
      Run Config.step (.start sessionDb [exampleRefresh "first" "second" 101, exampleLogout "first"]) history c ∧
        ¬FollowedBy (SavesIn exampleToken.family) (Revokes exampleToken.family) history := by
  constructor
  · have possible : (play Config.step (.start (A := iam) sessionDb
        [exampleRefresh "first" "second" 101, exampleLogout "first"]) revokingLast).map
        (fun c => c.sessions.map Session.isCommitted) = some [true, true] := by decide
    have revokes : ∃ entry ∈ playHistory Config.step (.start (A := iam) sessionDb
        [exampleRefresh "first" "second" 101, exampleLogout "first"]) revokingLast,
        Revokes exampleToken.family entry := by decide
    have followed : FollowedBy (SavesIn exampleToken.family) (Revokes exampleToken.family)
        (playHistory Config.step (.start (A := iam) sessionDb
          [exampleRefresh "first" "second" 101, exampleLogout "first"]) revokingLast) := by decide
    obtain ⟨c, played, committed⟩ := Option.map_eq_some_iff.mp possible
    have first : c.Committed 0 := Config.committed_of_map committed rfl
    have second : c.Committed 1 := Config.committed_of_map committed rfl
    have ended := ended_of_committed (by simpa using congrArg List.length committed) first second
    exact ⟨c, play_run played, first, second, followed, (revocation_wins (play_run played) revokes ended).1 followed⟩
  · obtain ⟨history, c, run, revokes, first, second, length, r, stored, ofFamily, unspent⟩ := reading_revoking
    refine ⟨history, c, run, ?_⟩
    intro followed
    have isOver := (revocation_wins run revokes (ended_of_committed length first second)).1 followed
    cases (isOver.spent r stored ofFamily).symm.trans unspent

end Example

end Helpdesk.Iam
