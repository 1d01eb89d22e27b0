/-
Module: HelpdeskApi.Proofs.FailedRefresh
Layer: Proofs
Purpose: A refresh of a token that is in order, where any of its calls may throw. The mark is a transaction
  of its own, and what mints the successor comes after it. So a refresh that fails leaves the session
  usable exactly if it fails before the mark has taken hold; later the holder's next try is taken for theft.
Trusted boundary: none
Main exports: InOrder, SameToken, LeavesUsable, FailsBeforeMark, NothingThrows, failedRefresh_usable_iff,
  theft_of_marks
-/
import HelpdeskApi.Iam.RefreshCalls

namespace Helpdesk.Iam

open Relational Txn

/-- The presented token verifies, is stored, is unspent and has not expired. -/
structure InOrder (db : Db) (input : RefreshTokensInput) (ambient : Ambient) (claims : RefreshTokenClaims)
    (stored : RefreshToken) : Prop where
  verified : ambient.tokenService.verifyRefreshToken input.refreshToken = some claims
  found : db.byHash claims.tenantId (ambient.tokenService.hashRefreshToken input.refreshToken) = some stored
  unspent : stored.isSpent = false
  unexpired : stored.isExpired (ambient.now 0) = false

/-- Another request reads the same of the token: the digest is the same, and so are the claims, for as long
    as the token verifies. -/
structure SameToken (input : RefreshTokensInput) (ambient ambient' : Ambient) : Prop where
  hash : ambient'.tokenService.hashRefreshToken input.refreshToken =
    ambient.tokenService.hashRefreshToken input.refreshToken
  claims : ∀ claims', ambient'.tokenService.verifyRefreshToken input.refreshToken = some claims' →
    ambient.tokenService.verifyRefreshToken input.refreshToken = some claims'

/-- No row is revoked that was not. -/
def KeepsRevocations (db db' : Db) : Prop :=
  ∀ id r, db.refreshTokens.find? id = some r →
    ∃ r', db'.refreshTokens.find? id = some r' ∧ r'.revokedAt = r.revokedAt

/-- The holder may come again with the token: whenever that is and whatever throws then, it is not taken for
    reuse and revokes nothing. -/
def Retryable (input : RefreshTokensInput) (ambient : Ambient) (db : Db) : Prop :=
  ∀ ambient' fate', SameToken input ambient ambient' →
    (RefreshTokens.attempt input ambient' fate' db).1 ≠ some (.error .refreshTokenReuse) ∧
      KeepsRevocations db (RefreshTokens.attempt input ambient' fate' db).2

/-- A refresh that does not answer `Ok` leaves the tokens as they were, and the session usable. -/
def LeavesUsable (input : RefreshTokensInput) (ambient : Ambient) (fate : Nat → Fate) (db : Db) : Prop :=
  (∀ tokens, (RefreshTokens.attempt input ambient fate db).1 ≠ some (.ok tokens)) →
    (RefreshTokens.attempt input ambient fate db).2.refreshTokens = db.refreshTokens ∧
      Retryable input ambient (RefreshTokens.attempt input ambient fate db).2

-- the calls of a refresh of a token that is in order, by their position
namespace Point

abbrev findByHash : Nat := 0
abbrev findByUserId : Nat := 1
abbrev markRotated : Nat := 2
abbrev signAccessToken : Nat := 3
abbrev issueRefreshToken : Nat := 4
abbrev save : Nat := 5

end Point

/-- The refresh fails before its mark has taken hold. -/
inductive FailsBeforeMark (db : Db) (claims : RefreshTokenClaims) (stored : RefreshToken) (fate : Nat → Fate) :
    Prop where
  | findByHash (throws : fate Point.findByHash ≠ .answers)
  | findByUserId (throws : fate Point.findByUserId ≠ .answers)
  | noMember (absent : db.memberships.find? (claims.tenantId, stored.userId) = none)
  | markRotated (throws : fate Point.markRotated = .throws)

/-- The token that is issued in place of a stored one. -/
def successorOf (ambient : Ambient) (claims : RefreshTokenClaims) (stored : RefreshToken) : RefreshToken :=
  let issued := ambient.tokenService.issueRefreshToken stored.userId claims.tenantId stored.familyId
  .issue ⟨issued.tokenId⟩ claims.tenantId stored.userId stored.familyId issued.tokenHash issued.expiresAt
    (ambient.now 1)

/-- Nothing throws from the mark on. What is saved has an id and a hash of its own, or saving it throws. -/
structure NothingThrows (db : Db) (ambient : Ambient) (claims : RefreshTokenClaims) (stored : RefreshToken)
    (fate : Nat → Fate) : Prop where
  markRotated : fate Point.markRotated = .answers
  signAccessToken : fate Point.signAccessToken = .answers
  issueRefreshToken : fate Point.issueRefreshToken = .answers
  save : fate Point.save = .answers
  free : Free db (successorOf ambient claims stored)

section Attempts

variable {db : Db} {input : RefreshTokensInput} {ambient : Ambient} {claims : RefreshTokenClaims}
  {stored : RefreshToken} {fate : Nat → Fate}

theorem KeepsRevocations.refl (db : Db) : KeepsRevocations db db := fun _ r found => ⟨r, found, rfl⟩

theorem KeepsRevocations.trans {db₁ db₂ db₃ : Db} (first : KeepsRevocations db₁ db₂)
    (second : KeepsRevocations db₂ db₃) : KeepsRevocations db₁ db₃ := by
  intro id r found
  obtain ⟨r', found', same⟩ := first id r found
  obtain ⟨r'', found'', same'⟩ := second id r' found'
  exact ⟨r'', found'', same'.trans same⟩

/-- Only `revokeFamily` revokes a row. -/
theorem Write.RowAfter.revokedAt_eq {w : Write} {old new : RefreshToken} (after : w.RowAfter old new)
    (other : ∀ tenantId familyId when, w ≠ .revokeFamily tenantId familyId when) :
    new.revokedAt = old.revokedAt := by
  cases before : old.revokedAt with
  | some when => exact after.becomes.revokedAt when before
  | none =>
      rw [← Option.not_isSome_iff_eq_none, after.revoked, before]
      intro revoked
      rcases revoked with set | ⟨when, same⟩
      · cases set
      · exact other _ _ when same

theorem exec_keepsRevocations (c : Call) (other : ∀ tenantId familyId when,
    c ≠ .refreshTokensRevokeFamily tenantId familyId when) (db : Db) (reply : c.Reply) (writes : List Write)
    (answered : exec c db = some (reply, writes)) : KeepsRevocations db (repositories.applyAll writes db) := by
  rw [exec_writes answered]
  cases written : c.write? with
  | none => exact .refl db
  | some w =>
      have notRevoked : ∀ tenantId familyId when, w ≠ .revokeFamily tenantId familyId when := by
        intro tenantId familyId when same
        cases c with
        | refreshTokensRevokeFamily tenantId familyId when => exact other tenantId familyId when rfl
        | _ => simp [Call.write?, same] at written
      intro id r found
      obtain ⟨r', found', after⟩ := Write.find?_refreshTokens (w := w) found
      exact ⟨r', found', after.revokedAt_eq notRevoked⟩

/-- The calls that do not revoke. -/
def spares : (sig.sum signing).Call → Prop :=
  Sum.elim (fun c => ∀ tenantId familyId when, c ≠ .refreshTokensRevokeFamily tenantId familyId when) fun _ => True

/-- A refresh of an unspent token never revokes. -/
theorem within_unspentCalls (ambient : Ambient) (tenantId : TenantId) (stored : RefreshToken) :
    (RefreshTokens.unspentCalls ambient tenantId stored).Within spares fun out => out ≠ .error .refreshTokenReuse := by
  unfold RefreshTokens.unspentCalls
  split
  · exact nofun
  · refine ⟨nofun, fun member => ?_⟩
    cases member with
    | none => exact nofun
    | some membership => exact ⟨nofun, fun _ => ⟨trivial, fun _ => ⟨trivial, fun _ => ⟨nofun, fun _ => nofun⟩⟩⟩⟩

/-- A stored token that is unspent is not taken for reuse, and nothing is revoked for it. -/
theorem harmless_of_unspent (verified : ambient.tokenService.verifyRefreshToken input.refreshToken = some claims)
    (found : db.byHash claims.tenantId (ambient.tokenService.hashRefreshToken input.refreshToken) = some stored)
    (unspent : stored.isSpent = false) (fate : Nat → Fate) :
    (RefreshTokens.attempt input ambient fate db).1 ≠ some (.error .refreshTokenReuse) ∧
      KeepsRevocations db (RefreshTokens.attempt input ambient fate db).2 := by
  rw [RefreshTokens.attempt_of_found verified found unspent]
  split
  · have within := within_unspentCalls ambient claims.tenantId stored
    constructor
    · intro reuse
      exact Proc.attempt_result within (Prod.ext reuse rfl) rfl
    · exact Proc.attempt_kept .refl .trans exec_keepsRevocations within
  · exact ⟨nofun, .refl db⟩

namespace InOrder

variable (inOrder : InOrder db input ambient claims stored)
include inOrder

/-- While the tokens are as they were, the holder may come again. -/
theorem retryable {db' : Db} (same : db'.refreshTokens = db.refreshTokens) : Retryable input ambient db' := by
  intro ambient' fate' sameToken
  cases verified : ambient'.tokenService.verifyRefreshToken input.refreshToken with
  | none =>
      rw [RefreshTokens.attempt, RefreshTokens.executeCalls, verified]
      exact ⟨(fun reuse => by cases reuse), .refl db'⟩
  | some claims' =>
      cases (sameToken.claims claims' verified).symm.trans inOrder.verified
      refine harmless_of_unspent verified ?_ inOrder.unspent fate'
      rw [Db.byHash, same, sameToken.hash]
      exact inOrder.found

/-- A refresh gets as far as the mark, or it fails before with everything as it was. -/
theorem attempt_eq (fate : Nat → Fate) : RefreshTokens.attempt input ambient fate db =
    if fate Point.findByHash = .answers ∧ fate Point.findByUserId = .answers then
      (db.memberships.find? (claims.tenantId, stored.userId)).elim (some (.error .invalidCredentials), db)
        fun membership => (RefreshTokens.rotateCalls ambient claims.tenantId stored membership).attempt
          repositories () ambient.tokenService.sign (fun n => fate (n + 2)) db
    else (none, db) := by
  have member : exec (.membershipsFindByUserId claims.tenantId stored.userId) db =
      some (db.memberships.find? (claims.tenantId, stored.userId), []) := rfl
  rw [RefreshTokens.attempt_of_found inOrder.verified inOrder.found inOrder.unspent]
  by_cases searched : fate Point.findByHash = .answers
  · rw [if_pos searched, RefreshTokens.unspentCalls, inOrder.unexpired, if_neg Bool.false_ne_true]
    refine (Proc.attempt_store (η := repositories) member).trans ?_
    cases becomes : fate Point.findByUserId with
    | throws => rw [if_neg fun both => Fate.noConfusion both.2]
    | lost =>
        rw [if_neg fun both => Fate.noConfusion both.2]
        rfl
    | answers =>
        rw [if_pos ⟨searched, rfl⟩]
        cases db.memberships.find? (claims.tenantId, stored.userId) with
        | none => rfl
        | some membership => rfl
  · rw [if_neg searched, if_neg fun both => searched both.1]

end InOrder

/-- What a search by hash found it goes on finding, as it was or rotated or revoked since. -/
def KeepsFound (db db' : Db) : Prop :=
  ∀ tenantId tokenHash r, db.byHash tenantId tokenHash = some r →
    ∃ r', db'.byHash tenantId tokenHash = some r' ∧ r.Becomes r'

theorem KeepsFound.refl (db : Db) : KeepsFound db db := fun _ _ r found => ⟨r, found, .refl r⟩

theorem KeepsFound.trans {db₁ db₂ db₃ : Db} (first : KeepsFound db₁ db₂) (second : KeepsFound db₂ db₃) :
    KeepsFound db₁ db₃ := by
  intro tenantId tokenHash r found
  obtain ⟨r', found', becomes⟩ := first tenantId tokenHash r found
  obtain ⟨r'', found'', becomes'⟩ := second tenantId tokenHash r' found'
  exact ⟨r'', found'', becomes.trans becomes'⟩

theorem exec_keepsFound (c : Call) (_ : True) (db : Db) (reply : c.Reply) (writes : List Write)
    (answered : exec c db = some (reply, writes)) : KeepsFound db (repositories.applyAll writes db) := by
  rw [exec_writes answered]
  cases c.write? with
  | none => exact .refl db
  | some w =>
      intro tenantId tokenHash r found
      obtain ⟨r', found', after⟩ := Write.byHash_apply (w := w) found
      exact ⟨r', found', after.becomes⟩

section Rotating

variable {membership : MembershipRow}

/-- The database once the mark has taken hold. -/
def marked (ambient : Ambient) (claims : RefreshTokenClaims) (stored : RefreshToken) (db : Db) : Db :=
  (Write.markRotated claims.tenantId stored.id (ambient.now 0)).apply db

/-- The mark spends the token. -/
theorem spent_marked {tokenHash : String} (found : db.byHash claims.tenantId tokenHash = some stored) :
    ∃ r, (marked ambient claims stored db).byHash claims.tenantId tokenHash = some r ∧
      r.SameFamily stored ∧ r.isSpent = true := by
  have tenant := (Table.findFirst_mem found).2
  simp only [Bool.and_eq_true, decide_eq_true_eq] at tenant
  obtain ⟨r, found', after⟩ :=
    Write.byHash_apply (w := .markRotated claims.tenantId stored.id (ambient.now 0)) found
  have rotated : r.rotatedAt.isSome = true := after.rotated.mpr (.inr ⟨ambient.now 0, by rw [tenant.2]⟩)
  exact ⟨r, found', after.becomes.sameFamily, by rw [RefreshToken.isSpent, rotated, Bool.true_or]⟩

/-- What is saved is as free after the mark as before it. -/
theorem free_marked {token : RefreshToken} : Free (marked ambient claims stored db) token ↔ Free db token := by
  change (∀ row ∈ db.refreshTokens.rows.map _, _) ↔ _
  rw [List.forall_mem_map]
  refine forall_congr' fun row => forall_congr' fun _ => ?_
  split <;> rfl

/-- The rest of a refresh from the mark on, where `fate 0` becomes of the mark. -/
def rotation (ambient : Ambient) (claims : RefreshTokenClaims) (stored : RefreshToken)
    (membership : MembershipRow) (fate : Nat → Fate) (db : Db) : Option (Except IamError AuthTokens) × Db :=
  (RefreshTokens.rotateCalls ambient claims.tenantId stored membership).attempt repositories ()
    ambient.tokenService.sign fate db

theorem rotation_of_throws (throws : fate 0 = .throws) :
    rotation ambient claims stored membership fate db = (none, db) := by
  refine (Proc.attempt_store (η := repositories) rfl).trans ?_
  rw [throws]

theorem rotation_of_lost (lost : fate 0 = .lost) :
    rotation ambient claims stored membership fate db = (none, marked ambient claims stored db) := by
  refine (Proc.attempt_store (η := repositories) rfl).trans ?_
  rw [lost]
  rfl

/-- What follows a mark that answers. -/
def minting (ambient : Ambient) (claims : RefreshTokenClaims) (stored : RefreshToken)
    (membership : MembershipRow) : Proc (sig.sum signing) (Except IamError AuthTokens) := do
  let tokens ← SessionIssuer.issueCalls (ambient.now 1) stored.userId claims.tenantId membership.role stored.familyId
  return .ok tokens

theorem rotation_of_answers (answers : fate 0 = .answers) :
    rotation ambient claims stored membership fate db =
      (minting ambient claims stored membership).attempt repositories () ambient.tokenService.sign
        (fun n => fate (n + 1)) (marked ambient claims stored db) := by
  refine (Proc.attempt_store (η := repositories) rfl).trans ?_
  rw [answers]
  rfl

/-- Once the mark has taken hold, a search finds the token spent whatever comes of the rest. -/
theorem spent_of_rotation (holds : fate 0 ≠ .throws) {tokenHash : String}
    (found : db.byHash claims.tenantId tokenHash = some stored) :
    ∃ r, (rotation ambient claims stored membership fate db).2.byHash claims.tenantId tokenHash = some r ∧
      r.SameFamily stored ∧ r.isSpent = true := by
  have marks : ∃ r, (marked ambient claims stored db).byHash claims.tenantId tokenHash = some r ∧
      r.SameFamily stored ∧ r.isSpent = true := spent_marked found
  obtain ⟨r, found, same, spent⟩ := marks
  cases becomes : fate 0 with
  | throws => exact absurd becomes holds
  | lost => exact ⟨r, by rw [rotation_of_lost becomes]; exact found, same, spent⟩
  | answers =>
      have anything : (minting ambient claims stored membership).Within
          (Sum.elim (fun _ => True) fun _ => True) fun _ => True :=
        ⟨trivial, fun _ => ⟨trivial, fun _ => ⟨trivial, fun _ => trivial⟩⟩⟩
      have kept : KeepsFound (marked ambient claims stored db)
          (rotation ambient claims stored membership fate db).2 := by
        rw [rotation_of_answers becomes]
        exact Proc.attempt_kept .refl .trans exec_keepsFound anything
      obtain ⟨r', found', later⟩ := kept _ _ r found
      exact ⟨r', found', later.sameFamily.trans same, later.spent spent⟩

/-- What follows the mark answers `Ok` exactly if nothing throws, and it never answers anything else. -/
theorem minting_ok_iff :
    (∃ tokens, ((minting ambient claims stored membership).attempt repositories () ambient.tokenService.sign
      fate db).1 = some (.ok tokens)) ↔
      fate 0 = .answers ∧ fate 1 = .answers ∧ fate 2 = .answers ∧ Free db (successorOf ambient claims stored) := by
  classical
  have first : (minting ambient claims stored membership).attempt repositories () ambient.tokenService.sign fate db =
      if fate 0 = .answers then _ else (none, db) := Proc.attempt_service
  by_cases signed : fate 0 = .answers
  · have second := first.trans ((if_pos signed).trans Proc.attempt_service)
    by_cases issued : fate 1 = .answers
    · have saved := exec_save_eq (successorOf ambient claims stored) db
      by_cases free : Free db (successorOf ambient claims stored)
      · rw [if_pos free] at saved
        have third := second.trans ((if_pos issued).trans (Proc.attempt_store saved))
        rw [third]
        cases becomes : fate 2 with
        | answers => exact ⟨fun _ => ⟨signed, issued, rfl, free⟩, fun _ => ⟨_, rfl⟩⟩
        | throws => simp
        | lost => simp
      · rw [if_neg free] at saved
        have third := second.trans ((if_pos issued).trans (Proc.attempt_store_failed saved))
        rw [third]
        simp [free]
    · rw [second, if_neg issued]
      simp [issued]
  · rw [first, if_neg signed]
    simp [signed]

theorem rotation_ok_iff :
    (∃ tokens, (rotation ambient claims stored membership (fun n => fate (n + 2)) db).1 = some (.ok tokens)) ↔
      NothingThrows db ambient claims stored fate := by
  cases becomes : fate Point.markRotated with
  | throws =>
      rw [rotation_of_throws becomes]
      exact ⟨nofun, fun nothing => Fate.noConfusion (becomes.symm.trans nothing.markRotated)⟩
  | lost =>
      rw [rotation_of_lost becomes]
      exact ⟨nofun, fun nothing => Fate.noConfusion (becomes.symm.trans nothing.markRotated)⟩
  | answers =>
      rw [rotation_of_answers becomes, minting_ok_iff, free_marked]
      constructor
      · intro ended
        exact ⟨becomes, ended.1, ended.2.1, ended.2.2.1, ended.2.2.2⟩
      · intro nothing
        exact ⟨nothing.signAccessToken, nothing.issueRefreshToken, nothing.save, nothing.free⟩

end Rotating

namespace InOrder

variable (inOrder : InOrder db input ambient claims stored)
include inOrder

/-- A refresh that fails before its mark changes nothing. -/
theorem unchanged_of_failsBeforeMark (early : FailsBeforeMark db claims stored fate) :
    (RefreshTokens.attempt input ambient fate db).2 = db := by
  rw [inOrder.attempt_eq]
  split
  · rename_i searched
    cases member : db.memberships.find? (claims.tenantId, stored.userId) with
    | none => rfl
    | some membership =>
        cases early with
        | findByHash throws => exact absurd searched.1 throws
        | findByUserId throws => exact absurd searched.2 throws
        | noMember absent => cases member.symm.trans absent
        | markRotated throws =>
            have thrown : (fun n => fate (n + 2)) 0 = .throws := throws
            exact congrArg Prod.snd (rotation_of_throws thrown)
  · rfl

/-- A refresh that does not fail before its mark gets to it, and the mark takes hold. -/
theorem attempt_of_marks (marks : ¬FailsBeforeMark db claims stored fate) :
    ∃ membership, RefreshTokens.attempt input ambient fate db =
      rotation ambient claims stored membership (fun n => fate (n + 2)) db := by
  rw [inOrder.attempt_eq]
  split
  · cases member : db.memberships.find? (claims.tenantId, stored.userId) with
    | none => exact absurd (.noMember member) marks
    | some membership => exact ⟨membership, rfl⟩
  · rename_i thrown
    by_cases searched : fate Point.findByHash = .answers
    · exact absurd (.findByUserId fun answers => thrown ⟨searched, answers⟩) marks
    · exact absurd (.findByHash searched) marks

/-- After a refresh that does not fail before its mark, a search finds the token spent. -/
theorem spent_of_marks (marks : ¬FailsBeforeMark db claims stored fate) :
    ∃ r, (RefreshTokens.attempt input ambient fate db).2.byHash claims.tenantId
        (ambient.tokenService.hashRefreshToken input.refreshToken) = some r ∧
      r.SameFamily stored ∧ r.isSpent = true := by
  obtain ⟨membership, attempted⟩ := inOrder.attempt_of_marks marks
  rw [attempted]
  have holds : (fun n => fate (n + 2)) 0 ≠ .throws := fun throws => marks (.markRotated throws)
  exact spent_of_rotation holds inOrder.found

end InOrder

/-- A refresh of a token that is in order leaves the session usable exactly if it fails before its mark has
    taken hold, or nothing throws at all. -/
theorem failedRefresh_usable_iff (inOrder : InOrder db input ambient claims stored) :
    LeavesUsable input ambient fate db ↔
      FailsBeforeMark db claims stored fate ∨ NothingThrows db ambient claims stored fate := by
  constructor
  · intro usable
    by_contra neither
    rw [not_or] at neither
    obtain ⟨membership, attempted⟩ := inOrder.attempt_of_marks neither.1
    have failed : ∀ tokens, (RefreshTokens.attempt input ambient fate db).1 ≠ some (.ok tokens) := by
      intro tokens ok
      exact neither.2 (rotation_ok_iff.mp ⟨tokens, by rw [← attempted]; exact ok⟩)
    obtain ⟨same, _⟩ := usable failed
    obtain ⟨r, found, _, spent⟩ := inOrder.spent_of_marks neither.1
    rw [Db.byHash, same] at found
    cases found.symm.trans inOrder.found
    exact Bool.noConfusion (spent.symm.trans inOrder.unspent)
  · intro either failed
    rcases either with early | nothing
    · rw [inOrder.unchanged_of_failsBeforeMark early]
      exact ⟨rfl, inOrder.retryable rfl⟩
    · by_cases early : FailsBeforeMark db claims stored fate
      · rw [inOrder.unchanged_of_failsBeforeMark early]
        exact ⟨rfl, inOrder.retryable rfl⟩
      · obtain ⟨membership, attempted⟩ := inOrder.attempt_of_marks early
        obtain ⟨tokens, ok⟩ := rotation_ok_iff.mpr nothing
        exact absurd (by rw [attempted]; exact ok) (failed tokens)

/-- A spent token is taken for reuse, and its family is revoked. -/
theorem attempt_of_spent {spent : RefreshToken} {ambient' : Ambient}
    (verified : ambient'.tokenService.verifyRefreshToken input.refreshToken = some claims)
    (found : db.byHash claims.tenantId (ambient'.tokenService.hashRefreshToken input.refreshToken) = some spent)
    (isSpent : spent.isSpent = true) :
    RefreshTokens.attempt input ambient' (fun _ => .answers) db =
      (some (.error .refreshTokenReuse),
        (Write.revokeFamily claims.tenantId spent.familyId (ambient'.now 0)).apply db) := by
  have answered : exec (.refreshTokensFindByHash claims.tenantId
      (ambient'.tokenService.hashRefreshToken input.refreshToken)) db = some (some spent, []) := by
    rw [← found]
    rfl
  simp only [RefreshTokens.attempt, RefreshTokens.executeCalls, verified]
  refine (Proc.attempt_store (η := repositories) answered).trans ?_
  change (if spent.isSpent = true then _ else _ : Proc _ _).attempt _ _ _ _ _ = _
  rw [if_pos isSpent]
  rfl

/-- After a refresh whose mark has taken hold, the holder's next try is answered as reuse, and every token of
    the family is revoked for it. -/
theorem theft_of_marks (inOrder : InOrder db input ambient claims stored)
    (marks : ¬FailsBeforeMark db claims stored fate) {ambient' : Ambient} (same : SameToken input ambient ambient')
    (verified : ambient'.tokenService.verifyRefreshToken input.refreshToken = some claims) :
    let retry := RefreshTokens.attempt input ambient' (fun _ => .answers)
      (RefreshTokens.attempt input ambient fate db).2
    retry.1 = some (.error .refreshTokenReuse) ∧
      ∀ r ∈ retry.2.refreshTokens.rows, r.tenantId = claims.tenantId → r.familyId = stored.familyId →
        r.revokedAt.isSome = true := by
  obtain ⟨r, found, sameFamily, spent⟩ := inOrder.spent_of_marks marks
  rw [← same.hash] at found
  dsimp only
  rw [attempt_of_spent verified found spent]
  refine ⟨rfl, ?_⟩
  change ∀ r' ∈ List.map _ _, _
  rw [List.forall_mem_map]
  intro row _ tenant family
  split
  · rfl
  · rename_i missed
    rw [if_neg missed] at tenant family
    simpa [Write.revokes, tenant, family, sameFamily.familyId, Option.isSome_iff_ne_none] using missed

end Attempts

section Example

/-- A token of minute 0, good for a week. -/
def weekToken : RefreshToken :=
  .issue ⟨200⟩ ⟨1⟩ ⟨2⟩ ⟨20⟩ "held" 604800000 0

/-- A member who holds it. -/
def holderDb : Db where
  memberships := Table.empty.insert { tenantId := ⟨1⟩, userId := ⟨2⟩, role := .AGENT }
  refreshTokens := Table.empty.insert weekToken

/-- A request of minute 1. The tokens are their own hashes here. -/
def minuteOne : Ambient where
  tokenService :=
    { signAccessToken := fun _ => "access"
      issueRefreshToken := fun _ _ _ => { token := "next", tokenHash := "next", tokenId := 201, expiresAt := 604860000 }
      verifyRefreshToken := fun _ => some { userId := ⟨2⟩, tenantId := ⟨1⟩, familyId := ⟨20⟩, tokenId := ⟨200⟩ }
      hashRefreshToken := fun token => token }
  uuid _ := 0
  now _ := 60000

/-- One call throws. -/
def throwsAt (point : Nat) (n : Nat) : Fate :=
  if n = point then .throws else .answers

theorem weekToken_inOrder :
    InOrder holderDb ⟨"held"⟩ minuteOne ⟨⟨2⟩, ⟨1⟩, ⟨20⟩, ⟨200⟩⟩ weekToken where
  verified := rfl
  found := by decide
  unspent := rfl
  unexpired := by decide

/-- Signing the access token throws: the refresh fails, and the session is lost. -/
theorem unsigned_notUsable :
    InOrder holderDb ⟨"held"⟩ minuteOne ⟨⟨2⟩, ⟨1⟩, ⟨20⟩, ⟨200⟩⟩ weekToken ∧
      (RefreshTokens.attempt ⟨"held"⟩ minuteOne (throwsAt Point.signAccessToken) holderDb).1 = none ∧
      (RefreshTokens.attempt ⟨"held"⟩ minuteOne (fun _ => .answers)
        (RefreshTokens.attempt ⟨"held"⟩ minuteOne (throwsAt Point.signAccessToken) holderDb).2).1 =
          some (.error .refreshTokenReuse) ∧
      ¬LeavesUsable ⟨"held"⟩ minuteOne (throwsAt Point.signAccessToken) holderDb := by
  have failed : (RefreshTokens.attempt ⟨"held"⟩ minuteOne (throwsAt Point.signAccessToken) holderDb).1 = none := rfl
  have reuse : (RefreshTokens.attempt ⟨"held"⟩ minuteOne (fun _ => .answers)
      (RefreshTokens.attempt ⟨"held"⟩ minuteOne (throwsAt Point.signAccessToken) holderDb).2).1 =
        some (.error .refreshTokenReuse) := rfl
  refine ⟨weekToken_inOrder, failed, reuse, ?_⟩
  intro usable
  have retryable := (usable (by rw [failed]; exact nofun)).2
  exact (retryable minuteOne (fun _ => .answers) ⟨rfl, fun _ same => same⟩).1 reuse

/-- Where the search for the member throws, the session is as it was. -/
theorem failedRefresh_usable_iff_memberThrows :
    LeavesUsable ⟨"held"⟩ minuteOne (throwsAt Point.findByUserId) holderDb ∧
      ¬LeavesUsable ⟨"held"⟩ minuteOne (throwsAt Point.save) holderDb := by
  constructor
  · exact (failedRefresh_usable_iff weekToken_inOrder).mpr (.inl (.findByUserId (by decide)))
  · rw [failedRefresh_usable_iff weekToken_inOrder]
    intro either
    rcases either with early | nothing
    · cases early with
      | findByHash throws => exact throws rfl
      | findByUserId throws => exact throws rfl
      | noMember absent => exact absurd absent (by decide)
      | markRotated throws => cases throws
    · cases nothing.save

end Example

end Helpdesk.Iam
