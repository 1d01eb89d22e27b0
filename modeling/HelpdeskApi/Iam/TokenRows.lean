/-
Module: HelpdeskApi.Iam.TokenRows
Layer: Store
Purpose: What one statement does to the rows of the refresh tokens: a row keeps its columns for good, and
  once it is rotated or revoked it stays so, with the time it got first.
Trusted boundary: none
Main exports: RefreshToken.Becomes, Write.find?_refreshTokens, Write.mem_refreshTokens, UniqueHashes,
  exec_save, exec_findByHash
-/
import HelpdeskApi.Iam.Repositories

namespace Helpdesk.Iam

open Relational Txn

/-- What a row may look like later. -/
structure RefreshToken.Becomes (old new : RefreshToken) : Prop where
  columns : new = { old with rotatedAt := new.rotatedAt, revokedAt := new.revokedAt }
  rotatedAt : ∀ when, old.rotatedAt = some when → new.rotatedAt = some when
  revokedAt : ∀ when, old.revokedAt = some when → new.revokedAt = some when

namespace RefreshToken

/-- Two tokens are of one family. The id of a family is only looked up within a tenant. -/
structure SameFamily (t u : RefreshToken) : Prop where
  tenantId : t.tenantId = u.tenantId
  familyId : t.familyId = u.familyId

variable {t u v : RefreshToken}

theorem Becomes.refl (t : RefreshToken) : t.Becomes t := ⟨rfl, fun _ same => same, fun _ same => same⟩

theorem Becomes.trans (first : t.Becomes u) (second : u.Becomes v) : t.Becomes v where
  columns := by rw [second.columns, first.columns]
  rotatedAt when set := second.rotatedAt when (first.rotatedAt when set)
  revokedAt when set := second.revokedAt when (first.revokedAt when set)

theorem Becomes.id (becomes : t.Becomes u) : u.id = t.id := by rw [becomes.columns]

theorem Becomes.tokenHash (becomes : t.Becomes u) : u.tokenHash = t.tokenHash := by rw [becomes.columns]

theorem Becomes.sameFamily (becomes : t.Becomes u) : u.SameFamily t :=
  ⟨by rw [becomes.columns], by rw [becomes.columns]⟩

theorem SameFamily.family (same : t.SameFamily u) : t.family = u.family := by
  rw [RefreshToken.family, RefreshToken.family, same.tenantId, same.familyId]

theorem Becomes.family (becomes : t.Becomes u) : u.family = t.family := becomes.sameFamily.family

theorem SameFamily.symm (same : t.SameFamily u) : u.SameFamily t := ⟨same.tenantId.symm, same.familyId.symm⟩

theorem SameFamily.trans (first : t.SameFamily u) (second : u.SameFamily v) : t.SameFamily v :=
  ⟨first.tenantId.trans second.tenantId, first.familyId.trans second.familyId⟩

/-- What is spent stays spent. -/
theorem Becomes.spent (becomes : t.Becomes u) (spent : t.isSpent = true) : u.isSpent = true := by
  simp only [isSpent, Bool.or_eq_true, Option.isSome_iff_exists] at spent ⊢
  rcases spent with ⟨when, rotated⟩ | ⟨when, revoked⟩
  · exact .inl ⟨when, becomes.rotatedAt when rotated⟩
  · exact .inr ⟨when, becomes.revokedAt when revoked⟩

end RefreshToken

section Statements

/-- What a statement makes of a row: it is rotated or revoked afterwards if it was before, or if the
    statement says so of it. -/
structure Write.RowAfter (w : Write) (old new : RefreshToken) : Prop where
  becomes : old.Becomes new
  rotated : new.rotatedAt.isSome = true ↔
    old.rotatedAt.isSome = true ∨ ∃ when, w = .markRotated old.tenantId old.id when
  revoked : new.revokedAt.isSome = true ↔
    old.revokedAt.isSome = true ∨ ∃ when, w = .revokeFamily old.tenantId old.familyId when

theorem Write.rowAfter_markRotated (tenantId : TenantId) (id : RefreshTokenId) (when : Instant)
    (r : RefreshToken) : (Write.markRotated tenantId id when).RowAfter r
      (if rotates tenantId id r then { r with rotatedAt := some when } else r) := by
  by_cases hit : rotates tenantId id r = true
  · rw [if_pos hit]
    simp only [rotates, Bool.and_eq_true, decide_eq_true_eq] at hit
    obtain ⟨⟨sameId, sameTenant⟩, unset⟩ := hit
    constructor
    · exact ⟨rfl, fun x set => by simp [unset] at set, fun _ same => same⟩
    · exact iff_of_true rfl (.inr ⟨when, by rw [sameId, sameTenant]⟩)
    · exact ⟨.inl, fun either => either.elim (fun set => set) fun ⟨_, same⟩ => by cases same⟩
  · rw [if_neg hit]
    simp only [rotates, Bool.and_eq_true, decide_eq_true_eq, not_and] at hit
    constructor
    · exact .refl r
    · refine ⟨.inl, fun either => either.elim (fun set => set) ?_⟩
      intro named
      obtain ⟨_, same⟩ := named
      cases same
      exact Option.isSome_iff_ne_none.mpr (hit ⟨rfl, rfl⟩)
    · exact ⟨.inl, fun either => either.elim (fun set => set) fun ⟨_, same⟩ => by cases same⟩

theorem Write.rowAfter_revokeFamily (tenantId : TenantId) (familyId : RefreshFamilyId) (when : Instant)
    (r : RefreshToken) : (Write.revokeFamily tenantId familyId when).RowAfter r
      (if revokes tenantId familyId r then { r with revokedAt := some when } else r) := by
  by_cases hit : revokes tenantId familyId r = true
  · rw [if_pos hit]
    simp only [revokes, Bool.and_eq_true, decide_eq_true_eq] at hit
    obtain ⟨⟨sameFamily, sameTenant⟩, unset⟩ := hit
    constructor
    · exact ⟨rfl, fun _ same => same, fun x set => by simp [unset] at set⟩
    · exact ⟨.inl, fun either => either.elim (fun set => set) fun ⟨_, same⟩ => by cases same⟩
    · exact iff_of_true rfl (.inr ⟨when, by rw [sameFamily, sameTenant]⟩)
  · rw [if_neg hit]
    simp only [revokes, Bool.and_eq_true, decide_eq_true_eq, not_and] at hit
    constructor
    · exact .refl r
    · exact ⟨.inl, fun either => either.elim (fun set => set) fun ⟨_, same⟩ => by cases same⟩
    · refine ⟨.inl, fun either => either.elim (fun set => set) ?_⟩
      intro named
      obtain ⟨_, same⟩ := named
      cases same
      exact Option.isSome_iff_ne_none.mpr (hit ⟨rfl, rfl⟩)

theorem Write.rowAfter_insert (token r : RefreshToken) : (Write.insertRefreshToken token).RowAfter r r where
  becomes := .refl r
  rotated := ⟨.inl, fun either => either.elim (fun set => set) fun ⟨_, same⟩ => by cases same⟩
  revoked := ⟨.inl, fun either => either.elim (fun set => set) fun ⟨_, same⟩ => by cases same⟩

variable {w : Write} {db : Db} {r : RefreshToken}

/-- A row that is there is there after the statement. -/
theorem Write.find?_refreshTokens {id : RefreshTokenId} (stored : db.refreshTokens.find? id = some r) :
    ∃ r', (w.apply db).refreshTokens.find? id = some r' ∧ w.RowAfter r r' := by
  cases w with
  | insertRefreshToken token =>
      refine ⟨r, ?_, rowAfter_insert token r⟩
      rw [apply, Table.find?_insert, stored]
      rfl
  | markRotated tenantId id' when =>
      refine ⟨_, ?_, rowAfter_markRotated tenantId id' when r⟩
      rw [apply, Table.find?_updateWhere, stored]
      rfl
  | revokeFamily tenantId familyId when =>
      refine ⟨_, ?_, rowAfter_revokeFamily tenantId familyId when r⟩
      rw [apply, Table.find?_updateWhere, stored]
      rfl

/-- A row after the statement was there before, or the statement has inserted it. -/
theorem Write.mem_refreshTokens (stored : r ∈ (w.apply db).refreshTokens.rows) :
    (∃ old ∈ db.refreshTokens.rows, w.RowAfter old r) ∨
      ∃ token, w = .insertRefreshToken token ∧ r = createRefreshTokenRow token := by
  cases w with
  | insertRefreshToken token =>
      rcases Table.mem_of_mem_insert stored with old | new
      · exact .inl ⟨r, old, rowAfter_insert token r⟩
      · exact .inr ⟨token, rfl, new⟩
  | markRotated tenantId id when =>
      obtain ⟨old, inside, rfl⟩ := List.mem_map.mp stored
      exact .inl ⟨old, inside, rowAfter_markRotated tenantId id when old⟩
  | revokeFamily tenantId familyId when =>
      obtain ⟨old, inside, rfl⟩ := List.mem_map.mp stored
      exact .inl ⟨old, inside, rowAfter_revokeFamily tenantId familyId when old⟩

/-- No two rows have the same hash: the unique index on `token_hash`. -/
def UniqueHashes (db : Db) : Prop :=
  ∀ r ∈ db.refreshTokens.rows, ∀ r' ∈ db.refreshTokens.rows, r.tokenHash = r'.tokenHash → r.id = r'.id

/-- Hashes stay unique where what is saved has a hash that no row has. -/
theorem UniqueHashes.apply (unique : UniqueHashes db)
    (free : ∀ token, w = .insertRefreshToken token → ∀ row ∈ db.refreshTokens.rows, row.tokenHash ≠ token.tokenHash) :
    UniqueHashes (w.apply db) := by
  intro r stored r' stored' sameHash
  rcases w.mem_refreshTokens stored with ⟨old, inside, after⟩ | ⟨token, saved, rfl⟩
  · rcases w.mem_refreshTokens stored' with ⟨old', inside', after'⟩ | ⟨token', saved', rfl⟩
    · rw [after.becomes.id, after'.becomes.id]
      apply unique old inside old' inside'
      rw [← after.becomes.tokenHash, ← after'.becomes.tokenHash, sameHash]
    · have same : old.tokenHash = token'.tokenHash := after.becomes.tokenHash.symm.trans sameHash
      exact absurd same (free token' saved' old inside)
  · rcases w.mem_refreshTokens stored' with ⟨old', inside', after'⟩ | ⟨token', saved', rfl⟩
    · have same : old'.tokenHash = token.tokenHash := after'.becomes.tokenHash.symm.trans sameHash.symm
      exact absurd same (free token saved old' inside')
    · cases saved.symm.trans saved'
      rfl

end Statements

section Calls

variable {db : Db}

/-- The one statement of a call, if it is not a query. -/
def Call.write? : Call → Option Write
  | .refreshTokensSave token => some (.insertRefreshToken token)
  | .refreshTokensMarkRotated tenantId id when => some (.markRotated tenantId id when)
  | .refreshTokensRevokeFamily tenantId familyId when => some (.revokeFamily tenantId familyId when)
  | _ => none

theorem exec_writes {c : Call} {reply : c.Reply} {writes : List Write}
    (answered : exec c db = some (reply, writes)) : writes = c.write?.toList := by
  cases c with
  | refreshTokensSave token =>
      simp only [exec] at answered
      split at answered
      · cases answered
      · cases answered
        rfl
  | _ =>
      cases answered
      rfl

/-- What is saved has an id and a hash of its own. -/
theorem exec_save {token : RefreshToken} {reply : Unit} {writes : List Write}
    (answered : exec (.refreshTokensSave token) db = some (reply, writes)) :
    ∀ r ∈ db.refreshTokens.rows, r.id ≠ token.id ∧ r.tokenHash ≠ token.tokenHash := by
  simp only [exec] at answered
  split at answered
  · cases answered
  · rename_i free
    simpa [Table.any, not_or] using free

/-- What a search by hash finds. -/
theorem exec_findByHash {tenantId : TenantId} {tokenHash : String} {r : RefreshToken} {writes : List Write}
    (answered : exec (.refreshTokensFindByHash tenantId tokenHash) db = some (some r, writes)) :
    r ∈ db.refreshTokens.rows ∧ r.tokenHash = tokenHash ∧ r.tenantId = tenantId := by
  simp only [exec, Option.some.injEq, Prod.mk.injEq] at answered
  have found := Table.findFirst_mem answered.1
  simpa using found

end Calls

end Helpdesk.Iam
