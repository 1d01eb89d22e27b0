/-
Module: HelpdeskApi.Iam.Coherence
Layer: Store
Purpose: When the tables of accounts fit together: slugs and addresses tell organisations and users apart, every
  user can be read back and belongs to an organisation, every membership and every session to a user of its
  tenant. The constraints of the tables see to it for as long as a request provisions what is its own and saves
  sessions of users it has found, and no account is ever changed or removed (`Grows`).
Trusted boundary: none
Main exports: Coherent, Grows, growing, grows_provision, grows_save, grows_markRotated, grows_revokeFamily,
  create_value
-/
import HelpdeskApi.Iam.Lookups
import HelpdeskApi.Library.RelyGuarantee

namespace Helpdesk.Iam

open Relational Txn

section Addresses

/-- A text without white space has nothing to be trimmed. -/
theorem trim_of_noSpace {text : String} (noSpace : ∀ c ∈ text.toList, isWhiteSpace c = false) : trim text = text := by
  have kept {l : List Char} (inside : ∀ c ∈ l, c ∈ text.toList) : l.dropWhile isWhiteSpace = l := by
    cases l with
    | nil => rfl
    | cons c cs =>
        rw [List.dropWhile_cons, noSpace c (inside c List.mem_cons_self)]
        rfl
  rw [trim, kept fun c => id, kept fun c => List.mem_reverse.mp, List.reverse_reverse, String.ofList_toList]

theorem isWhiteSpace_of_isEmailChar {c : Char} (isChar : isEmailChar c = true) : isWhiteSpace c = false := by
  simp only [isEmailChar, Bool.and_eq_true, Bool.not_eq_true'] at isChar
  exact isChar.1

/-- There is no white space in an address. -/
theorem noSpace_of_isEmail {text : String} (isAddress : isEmail text = true) :
    ∀ c ∈ text.toList, isWhiteSpace c = false := by
  intro c inside
  rw [← List.takeWhile_append_dropWhile (p := isEmailChar) (l := text.toList), List.mem_append] at inside
  rcases inside with user | domain
  · exact isWhiteSpace_of_isEmailChar (List.mem_takeWhile_imp user)
  · unfold isEmail at isAddress
    split at isAddress
    · rename_i rest begins
      rw [begins, List.mem_cons] at domain
      simp only [Bool.and_eq_true, List.all_eq_true] at isAddress
      rcases domain with rfl | behind
      · decide
      · exact isWhiteSpace_of_isEmailChar (isAddress.1.2 c behind)
    · cases isAddress

/-- `toLowerCase` leaves alone what it has made. -/
def LowersOnce (unicode : Unicode) : Prop :=
  ∀ text, unicode.toLowerCase (unicode.toLowerCase text) = unicode.toLowerCase text

/-- An accepted address is accepted again, as it is. -/
theorem create_value {unicode : Unicode} (lowersOnce : LowersOnce unicode) {raw : String} {email : Email}
    (accepted : Email.create unicode raw = .ok email) : Email.create unicode email.value = .ok email := by
  unfold Email.create at accepted
  dsimp only at accepted
  split at accepted
  · rename_i wellFormed
    cases accepted
    have same : unicode.toLowerCase (trim (unicode.toLowerCase (trim raw))) = unicode.toLowerCase (trim raw) := by
      rw [trim_of_noSpace (noSpace_of_isEmail wellFormed), lowersOnce]
    simp only [Email.create, same, wellFormed, ↓reduceDIte]
  · cases accepted

/-- A user that is saved is read back as it was. -/
theorem toUser_createUserRow {unicode : Unicode} (user : User)
    (legible : Email.create unicode user.email.value = .ok user.email) : toUser unicode (createUserRow user) = some user := by
  have hash : PasswordHash.fromHash user.passwordHash.value = some user.passwordHash :=
    dif_pos user.passwordHash.notBlank
  simp only [toUser, createUserRow, legible, hash, Option.bind_eq_bind, Option.bind_some, Option.pure_def]

end Addresses

/-- The tables of accounts fit together. -/
structure Coherent (unicode : Unicode) (db : Directory.Db) : Prop where
  slugs : ∀ o ∈ db.organizations.rows, ∀ o' ∈ db.organizations.rows, o.slug = o'.slug → o = o'
  emails : ∀ u ∈ db.users.rows, ∀ u' ∈ db.users.rows, u.tenantId = u'.tenantId → u.email = u'.email → u = u'
  legible : ∀ u ∈ db.users.rows, ∃ user, toUser unicode u = some user
  housed : ∀ u ∈ db.users.rows, ∃ o ∈ db.organizations.rows, o.id = u.tenantId
  members : ∀ m ∈ db.memberships.rows, ∃ u ∈ db.users.rows, u.id = m.userId ∧ u.tenantId = m.tenantId
  sessions : ∀ t ∈ db.refreshTokens.rows, ∃ u ∈ db.users.rows, u.id = t.userId ∧ u.tenantId = t.tenantId

/-- Whose a session is, and by what it is found. -/
def RefreshToken.owner (t : RefreshToken) : TenantId × UserId × String :=
  (t.tenantId, t.userId, t.tokenHash)

/-- No account is changed or removed and no session changes hands, and the tables still fit together. -/
structure Grows (unicode : Unicode) (db db' : Directory.Db) : Prop where
  organizations : db.organizations.rows ⊆ db'.organizations.rows
  users : db.users.rows ⊆ db'.users.rows
  memberships : db.memberships.rows ⊆ db'.memberships.rows
  sessions : db.refreshTokens.rows.map RefreshToken.owner ⊆ db'.refreshTokens.rows.map RefreshToken.owner
  coherent : Coherent unicode db → Coherent unicode db'

/-- What goes on in the tables of accounts. -/
def growing (unicode : Unicode) : Rely Directory.Db where
  goes := Grows unicode
  refl _ := ⟨List.Subset.refl _, List.Subset.refl _, List.Subset.refl _, List.Subset.refl _, id⟩
  trans first second :=
    ⟨List.Subset.trans first.organizations second.organizations, List.Subset.trans first.users second.users,
      List.Subset.trans first.memberships second.memberships, List.Subset.trans first.sessions second.sessions,
      second.coherent ∘ first.coherent⟩

section Writes

variable {unicode : Unicode} {db : Directory.Db}

/-- What provisioning does not violate. -/
structure Accepts (db : Directory.Db) (input : ProvisionOrganizationInput) : Prop where
  newSlug : ∀ o ∈ db.organizations.rows, o.id ≠ input.organization.id ∧ o.slug ≠ input.organization.slug
  newUser : ∀ u ∈ db.users.rows, u.id ≠ input.owner.id ∧
    ¬(u.tenantId = input.owner.tenantId ∧ u.email = input.owner.email.value)
  newMembership : ∀ m ∈ db.memberships.rows, m.id ≠ input.membership.id ∧
    ¬(m.tenantId = input.membership.tenantId ∧ m.userId = input.membership.userId)
  ownTenant : input.owner.tenantId = input.organization.id ∧ input.membership.tenantId = input.organization.id

theorem accepts_of_refuses {input : ProvisionOrganizationInput} (taken : db.refuses input = false) : Accepts db input := by
  simp only [Directory.Db.refuses, Bool.or_eq_false_iff, bne_eq_false_iff_eq, Table.any, List.any_eq_false,
    Bool.or_eq_true, Bool.and_eq_true, decide_eq_true_eq, not_or] at taken
  obtain ⟨⟨⟨⟨⟨slugs, users⟩, memberships⟩, owner⟩, membership⟩, _⟩ := taken
  exact ⟨slugs, users, memberships, owner, membership⟩

/-- An organisation with its owner and the membership of that owner. -/
theorem grows_provision {input : ProvisionOrganizationInput} (taken : db.refuses input = false)
    (own : input.membership.userId = input.owner.id)
    (legible : ∃ user, toUser unicode (createUserRow input.owner) = some user) :
    Grows unicode db ((Directory.Write.provision input).apply db) := by
  obtain ⟨newSlug, newUser, _, ownerTenant, memberTenant⟩ := accepts_of_refuses taken
  have organization : input.organization ∈ (db.organizations.insert input.organization).rows := by
    rw [Table.rows_insert_of_free (Table.free_of_mem fun o inside => (newSlug o inside).1)]
    exact List.mem_append_right _ List.mem_cons_self
  have owner : createUserRow input.owner ∈ (db.users.insert (createUserRow input.owner)).rows := by
    rw [Table.rows_insert_of_free (Table.free_of_mem fun u inside => (newUser u inside).1)]
    exact List.mem_append_right _ List.mem_cons_self
  refine ⟨fun _ => Table.mem_insert_of_mem _, fun _ => Table.mem_insert_of_mem _, fun _ => Table.mem_insert_of_mem _,
    List.Subset.refl _, fun coherent => ⟨?_, ?_, ?_, ?_, ?_, ?_⟩⟩
  · intro o inside o' inside' same
    rcases Table.mem_of_mem_insert inside with old | rfl <;> rcases Table.mem_of_mem_insert inside' with old' | rfl
    · exact coherent.slugs o old o' old' same
    · exact absurd same (newSlug o old).2
    · exact absurd same.symm (newSlug o' old').2
    · rfl
  · intro u inside u' inside' tenant address
    rcases Table.mem_of_mem_insert inside with old | rfl <;> rcases Table.mem_of_mem_insert inside' with old' | rfl
    · exact coherent.emails u old u' old' tenant address
    · exact absurd ⟨tenant, address⟩ (newUser u old).2
    · exact absurd ⟨tenant.symm, address.symm⟩ (newUser u' old').2
    · rfl
  · intro u inside
    rcases Table.mem_of_mem_insert inside with old | rfl
    · exact coherent.legible u old
    · exact legible
  · intro u inside
    rcases Table.mem_of_mem_insert inside with old | rfl
    · obtain ⟨o, there, isHome⟩ := coherent.housed u old
      exact ⟨o, Table.mem_insert_of_mem _ there, isHome⟩
    · exact ⟨_, organization, ownerTenant.symm⟩
  · intro m inside
    rcases Table.mem_of_mem_insert inside with old | rfl
    · obtain ⟨u, there, isTheirs⟩ := coherent.members m old
      exact ⟨u, Table.mem_insert_of_mem _ there, isTheirs⟩
    · exact ⟨_, owner, own.symm, ownerTenant.trans memberTenant.symm⟩
  · intro t inside
    obtain ⟨u, there, isTheirs⟩ := coherent.sessions t inside
    exact ⟨u, Table.mem_insert_of_mem _ there, isTheirs⟩

/-- Only the sessions change, and none of them is of anybody new. -/
theorem grows_session {write : Iam.Write}
    (kept : db.refreshTokens.rows.map RefreshToken.owner ⊆
      (write.apply db.sessions).refreshTokens.rows.map RefreshToken.owner)
    (known : ∀ t ∈ (write.apply db.sessions).refreshTokens.rows, (∃ u ∈ db.users.rows, u.id = t.userId ∧
      u.tenantId = t.tenantId) ∨ ∃ t' ∈ db.refreshTokens.rows, t'.owner = t.owner) :
    Grows unicode db ((Directory.Write.session write).apply db) := by
  refine ⟨List.Subset.refl _, List.Subset.refl _, List.Subset.refl _, kept, fun coherent =>
    ⟨coherent.slugs, coherent.emails, coherent.legible, coherent.housed, coherent.members, fun t inside => ?_⟩⟩
  rcases known t inside with theirs | ⟨t', there, same⟩
  · exact theirs
  · obtain ⟨sameTenant, others⟩ := Prod.mk.inj same
    rw [← (Prod.mk.inj others).1, ← sameTenant]
    exact coherent.sessions t' there

theorem grows_save {token : RefreshToken} (known : ∃ u ∈ db.users.rows, u.id = token.userId ∧ u.tenantId = token.tenantId) :
    Grows unicode db ((Directory.Write.session (.insertRefreshToken token)).apply db) := by
  apply grows_session
  · exact List.map_subset _ fun _ => Table.mem_insert_of_mem _
  · intro t inside
    rcases Table.mem_of_mem_insert inside with old | rfl
    · exact .inr ⟨t, old, rfl⟩
    · exact .inl known

/-- An update of sessions leaves them to whom they belong. -/
theorem grows_update {write : Iam.Write} {hit : RefreshToken → Bool} {f : RefreshToken → RefreshToken}
    (keeps : ∀ r, Keyed.key (f r) = Keyed.key r)
    (isUpdate : (write.apply db.sessions).refreshTokens = db.refreshTokens.updateWhere hit f keeps)
    (owner : ∀ r, (f r).owner = r.owner) : Grows unicode db ((Directory.Write.session write).apply db) := by
  have same (r : RefreshToken) : (if hit r then f r else r).owner = r.owner := by
    split
    · exact owner r
    · rfl
  apply grows_session
  · rw [isUpdate]
    intro o inside
    obtain ⟨r, there, rfl⟩ := List.mem_map.mp inside
    exact List.mem_map.mpr ⟨_, List.mem_map_of_mem there, same r⟩
  · intro t inside
    rw [isUpdate] at inside
    obtain ⟨r, there, rfl⟩ := List.mem_map.mp inside
    exact .inr ⟨r, there, (same r).symm⟩

theorem grows_markRotated (tenantId : TenantId) (id : RefreshTokenId) (rotatedAt : Instant) :
    Grows unicode db ((Directory.Write.session (.markRotated tenantId id rotatedAt)).apply db) :=
  grows_update (f := fun r => { r with rotatedAt := some rotatedAt }) (fun _ => rfl) rfl fun _ => rfl

theorem grows_revokeFamily (tenantId : TenantId) (familyId : RefreshFamilyId) (revokedAt : Instant) :
    Grows unicode db ((Directory.Write.session (.revokeFamily tenantId familyId revokedAt)).apply db) :=
  grows_update (f := fun r => { r with revokedAt := some revokedAt }) (fun _ => rfl) rfl fun _ => rfl

end Writes

end Helpdesk.Iam
