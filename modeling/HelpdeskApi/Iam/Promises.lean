/-
Module: HelpdeskApi.Iam.Promises
Layer: Application
Purpose: What each request makes of the tables of accounts, whatever others do to them between its calls. All of
  them only let the tables grow. Whoever gets tokens has an account: there is an organisation, a user and a
  membership that the access token names, and for a registration or a login they are the ones that were asked
  for. Where the account of a login is there before it begins, it gets tokens for it.
Trusted boundary: none
Main exports: Account, Member, Collides, AuthRequest.Earns, AuthRequest.Promise, upholds_request, login_of_account
-/
import HelpdeskApi.Iam.Coherence
import HelpdeskApi.Iam.Login
import HelpdeskApi.Iam.RegistrationRuns

namespace Helpdesk.Iam

open Relational Txn

/-- The organisation of a slug has a user with this address and hash, whose membership is what the claims say. -/
structure Account (db : Directory.Db) (slug email passwordHash : String) (claims : AccessTokenClaims) : Prop where
  organization : ∃ o ∈ db.organizations.rows, o.id = claims.tenantId ∧ o.slug = slug
  user : ∃ u ∈ db.users.rows, u.id = claims.userId ∧ u.tenantId = claims.tenantId ∧ u.email = email ∧
    u.passwordHash = passwordHash
  membership : ∃ m ∈ db.memberships.rows, m.tenantId = claims.tenantId ∧ m.userId = claims.userId ∧ m.role = claims.role

/-- There is a membership that the claims of an access token repeat. -/
def Member (db : Directory.Db) (claims : AccessTokenClaims) : Prop :=
  ∃ m ∈ db.memberships.rows, m.tenantId = claims.tenantId ∧ m.userId = claims.userId ∧ m.role = claims.role

section Growing

variable {unicode : Unicode} {db db' : Directory.Db} {claims : AccessTokenClaims} {slug email passwordHash : String}

theorem Account.grows (account : Account db slug email passwordHash claims) (grows : Grows unicode db db') :
    Account db' slug email passwordHash claims := by
  obtain ⟨⟨o, inside, organization⟩, ⟨u, inside', user⟩, ⟨m, inside'', membership⟩⟩ := account
  exact ⟨⟨o, grows.organizations inside, organization⟩, ⟨u, grows.users inside', user⟩,
    ⟨m, grows.memberships inside'', membership⟩⟩

theorem Member.grows (member : Member db claims) (grows : Grows unicode db db') : Member db' claims := by
  obtain ⟨m, inside, membership⟩ := member
  exact ⟨m, grows.memberships inside, membership⟩

theorem Account.member (account : Account db slug email passwordHash claims) : Member db claims :=
  account.membership

end Growing

/-- A stored session has the id or the hash of this one. -/
def Collides (db : Directory.Db) (token : RefreshToken) : Prop :=
  ∃ t ∈ db.refreshTokens.rows, t.id = token.id ∨ t.tokenHash = token.tokenHash

namespace TokenService

variable (service : TokenService)

/-- The session that is saved for a user. -/
def opens (now : Instant) (claims : AccessTokenClaims) (familyId : RefreshFamilyId) : RefreshToken :=
  let issued := service.issueRefreshToken claims.userId claims.tenantId familyId
  .issue ⟨issued.tokenId⟩ claims.tenantId claims.userId familyId issued.tokenHash issued.expiresAt now

/-- What the client gets of it. -/
def grants (claims : AccessTokenClaims) (familyId : RefreshFamilyId) : AuthTokens :=
  let issued := service.issueRefreshToken claims.userId claims.tenantId familyId
  { accessToken := service.signAccessToken claims
    refreshToken := issued.token
    refreshTokenExpiresAt := issued.expiresAt }

end TokenService

section Programs

variable {unicode : Unicode} {collation : Collation} {db : Directory.Db} {X : Directory.Db → Prop}

/-- A user's organisation is there. -/
theorem anchored {token : RefreshToken} (coherent : Coherent unicode db)
    (known : ∃ u ∈ db.users.rows, u.id = token.userId ∧ u.tenantId = token.tenantId) :
    db.dangles (.refreshTokensSave token) = false := by
  obtain ⟨u, inside, isUser, isTenant⟩ := known
  obtain ⟨o, there, isHome⟩ := coherent.housed u inside
  have organization : (db.organizations.any fun o => o.id = token.tenantId) = true :=
    List.any_eq_true.mpr ⟨o, there, decide_eq_true (isHome.trans isTenant)⟩
  have owner : (db.users.any fun u => u.id = token.userId) = true :=
    List.any_eq_true.mpr ⟨u, inside, decide_eq_true isUser⟩
  change (!(db.organizations.any _ && db.users.any _)) = false
  rw [organization, owner]
  rfl

/-- Saving the session of a user only fails where it collides. -/
theorem collides_of_throws {token : RefreshToken} (coherent : Coherent unicode db)
    (known : ∃ u ∈ db.users.rows, u.id = token.userId ∧ u.tenantId = token.tenantId)
    (failed : Directory.exec (.inl (.refreshTokensSave token)) db = none) : Collides db token := by
  by_contra apart
  have unique : (db.refreshTokens.any fun t => t.id = token.id || t.tokenHash = token.tokenHash) = false := by
    apply List.any_eq_false.mpr
    intro t inside same
    exact apart ⟨t, inside, by simpa using same⟩
  have saved : Iam.exec (.refreshTokensSave token) db.sessions = some ((), [.insertRefreshToken token]) :=
    if_neg (ne_true_of_eq_false unique)
  change (if db.dangles (.refreshTokensSave token) = true then none else _) = none at failed
  rw [anchored coherent known, if_neg Bool.false_ne_true, saved] at failed
  cases failed

/-- The end of a registration, a login or a refresh: a session is saved, and its tokens are answered. -/
def opening {ε : Type} (ambient : Ambient) (now : Instant) (claims : AccessTokenClaims) (familyId : RefreshFamilyId) :
    Proc Accounts.sig (Except ε AuthTokens) :=
  .call (.inl (.inl (.refreshTokensSave (ambient.tokenService.opens now claims familyId)))) fun _ =>
    .done (.ok (ambient.tokenService.grants claims familyId))

/-- A session is opened for a user that is there. -/
theorem upholds_opening {ε : Type} {V : Except ε AuthTokens → Directory.Db → Prop} {ambient : Ambient} {now : Instant}
    (claims : AccessTokenClaims) {familyId : RefreshFamilyId} (coherent : Coherent unicode db)
    (known : ∃ u ∈ db.users.rows, u.id = claims.userId ∧ u.tenantId = claims.tenantId)
    (value : ∀ later, Grows unicode db later → V (.ok (ambient.tokenService.grants claims familyId)) later)
    (throws : ∀ later, Grows unicode db later → Collides later (ambient.tokenService.opens now claims familyId) → X later) :
    (opening ambient now claims familyId).Upholds (Accounts.repositories unicode collation) () (growing unicode) V X
      db := by
  have stays {later : Directory.Db} (grows : Grows unicode db later) :
      ∃ u ∈ later.users.rows, u.id = claims.userId ∧ u.tenantId = claims.tenantId := by
    obtain ⟨u, inside, theirs⟩ := known
    exact ⟨u, grows.users inside, theirs⟩
  apply Proc.Upholds.call
  · intro later reply writes grows answer
    have written : writes = [.session (.insertRefreshToken (ambient.tokenService.opens now claims familyId))] :=
      writes_of_save answer
    subst written
    have goes : Grows unicode later ((Directory.Write.session (.insertRefreshToken
        (ambient.tokenService.opens now claims familyId))).apply later) := grows_save (stays grows)
    refine ⟨goes, fun last onwards => value last ?_⟩
    exact (growing unicode).trans grows ((growing unicode).trans goes onwards)
  · intro later grows failed
    exact throws later grows (collides_of_throws (grows.coherent coherent) (stays grows) failed)

/-- What is answered without tokens. -/
theorem upholds_refused {V : Except IamError AuthTokens → Directory.Db → Prop} {error : IamError}
    (value : ∀ later, V (.error error) later) :
    (Proc.done (.error error) : Proc Accounts.sig (Except IamError AuthTokens)).Upholds
      (Accounts.repositories unicode collation) () (growing unicode) V X db :=
  fun later _ => value later

end Programs

section Logins

variable {unicode : Unicode} {collation : Collation} {db : Directory.Db}

/-- What a login promises: tokens for the account it has been given, and one error for everything else. -/
def Login.Promise (unicode : Unicode) (input : LoginInput) (ambient : Ambient) (verify : String → PasswordHash → Bool)
    (db : Directory.Db) : Except IamError AuthTokens → Prop
  | .ok tokens => ∃ email hash claims, Email.create unicode input.email = .ok email ∧
      Account db input.organizationSlug email.value hash.value claims ∧ verify input.password hash = true ∧
      tokens = ambient.tokenService.grants claims ⟨ambient.uuid 0⟩
  | .error error => error = .invalidCredentials

theorem toUser_spec {row : UserRow} {user : User} (read : toUser unicode row = some user) :
    user.id = row.id ∧ user.tenantId = row.tenantId ∧ user.passwordHash.value = row.passwordHash := by
  unfold toUser at read
  split at read
  · cases read
  · simp only [Option.bind_eq_bind, Option.bind_eq_some_iff, Option.pure_def, Option.some.injEq] at read
    obtain ⟨hash, made, rfl⟩ := read
    unfold PasswordHash.fromHash at made
    split at made
    · cases made
      exact ⟨rfl, rfl, rfl⟩
    · cases made

/-- The row that a user was read from. -/
theorem row_of_findByEmail {tenantId : TenantId} {email : Email} {user : User}
    (answered : Accounts.lookup unicode collation (.usersFindByEmail tenantId email) db = some (some user)) :
    ∃ row ∈ db.users.rows, (row.tenantId = tenantId ∧ row.email = email.value) ∧ user.id = row.id ∧
      user.tenantId = row.tenantId ∧ user.passwordHash.value = row.passwordHash := by
  simp only [Accounts.lookup] at answered
  split at answered
  · cases answered
  · rename_i row found
    obtain ⟨read, isRead, same⟩ := Option.map_eq_some_iff.mp answered
    cases same
    obtain ⟨inside, wanted⟩ := Table.findFirst_mem found
    simp only [Bool.and_eq_true, decide_eq_true_eq] at wanted
    exact ⟨row, inside, wanted, toUser_spec isRead⟩

/-- The membership that a session is opened with. -/
theorem membership_of_find? {tenantId : TenantId} {userId : UserId} {row : MembershipRow}
    (found : db.sessions.memberships.find? (tenantId, userId) = some row) :
    ∃ m ∈ db.memberships.rows, m.tenantId = tenantId ∧ m.userId = userId ∧ m.role = row.role := by
  obtain ⟨m, inside, rfl⟩ := List.mem_map.mp (Table.mem_of_find? found)
  obtain ⟨isTenant, isUser⟩ := Prod.mk.inj (Table.key_of_find? found)
  exact ⟨m, inside, isTenant, isUser, rfl⟩

/-- A login is answered with the tokens of an account that it knows the password of, or with the one error. -/
theorem upholds_login {input : LoginInput} {ambient : Ambient} {verify : String → PasswordHash → Bool}
    (coherent : Coherent unicode db) :
    (Login.execute unicode input ambient verify).Upholds (Accounts.repositories unicode collation) ()
      (growing unicode) (fun out later => Login.Promise unicode input ambient verify later out) (fun _ => True) db := by
  refine Proc.Upholds.call ?_ fun _ _ _ => trivial
  intro db₁ tenant writes grows₁ answer
  cases answer
  refine ⟨(growing unicode).refl db₁, ?_⟩
  cases found : db₁.findIdBySlug input.organizationSlug with
  | none => exact upholds_refused fun _ => rfl
  | some tenantId =>
      obtain ⟨o, isFirst, isTenant⟩ := Option.map_eq_some_iff.mp found
      obtain ⟨inside, isSlug⟩ := Table.findFirst_mem isFirst
      dsimp only
      cases address : Email.create unicode input.email with
      | error _ => exact upholds_refused fun _ => rfl
      | ok email =>
          refine Proc.Upholds.call ?_ fun _ _ _ => trivial
          intro db₂ answered writes grows₂ answer
          obtain ⟨read, isAnswer, same⟩ := Option.map_eq_some_iff.mp answer
          cases same
          refine ⟨(growing unicode).refl db₂, ?_⟩
          cases answered with
          | none => exact upholds_refused fun _ => rfl
          | some user =>
              obtain ⟨row, there, address', isUser⟩ := row_of_findByEmail isAnswer
              change Proc.Upholds _ _ _ _ _ (ite (verify input.password user.passwordHash = true) _ _) _
              split
              · rename_i verified
                refine Proc.Upholds.call ?_ fun _ _ _ => trivial
                intro db₃ membership writes grows₃ answer
                cases answer
                refine ⟨(growing unicode).refl db₃, ?_⟩
                cases member : db₃.sessions.memberships.find? (tenantId, user.id) with
                | none => exact upholds_refused fun _ => rfl
                | some m =>
                    have grows₁₃ : Grows unicode db₁ db₃ := (growing unicode).trans grows₂ grows₃
                    have isSlug' : o.slug = input.organizationSlug := by simpa using isSlug
                    have account : Account db₃ input.organizationSlug email.value user.passwordHash.value
                        { userId := user.id, tenantId := tenantId, role := m.role } :=
                      ⟨⟨o, grows₁₃.organizations inside, isTenant, isSlug'⟩,
                        ⟨row, grows₃.users there, isUser.1.symm, address'.1, address'.2, isUser.2.2.symm⟩,
                        membership_of_find? member⟩
                    refine upholds_opening { userId := user.id, tenantId := tenantId, role := m.role }
                      (grows₁₃.coherent (grows₁.coherent coherent)) ?_ ?_ fun _ _ _ => trivial
                    · exact ⟨row, grows₃.users there, isUser.1.symm, address'.1⟩
                    · intro later grows
                      exact ⟨email, user.passwordHash, _, address, account.grows grows, verified, rfl⟩
              · exact upholds_refused fun _ => rfl

section Complete

variable {slug hash : String} {email : Email} {claims : AccessTokenClaims}

/-- The account is found by its slug. -/
theorem findIdBySlug_of_account (coherent : Coherent unicode db) (account : Account db slug email.value hash claims) :
    db.findIdBySlug slug = some claims.tenantId := by
  obtain ⟨o, inside, isTenant, isSlug⟩ := account.organization
  unfold Directory.Db.findIdBySlug
  cases found : db.organizations.findFirst fun o => o.slug = slug with
  | none => exact absurd isSlug (by simpa using List.find?_eq_none.mp found o inside)
  | some o' =>
      obtain ⟨inside', isSlug'⟩ := Table.findFirst_mem found
      rw [coherent.slugs o' inside' o inside ((of_decide_eq_true isSlug').trans isSlug.symm)]
      exact congrArg some isTenant

variable (collation) in
/-- Its user is found by the address. -/
theorem findByEmail_of_account (coherent : Coherent unicode db) (account : Account db slug email.value hash claims) :
    ∃ user : User, Accounts.lookup unicode collation (.usersFindByEmail claims.tenantId email) db = some (some user) ∧
      user.id = claims.userId ∧ user.passwordHash.value = hash := by
  obtain ⟨u, inside, isUser, isTenant, isEmail, isHash⟩ := account.user
  simp only [Accounts.lookup]
  cases found : db.users.findFirst fun u => u.tenantId = claims.tenantId && u.email = email.value with
  | none => exact absurd (List.find?_eq_none.mp found u inside) (by simp [isTenant, isEmail])
  | some u' =>
      obtain ⟨inside', wanted⟩ := Table.findFirst_mem found
      simp only [Bool.and_eq_true, decide_eq_true_eq] at wanted
      cases coherent.emails u' inside' u inside (wanted.1.trans isTenant.symm) (wanted.2.trans isEmail.symm)
      obtain ⟨user, read⟩ := coherent.legible u inside
      obtain ⟨isId, _, isHash'⟩ := toUser_spec read
      exact ⟨user, by simp [read], isId.trans isUser, isHash'.trans isHash⟩

/-- Its membership is found by the user. -/
theorem findByUserId_of_account (account : Account db slug email.value hash claims) :
    ∃ m : MembershipRow, db.sessions.memberships.find? (claims.tenantId, claims.userId) = some m ∧ m.role = claims.role := by
  obtain ⟨m, inside, isTenant, isUser, isRole⟩ := account.membership
  refine ⟨m.toRow, ?_, isRole⟩
  rw [Table.find?_eq_some_iff]
  exact ⟨List.mem_map_of_mem inside, Prod.ext isTenant isUser⟩

/-- Who knows the password of an account is logged in to it. The login only dies where the new session collides
    with one that is stored. -/
theorem login_of_account {input : LoginInput} {ambient : Ambient} {verify : String → PasswordHash → Bool}
    (coherent : Coherent unicode db) (address : Email.create unicode input.email = .ok email)
    (account : Account db input.organizationSlug email.value hash claims)
    (knows : ∀ stored : PasswordHash, stored.value = hash → verify input.password stored = true) :
    (Login.execute unicode input ambient verify).Upholds (Accounts.repositories unicode collation) ()
      (growing unicode) (fun out _ => out = .ok (ambient.tokenService.grants claims ⟨ambient.uuid 0⟩))
      (fun later => Collides later (ambient.tokenService.opens (ambient.now 0) claims ⟨ambient.uuid 0⟩)) db := by
  apply Proc.Upholds.call
  · intro db₁ tenant writes grows₁ answer
    cases answer
    refine ⟨(growing unicode).refl db₁, ?_⟩
    have account₁ := account.grows grows₁
    rw [findIdBySlug_of_account (grows₁.coherent coherent) account₁]
    dsimp only
    rw [address]
    apply Proc.Upholds.call
    · intro db₂ answered writes grows₂ answer
      obtain ⟨read, isAnswer, same⟩ := Option.map_eq_some_iff.mp answer
      cases same
      refine ⟨(growing unicode).refl db₂, ?_⟩
      have account₂ := account₁.grows grows₂
      have coherent₂ := grows₂.coherent (grows₁.coherent coherent)
      obtain ⟨user, found, isUser, isHash⟩ := findByEmail_of_account collation coherent₂ account₂
      cases isAnswer.symm.trans found
      change Proc.Upholds _ _ _ _ _ (ite (verify input.password user.passwordHash = true) _ _) _
      rw [if_pos (knows user.passwordHash isHash)]
      apply Proc.Upholds.call
      · intro db₃ membership writes grows₃ answer
        cases answer
        refine ⟨(growing unicode).refl db₃, ?_⟩
        have account₃ := account₂.grows grows₃
        obtain ⟨⟨_, _, role⟩, found, rfl⟩ := findByUserId_of_account account₃
        rw [isUser, found]
        refine upholds_opening claims (grows₃.coherent coherent₂) ?_ (fun _ _ => rfl) fun _ _ collides => collides
        obtain ⟨u, inside, isClaimed, isTenant, _⟩ := account₃.user
        exact ⟨u, inside, isClaimed, isTenant⟩
      · intro later _ failed
        cases failed
    · intro db₂ grows₂ failed
      have coherent₂ := grows₂.coherent (grows₁.coherent coherent)
      obtain ⟨user, found, _⟩ := findByEmail_of_account collation coherent₂ (account₁.grows grows₂)
      cases (Option.map_eq_none_iff.mp failed).symm.trans found
  · intro later _ failed
    cases failed

end Complete

end Logins

section Requests

variable {unicode : Unicode} {collation : Collation} {db : Directory.Db} {ambient : Ambient}

theorem exists_of_bind {ε α β : Type} {x : Except ε α} {f : α → Except ε β} {b : β} (isOk : x >>= f = .ok b) :
    ∃ a, x = .ok a ∧ f a = .ok b := by
  cases x with
  | error e => cases isOk
  | ok a => exact ⟨a, rfl, isOk⟩

/-- What is accepted of a request is what the request says. -/
theorem accept_spec {input : RegisterOrganizationInput} {accepted : Accepted}
    (valid : RegisterOrganization.accept unicode input = .ok accepted) :
    Email.create unicode input.email = .ok accepted.email ∧ accepted.password.value = input.password ∧
      accepted.slug = slugify unicode (trim input.organizationName) := by
  unfold RegisterOrganization.accept at valid
  obtain ⟨email, address, valid⟩ := exists_of_bind valid
  obtain ⟨password, secret, valid⟩ := exists_of_bind valid
  dsimp only at valid
  split at valid
  · cases valid
  · rw [address, ← Except.ok.inj valid]
    refine ⟨rfl, ?_, rfl⟩
    unfold Password.create at secret
    split at secret
    · cases secret
    · split at secret
      · cases secret
      · cases secret
        rfl

/-- The claims of the user that a registration creates. -/
def RegisterOrganization.owner (ambient : Ambient) : AccessTokenClaims where
  userId := ⟨ambient.uuid 1⟩
  tenantId := ⟨ambient.uuid 0⟩
  role := .ADMIN

/-- What a registration promises: the organisation is there, with its owner, who is logged in. -/
def RegisterOrganization.Promise (unicode : Unicode) (input : RegisterOrganizationInput) (ambient : Ambient)
    (hash : Password → PasswordHash) (db : Directory.Db) (out : Except RegistrationError AuthTokens) : Prop :=
  ∀ tokens, out = .ok tokens → ∃ accepted, accept unicode input = .ok accepted ∧
    Account db accepted.slug accepted.email.value (hash accepted.password).value (owner ambient) ∧
    tokens = ambient.tokenService.grants (owner ambient) ⟨ambient.uuid 3⟩

/-- An organisation that is provisioned is the account of its owner. -/
theorem account_of_provision {hash : Password → PasswordHash} {accepted : Accepted}
    (taken : db.refuses (RegisterOrganization.create ambient hash accepted) = false) :
    Account ((Directory.Write.provision (RegisterOrganization.create ambient hash accepted)).apply db) accepted.slug
      accepted.email.value (hash accepted.password).value (RegisterOrganization.owner ambient) := by
  obtain ⟨newSlug, newUser, newMembership, _⟩ := accepts_of_refuses taken
  let created := RegisterOrganization.create ambient hash accepted
  refine ⟨⟨created.organization, ?_, rfl, rfl⟩, ⟨createUserRow created.owner, ?_, rfl, rfl, rfl, rfl⟩,
    ⟨created.membership, ?_, rfl, rfl, rfl⟩⟩
  · exact (Table.mem_rows_iff _ _).mpr (Table.find?_insert_self (Table.free_of_mem fun o inside => (newSlug o inside).1))
  · exact (Table.mem_rows_iff _ _).mpr (Table.find?_insert_self (Table.free_of_mem fun u inside => (newUser u inside).1))
  · refine (Table.mem_rows_iff _ _).mpr (Table.find?_insert_self (Table.free_of_mem fun m inside same => ?_))
    exact (newMembership m inside).2 (Prod.mk.inj same)

theorem upholds_register (lowersOnce : LowersOnce unicode) {input : RegisterOrganizationInput}
    {hash : Password → PasswordHash} (coherent : Coherent unicode db) :
    (RegisterOrganization.execute unicode input ambient hash).left.Upholds (Accounts.repositories unicode collation) ()
      (growing unicode) (fun out later => RegisterOrganization.Promise unicode input ambient hash later out)
      (fun _ => True) db := by
  unfold RegisterOrganization.execute
  cases valid : RegisterOrganization.accept unicode input with
  | error e => exact fun later _ tokens isOk => nomatch isOk
  | ok accepted =>
      refine Proc.Upholds.call ?_ fun _ _ _ => trivial
      intro db₁ taken writes grows₁ answer
      cases answer
      refine ⟨(growing unicode).refl db₁, ?_⟩
      cases taken : db₁.hasSlug accepted.slug with
      | true => exact fun later _ tokens isOk => nomatch isOk
      | false =>
          refine Proc.Upholds.call ?_ fun _ _ _ => trivial
          intro db₂ reply writes grows₂ answer
          have coherent₂ := grows₂.coherent (grows₁.coherent coherent)
          cases refused : db₂.refuses (RegisterOrganization.create ambient hash accepted) with
          | true =>
              have throws : Directory.exec (.inr (.provision (RegisterOrganization.create ambient hash accepted))) db₂ =
                  none := if_pos refused
              cases throws.symm.trans answer
          | false =>
              have answers : Directory.exec (.inr (.provision (RegisterOrganization.create ambient hash accepted))) db₂ =
                  some ((), [.provision (RegisterOrganization.create ambient hash accepted)]) :=
                if_neg (ne_true_of_eq_false refused)
              cases answers.symm.trans answer
              have legible := toUser_createUserRow (RegisterOrganization.create ambient hash accepted).owner
                (create_value lowersOnce (accept_spec valid).1)
              have grows := grows_provision refused rfl ⟨_, legible⟩
              have account := account_of_provision refused
              refine ⟨grows, ?_⟩
              refine upholds_opening (RegisterOrganization.owner ambient) (grows.coherent coherent₂) ?_ ?_
                fun _ _ _ => trivial
              · obtain ⟨u, inside, isUser, isTenant, _⟩ := account.user
                exact ⟨u, inside, isUser, isTenant⟩
              · intro later onwards tokens isOk
                cases isOk
                exact ⟨accepted, valid, account.grows onwards, rfl⟩

/-- What a refresh promises: the session that was presented goes on, for the member it belongs to. -/
def RefreshTokens.Promise (input : RefreshTokensInput) (ambient : Ambient) (db : Directory.Db)
    (out : Except IamError AuthTokens) : Prop :=
  ∀ tokens, out = .ok tokens → ∃ claims familyId, tokens = ambient.tokenService.grants claims familyId ∧ Member db claims ∧
    (claims.tenantId, claims.userId, ambient.tokenService.hashRefreshToken input.refreshToken) ∈
      db.refreshTokens.rows.map RefreshToken.owner

theorem upholds_refresh {input : RefreshTokensInput} (coherent : Coherent unicode db) :
    (RefreshTokens.execute input ambient).left.left.Upholds (Accounts.repositories unicode collation) ()
      (growing unicode) (fun out later => RefreshTokens.Promise input ambient later out) (fun _ => True) db := by
  have refused {db : Directory.Db} (error : IamError) :
      (Proc.done (.error error) : Proc Accounts.sig (Except IamError AuthTokens)).Upholds
        (Accounts.repositories unicode collation) () (growing unicode)
        (fun out later => RefreshTokens.Promise input ambient later out) (fun _ => True) db :=
    fun _ _ _ isOk => nomatch isOk
  unfold RefreshTokens.execute
  cases ambient.tokenService.verifyRefreshToken input.refreshToken with
  | none => exact refused _
  | some claims =>
      refine Proc.Upholds.call ?_ fun _ _ _ => trivial
      intro db₁ answered writes grows₁ answer
      cases answer
      refine ⟨(growing unicode).refl db₁, ?_⟩
      cases found : db₁.sessions.refreshTokens.findFirst fun r =>
          r.tokenHash = ambient.tokenService.hashRefreshToken input.refreshToken && r.tenantId = claims.tenantId with
      | none => exact refused _
      | some stored =>
          obtain ⟨inside, wanted⟩ := Table.findFirst_mem found
          simp only [Bool.and_eq_true, decide_eq_true_eq] at wanted
          have presented : (claims.tenantId, stored.userId, ambient.tokenService.hashRefreshToken input.refreshToken) ∈
              db₁.refreshTokens.rows.map RefreshToken.owner := by
            rw [← wanted.1, ← wanted.2]
            exact List.mem_map_of_mem inside
          obtain ⟨u, isThere, isUser, isTenant⟩ := (grows₁.coherent coherent).sessions stored inside
          simp only [Proc.bind]
          by_cases spent : stored.isSpent = true
          · rw [if_pos spent]
            refine Proc.Upholds.call ?_ fun _ _ _ => trivial
            intro db₂ reply writes grows₂ answer
            cases answer
            exact ⟨grows_revokeFamily _ _ _, refused _⟩
          · rw [if_neg spent]
            by_cases expired : stored.isExpired (ambient.now 0) = true
            · rw [if_pos expired]
              exact refused _
            · rw [if_neg expired]
              refine Proc.Upholds.call ?_ fun _ _ _ => trivial
              intro db₂ membership writes grows₂ answer
              cases answer
              refine ⟨(growing unicode).refl db₂, ?_⟩
              cases member : db₂.sessions.memberships.find? (claims.tenantId, stored.userId) with
              | none => exact refused _
              | some m =>
                  refine Proc.Upholds.call ?_ fun _ _ _ => trivial
                  intro db₃ reply writes grows₃ answer
                  cases answer
                  have marks : Grows unicode db₃ ((Directory.Write.session
                      (.markRotated claims.tenantId stored.id (ambient.now 0))).apply db₃) := grows_markRotated _ _ _
                  have grows₁₃ : Grows unicode db₁ db₃ := (growing unicode).trans grows₂ grows₃
                  have coherent₃ := grows₁₃.coherent (grows₁.coherent coherent)
                  refine ⟨marks, upholds_opening ⟨stored.userId, claims.tenantId, m.role⟩ (marks.coherent coherent₃)
                    ⟨u, marks.users (grows₁₃.users isThere), isUser, isTenant.trans wanted.2⟩ ?_ fun _ _ _ => trivial⟩
                  intro later grows tokens isOk
                  cases isOk
                  have onwards := (growing unicode).trans grows₃ ((growing unicode).trans marks grows)
                  refine ⟨_, stored.familyId, rfl, Member.grows (membership_of_find? member) onwards, ?_⟩
                  exact onwards.sessions (grows₂.sessions presented)

theorem upholds_logout {input : LogoutInput} :
    (Logout.execute input ambient).left.left.Upholds (Accounts.repositories unicode collation) () (growing unicode)
      (fun _ _ => True) (fun _ => True) db := by
  unfold Logout.execute
  cases ambient.tokenService.verifyRefreshToken input.refreshToken with
  | none => exact fun _ _ => trivial
  | some claims =>
      refine Proc.Upholds.call ?_ fun _ _ _ => trivial
      intro db₁ answered writes grows₁ answer
      cases answer
      refine ⟨(growing unicode).refl db₁, ?_⟩
      cases db₁.sessions.refreshTokens.findFirst fun r =>
          r.tokenHash = ambient.tokenService.hashRefreshToken input.refreshToken && r.tenantId = claims.tenantId with
      | none => exact fun _ _ => trivial
      | some stored =>
          refine Proc.Upholds.call ?_ fun _ _ _ => trivial
          intro db₂ reply writes grows₂ answer
          cases answer
          exact ⟨grows_revokeFamily _ _ _, fun _ _ => trivial⟩

/-- Whom a request may be given tokens for. -/
def AuthRequest.Earns (unicode : Unicode) (r : AuthRequest) (db : Directory.Db) (claims : AccessTokenClaims) : Prop :=
  match r.useCase with
  | .register input => ∃ accepted, RegisterOrganization.accept unicode input = .ok accepted ∧
      Account db accepted.slug accepted.email.value (r.hasher.hash accepted.password).value claims ∧ claims.role = .ADMIN
  | .login input => ∃ email hash, Email.create unicode input.email = .ok email ∧
      Account db input.organizationSlug email.value hash.value claims ∧ r.hasher.verify input.password hash = true
  | .refresh input =>
      (claims.tenantId, claims.userId, r.ambient.tokenService.hashRefreshToken input.refreshToken) ∈
        db.refreshTokens.rows.map RefreshToken.owner
  | .logout _ => False

/-- What a request promises. -/
def AuthRequest.Promise (unicode : Unicode) (r : AuthRequest) (out : Except AuthError Output) (db : Directory.Db) :
    Prop :=
  ∀ tokens, out = .ok (.tokens tokens) → ∃ claims familyId, r.Earns unicode db claims ∧ Member db claims ∧
    tokens = r.ambient.tokenService.grants claims familyId

/-- Every request lets the tables grow, and keeps its promise. -/
theorem upholds_request (lowersOnce : LowersOnce unicode) (r : AuthRequest) (coherent : Coherent unicode db) :
    (r.program unicode).Upholds (Accounts.repositories unicode collation) () (growing unicode) (r.Promise unicode)
      (fun _ => True) db := by
  unfold AuthRequest.program
  cases useCase : r.useCase with
  | register input =>
      apply Proc.Upholds.map
      apply (upholds_register lowersOnce coherent).mono
      · intro out db' promise tokens isOk
        cases out with
        | error e => cases isOk
        | ok tokens =>
            cases isOk
            obtain ⟨accepted, valid, account, granted⟩ := promise tokens rfl
            refine ⟨RegisterOrganization.owner r.ambient, _, ?_, account.member, granted⟩
            simp only [AuthRequest.Earns, useCase]
            exact ⟨accepted, valid, account, rfl⟩
      · exact fun _ _ => trivial
  | login input =>
      apply Proc.Upholds.map
      apply (upholds_login coherent).mono
      · intro out db' promise tokens isOk
        cases out with
        | error e => cases isOk
        | ok tokens =>
            cases isOk
            obtain ⟨email, hash, claims, address, account, verified, granted⟩ := promise
            refine ⟨claims, _, ?_, account.member, granted⟩
            simp only [AuthRequest.Earns, useCase]
            exact ⟨email, hash, address, account, verified⟩
      · exact fun _ _ => trivial
  | refresh input =>
      apply Proc.Upholds.map
      apply (upholds_refresh coherent).mono
      · intro out db' promise tokens isOk
        cases out with
        | error e => cases isOk
        | ok tokens =>
            cases isOk
            obtain ⟨claims, familyId, granted, member, presented⟩ := promise tokens rfl
            refine ⟨claims, familyId, ?_, member, granted⟩
            simp only [AuthRequest.Earns, useCase]
            exact presented
      · exact fun _ _ => trivial
  | logout input =>
      apply Proc.Upholds.map
      apply upholds_logout.mono
      · intro out db' _ tokens isOk
        cases out with
        | error e => cases isOk
        | ok _ => cases isOk
      · exact fun _ _ => trivial

end Requests

end Helpdesk.Iam
