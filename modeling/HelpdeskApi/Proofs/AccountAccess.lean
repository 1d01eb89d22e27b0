/-
Module: HelpdeskApi.Proofs.AccountAccess
Layer: Proofs
Purpose: Registrations, logins, refreshes and logouts of any number of organisations, interleaved call by call,
  with requests that die anywhere. The tables always fit together. Whoever is answered with tokens is a member
  and has earned them: with an organisation that was registered, with the password of the account that was
  named, or with the session that was presented. And once a registration has answered, its slug, its address in
  any spelling and its password log its owner in for good.
Trusted boundary: none
Main exports: coherent_of_run, tokens_are_earned, login_after_registration
-/
import HelpdeskApi.Iam.Promises
import HelpdeskApi.Proofs.RivalNames

namespace Helpdesk.Iam

open Relational Txn Transition

section Runs

variable {unicode : Unicode} {collation : Collation} {db₀ : Directory.Db} {jobs : List AuthRequest}
  {c c' : Config (accounts unicode collation)}
  {history history' : List (Config (accounts unicode collation) × Move (accounts unicode collation))}

/-- What fits together goes on to. -/
theorem Coherent.goes_on {db db' : Directory.Db} (coherent : Coherent unicode db) (grows : (growing unicode).goes db db') :
    Coherent unicode db' :=
  grows.coherent coherent

/-- At any moment of a run the tables fit together, and every request keeps to what it has promised. -/
theorem promises_of_run (lowersOnce : LowersOnce unicode) (coherent : Coherent unicode db₀)
    (run : Run Config.step (.start db₀ jobs) history c) :
    Coherent unicode c.db ∧ ∀ (i : Nat) (s : Session (accounts unicode collation)), c.sessions[i]? = some s →
      Config.Holding (growing unicode) (s.job.Promise unicode) (fun _ => True) s c.db := by
  have guarantee := Config.guarantee_of_run Coherent.goes_on (fun r _ now => upholds_request lowersOnce r now) coherent run
  exact ⟨coherent.goes_on guarantee.1, guarantee.2⟩

/-- In every run the tables fit together, whatever was asked for and whoever has died half way. -/
theorem coherent_of_run (lowersOnce : LowersOnce unicode) (coherent : Coherent unicode db₀)
    (run : Run Config.step (.start db₀ jobs) history c) : Coherent unicode c.db :=
  (promises_of_run lowersOnce coherent run).1

/-- Tokens are only answered to members, for what they have earned them with. -/
theorem tokens_are_earned (lowersOnce : LowersOnce unicode) (coherent : Coherent unicode db₀)
    (run : Run Config.step (.start db₀ jobs) history c) {i : Nat} {s : Session (accounts unicode collation)}
    (found : c.sessions[i]? = some s) {tokens : AuthTokens} (answered : s.status = .committed (.ok (.tokens tokens))) :
    ∃ claims familyId, s.job.Earns unicode c.db claims ∧ Member c.db claims ∧
      tokens = s.job.ambient.tokenService.grants claims familyId :=
  ((promises_of_run lowersOnce coherent run).2 i s found).committed answered tokens rfl

/-- Two spellings of an address are the same address. -/
theorem create_of_normalized {raw raw' : String} {email : Email}
    (same : unicode.toLowerCase (trim raw) = unicode.toLowerCase (trim raw'))
    (accepted : Email.create unicode raw' = .ok email) : Email.create unicode raw = .ok email := by
  unfold Email.create at accepted ⊢
  dsimp only at accepted ⊢
  rw [same]
  split at accepted
  · rename_i wellFormed
    rw [dif_pos wellFormed]
    exact accepted
  · cases accepted

/-- Once a registration has answered, whoever logs in later with its slug, its address and its password is given
    tokens with the same claims. The login only dies where the session it opens has the id or the hash of one
    that is stored. -/
theorem login_after_registration (lowersOnce : LowersOnce unicode) (coherent : Coherent unicode db₀)
    (reached : Run Config.step (.start db₀ jobs) history c) (goesOn : Run Config.step c history' c')
    (dies : Meets Config.DiesThrowing history') {i j : Nat} {s t : Session (accounts unicode collation)}
    {signup : RegisterOrganizationInput} {input : LoginInput} {tokens : AuthTokens}
    (registered : c.sessions[i]? = some s) (isSignup : s.job.useCase = .register signup)
    (answered : s.status = .committed (.ok (.tokens tokens)))
    (found : c'.sessions[j]? = some t) (comes : c.sessions.length ≤ j) (isLogin : t.job.useCase = .login input)
    (slug : input.organizationSlug = slugify unicode (trim signup.organizationName))
    (address : unicode.toLowerCase (trim input.email) = unicode.toLowerCase (trim signup.email))
    (password : input.password = signup.password)
    (verifies : ∀ password, t.job.hasher.verify password.value (s.job.hasher.hash password) = true) :
    ∃ claims familyId, claims.role = .ADMIN ∧ tokens = s.job.ambient.tokenService.grants claims familyId ∧
      (t.isRunning = true ∨
        t.status = .committed (.ok (.tokens (t.job.ambient.tokenService.grants claims ⟨t.job.ambient.uuid 0⟩))) ∨
        t.status = .aborted ∧ ∃ entry ∈ history', entry.2 = .abort j ∧
          Collides entry.1.db (t.job.ambient.tokenService.opens (t.job.ambient.now 0) claims ⟨t.job.ambient.uuid 0⟩)) := by
  obtain ⟨coherent', promises⟩ := promises_of_run lowersOnce coherent reached
  obtain ⟨claims, familyId, earned, _, granted⟩ := (promises i s registered).committed answered tokens rfl
  simp only [AuthRequest.Earns, isSignup] at earned
  obtain ⟨accepted, valid, account, isAdmin⟩ := earned
  obtain ⟨isEmail, isPassword, isSlug⟩ := accept_spec valid
  have serves (db : Directory.Db) (good : Coherent unicode db ∧ Account db accepted.slug accepted.email.value
      (s.job.hasher.hash accepted.password).value claims) (r : AuthRequest) (same : r = t.job) :
      (r.program unicode).Upholds (Accounts.repositories unicode collation) () (growing unicode)
        (fun out _ => out = .ok (.tokens (t.job.ambient.tokenService.grants claims ⟨t.job.ambient.uuid 0⟩)))
        (fun later => Collides later
          (t.job.ambient.tokenService.opens (t.job.ambient.now 0) claims ⟨t.job.ambient.uuid 0⟩)) db := by
    subst same
    simp only [AuthRequest.program, isLogin]
    apply Proc.Upholds.map
    have account' : Account db input.organizationSlug accepted.email.value
        (s.job.hasher.hash accepted.password).value claims := by
      rw [slug, ← isSlug]
      exact good.2
    have knows (stored : PasswordHash) (same : stored.value = (s.job.hasher.hash accepted.password).value) :
        t.job.hasher.verify input.password stored = true := by
      rw [password, ← isPassword, PasswordHash.eq_of_value same]
      exact verifies accepted.password
    refine (login_of_account good.1 (create_of_normalized address isEmail) account' knows).mono ?_ fun _ collides => collides
    rintro out db rfl
    rfl
  -- and so the login promises from when it comes
  have holding {history'' : List (Config (accounts unicode collation) × Move (accounts unicode collation))}
      {c'' : Config (accounts unicode collation)} (later : Run Config.step c history'' c'')
      {u : Session (accounts unicode collation)} (at_j : c''.sessions[j]? = some u) (same : u.job = t.job) :=
    Config.holding_of_later Coherent.goes_on (fun r _ now => upholds_request lowersOnce r now) coherent reached later
      ⟨coherent', account⟩ (fun good grows => ⟨good.1.goes_on grows, good.2.grows grows⟩) at_j comes
      fun db good => serves db good u.job same
  have promises := holding goesOn found rfl
  refine ⟨claims, familyId, isAdmin, granted, ?_⟩
  cases status : t.status with
  | running rest => exact .inl (by simp [Session.isRunning, status])
  | committed out =>
      have isOk : out = _ := promises.committed status
      exact .inr (.inl (by rw [isOk]))
  | rolledBack out =>
      have isOk : out = _ := promises.rolledBack status
      have unwanted := (Config.commits_of_run (reached.append goesOn) found out).2 status
      rw [isOk] at unwanted
      cases unwanted
  | aborted =>
      obtain ⟨entry, member, isAbort, u, at_j, sameJob⟩ := Config.died_of_later goesOn found status comes
      obtain ⟨earlier, later, _, before, _, _, _⟩ := goesOn.split member
      have collides := (holding before at_j sameJob).throws at_j (dies entry member j isAbort)
      exact .inr (.inr ⟨rfl, entry, member, isAbort, collides⟩)

end Runs

section Example

theorem lowersOnce_ascii : LowersOnce ascii := by
  intro text
  have once (c : Char) : c.toLower.toLower = c.toLower := by
    apply dif_neg
    unfold Char.toLower
    split
    · rename_i upper
      simp only [ge_iff_le, UInt32.le_iff_toNat_le, UInt32.toNat_add] at upper ⊢
      grind
    · assumption
  simp [ascii, Function.comp_def, once]

theorem coherent_empty (unicode : Unicode) : Coherent unicode .empty :=
  ⟨nofun, nofun, nofun, nofun, nofun, nofun⟩

def exampleCollation : Collation where
  le a b := a.length ≤ b.length
  total _ _ := Nat.le_total _ _
  trans _ _ _ := Nat.le_trans

/-- A hasher that keeps the password as it is. -/
def plainHasher : PasswordHasher where
  hash password := (PasswordHash.fromHash password.value).getD ⟨"blank", by decide⟩
  verify plain stored := stored = (PasswordHash.fromHash plain).getD ⟨"blank", by decide⟩

theorem verify_plainHasher (password : Password) :
    plainHasher.verify password.value (plainHasher.hash password) = true := by
  simp [plainHasher]

/-- A request, with ids of its own. -/
def exampleAuthRequest (useCase : AuthUseCase) (n : Nat) : AuthRequest where
  useCase := useCase
  ambient := (exampleRegistration n).ambient
  hasher := plainHasher

def signupInput : RegisterOrganizationInput :=
  { organizationName := "Acme", email := "ana@acme.com", password := "password" }

def loginInput : LoginInput :=
  { organizationSlug := "acme", email := " Ana@Acme.com", password := "password" }

def exampleSignup : AuthRequest :=
  exampleAuthRequest (.register signupInput) 1

def exampleLogin : AuthRequest :=
  exampleAuthRequest (.login loginInput) 2

/-- The tokens that a session has been answered. -/
def answeredTokens (s : Session (accounts ascii exampleCollation)) : Option AuthTokens :=
  match s.status with
  | .committed (.ok (.tokens tokens)) => some tokens
  | _ => none

theorem answeredTokens_iff {s : Session (accounts ascii exampleCollation)} {tokens : AuthTokens} :
    answeredTokens s = some tokens ↔ s.status = .committed (.ok (.tokens tokens)) := by
  unfold answeredTokens
  split
  · rename_i status
    simp [status]
  · rename_i others
    constructor
    · exact nofun
    · exact fun status => absurd status (others tokens)

abbrev signingUp : Config (accounts ascii exampleCollation) :=
  .start Directory.Db.empty [exampleSignup]

/-- The registration answers, and the login comes after it. -/
def signupMoves : List (Move (accounts ascii exampleCollation)) :=
  [.call 0 0, .call 0 0, .call 0 0, .finish 0]

def loginMoves : List (Move (accounts ascii exampleCollation)) :=
  [.arrive exampleLogin, .call 1 0, .call 1 0, .call 1 0, .call 1 0, .finish 1]

/-- The registration has answered. -/
theorem signedUp : ∃ c s, play Config.step signingUp signupMoves = some c ∧ c.sessions.length = 1 ∧
    c.sessions[0]? = some s ∧ s.job = exampleSignup ∧ ∃ tokens, s.status = .committed (.ok (.tokens tokens)) := by
  have answers : ((play Config.step signingUp signupMoves).map fun c => c.sessions.map fun s =>
      (answeredTokens s).isSome) = some [true] := by decide
  have jobs : ((play Config.step signingUp signupMoves).map fun c => c.sessions.map Session.job) =
      some [exampleSignup] := rfl
  obtain ⟨c, played, shows⟩ := Option.map_eq_some_iff.mp answers
  rw [played, Option.map_some, Option.some.injEq] at jobs
  obtain ⟨s, sessions, answered⟩ := List.map_eq_singleton_iff.mp shows
  obtain ⟨tokens, granted⟩ := Option.isSome_iff_exists.mp answered
  rw [sessions] at jobs
  refine ⟨c, s, played, by rw [sessions]; rfl, by rw [sessions]; rfl, (List.cons.inj jobs).1, tokens, ?_⟩
  exact answeredTokens_iff.mp granted

theorem coherent_of_run_example :
    ∃ history c, Run Config.step signingUp history c ∧ c.sessions.length = 1 ∧ Coherent ascii c.db := by
  obtain ⟨c, s, played, one, _⟩ := signedUp
  exact ⟨_, c, play_run played, one, coherent_of_run lowersOnce_ascii (coherent_empty ascii) (play_run played)⟩

theorem tokens_are_earned_example :
    ∃ history c claims, Run Config.step signingUp history c ∧ exampleSignup.Earns ascii c.db claims ∧
      Member c.db claims := by
  obtain ⟨c, s, played, _, found, job, tokens, answered⟩ := signedUp
  obtain ⟨claims, _, earned, member, _⟩ := tokens_are_earned lowersOnce_ascii (coherent_empty ascii) (play_run played)
    found answered
  exact ⟨_, c, claims, play_run played, job ▸ earned, member⟩

theorem login_after_registration_example :
    ∃ history c history' c' t claims, Run Config.step signingUp history c ∧ Run Config.step c history' c' ∧
      c'.sessions[1]? = some t ∧ claims.role = .ADMIN ∧
      t.status = .committed (.ok (.tokens (exampleLogin.ambient.tokenService.grants claims ⟨20⟩))) := by
  obtain ⟨c, s, played, one, registered, isSignup, tokens, answered⟩ := signedUp
  have answers : ((play Config.step signingUp (signupMoves ++ loginMoves)).map fun c => c.sessions.map fun s =>
      (answeredTokens s).isSome) = some [true, true] := by decide
  have jobs : ((play Config.step signingUp (signupMoves ++ loginMoves)).map fun c => c.sessions.map Session.job) =
      some [exampleSignup, exampleLogin] := rfl
  rw [play_append, played, Option.bind_some] at answers jobs
  obtain ⟨c', playedOn, shows⟩ := Option.map_eq_some_iff.mp answers
  rw [playedOn, Option.map_some, Option.some.injEq] at jobs
  have second : (c'.sessions.map Session.job)[1]? = some exampleLogin := by rw [jobs]; rfl
  rw [List.getElem?_map] at second
  obtain ⟨t, found, isLogin⟩ := Option.map_eq_some_iff.mp second
  have ends : (c'.sessions.map fun s => (answeredTokens s).isSome)[1]? = some true := by rw [shows]; rfl
  rw [List.getElem?_map, found, Option.map_some, Option.some.injEq] at ends
  obtain ⟨granted, isGranted⟩ := Option.isSome_iff_exists.mp ends
  have status := answeredTokens_iff.mp isGranted
  have dies : Meets Config.DiesThrowing (playHistory Config.step c loginMoves) := by
    intro entry member i isAbort
    have inside := mem_schedule member
    rw [isAbort] at inside
    simp [loginMoves] at inside
  have registers : s.job.useCase = .register signupInput := by rw [isSignup]; rfl
  have logsIn : t.job.useCase = .login loginInput := by rw [isLogin]; rfl
  have slug : loginInput.organizationSlug = slugify ascii (trim signupInput.organizationName) := by decide
  have address : ascii.toLowerCase (trim loginInput.email) = ascii.toLowerCase (trim signupInput.email) := by decide
  have verifies (password : Password) : t.job.hasher.verify password.value (s.job.hasher.hash password) = true := by
    rw [isSignup, isLogin]
    exact verify_plainHasher password
  obtain ⟨claims, familyId, isAdmin, _, ways⟩ := login_after_registration lowersOnce_ascii (coherent_empty ascii)
    (play_run played) (play_run playedOn) dies registered registers answered found (Nat.le_of_eq one) logsIn slug address
    rfl verifies
  refine ⟨_, c, _, c', t, claims, play_run played, play_run playedOn, found, isAdmin, ?_⟩
  rcases ways with running | given | ⟨aborted, _⟩
  · simp [Session.isRunning, status] at running
  · rw [isLogin] at given
    exact given
  · rw [status] at aborted
    cases aborted

end Example

end Helpdesk.Iam
