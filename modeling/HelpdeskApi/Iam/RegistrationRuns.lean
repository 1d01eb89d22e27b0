/-
Module: HelpdeskApi.Iam.RegistrationRuns
Layer: Application
Purpose: The rows of a registration along any run. As long as it has not provisioned its organisation nothing
  in the tables is its own, and afterwards its organisation, user and membership are there, whatever other
  requests do in between. Ids are drawn at random and tokens are signed and hashed, so that those of one
  request are taken to be no other's.
Trusted boundary: none
Main exports: Absent, Created, Apart, FreshIds, restAt, RegistrationStep, registration_of_step,
  refuses_created, rows_of_run
-/
import HelpdeskApi.Iam.Registrations
import HelpdeskApi.Library.CommitLog

namespace Helpdesk.Iam

open Relational Txn Transition

/-- No organisation, user or membership is the request's. -/
structure NoAccount (db : Directory.Db) (r : Registration) : Prop where
  organization : ∀ o ∈ db.organizations.rows, o.id ≠ r.tenantId
  user : ∀ u ∈ db.users.rows, u.id ≠ r.userId ∧ u.tenantId ≠ r.tenantId
  membership : ∀ m ∈ db.memberships.rows, m.id ≠ r.membershipId ∧ m.tenantId ≠ r.tenantId

/-- No session is the request's. -/
def NoSession (db : Directory.Db) (r : Registration) : Prop :=
  ∀ t ∈ db.refreshTokens.rows, t.id ≠ r.token.id ∧ t.tokenHash ≠ r.token.tokenHash ∧ t.tenantId ≠ r.tenantId

/-- No row is the request's. -/
structure Absent (db : Directory.Db) (r : Registration) : Prop where
  account : NoAccount db r
  session : NoSession db r

/-- What was provisioned is in the tables. -/
structure Created (db : Directory.Db) (input : ProvisionOrganizationInput) : Prop where
  organization : db.organizations.find? input.organization.id = some input.organization
  owner : db.users.find? input.owner.id = some (createUserRow input.owner)
  membership : db.memberships.find? (input.membership.tenantId, input.membership.userId) = some input.membership

/-- Two requests draw different ids, and their sessions are signed differently. -/
structure Apart (r r' : Registration) : Prop where
  tenantId : r.tenantId ≠ r'.tenantId
  userId : r.userId ≠ r'.userId
  membershipId : r.membershipId ≠ r'.membershipId
  tokenId : r.token.id ≠ r'.token.id
  tokenHash : r.token.tokenHash ≠ r'.token.tokenHash

/-- What the requests draw is new, and no two of them draw the same. -/
structure FreshIds (db : Directory.Db) (requests : List Registration) : Prop where
  absent : ∀ r ∈ requests, Absent db r
  apart : requests.Pairwise Apart

theorem Apart.symm {r r' : Registration} (apart : Apart r r') : Apart r' r where
  tenantId := apart.tenantId.symm
  userId := apart.userId.symm
  membershipId := apart.membershipId.symm
  tokenId := apart.tokenId.symm
  tokenHash := apart.tokenHash.symm

theorem FreshIds.apart_of_ne {db : Directory.Db} {requests : List Registration} (ids : FreshIds db requests) {i j : Nat}
    {r r' : Registration} (one : requests[i]? = some r) (other : requests[j]? = some r') (distinct : i ≠ j) :
    Apart r r' := by
  obtain ⟨inside, rfl⟩ := List.getElem?_eq_some_iff.mp one
  obtain ⟨inside', rfl⟩ := List.getElem?_eq_some_iff.mp other
  have ordered := List.pairwise_iff_getElem.mp ids.apart
  rcases Nat.lt_or_gt_of_ne distinct with before | after
  · exact ordered i j inside inside' before
  · exact (ordered j i inside' inside after).symm

section Tables

variable {db : Directory.Db} {r r' : Registration} {accepted : Accepted}

theorem hasSlug_iff {slug : String} : db.hasSlug slug = true ↔ ∃ o ∈ db.organizations.rows, o.slug = slug := by
  simp [Directory.Db.hasSlug, Table.any]

/-- Where nothing is the request's, only its slug can stand in its way. -/
theorem refuses_created (absent : NoAccount db r) : db.refuses (r.created accepted) = db.hasSlug accepted.slug := by
  have bySlug : (db.organizations.any fun o => o.id = r.tenantId || o.slug = accepted.slug) =
      db.hasSlug accepted.slug := by
    rw [Bool.eq_iff_iff, hasSlug_iff]
    simp only [Table.any, List.any_eq_true, Bool.or_eq_true, decide_eq_true_eq]
    constructor
    · rintro ⟨o, inside, own | same⟩
      · exact absurd own (absent.organization o inside)
      · exact ⟨o, inside, same⟩
    · rintro ⟨o, inside, same⟩
      exact ⟨o, inside, .inr same⟩
  have noUser : (db.users.any fun u =>
      u.id = r.userId || (u.tenantId = r.tenantId && u.email = accepted.email.value)) = false := by
    apply List.any_eq_false.mpr
    intro u inside
    simp [absent.user u inside]
  have noMembership : (db.memberships.any fun m =>
      m.id = r.membershipId || (m.tenantId = r.tenantId && m.userId = r.userId)) = false := by
    apply List.any_eq_false.mpr
    intro m inside
    simp [absent.membership m inside]
  change (_ || _ || _ || r.tenantId != r.tenantId || r.tenantId != r.tenantId ||
    !(decide (r.userId = r.userId) || _)) = _
  simp only [bne_self_eq_false, decide_true, Bool.true_or, Bool.not_true, Bool.or_false]
  exact (congrArg₂ or (congrArg₂ or bySlug noUser) noMembership).trans (by simp)

/-- A session can be saved under new ids, once what it refers to is there. -/
theorem save_answers (created : Created db (r.created accepted)) (new : NoSession db r) :
    Directory.exec (.inl (.refreshTokensSave r.token)) db = some ((), [.session (.insertRefreshToken r.token)]) := by
  have organization : (db.organizations.any fun o => o.id = r.tenantId) = true :=
    List.any_eq_true.mpr ⟨_, Table.mem_of_find? created.organization, decide_eq_true rfl⟩
  have owner : (db.users.any fun u => u.id = r.userId) = true :=
    List.any_eq_true.mpr ⟨_, Table.mem_of_find? created.owner, decide_eq_true rfl⟩
  have anchored : db.dangles (.refreshTokensSave r.token) = false := by
    change (!(db.organizations.any _ && db.users.any _)) = false
    rw [Bool.not_eq_false']
    exact Bool.and_eq_true_iff.mpr ⟨organization, owner⟩
  have unique : (db.refreshTokens.any fun t => t.id = r.token.id || t.tokenHash = r.token.tokenHash) = false := by
    apply List.any_eq_false.mpr
    intro t inside
    simp [new t inside]
  have saved : Iam.exec (.refreshTokensSave r.token) db.sessions = some ((), [.insertRefreshToken r.token]) :=
    if_neg (ne_true_of_eq_false unique)
  change (if db.dangles (.refreshTokensSave r.token) = true then none else _) = _
  rw [if_neg (ne_true_of_eq_false anchored), saved]
  rfl

/-- A session that is saved is written as it is. -/
theorem writes_of_save {token : RefreshToken} {reply : Unit} {writes : List Directory.Write}
    (answered : Directory.exec (.inl (.refreshTokensSave token)) db = some (reply, writes)) :
    writes = [.session (.insertRefreshToken token)] := by
  change (if db.dangles (.refreshTokensSave token) = true then none else
    (if _ then none else some ((), [Write.insertRefreshToken token])).map _) = _ at answered
  split at answered
  · cases answered
  · split at answered
    · cases answered
    · cases answered
      rfl

theorem newOrganization (absent : NoAccount db r) :
    db.organizations.find? (Keyed.key (r.created accepted).organization) = none := by
  apply Table.free_of_mem
  intro o inside
  exact absent.organization o inside

/-- What was provisioned is there. -/
theorem created_provision (absent : NoAccount db r) :
    Created ((Directory.Write.provision (r.created accepted)).apply db) (r.created accepted) := by
  have newUser : db.users.find? (Keyed.key (createUserRow (r.created accepted).owner)) = none := by
    apply Table.free_of_mem
    intro u inside
    exact (absent.user u inside).1
  have newMembership : db.memberships.find? (Keyed.key (r.created accepted).membership) = none := by
    apply Table.free_of_mem
    intro m inside same
    exact (absent.membership m inside).2 (congrArg Prod.fst same)
  constructor
  · exact Table.find?_insert_self (newOrganization absent)
  · exact Table.find?_insert_self newUser
  · exact Table.find?_insert_self newMembership

end Tables

section Frames

variable {db : Directory.Db} {r r' : Registration} {accepted : Accepted} {input : ProvisionOrganizationInput}

/-- What another request provisions is no row of this one. -/
theorem NoAccount.provision (absent : NoAccount db r) (apart : Apart r' r) :
    NoAccount ((Directory.Write.provision (r'.created accepted)).apply db) r := by
  constructor
  · intro o inside
    rcases Table.mem_of_mem_insert inside with old | rfl
    · exact absent.organization o old
    · exact apart.tenantId
  · intro u inside
    rcases Table.mem_of_mem_insert inside with old | rfl
    · exact absent.user u old
    · exact ⟨apart.userId, apart.tenantId⟩
  · intro m inside
    rcases Table.mem_of_mem_insert inside with old | rfl
    · exact absent.membership m old
    · exact ⟨apart.membershipId, apart.tenantId⟩

/-- What a key leads to it still leads to. -/
theorem Created.provision (created : Created db input) (input' : ProvisionOrganizationInput) :
    Created ((Directory.Write.provision input').apply db) input := by
  constructor
  · exact (Table.find?_insert _ _ _).trans (by rw [created.organization]; rfl)
  · exact (Table.find?_insert _ _ _).trans (by rw [created.owner]; rfl)
  · exact (Table.find?_insert _ _ _).trans (by rw [created.membership]; rfl)

/-- The session that another request saves is none of this one. -/
theorem NoSession.save (none : NoSession db r) (apart : Apart r' r) :
    NoSession ((Directory.Write.session (.insertRefreshToken r'.token)).apply db) r := by
  intro t inside
  rcases Table.mem_of_mem_insert inside with old | rfl
  · exact none t old
  · exact ⟨apart.tokenId, apart.tokenHash, apart.tenantId⟩

end Frames

/-- The rows of a request, by what is left of it: an aborted one has none. -/
def Rows (unicode : Unicode) (db : Directory.Db) (r : Registration) :
    Option (Proc Directory.sig (Except RegistrationError AuthTokens)) → Prop
  | some (.call (.inl _) _) =>
      (∃ accepted, RegisterOrganization.accept unicode r.input = .ok accepted ∧ Created db (r.created accepted)) ∧
        NoSession db r
  | some (.done (.ok _)) =>
      ∃ accepted, RegisterOrganization.accept unicode r.input = .ok accepted ∧ Created db (r.created accepted)
  | _ => Absent db r

section Steps

variable {unicode : Unicode}

/-- Rows last while the ones they consist of do. -/
theorem Rows.kept {db db' : Directory.Db} {r : Registration}
    {rest : Option (Proc Directory.sig (Except RegistrationError AuthTokens))} (rows : Rows unicode db r rest)
    (account : NoAccount db r → NoAccount db' r) (session : NoSession db r → NoSession db' r)
    (created : ∀ input, Created db input → Created db' input) : Rows unicode db' r rest := by
  have absent (before : Absent db r) : Absent db' r := ⟨account before.account, session before.session⟩
  have accountOf (before : ∃ accepted, RegisterOrganization.accept unicode r.input = .ok accepted ∧
      Created db (r.created accepted)) :
      ∃ accepted, RegisterOrganization.accept unicode r.input = .ok accepted ∧ Created db' (r.created accepted) := by
    obtain ⟨accepted, valid, there⟩ := before
    exact ⟨accepted, valid, created _ there⟩
  cases rest with
  | none => exact absent rows
  | some p =>
      cases p with
      | done out =>
          cases out with
          | error _ => exact absent rows
          | ok _ => exact accountOf rows
      | call k next =>
          cases k with
          | inl _ => exact ⟨accountOf rows.1, session rows.2⟩
          | inr _ => exact absent rows

/-- A request that has not made a call has no rows. -/
theorem rows_program {db : Directory.Db} {r : Registration} (absent : Absent db r) (r' : Registration) :
    Rows unicode db r (some (r'.program unicode)) := by
  unfold Registration.program RegisterOrganization.execute
  cases RegisterOrganization.accept unicode r'.input with
  | error _ => exact absent
  | ok _ => exact absent

/-- What is left of the `i`-th request. -/
def restAt (c : Config (registrations unicode)) (i : Nat) :
    Option (Proc Directory.sig (Except RegistrationError AuthTokens)) :=
  (c.sessions[i]?).bind fun s => s.status.rest?

theorem restAt_eq {c : Config (registrations unicode)} {i : Nat} {s : Session (registrations unicode)}
    (found : c.sessions[i]? = some s) : restAt c i = s.status.rest? := by
  simp [restAt, found]

/-- The step changes what is left of one request only. -/
structure Goes (c c' : Config (registrations unicode)) (i : Nat)
    (rest : Option (Proc Directory.sig (Except RegistrationError AuthTokens))) : Prop where
  own : restAt c' i = rest
  others : ∀ j, j ≠ i → restAt c' j = restAt c j

/-- Everything a step can do. -/
inductive RegistrationStep (c c' : Config (registrations unicode)) : Move (registrations unicode) → Prop where
  | arrive (r : Registration) (db : c'.db = c.db) (goes : Goes c c' c.sessions.length (some (r.program unicode))) :
      RegistrationStep c c' (.arrive r)
  | finish (i : Nat) (db : c'.db = c.db) (rests : ∀ j, restAt c' j = restAt c j) : RegistrationStep c c' (.finish i)
  | look {i choice : Nat} {s : Session (registrations unicode)} {accepted : Accepted}
      {next : Bool → Proc Directory.sig (Except RegistrationError AuthTokens)} (found : c.sessions[i]? = some s)
      (valid : RegisterOrganization.accept unicode s.job.input = .ok accepted)
      (rest : restAt c i = some (.call (.inr (.existsBySlug accepted.slug)) next)) (db : c'.db = c.db)
      (goes : Goes c c' i (some (if c.db.hasSlug accepted.slug = true then
        .done (.error (.organizationNameTaken accepted.slug)) else s.job.provisioning accepted))) :
      RegistrationStep c c' (.call i choice)
  | provision {i choice : Nat} {s : Session (registrations unicode)} {accepted : Accepted}
      (found : c.sessions[i]? = some s) (valid : RegisterOrganization.accept unicode s.job.input = .ok accepted)
      (rest : restAt c i = some (s.job.provisioning accepted))
      (accepts : c.db.refuses (s.job.created accepted) = false)
      (db : c'.db = (Directory.Write.provision (s.job.created accepted)).apply c.db)
      (goes : Goes c c' i (some s.job.saving)) : RegistrationStep c c' (.call i choice)
  | save {i choice : Nat} {s : Session (registrations unicode)} {accepted : Accepted}
      (found : c.sessions[i]? = some s) (valid : RegisterOrganization.accept unicode s.job.input = .ok accepted)
      (rest : restAt c i = some s.job.saving)
      (db : c'.db = (Directory.Write.session (.insertRefreshToken s.job.token)).apply c.db)
      (goes : Goes c c' i (some (.done (.ok s.job.tokens)))) : RegistrationStep c c' (.call i choice)
  | abort {i : Nat} {s : Session (registrations unicode)} (found : c.sessions[i]? = some s) (db : c'.db = c.db)
      (goes : Goes c c' i none) : RegistrationStep c c' (.abort i)

variable {db₀ : Directory.Db} {jobs : List Registration} {c c' : Config (registrations unicode)}
  {history : List (Config (registrations unicode) × Move (registrations unicode))} {m : Move (registrations unicode)}

theorem goes_put {i : Nat} {s : Session (registrations unicode)} (found : c.sessions[i]? = some s)
    (s' : Session (registrations unicode)) (db : Directory.Db) :
    Goes c { c.put i s' with db := db } i s'.status.rest? := by
  constructor
  · exact restAt_eq ((Config.getElem?_put found s' i).trans (if_pos rfl))
  · intro j other
    exact congrArg (fun t => Option.bind t _) ((Config.getElem?_put found s' j).trans (if_neg other))

/-- What is left of a request is on its course. -/
theorem course_of_run (run : Run Config.step (.start db₀ jobs) history c) {i : Nat}
    {s : Session (registrations unicode)} (found : c.sessions[i]? = some s)
    {rest : Proc Directory.sig (Except RegistrationError AuthTokens)} (left : s.status.rest? = some rest) :
    Course unicode s.job rest :=
  course_of_leads (Config.leads_of_run run found left)

theorem registration_of_step (run : Run Config.step (.start db₀ jobs) history c) (taken : c.step m = some c') :
    RegistrationStep c c' m := by
  cases Config.own_of_step run taken with
  | arrive r =>
      refine .arrive r rfl ⟨?_, fun j other => ?_⟩
      · simp [restAt]
        rfl
      · unfold restAt
        rcases Nat.lt_or_gt_of_ne other with older | beyond
        · rw [List.getElem?_append_left older]
        · rw [List.getElem?_eq_none (by simpa using Nat.succ_le_of_lt beyond), List.getElem?_eq_none (Nat.le_of_lt beyond)]
  | @call i choice s k next o found running answered =>
      obtain ⟨reply, writes, effects, locks⟩ := o
      have left : s.status.rest? = some (.call k next) := by rw [running]; rfl
      have before : restAt c i = some (.call k next) := (restAt_eq found).trans left
      cases course_of_run run found left with
      | looking accepted valid next refused cleared =>
          cases answered
          have goesOn : next (c.db.hasSlug accepted.slug) = if c.db.hasSlug accepted.slug = true then
              .done (.error (.organizationNameTaken accepted.slug)) else s.job.provisioning accepted := by
            cases c.db.hasSlug accepted.slug with
            | true => exact refused
            | false => exact cleared
          refine .look found valid before rfl ?_
          rw [← goesOn]
          exact goes_put found _ _
      | provisioning accepted valid =>
          have accepts : c.db.refuses (s.job.created accepted) = false := by
            by_contra refuses
            have throws : Directory.exec (.inr (.provision (s.job.created accepted))) c.db = none :=
              if_pos (Bool.not_eq_false _ ▸ refuses)
            cases throws.symm.trans answered
          have done : Directory.exec (.inr (.provision (s.job.created accepted))) c.db =
              some ((), [.provision (s.job.created accepted)]) := if_neg (ne_true_of_eq_false accepts)
          cases done.symm.trans answered
          exact .provision found valid before accepts rfl (goes_put found _ _)
      | saving accepted valid =>
          cases writes_of_save answered
          exact .save found valid before rfl (goes_put found _ _)
  | @finish i s out found running =>
      refine .finish i rfl fun j => ?_
      by_cases same : j = i
      · subst same
        apply (goes_put found _ c.db).own.trans
        rw [restAt_eq found, running]
        cases out.isOk <;> rfl
      · exact (goes_put found _ c.db).others j same
  | @abort i s rest found running => exact .abort found rfl (goes_put found _ _)

/-- The sessions are those of requests that are known. -/
def Enrolled (requests : List Registration) (c : Config (registrations unicode)) : Prop :=
  ∀ (i : Nat) (s : Session (registrations unicode)), c.sessions[i]? = some s → requests[i]? = some s.job

theorem enrolled_self (c : Config (registrations unicode)) : Enrolled (c.sessions.map Session.job) c := by
  intro i s found
  rw [List.getElem?_map, found]
  rfl

/-- Who is known at the end was known before. -/
theorem Enrolled.before {requests : List Registration} (enrolled : Enrolled requests c') (run : Run Config.step c history c') :
    Enrolled requests c := by
  intro i s found
  obtain ⟨s', found', later⟩ := Config.later_of_run run found
  exact later.job ▸ enrolled i s' found'

/-- A request only dies where it provisions a slug that is taken. -/
theorem taken_of_throws (run : Run Config.step (.start db₀ jobs) history c) {i : Nat}
    {s : Session (registrations unicode)} (found : c.sessions[i]? = some s) (throws : c.throws i = true)
    (rows : Rows unicode c.db s.job (restAt c i)) :
    ∃ accepted, RegisterOrganization.accept unicode s.job.input = .ok accepted ∧
      restAt c i = some (s.job.provisioning accepted) ∧ c.db.hasSlug accepted.slug = true ∧ Absent c.db s.job := by
  obtain ⟨k, next, running, failed⟩ := (Config.throws_iff found).mp throws
  have left : s.status.rest? = some (.call k next) := by rw [running]; rfl
  have rest : restAt c i = some (.call k next) := (restAt_eq found).trans left
  rw [rest] at rows
  cases course_of_run run found left with
  | looking accepted valid next refused cleared => cases failed
  | provisioning accepted valid =>
      refine ⟨accepted, valid, rest, ?_, rows⟩
      rw [← refuses_created rows.account]
      by_contra accepts
      have answers : Directory.exec (.inr (.provision (s.job.created accepted))) c.db =
          some ((), [.provision (s.job.created accepted)]) := if_neg accepts
      cases answers.symm.trans failed
  | saving accepted valid =>
      obtain ⟨⟨accepted', _, created⟩, new⟩ := rows
      cases (save_answers created new).symm.trans failed

/-- A step that leaves the rows of the others alone, and those of one request as they should be. -/
theorem rows_of_goes {i : Nat} {after : Option (Proc Directory.sig (Except RegistrationError AuthTokens))}
    {r : Registration} {db : Directory.Db} (goes : Goes c c' i after) (j : Nat)
    (own : j = i → Rows unicode db r after) (others : j ≠ i → Rows unicode db r (restAt c j)) :
    Rows unicode db r (restAt c' j) := by
  by_cases self : j = i
  · rw [self, goes.own]
    exact own self
  · rw [goes.others j self]
    exact others self

/-- The rows of the requests follow what is left of them. -/
theorem rows_of_step {requests : List Registration} (ids : FreshIds db₀ requests) (enrolled : Enrolled requests c)
    (run : Run Config.step (.start db₀ jobs) history c) (taken : c.step m = some c') (dies : c.DiesThrowing m)
    (rows : ∀ i r, requests[i]? = some r → Rows unicode c.db r (restAt c i)) :
    ∀ i r, requests[i]? = some r → Rows unicode c'.db r (restAt c' i) := by
  intro j r known
  have before := rows j r known
  cases registration_of_step run taken with
  | arrive r' db goes =>
      rw [db]
      apply rows_of_goes goes
      · rintro rfl
        have outside : restAt c c.sessions.length = none := by simp [restAt]
        rw [outside] at before
        exact rows_program before r'
      · exact fun _ => before
  | finish i db rests =>
      rw [db, rests j]
      exact before
  | @look i choice s accepted next found valid rest db goes =>
      rw [db]
      apply rows_of_goes goes
      · rintro rfl
        rw [rest] at before
        split
        · exact before
        · exact before
      · exact fun _ => before
  | @provision i choice s accepted found valid rest accepts db goes =>
      rw [db]
      apply rows_of_goes goes
      · rintro rfl
        cases (enrolled j s found).symm.trans known
        rw [rest] at before
        exact ⟨⟨accepted, valid, created_provision before.account⟩, before.session⟩
      · intro self
        have apart := ids.apart_of_ne (enrolled i s found) known (Ne.symm self)
        exact before.kept (fun absent => absent.provision apart) id fun input created => created.provision _
  | @save i choice s accepted found valid rest db goes =>
      rw [db]
      apply rows_of_goes goes
      · rintro rfl
        cases (enrolled j s found).symm.trans known
        rw [rest] at before
        obtain ⟨⟨accepted', valid', created⟩, _⟩ := before
        exact ⟨accepted', valid', ⟨created.organization, created.owner, created.membership⟩⟩
      · intro self
        have apart := ids.apart_of_ne (enrolled i s found) known (Ne.symm self)
        exact before.kept (fun absent => ⟨absent.organization, absent.user, absent.membership⟩)
          (fun none => none.save apart) fun _ created => ⟨created.organization, created.owner, created.membership⟩
  | @abort i s found db goes =>
      rw [db]
      apply rows_of_goes goes
      · rintro rfl
        cases (enrolled j s found).symm.trans known
        obtain ⟨_, _, _, _, absent⟩ := taken_of_throws run found (dies j rfl) before
        exact absent
      · exact fun _ => before

theorem rows_of_run {requests : List Registration} (ids : FreshIds db₀ requests) (enrolled : Enrolled requests c)
    (run : Run Config.step (.start db₀ jobs) history c) (dies : Meets Config.DiesThrowing history) {i : Nat}
    {r : Registration} (known : requests[i]? = some r) : Rows unicode c.db r (restAt c i) := by
  have all : ∀ i r, requests[i]? = some r → Rows unicode c.db r (restAt c i) := by
    clear known
    induction run with
    | start =>
        intro i r known
        have absent := ids.absent r (List.mem_of_getElem? known)
        cases found : (Config.start db₀ jobs : Config (registrations unicode)).sessions[i]? with
        | none =>
            rw [restAt, found]
            exact absent
        | some s =>
            obtain ⟨job, _, rfl⟩ := Config.start_session found
            rw [restAt_eq found]
            exact rows_program absent job
    | @step history c c' m run taken ih =>
        rw [meets_append] at dies
        have enrolledBefore := enrolled.before (.step .start taken)
        exact rows_of_step ids enrolledBefore run taken dies.2 (ih enrolledBefore dies.1)
  exact all i r known

end Steps

end Helpdesk.Iam
