/-
Module: HelpdeskApi.Iam.NameRace
Layer: Application
Purpose: The registrations for one slug, seen as parties that want one name: looking for the slug is a look,
  and provisioning is a try, which comes too late where it throws. Every run of registrations is a run of such
  parties, whatever requests for other slugs do in between.
Trusted boundary: none
Main exports: standing, asksAt, phaseAt, reservation, observed, Seen, seen_of_step, reservation_run
-/
import HelpdeskApi.Iam.RegistrationRuns

namespace Helpdesk.Iam

open Relational Txn Transition

/-- How far a request has got with its slug, by what is left of it: an aborted one has come too late. -/
def standing : Option (Proc Directory.sig (Except RegistrationError AuthTokens)) → Reservation.Phase
  | some (.call (.inr (.existsBySlug _)) _) => .idle
  | some (.call (.inr (.provision _)) _) => .cleared
  | some (.call (.inl _) _) => .holds
  | some (.done (.ok _)) => .holds
  | some (.done (.error _)) => .refused
  | none => .late

section Observing

variable {unicode : Unicode} (slug : String)

/-- Whether the `i`-th request asks for the slug. -/
def asksAt (c : Config (registrations unicode)) (i : Nat) : Bool :=
  (c.sessions[i]?).any fun s => s.job.asksFor unicode slug

/-- How far the `i`-th request has got with the slug. -/
def phaseAt (c : Config (registrations unicode)) (i : Nat) : Reservation.Phase :=
  if asksAt slug c i then standing (restAt c i) else .idle

/-- What the registrations are to the slug. -/
def reservation (c : Config (registrations unicode)) : Reservation.State Nat where
  taken := c.db.hasSlug slug
  phase := phaseAt slug c

/-- What a move is to the slug. -/
def observed (c : Config (registrations unicode)) : Move (registrations unicode) → Option (Reservation.Move Nat)
  | .call i _ =>
      if asksAt slug c i then
        match phaseAt slug c i with
        | .idle => some (.look i)
        | .cleared => some (.take i)
        | _ => none
      else none
  | .abort i => if phaseAt slug c i = .cleared then some (.take i) else none
  | _ => none

end Observing

section Steps

variable {unicode : Unicode} {slug : String} {db₀ : Directory.Db} {jobs : List Registration}
  {c c' : Config (registrations unicode)}
  {history : List (Config (registrations unicode) × Move (registrations unicode))} {m : Move (registrations unicode)}

theorem asksAt_eq {i : Nat} {s : Session (registrations unicode)} (found : c.sessions[i]? = some s) :
    asksAt slug c i = s.job.asksFor unicode slug := by
  simp [asksAt, found]

theorem phaseAt_of_asks {i : Nat} {s : Session (registrations unicode)} (found : c.sessions[i]? = some s)
    (asks : s.job.asksFor unicode slug = true) : phaseAt slug c i = standing s.status.rest? := by
  rw [phaseAt, asksAt_eq found, if_pos asks, restAt_eq found]

/-- Where a request stands with a slug it asks for. -/
theorem session_of_phaseAt {i : Nat} {p : Reservation.Phase} (phase : phaseAt slug c i = p) (begun : p ≠ .idle) :
    ∃ s : Session (registrations unicode), c.sessions[i]? = some s ∧ s.job.asksFor unicode slug = true ∧
      standing s.status.rest? = p := by
  unfold phaseAt at phase
  split at phase
  · rename_i asks
    obtain ⟨s, found, asksFor⟩ := (Option.any_eq_true _ _).mp asks
    rw [restAt_eq found] at phase
    exact ⟨s, found, asksFor, phase⟩
  · exact absurd phase.symm begun

/-- A request that has not made a call has not looked. -/
theorem standing_program {r : Registration} (asks : r.asksFor unicode slug = true) :
    standing (some (r.program unicode)) = .idle := by
  obtain ⟨accepted, valid, _⟩ := Registration.asksFor_iff.mp asks
  unfold Registration.program RegisterOrganization.execute
  rw [valid]
  rfl

/-- A request goes on asking for what it asked for. -/
theorem asksAt_of_step (taken : c.step m = some c') {i : Nat} (there : i < c.sessions.length) :
    asksAt slug c' i = asksAt slug c i := by
  obtain ⟨s', found', later⟩ := Config.later_of_step taken (List.getElem?_eq_getElem there)
  rw [asksAt_eq found', asksAt_eq (List.getElem?_eq_getElem there), later.job]

/-- Where nobody comes in, the step changes the standing of one request only. -/
theorem phaseAt_of_goes (taken : c.step m = some c') {i : Nat}
    {rest : Option (Proc Directory.sig (Except RegistrationError AuthTokens))} (goes : Goes c c' i rest)
    (present : ∀ r, m ≠ .arrive r) (j : Nat) :
    phaseAt slug c' j =
      if j = i then (if asksAt slug c i then standing rest else .idle) else phaseAt slug c j := by
  have same : asksAt slug c' j = asksAt slug c j := by
    by_cases there : j < c.sessions.length
    · exact asksAt_of_step taken there
    · have absent := List.getElem?_eq_none (Nat.le_of_not_lt there)
      have absent' := List.getElem?_eq_none (Config.length_of_step taken present ▸ Nat.le_of_not_lt there)
      rw [asksAt, asksAt, absent, absent']
  unfold phaseAt
  rw [same]
  by_cases self : j = i
  · subst self
    rw [if_pos rfl, goes.own]
  · rw [if_neg self, goes.others j self]

theorem reservation_eq {s : Reservation.State Nat} (sameTaken : c.db.hasSlug slug = s.taken)
    (samePhase : ∀ j, phaseAt slug c j = s.phase j) : reservation slug c = s := by
  rw [reservation, sameTaken, funext samePhase]

/-- A slug is taken if it was before, or if it is the one that is provisioned. -/
theorem hasSlug_provision {db : Directory.Db} {r : Registration} {accepted : Accepted} (absent : NoAccount db r) :
    ((Directory.Write.provision (r.created accepted)).apply db).hasSlug slug =
      (db.hasSlug slug || decide (accepted.slug = slug)) := by
  change ((db.organizations.insert (r.created accepted).organization).rows.any fun o => decide (o.slug = slug)) = _
  rw [Table.rows_insert_of_free (newOrganization absent), List.any_append, List.any_cons, List.any_nil, Bool.or_false]
  rfl

/-- A request that is in order asks for its own slug. -/
theorem asksAt_of_valid {i : Nat} {s : Session (registrations unicode)} {accepted : Accepted}
    (found : c.sessions[i]? = some s) (valid : RegisterOrganization.accept unicode s.job.input = .ok accepted) :
    asksAt slug c i = decide (accepted.slug = slug) := by
  rw [asksAt_eq found, Registration.asksFor, valid]

/-- A request for another slug, or one that gets nowhere new, is no party that moves. -/
theorem reservation_stays {i : Nat} {before after : Option (Proc Directory.sig (Except RegistrationError AuthTokens))}
    (taken : c.step m = some c') (present : ∀ r, m ≠ .arrive r) (rest : restAt c i = before) (goes : Goes c c' i after)
    (same : asksAt slug c i = true → standing after = standing before)
    (slugs : c'.db.hasSlug slug = c.db.hasSlug slug) : reservation slug c' = reservation slug c := by
  apply reservation_eq slugs
  intro j
  rw [phaseAt_of_goes taken goes present]
  change _ = phaseAt slug c j
  split
  · rename_i self
    rw [self, phaseAt, rest]
    split
    · rename_i asks
      exact same asks
    · rfl
  · rfl

/-- A request for the slug is a party that moves. -/
theorem phaseAt_of_moves {i : Nat} {after : Option (Proc Directory.sig (Except RegistrationError AuthTokens))}
    {p : Reservation.Phase} (taken : c.step m = some c') (present : ∀ r, m ≠ .arrive r) (goes : Goes c c' i after)
    (asks : asksAt slug c i = true) (stands : standing after = p) (j : Nat) :
    phaseAt slug c' j = ((reservation slug c).set i p).phase j := by
  rw [phaseAt_of_goes taken goes present, if_pos asks, stands]
  rfl

theorem reservation_moves {i : Nat} {after : Option (Proc Directory.sig (Except RegistrationError AuthTokens))}
    {p : Reservation.Phase} (taken : c.step m = some c') (present : ∀ r, m ≠ .arrive r) (goes : Goes c c' i after)
    (asks : asksAt slug c i = true) (stands : standing after = p) (slugs : c'.db.hasSlug slug = c.db.hasSlug slug) :
    reservation slug c' = (reservation slug c).set i p :=
  reservation_eq slugs (phaseAt_of_moves taken present goes asks stands)

/-- The party that provisions the slug takes it. -/
theorem reservation_takes {i : Nat} {after : Option (Proc Directory.sig (Except RegistrationError AuthTokens))}
    {p : Reservation.Phase} (taken : c.step m = some c') (present : ∀ r, m ≠ .arrive r) (goes : Goes c c' i after)
    (asks : asksAt slug c i = true) (stands : standing after = p) (slugs : c'.db.hasSlug slug = true) :
    reservation slug c' = { (reservation slug c).set i p with taken := true } :=
  reservation_eq slugs (phaseAt_of_moves taken present goes asks stands)

/-- A request that comes in has not looked. -/
theorem phaseAt_arrive (c : Config (registrations unicode)) (r : Registration) (j : Nat) :
    phaseAt slug { c with sessions := c.sessions ++ [.start r] } j = phaseAt slug c j := by
  unfold phaseAt asksAt restAt
  rcases Nat.lt_trichotomy j c.sessions.length with older | rfl | beyond
  · rw [List.getElem?_append_left older]
  · rw [List.getElem?_concat_length, List.getElem?_eq_none (Nat.le_refl _)]
    change (if r.asksFor unicode slug = true then standing (some (r.program unicode)) else .idle) = .idle
    split
    · rename_i asks
      exact standing_program asks
    · rfl
  · rw [List.getElem?_eq_none (by simpa using Nat.succ_le_of_lt beyond), List.getElem?_eq_none (Nat.le_of_lt beyond)]

section Seen

variable {i : Nat} {s : Session (registrations unicode)} {accepted : Accepted} {choice : Nat}

/-- What a step of the registrations is to the slug: a step of the parties that want it, or none. -/
def Seen (slug : String) (c : Config (registrations unicode)) (m : Move (registrations unicode))
    (c' : Config (registrations unicode)) : Prop :=
  (observed slug c m).elim (reservation slug c' = reservation slug c)
    fun k => Reservation.step (reservation slug c) k = some (reservation slug c')

theorem seen_of_none (none : observed slug c m = none) (same : reservation slug c' = reservation slug c) :
    Seen slug c m c' := by
  rw [Seen, none]
  exact same

theorem seen_of_some {k : Reservation.Move Nat} {s' : Reservation.State Nat} (some : observed slug c m = some k)
    (stepped : Reservation.Stepped (reservation slug c) k s') (same : reservation slug c' = s') : Seen slug c m c' := by
  rw [Seen, some]
  exact same ▸ stepped.step

theorem seen_look {next : Bool → Proc Directory.sig (Except RegistrationError AuthTokens)}
    (taken : c.step (.call i choice) = some c') (found : c.sessions[i]? = some s)
    (valid : RegisterOrganization.accept unicode s.job.input = .ok accepted)
    (rest : restAt c i = some (.call (.inr (.existsBySlug accepted.slug)) next)) (db : c'.db = c.db)
    (goes : Goes c c' i (some (if c.db.hasSlug accepted.slug = true then
      .done (.error (.organizationNameTaken accepted.slug)) else s.job.provisioning accepted))) :
    Seen slug c (.call i choice) c' := by
  have asks : asksAt slug c i = decide (accepted.slug = slug) := asksAt_of_valid found valid
  have slugs : c'.db.hasSlug slug = c.db.hasSlug slug := by rw [db]
  by_cases same : accepted.slug = slug
  · rw [decide_eq_true same] at asks
    rw [same] at goes
    have phase : phaseAt slug c i = .idle := by rw [phaseAt, asks, rest]; rfl
    have shown : observed slug c (.call i choice) = some (.look i) := by simp [observed, asks, phase]
    cases isTaken : c.db.hasSlug slug with
    | true =>
        rw [isTaken] at goes
        exact seen_of_some shown (.refused phase isTaken) (reservation_moves taken (by simp) goes asks rfl slugs)
    | false =>
        rw [isTaken] at goes
        exact seen_of_some shown (.cleared phase isTaken) (reservation_moves taken (by simp) goes asks rfl slugs)
  · rw [decide_eq_false same] at asks
    have shown : observed slug c (.call i choice) = none := by simp [observed, asks]
    apply seen_of_none shown
    exact reservation_stays taken (by simp) rest goes (fun asking => absurd (asks.symm.trans asking) Bool.false_ne_true) slugs

theorem seen_provision (taken : c.step (.call i choice) = some c') (found : c.sessions[i]? = some s)
    (valid : RegisterOrganization.accept unicode s.job.input = .ok accepted)
    (rest : restAt c i = some (s.job.provisioning accepted))
    (accepts : c.db.refuses (s.job.created accepted) = false)
    (db : c'.db = (Directory.Write.provision (s.job.created accepted)).apply c.db)
    (goes : Goes c c' i (some s.job.saving)) (absent : NoAccount c.db s.job) : Seen slug c (.call i choice) c' := by
  have asks : asksAt slug c i = decide (accepted.slug = slug) := asksAt_of_valid found valid
  have slugs : c'.db.hasSlug slug = (c.db.hasSlug slug || decide (accepted.slug = slug)) := by
    rw [db]
    exact hasSlug_provision absent
  by_cases same : accepted.slug = slug
  · rw [decide_eq_true same] at asks slugs
    rw [Bool.or_true] at slugs
    have phase : phaseAt slug c i = .cleared := by rw [phaseAt, asks, rest]; rfl
    have shown : observed slug c (.call i choice) = some (.take i) := by simp [observed, asks, phase]
    have free : c.db.hasSlug slug = false := by rw [← same, ← refuses_created absent, accepts]
    exact seen_of_some shown (.holds phase free) (reservation_takes taken (by simp) goes asks rfl slugs)
  · rw [decide_eq_false same] at asks slugs
    rw [Bool.or_false] at slugs
    have shown : observed slug c (.call i choice) = none := by simp [observed, asks]
    apply seen_of_none shown
    exact reservation_stays taken (by simp) rest goes (fun asking => absurd (asks.symm.trans asking) Bool.false_ne_true) slugs

theorem seen_save (taken : c.step (.call i choice) = some c') (rest : restAt c i = some s.job.saving)
    (db : c'.db = (Directory.Write.session (.insertRefreshToken s.job.token)).apply c.db)
    (goes : Goes c c' i (some (.done (.ok s.job.tokens)))) : Seen slug c (.call i choice) c' := by
  have shown : observed slug c (.call i choice) = none := by
    change (if asksAt slug c i = true then _ else none) = none
    split
    · rename_i asks
      have phase : phaseAt slug c i = .holds := by rw [phaseAt, if_pos asks, rest]; rfl
      rw [phase]
    · rfl
  apply seen_of_none shown
  exact reservation_stays taken (by simp) rest goes (fun _ => rfl) (by rw [db]; rfl)

theorem seen_abort (taken : c.step (.abort i) = some c') (found : c.sessions[i]? = some s)
    (valid : RegisterOrganization.accept unicode s.job.input = .ok accepted)
    (rest : restAt c i = some (s.job.provisioning accepted)) (isTaken : c.db.hasSlug accepted.slug = true)
    (db : c'.db = c.db) (goes : Goes c c' i none) : Seen slug c (.abort i) c' := by
  have asks : asksAt slug c i = decide (accepted.slug = slug) := asksAt_of_valid found valid
  have slugs : c'.db.hasSlug slug = c.db.hasSlug slug := by rw [db]
  by_cases same : accepted.slug = slug
  · rw [decide_eq_true same] at asks
    rw [same] at isTaken
    have phase : phaseAt slug c i = .cleared := by rw [phaseAt, asks, rest]; rfl
    exact seen_of_some (if_pos phase) (.late phase isTaken) (reservation_moves taken (by simp) goes asks rfl slugs)
  · rw [decide_eq_false same] at asks
    have phase : phaseAt slug c i = .idle := by rw [phaseAt, asks]; rfl
    have shown : observed slug c (.abort i) = none := if_neg (by rw [phase]; exact Reservation.Phase.noConfusion)
    apply seen_of_none shown
    exact reservation_stays taken (by simp) rest goes (fun asking => absurd (asks.symm.trans asking) Bool.false_ne_true) slugs

end Seen

/-- Every step of the registrations is a step of the parties that want the slug, or none. -/
theorem seen_of_step (run : Run Config.step (.start db₀ jobs) history c) (taken : c.step m = some c')
    (dies : c.DiesThrowing m) (rows : ∀ i s, c.sessions[i]? = some s → Rows unicode c.db s.job (restAt c i)) :
    Seen slug c m c' := by
  cases registration_of_step run taken with
  | arrive r db goes =>
      cases taken
      exact reservation_eq rfl (phaseAt_arrive c r)
  | finish i db rests =>
      have goes : Goes c c' i (restAt c i) := ⟨rests i, fun j _ => rests j⟩
      exact seen_of_none rfl (reservation_stays taken (by simp) rfl goes (fun _ => rfl) (by rw [db]))
  | look found valid rest db goes => exact seen_look taken found valid rest db goes
  | @provision i choice s accepted found valid rest accepts db goes =>
      have before := rows i s found
      rw [rest] at before
      have absent : Absent c.db s.job := before
      exact seen_provision taken found valid rest accepts db goes absent.account
  | save found valid rest db goes => exact seen_save taken rest db goes
  | @abort i s found db goes =>
      obtain ⟨accepted, valid, rest, isTaken, _⟩ := taken_of_throws run found (dies i rfl) (rows i s found)
      exact seen_abort taken found valid rest isTaken db goes

theorem reservation_start (free : db₀.hasSlug slug = false) :
    reservation slug (.start db₀ jobs : Config (registrations unicode)) = .start := by
  apply reservation_eq free
  intro i
  unfold phaseAt
  split
  · rename_i asks
    obtain ⟨s, found, asksFor⟩ := (Option.any_eq_true _ _).mp asks
    obtain ⟨r, _, rfl⟩ := Config.start_session found
    rw [restAt_eq found]
    exact standing_program asksFor
  · rfl

/-- The registrations are parties that want the slug. -/
theorem reservation_run {requests : List Registration} (ids : FreshIds db₀ requests) (enrolled : Enrolled requests c)
    (run : Run Config.step (.start db₀ jobs) history c) (dies : Meets Config.DiesThrowing history)
    (free : db₀.hasSlug slug = false) :
    Run Reservation.step .start
      (history.filterMap fun entry => (observed slug entry.1 entry.2).map fun k => (reservation slug entry.1, k))
      (reservation slug c) := by
  have start : reservation slug (.start db₀ jobs : Config (registrations unicode)) = .start := reservation_start free
  rw [← start]
  apply run.simulate
  intro c₁ m c₂ member taken
  obtain ⟨earlier, later, _, before, taken', after, whole⟩ := run.split member
  cases taken.symm.trans taken'
  have enrolledBefore := enrolled.before (.cons taken after)
  have diesBefore : Meets Config.DiesThrowing earlier := fun entry inside =>
    dies entry (whole ▸ List.mem_append_left _ inside)
  exact seen_of_step before taken (dies _ member) fun i s found =>
    rows_of_run ids enrolledBefore before diesBefore (enrolledBefore i s found)

end Steps

end Helpdesk.Iam
