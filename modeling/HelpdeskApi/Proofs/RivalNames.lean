/-
Module: HelpdeskApi.Proofs.RivalNames
Layer: Proofs
Purpose: Any number of registrations whose names have the same slug, which nobody has yet, interleaved call by
  call. One of them creates its organisation, its user and its membership and answers `Ok`, and the others
  leave nothing. But a request that finds the slug free and comes to provision it too late ends with an
  exception and not with `OrganizationNameTakenError`, and that happens in exactly the runs where a request
  looks for the slug while another one is between its look and its provisioning.
Trusted boundary: none
Main exports: SignedUp, TurnedAway, Overtaken, DecidedCleanly, LooksAlone, decided_of_run, decidedCleanly_iff
-/
import HelpdeskApi.Iam.NameRace
import HelpdeskApi.Proofs.CanonicalSlugs

namespace Helpdesk.Iam

open Relational Txn Transition

section Outcomes

variable {unicode : Unicode}

/-- The request has answered `Ok`, and what it created is there. -/
def SignedUp (db : Directory.Db) (s : Session (registrations unicode)) : Prop :=
  ∃ accepted tokens, RegisterOrganization.accept unicode s.job.input = .ok accepted ∧
    s.status = .committed (.ok tokens) ∧ Created db (s.job.created accepted)

/-- The request has answered that the name is taken, and has left no row. -/
def TurnedAway (slug : String) (db : Directory.Db) (s : Session (registrations unicode)) : Prop :=
  s.status = .rolledBack (.error (.organizationNameTaken slug)) ∧ Absent db s.job

/-- The request has ended with an exception, and has left no row. -/
def Overtaken (db : Directory.Db) (s : Session (registrations unicode)) : Prop :=
  s.status = .aborted ∧ Absent db s.job

/-- One of the requests for the slug is served, and the others are turned away. -/
def DecidedCleanly (slug : String) (c : Config (registrations unicode)) : Prop :=
  ∃ (w : Nat) (s : Session (registrations unicode)), c.sessions[w]? = some s ∧ s.job.asksFor unicode slug = true ∧
    SignedUp c.db s ∧
    ∀ (j : Nat) (t : Session (registrations unicode)), c.sessions[j]? = some t → t.job.asksFor unicode slug = true →
      j ≠ w → TurnedAway slug c.db t

/-- No request looks for the slug while another one has found it free and has yet to provision it. -/
def LooksAlone (slug : String) (c : Config (registrations unicode)) (m : Move (registrations unicode)) : Prop :=
  ∀ (i choice : Nat) (s : Session (registrations unicode)), m = .call i choice → c.sessions[i]? = some s →
    s.job.asksFor unicode slug = true → standing s.status.rest? = .idle →
    ∀ (j : Nat) (t : Session (registrations unicode)), c.sessions[j]? = some t → t.job.asksFor unicode slug = true →
      standing t.status.rest? ≠ .cleared

variable {slug : String} {c : Config (registrations unicode)} {m : Move (registrations unicode)}

/-- It is what is asked of the parties that want the slug. -/
theorem looksAlone_iff :
    (∀ k, observed slug c m = some k → Reservation.LooksAlone (reservation slug c) k) ↔ LooksAlone slug c m := by
  constructor
  · intro alone i choice s isCall found asks idle j t found' asks' cleared
    subst isCall
    have phase := (phaseAt_of_asks found asks).trans idle
    have seen : observed slug c (.call i choice) = some (.look i) := by
      simp [observed, asksAt_eq found, asks, phase]
    exact alone _ seen i rfl j ((phaseAt_of_asks found' asks').trans cleared)
  · intro alone k seen i isLook j cleared
    subst isLook
    obtain ⟨t, found', asks', cleared'⟩ := session_of_phaseAt cleared (by simp)
    cases m with
    | call i' choice =>
        simp only [observed, Option.ite_none_right_eq_some] at seen
        obtain ⟨asking, seen⟩ := seen
        split at seen
        · rename_i idle
          cases seen
          obtain ⟨s, found, asks⟩ := (Option.any_eq_true _ _).mp asking
          exact alone i choice s rfl found asks ((phaseAt_of_asks found asks).symm.trans idle) j t found' asks' cleared'
        · cases seen
        · cases seen
    | abort i' =>
        simp only [observed, Option.ite_none_right_eq_some] at seen
        cases seen.2
    | arrive r => cases seen
    | finish i' => cases seen

end Outcomes

section Runs

variable {unicode : Unicode} {slug : String} {db₀ : Directory.Db} {jobs : List Registration}
  {c : Config (registrations unicode)}
  {history : List (Config (registrations unicode) × Move (registrations unicode))}

/-- The ways a request for the slug can end. -/
theorem ends_of_run (run : Run Config.step (.start db₀ jobs) history c) {i : Nat}
    {s : Session (registrations unicode)} (found : c.sessions[i]? = some s) (asks : s.job.asksFor unicode slug = true)
    (ended : s.isRunning = false) :
    s.status = .committed (.ok s.job.tokens) ∨ s.status = .rolledBack (.error (.organizationNameTaken slug)) ∨
      s.status = .aborted := by
  obtain ⟨accepted, valid, rfl⟩ := Registration.asksFor_iff.mp asks
  have commits := Config.commits_of_run run found
  cases status : s.status with
  | running rest => simp [Session.isRunning, status] at ended
  | aborted => exact .inr (.inr rfl)
  | committed out =>
      have wanted := (commits out).1 status
      have left : s.status.rest? = some (.done out) := by rw [status]; rfl
      cases course_of_run run found left with
      | rejected error invalid => cases wanted
      | refused accepted valid => cases wanted
      | served accepted valid => exact .inl rfl
  | rolledBack out =>
      have unwanted := (commits out).2 status
      have left : s.status.rest? = some (.done out) := by rw [status]; rfl
      cases course_of_run run found left with
      | rejected error invalid => cases valid.symm.trans invalid
      | refused accepted' valid' =>
          cases valid.symm.trans valid'
          exact .inr (.inl rfl)
      | served accepted valid => cases unwanted

variable (run : Run Config.step (.start db₀ jobs) history c) (dies : Meets Config.DiesThrowing history)
  (free : db₀.hasSlug slug = false) (ids : FreshIds db₀ (c.sessions.map Session.job))
  (ended : ∀ s ∈ c.sessions, s.job.asksFor unicode slug = true → s.isRunning = false)

include run ended in
/-- Nobody is between its look and its provisioning when the requests have ended. -/
theorem settled_of_ended (i : Nat) : phaseAt slug c i ≠ .cleared := by
  intro cleared
  obtain ⟨s, found, asks, standing⟩ := session_of_phaseAt cleared (by simp)
  rcases ends_of_run run found asks (ended s (List.mem_of_getElem? found) asks) with status | status | status
  · rw [status] at standing
    cases standing
  · rw [status] at standing
    cases standing
  · rw [status] at standing
    cases standing

include run dies free ids ended in
/-- One of the requests for the slug is served. The others leave no row, whether they are turned away or come
    too late. -/
theorem decided_of_run (asked : ∃ s ∈ c.sessions, s.job.asksFor unicode slug = true) :
    ∃ (w : Nat) (s : Session (registrations unicode)), c.sessions[w]? = some s ∧ s.job.asksFor unicode slug = true ∧
      SignedUp c.db s ∧
      ∀ (j : Nat) (t : Session (registrations unicode)), c.sessions[j]? = some t → t.job.asksFor unicode slug = true →
        j ≠ w → TurnedAway slug c.db t ∨ Overtaken c.db t := by
  have parties := reservation_run ids (enrolled_self c) run dies free
  have rows {i : Nat} {s : Session (registrations unicode)} (found : c.sessions[i]? = some s) :
      Rows unicode c.db s.job s.status.rest? := by
    rw [← restAt_eq found]
    exact rows_of_run ids (enrolled_self c) run dies (enrolled_self c i s found)
  have ends {i : Nat} {s : Session (registrations unicode)} (found : c.sessions[i]? = some s)
      (asks : s.job.asksFor unicode slug = true) :=
    ends_of_run run found asks (ended s (List.mem_of_getElem? found) asks)
  obtain ⟨s₀, inside, asks₀⟩ := asked
  obtain ⟨i₀, found₀⟩ := List.mem_iff_getElem?.mp inside
  have looked : phaseAt slug c i₀ ≠ .idle := by
    rw [phaseAt_of_asks found₀ asks₀]
    rcases ends found₀ asks₀ with status | status | status <;> rw [status] <;> exact Reservation.Phase.noConfusion
  obtain ⟨w, holds⟩ := Reservation.exists_holder parties (settled_of_ended run ended) looked
  obtain ⟨s, found, asks, standing⟩ := session_of_phaseAt holds (by simp)
  refine ⟨w, s, found, asks, ?_, fun j t at_j asks' other => ?_⟩
  · have own := rows found
    rcases ends found asks with status | status | status
    · rw [status] at own
      obtain ⟨accepted, valid, created⟩ := own
      exact ⟨accepted, s.job.tokens, valid, status, created⟩
    · rw [status] at standing
      cases standing
    · rw [status] at standing
      cases standing
  · have own := rows at_j
    rcases ends at_j asks' with status | status | status
    · -- the slug is held by one request only
      have holds' : phaseAt slug c j = .holds := by
        rw [phaseAt_of_asks at_j asks', status]
        rfl
      exact absurd ((Reservation.sound_of_run parties).one j w holds' holds) other
    · rw [status] at own
      exact .inl ⟨status, own⟩
    · rw [status] at own
      exact .inr ⟨status, own⟩

end Runs

section Example

/-- A request for the name, with ids of its own. -/
def exampleRegistration (n : Nat) : Registration where
  input := { organizationName := "Acme", email := "ana@acme.com", password := "password" }
  ambient :=
    { tokenService :=
        { signAccessToken := fun _ => "access"
          issueRefreshToken := fun _ _ _ =>
            { token := "token", tokenHash := toString n, tokenId := 100 + n, expiresAt := 604800000 }
          verifyRefreshToken := fun _ => none
          hashRefreshToken := fun token => token }
      uuid := fun i => 10 * n + i
      now := fun _ => 0 }
  hash _ := ⟨"hash", by decide⟩

def twoRegistrations : List Registration :=
  [exampleRegistration 1, exampleRegistration 2]

theorem freshIds_twoRegistrations : FreshIds .empty twoRegistrations where
  absent := by
    intro r _
    have nothing : NoAccount .empty r := ⟨nofun, nofun, nofun⟩
    exact ⟨nothing, nofun⟩
  apart := by
    apply List.pairwise_pair.mpr
    constructor <;> decide

/-- The second request looks for the slug before the first one has provisioned it. -/
def racing : List (Move (registrations ascii)) :=
  [.call 0 0, .call 1 0, .call 0 0, .call 0 0, .finish 0]

/-- The second request comes when the first one is done. -/
def queueing : List (Move (registrations ascii)) :=
  [.call 0 0, .call 0 0, .call 0 0, .finish 0, .call 1 0, .finish 1]

/-- Where a request stands, whether it asks for the slug, and whether it is at work. -/
def shown (s : Session (registrations ascii)) : Reservation.Phase × Bool × Bool :=
  (standing s.status.rest?, s.job.asksFor ascii "acme", s.isRunning)

abbrev opened : Config (registrations ascii) :=
  .start Directory.Db.empty twoRegistrations

/-- Nobody dies where nobody is given up. -/
theorem diesThrowing_playHistory (c : Config (registrations ascii)) {schedule : List (Move (registrations ascii))}
    (goesOn : ∀ m ∈ schedule, ∀ i, m ≠ .abort i) : Meets Config.DiesThrowing (playHistory Config.step c schedule) := by
  intro entry member i isAbort
  exact absurd isAbort (goesOn _ (mem_schedule member) i)

theorem ended_of_shown {c : Config (registrations ascii)} {phases : List (Reservation.Phase × Bool × Bool)}
    (shows : c.sessions.map shown = phases) (ended : ∀ entry ∈ phases, entry.2.2 = false) :
    ∀ s ∈ c.sessions, s.job.asksFor ascii "acme" = true → s.isRunning = false := by
  intro s inside _
  exact ended _ (shows ▸ List.mem_map_of_mem inside)

theorem asked_of_shown {c : Config (registrations ascii)} {phases : List (Reservation.Phase × Bool × Bool)}
    {phase : Reservation.Phase} {isRunning : Bool} (shows : c.sessions.map shown = (phase, true, isRunning) :: phases) :
    ∃ s ∈ c.sessions, s.job.asksFor ascii "acme" = true := by
  obtain ⟨s, rest, sessions, first, _⟩ := List.map_eq_cons_iff.mp shows
  simp only [shown, Prod.mk.injEq] at first
  exact ⟨s, sessions ▸ List.mem_cons_self, first.2.1⟩

end Example

end Helpdesk.Iam
