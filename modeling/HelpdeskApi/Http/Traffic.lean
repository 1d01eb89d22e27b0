/-
Module: HelpdeskApi.Http.Traffic
Layer: Http
Purpose: What can come to the application: a request whose access token, if it verifies at all, is one that was
  answered before, and a job of the background that a message of the outbox or a sweep asks for. In a run in
  which nothing else comes, everybody who is a principal is a member, and every session keeps to what all count on.
Trusted boundary: human-reviewed spec
Main exports: Issued, Arrives, Admissible, trusted_of_arrives, traffic_of_run, moved_of_run
-/
import HelpdeskApi.Http.Requests

namespace Helpdesk.Http

open Iam Relational Txn Transition

variable {unicode : Unicode} {collation : Collation} {v : Validators} {jwt : AccessJwt}

/-- What a session has answered, well or badly. -/
def Ended (s : Session (application unicode collation v jwt)) (out : Response) : Prop :=
  s.status = .committed out ∨ s.status = .rolledBack out

/-- The application has answered somebody with this access token. -/
def Issued (c : Config (application unicode collation v jwt)) (token : String) : Prop :=
  ∃ (i : Nat) (s : Session (application unicode collation v jwt)) (a : Answer),
    c.sessions[i]? = some s ∧ Ended s (.answer a) ∧ a.accessToken = some token

/-- What can come. Nobody has forged a token: one that verifies has been answered. -/
def Arrives (c : Config (application unicode collation v jwt)) : Job → Prop
  | .request r => ∀ token, r.bearer = some token →
      (AccessTokenVerifier.verify jwt r.verifiedAt token).isSome = true → Issued c token
  | .background e => Background c.db.ticketing e

def Admissible (c : Config (application unicode collation v jwt)) (m : Move (application unicode collation v jwt)) :
    Prop :=
  ∀ job, m = .arrive job → Arrives c job

/-- A principal is read from the token that is presented. -/
theorem principalOf_eq_some_iff {r : HttpRequest} {principal : AccessTokenClaims} :
    principalOf jwt r.verifiedAt r.authorization = some principal ↔
      ∃ token, r.bearer = some token ∧ AccessTokenVerifier.verify jwt r.verifiedAt token = some principal := by
  simp only [principalOf, HttpRequest.bearer, Option.bind_eq_bind, Option.bind_eq_some_iff]
  grind

section Runs

variable {w₀ : World} {c c' : Config (application unicode collation v jwt)}
  {m : Move (application unicode collation v jwt)}
  {history : List (Config (application unicode collation v jwt) × Move (application unicode collation v jwt))}

/-- What was signed for a member is good for that member. -/
theorem member_of_issued (kept : c.Kept (sharing unicode collation) (Job.Does jwt) (Job.Gives jwt)) {token : String}
    (issued : Issued c token) : ∃ claims signedAt, token = jwt.signAccess signedAt claims ∧ Member c.db.directory claims := by
  obtain ⟨i, s, a, found, ended, isToken⟩ := issued
  have gives := (kept i s found).returned ended
  cases job : s.job with
  | background e =>
      rw [job] at gives
      exact gives.elim
  | request r =>
      rw [job] at gives
      exact vouched_of_gives gives token isToken

/-- Whatever can come may come. -/
theorem trusted_of_arrives (kept : c.Kept (sharing unicode collation) (Job.Does jwt) (Job.Gives jwt))
    (coherent : Coherent unicode c.db.directory) (linked : c.db.ticketing.Linked) {job : Job} (arrives : Arrives c job) :
    job.Trusted unicode jwt c.db where
  coherent := coherent
  linked := linked
  principal := by
    rintro r rfl principal isPrincipal
    obtain ⟨token, presented, verified⟩ := principalOf_eq_some_iff.mp isPrincipal
    have issued := arrives token presented (by rw [verified]; rfl)
    obtain ⟨claims, signedAt, rfl, member⟩ := member_of_issued kept issued
    rw [AccessTokenVerifier.verify_signed verified]
    exact member
  background := by
    rintro e rfl
    exact arrives

/-- In every run in which only what can come comes, the database goes on as it should, and every session keeps to
    what all count on. -/
theorem traffic_of_run (lowersOnce : LowersOnce unicode) (coherent : Coherent unicode w₀.directory)
    (linked : w₀.ticketing.Linked) (run : Run Config.step (.start w₀ []) history c)
    (admissible : Meets Admissible history) :
    w₀.Goes unicode c.db ∧ c.Kept (sharing unicode collation) (Job.Does jwt) (Job.Gives jwt) ∧
      ∀ (i : Nat) (s : Session (application unicode collation v jwt)), c.sessions[i]? = some s →
        s.job.Trusted unicode jwt c.db := by
  have none : ∀ job ∈ ([] : List Job), job.Trusted unicode jwt w₀ := List.forall_mem_nil _
  apply Config.kept_of_run (P := sharing unicode collation) (J := Job.Trusted unicode jwt) careful_store
    Job.Trusted.goes (begins_of_trusted lowersOnce) none run
  intro entry member goes kept job isArrival
  exact trusted_of_arrives kept (goes.directory.coherent coherent) (goes.linked linked) (admissible entry member job isArrival)

/-- And every step is one of a session that does what it may. -/
theorem moved_of_run (lowersOnce : LowersOnce unicode) (coherent : Coherent unicode w₀.directory)
    (linked : w₀.ticketing.Linked) (run : Run Config.step (.start w₀ []) history c)
    (admissible : Meets Admissible history) (comes : Admissible c m) (taken : c.step m = some c') :
    c.Moved (Job.Does jwt) m c' := by
  obtain ⟨goes, kept, _⟩ := traffic_of_run lowersOnce coherent linked run admissible
  have exclusive := Config.exclusive_of_run careful_store run
  have stepped := Config.kept_of_step careful_store exclusive kept taken fun job isArrival =>
    begins_of_trusted lowersOnce
      (trusted_of_arrives kept (goes.directory.coherent coherent) (goes.linked linked) (comes job isArrival))
  exact stepped.2.2

end Runs

end Helpdesk.Http
