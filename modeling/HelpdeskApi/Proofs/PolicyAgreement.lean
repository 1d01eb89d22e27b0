/-
Module: HelpdeskApi.Proofs.PolicyAgreement
Layer: Proofs
Purpose: The target an administrator is shown, the target the domain resolves and the deadlines timers get are
  one and the same, whatever updates and resets have come before, and it is always one that can be promised.
Trusted boundary: none
Main exports: StartsAgainst, PolicyAgrees, policy_agrees
-/
import HelpdeskApi.Application.PolicyChanges
import HelpdeskApi.Queue.TimerChanges

namespace Helpdesk

open Relational Transition

/-- A ticket gets one timer of each kind, which runs for as many minutes as the target has. -/
structure StartsAgainst (target : SlaTarget) (input : StartSlaTimersInput) (db db' : Db)
    (response resolution : SlaTimer) : Prop where
  timers : db'.timers.rows = db.timers.rows ++ [response, resolution]
  kinds : response.kind = .RESPONSE ∧ resolution.kind = .RESOLUTION
  tickets : response.ticketId = input.ticketId ∧ resolution.ticketId = input.ticketId
  startedAt : response.startedAt = input.occurredAt ∧ resolution.startedAt = input.occurredAt
  answer : response.dueAt - response.startedAt = target.responseMinutes * MS_PER_MINUTE
  solution : resolution.dueAt - resolution.startedAt = target.resolutionMinutes * MS_PER_MINUTE
  ordered : input.occurredAt < response.dueAt ∧ response.dueAt ≤ resolution.dueAt

/-- Where the policy of a tenant stands for a priority. -/
structure PolicyAgrees (db : Db) (tenantId : TenantId) (p : TicketPriority) (entry : EffectiveSlaTarget) : Prop where
  shown : ∀ e : Execution, e.useCase = .getSlaPolicy tenantId →
    ∃ view, (serve e db).1 = some (.ok (.policy view)) ∧ targetFor p view = some entry
  valid : entry.toSlaTarget.Valid
  resolved : entry.toSlaTarget = resolvePolicy (db.overridesOf tenantId) p
  source : entry.source = .default ↔ db.policies.find? (tenantId, p) = none
  started : ∀ (e : Execution) (input : StartSlaTimersInput), e.useCase = .startSlaTimers input →
    input.tenantId = tenantId → input.priority = p → e.ambient.freshIn db = true →
      db.processed.find? (START_SLA_CONSUMER, input.eventId) = none →
      (∀ r ∈ db.timers.rows, r.ticketId ≠ input.ticketId) →
        ∃ response resolution, StartsAgainst entry.toSlaTarget input db (serve e db).2 response resolution

/-- Every override is a target that can be promised. -/
def Db.OverridesValid (db : Db) : Prop :=
  ∀ t p target, db.overridesOf t p = some target → target.Valid

theorem overridesValid_step {db db' : Db} {e : Execution} (before : db.OverridesValid)
    (taken : serially db e = some db') : db'.OverridesValid := by
  obtain ⟨_, rfl⟩ := serially_eq_some_iff.mp taken
  intro t p target overridden
  cases asked : e.useCase with
  | updateSlaPolicy input =>
      simp only [Execution.committed, asked] at overridden
      cases made : makeSlaTarget input.responseMinutes input.resolutionMinutes with
      | error error =>
          simp only [UpdateSlaPolicy.committed, made] at overridden
          exact before t p target overridden
      | ok target' =>
          rw [overridesOf_update input made] at overridden
          split at overridden
          · cases overridden
            exact makeSlaTarget_valid made
          · exact before t p target overridden
  | resetSlaPolicy input =>
      simp only [Execution.committed, asked] at overridden
      rw [overridesOf_reset] at overridden
      split at overridden
      · cases overridden
      · exact before t p target overridden
  | _ =>
      have policies := policies_of_other (e := e) (by simp [asked]) (by simp [asked]) db
      simp only [Db.overridesOf, policies] at overridden
      exact before t p target overridden

/-- A target that can be promised puts the deadlines in order. -/
theorem startsAgainst_of_valid {target : SlaTarget} (valid : target.Valid) {input : StartSlaTimersInput} {db db' : Db}
    {id id' : Uuid} (timers : db'.timers.rows = db.timers.rows ++
      [StartSlaTimers.timer input target id .RESPONSE, StartSlaTimers.timer input target id' .RESOLUTION]) :
    StartsAgainst target input db db' (StartSlaTimers.timer input target id .RESPONSE)
      (StartSlaTimers.timer input target id' .RESOLUTION) where
  timers := timers
  kinds := ⟨rfl, rfl⟩
  tickets := ⟨rfl, rfl⟩
  startedAt := ⟨rfl, rfl⟩
  answer := add_sub_cancel_left input.occurredAt _
  solution := add_sub_cancel_left input.occurredAt _
  ordered := by
    have positive : 0 < target.responseMinutes * MS_PER_MINUTE :=
      Int.mul_pos (Int.lt_of_lt_of_le Int.one_pos valid.positive) (by decide)
    have longer : target.responseMinutes * MS_PER_MINUTE ≤ target.resolutionMinutes * MS_PER_MINUTE :=
      Int.mul_le_mul_of_nonneg_right valid.ordered (by decide)
    exact ⟨Int.lt_add_of_pos_right _ positive, Int.add_le_add_left longer _⟩

/-- After any updates and resets, accepted or not, and whatever else was served in between, every tenant is shown
    for each priority what its timers will run against. -/
theorem policy_agrees {base db : Db} (noPolicies : base.policies = .empty) {history : List (Db × Execution)}
    (run : Run serially base history db) (tenantId : TenantId) (p : TicketPriority) :
    ∃ entry, PolicyAgrees db tenantId p entry := by
  have valid : db.OverridesValid := by
    refine run.invariant ?_ fun _ _ _ before taken => overridesValid_step before taken
    intro t p target overridden
    simp only [Db.overridesOf, noPolicies] at overridden
    cases overridden
  have promised : (resolvePolicy (db.overridesOf tenantId) p).Valid := by
    unfold resolvePolicy
    cases overridden : db.overridesOf tenantId p with
    | none => exact DEFAULT_SLA_POLICY_valid p
    | some target => exact valid tenantId p target overridden
  refine ⟨effectiveTarget (db.overridesOf tenantId) p, ?_, promised, rfl, ?_, ?_⟩
  · intro e asked
    refine ⟨effectivePolicy (db.overridesOf tenantId), ?_, targetFor_effectivePolicy _ _⟩
    rw [serve_getSlaPolicy asked]
  · rw [effectiveTarget_source, Db.overridesOf, Option.map_eq_none_iff]
  · intro e input asked ofTenant ofPriority fresh unclaimed vacant
    rw [serve_committed e fresh]
    simp only [Execution.committed, asked]
    rcases StartSlaTimers.timers_committed input fresh with ⟨_, occupied⟩ | ⟨_, added⟩
    · obtain ⟨r, stored, same⟩ := occupied unclaimed
      exact absurd same (vacant r stored)
    · have objetivo : StartSlaTimers.objetivo input db =
          (effectiveTarget (db.overridesOf tenantId) p).toSlaTarget := by
        rw [StartSlaTimers.objetivo, ofTenant, ofPriority]
        rfl
      rw [objetivo] at added
      exact ⟨_, _, startsAgainst_of_valid promised added⟩

section Example

/-- An update that is accepted, one that is not, and a reset. -/
def policyDay : List Execution :=
  [exampleExecution 0 (.updateSlaPolicy ⟨⟨1⟩, ⟨9⟩, .HIGH, .finite 5, .finite 30⟩),
    exampleExecution 1 (.updateSlaPolicy ⟨⟨1⟩, ⟨9⟩, .URGENT, .finite { num := 1, den := 2 }, .nan⟩),
    exampleExecution 2 (.updateSlaPolicy ⟨⟨1⟩, ⟨9⟩, .LOW, .finite 1, .finite 525600⟩),
    exampleExecution 3 (.resetSlaPolicy ⟨⟨1⟩, ⟨9⟩, .LOW⟩)]

theorem policy_agrees_policyDay :
    ∃ history db, Run serially .empty history db ∧ (db.overridesOf ⟨1⟩ .HIGH) = some ⟨5, 30⟩ ∧
      ∃ entry, PolicyAgrees db ⟨1⟩ .HIGH entry := by
  have possible : (play serially .empty policyDay).map (fun db => db.overridesOf ⟨1⟩ .HIGH) =
      some (some ⟨5, 30⟩) := by decide
  obtain ⟨db, played, override⟩ := Option.map_eq_some_iff.mp possible
  exact ⟨_, db, play_run played, override, policy_agrees rfl (play_run played) ⟨1⟩ .HIGH⟩

end Example

end Helpdesk
