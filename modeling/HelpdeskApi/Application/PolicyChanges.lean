/-
Module: HelpdeskApi.Application.PolicyChanges
Layer: Application
Purpose: The policy of an organisation under the use cases that show and change it: what each answers, which
  override it leaves, and that nothing else touches the policies.
Trusted boundary: none
Main exports: SlaTarget.Valid, targetFor_effectivePolicy, serve_getSlaPolicy, serve_updateSlaPolicy,
  serve_resetSlaPolicy, overridesOf_update, overridesOf_reset, policies_of_other
-/
import HelpdeskApi.Application.SerialRuns

namespace Helpdesk

open Txn Relational

/-- A target that can be promised. -/
structure SlaTarget.Valid (target : SlaTarget) : Prop where
  positive : 1 ≤ target.responseMinutes
  ordered : target.responseMinutes ≤ target.resolutionMinutes
  bounded : target.resolutionMinutes ≤ SLA_MAX_MINUTES

theorem DEFAULT_SLA_POLICY_valid (p : TicketPriority) : (DEFAULT_SLA_POLICY p).Valid := by
  cases p <;> constructor <;> decide

theorem esPlazoValido_spec {minutos : JsNumber} {m : Int} (accepted : esPlazoValido minutos = some m) :
    1 ≤ m ∧ m ≤ SLA_MAX_MINUTES := by
  obtain ⟨_, inRange⟩ := Option.filter_eq_some_iff.mp accepted
  simpa using inRange

/-- Only valid targets are made. -/
theorem makeSlaTarget_valid {responseMinutes resolutionMinutes : JsNumber} {target : SlaTarget}
    (made : makeSlaTarget responseMinutes resolutionMinutes = .ok target) : target.Valid := by
  unfold makeSlaTarget at made
  split at made
  · cases made
  · rename_i response accepted
    split at made
    · cases made
    · rename_i resolution accepted'
      split at made
      · cases made
      · rename_i ordered
        cases made
        exact ⟨(esPlazoValido_spec accepted).1, Int.not_lt.mp ordered, (esPlazoValido_spec accepted').2⟩

/-- The policy has an entry for each priority. -/
theorem targetFor_effectivePolicy (overrides : Overrides) (p : TicketPriority) :
    targetFor p (effectivePolicy overrides) = some (effectiveTarget overrides p) := by
  cases p <;> rfl

theorem effectiveTarget_source (overrides : Overrides) (p : TicketPriority) :
    (effectiveTarget overrides p).source = .default ↔ overrides p = none := by
  simp [effectiveTarget]

section Served

variable {e : Execution} {db : Db}

/-- What the policy of a tenant is shown as. -/
theorem serve_getSlaPolicy {tenantId : TenantId} (asked : e.useCase = .getSlaPolicy tenantId) :
    serve e db = (some (.ok (.policy (effectivePolicy (db.overridesOf tenantId)))), db) := by
  obtain ⟨useCase, ambient, requestId⟩ := e
  cases asked
  refine Handler.transact_of_commit ?_ rfl
  have ran : (GetSlaPolicy.execute tenantId).run repositories ⟨some tenantId, requestId⟩ db =
      some (effectivePolicy (db.overridesOf tenantId), db.after []) :=
    run_exec (exec_policiesOverridesOf rfl)
  change ((fun p => (.ok (Output.policy p) : Except TicketingError Output)) <$>
    GetSlaPolicy.execute tenantId).run repositories _ db = _
  rw [Proc.run_map]
  exact congrArg (Option.map _) ran

/-- An update that is accepted answers with the policy it leaves. -/
theorem serve_updateSlaPolicy {input : UpdateSlaPolicyInput} (asked : e.useCase = .updateSlaPolicy input)
    (fresh : e.ambient.freshIn db = true) {target : SlaTarget}
    (valid : makeSlaTarget input.responseMinutes input.resolutionMinutes = .ok target) :
    serve e db = (some (.ok (.policy (effectivePolicy fun p =>
      if p = input.priority then some target else db.overridesOf input.tenantId p))),
      db.after (e.committed db)) := by
  obtain ⟨useCase, ambient, requestId⟩ := e
  cases asked
  refine Handler.transact_of_commit ?_ rfl
  change ((·.map Output.policy) <$> UpdateSlaPolicy.execute input ambient).run repositories _ db = _
  rw [Proc.run_map, UpdateSlaPolicy.run_accepted input rfl fresh valid]
  rfl

/-- An update that is not acceptable is rejected. -/
theorem serve_updateSlaPolicy_rejected {input : UpdateSlaPolicyInput} (asked : e.useCase = .updateSlaPolicy input)
    {error : TicketingError} (invalid : makeSlaTarget input.responseMinutes input.resolutionMinutes = .error error) :
    serve e db = (some (.error error), db) := by
  obtain ⟨useCase, ambient, requestId⟩ := e
  cases asked
  have ran : ((·.map Output.policy) <$> UpdateSlaPolicy.execute input ambient).run repositories
      ⟨input.tenantId, requestId⟩ db = some (.error error, db) := by
    rw [Proc.run_map]
    simp only [UpdateSlaPolicy.execute, invalid]
    rfl
  exact Handler.transact_of_rollback ran rfl

/-- A reset answers with the policy it leaves. -/
theorem serve_resetSlaPolicy {input : ResetSlaPolicyInput} (asked : e.useCase = .resetSlaPolicy input)
    (fresh : e.ambient.freshIn db = true) :
    serve e db = (some (.ok (.policy (effectivePolicy (ResetSlaPolicy.remaining input db)))),
      db.after (e.committed db)) := by
  obtain ⟨useCase, ambient, requestId⟩ := e
  cases asked
  refine Handler.transact_of_commit ?_ rfl
  change ((fun p => (.ok (Output.policy p) : Except TicketingError Output)) <$>
    ResetSlaPolicy.execute input ambient).run repositories _ db = _
  rw [Proc.run_map, ResetSlaPolicy.run_committed input rfl fresh]
  rfl

end Served

section Overrides

variable {db : Db} {ambient : Ambient}

/-- An update sets one override. -/
theorem overridesOf_update (input : UpdateSlaPolicyInput) {target : SlaTarget}
    (valid : makeSlaTarget input.responseMinutes input.resolutionMinutes = .ok target) (t : TenantId)
    (p : TicketPriority) :
    (db.after (UpdateSlaPolicy.committed input ambient db)).overridesOf t p =
      if t = input.tenantId ∧ p = input.priority then some target else db.overridesOf t p := by
  simp only [UpdateSlaPolicy.committed, valid]
  change ((db.policies.upsert _ _ _).find? (t, p)).map SlaPolicyRow.target = _
  rw [Table.find?_upsert, key_policyRow]
  by_cases same : t = input.tenantId ∧ p = input.priority
  · obtain ⟨rfl, rfl⟩ := same
    rw [if_pos rfl, if_pos ⟨rfl, rfl⟩]
    cases db.policies.find? (input.tenantId, input.priority) <;> rfl
  · have other : ¬ (t, p) = (input.tenantId, input.priority) := fun both =>
      same ⟨congrArg Prod.fst both, congrArg Prod.snd both⟩
    rw [if_neg other, if_neg same]
    rfl

/-- A reset removes one override. -/
theorem overridesOf_reset (input : ResetSlaPolicyInput) (t : TenantId) (p : TicketPriority) :
    (db.after (ResetSlaPolicy.committed input ambient db)).overridesOf t p =
      if t = input.tenantId ∧ p = input.priority then none else db.overridesOf t p := by
  unfold ResetSlaPolicy.committed
  cases stored : db.policies.find? (input.tenantId, input.priority) with
  | none =>
      by_cases same : t = input.tenantId ∧ p = input.priority
      · obtain ⟨rfl, rfl⟩ := same
        rw [if_pos ⟨rfl, rfl⟩]
        exact congrArg (Option.map SlaPolicyRow.target) stored
      · rw [if_neg same]
        rfl
  | some row =>
      change ((db.policies.deleteWhere _).find? (t, p)).map SlaPolicyRow.target = _
      rw [Table.deleteWhere, Table.find?_filter]
      cases found : db.policies.find? (t, p) with
      | none => simp [Db.overridesOf, found]
      | some row' =>
          have sameKey := Table.key_of_find? found
          simp only [key_policyRow, Prod.mk.injEq] at sameKey
          by_cases same : t = input.tenantId ∧ p = input.priority
          · simp [sameKey, same]
          · rw [if_neg same]
            have other : ¬ (row'.tenantId = input.tenantId ∧ row'.priority = input.priority) := by
              rw [sameKey.1, sameKey.2]
              exact same
            have passes : ¬ row'.tenantId = input.tenantId ∨ ¬ row'.priority = input.priority := not_and_or.mp other
            simp [Db.overridesOf, found, passes]

/-- The other use cases leave the policies alone. -/
theorem policies_of_other {e : Execution} (notUpdate : ∀ input, e.useCase ≠ .updateSlaPolicy input)
    (notReset : ∀ input, e.useCase ≠ .resetSlaPolicy input) (db : Db) :
    (db.after (e.committed db)).policies = db.policies := by
  have commits := e.commits db
  generalize e.committed db = writes at commits ⊢
  cases commits with
  | policyUpdated asked => exact absurd asked (notUpdate _)
  | policyReset asked => exact absurd asked (notReset _)
  | _ => rfl

end Overrides

end Helpdesk
