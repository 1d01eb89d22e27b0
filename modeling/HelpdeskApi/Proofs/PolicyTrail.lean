/-
Module: HelpdeskApi.Proofs.PolicyTrail
Layer: Proofs
Purpose: The audit entries about the policy of one organisation tell its history. For each priority they form a
  chain that begins with the default of the product and ends with what is in force, and every call answers
  with what is in force after it.
Trusted boundary: none
Main exports: Db.policyTrail, ChangesPolicyOf, PolicyCalled, CallFaithful, policyTrail_reconstructs
-/
import HelpdeskApi.Application.PolicyChanges
import Mathlib.Data.List.Chain

namespace Helpdesk

open Relational Transition

/-- The minutes an entry says a priority had before and has after, if it is about this priority. -/
def AuditMetadata.policyMinutes? (p : TicketPriority) : AuditMetadata → Option (Option SlaTarget × Option SlaTarget)
  | .policyUpdate q before after => if q = p then some (before.map (·.toSlaTarget), some after) else none
  | .policyReset q before after =>
      if q = p then some (before.map (·.toSlaTarget), after.map (·.toSlaTarget)) else none
  | _ => none

namespace Db

/-- What the `sla.policy_changed` entries of a tenant say about a priority, in the order they were recorded. -/
def policyTrail (db : Db) (t : TenantId) (p : TicketPriority) : List (Option SlaTarget × Option SlaTarget) :=
  (db.auditLogs.rows.filter fun a => a.tenantId = t ∧ a.action = .slaPolicyChanged).filterMap
    fun a => a.metadata.policyMinutes? p

/-- The minutes in force for a priority of a tenant. -/
def minutesOf (db : Db) (t : TenantId) (p : TicketPriority) : SlaTarget :=
  resolvePolicy (db.overridesOf t) p

end Db

/-- An update or a reset of the policy of a tenant, with the priority it is about. -/
def ChangesPolicyOf (t : TenantId) (p : TicketPriority) (e : Execution) : Prop :=
  (∃ input, e.useCase = .updateSlaPolicy input ∧ input.tenantId = t ∧ input.priority = p) ∨
    ∃ input, e.useCase = .resetSlaPolicy input ∧ input.tenantId = t ∧ input.priority = p

/-- What a call for one priority does: nothing at all, or it gives the priority other minutes and records what
    they were and what they are. -/
inductive PolicyCalled (t : TenantId) (p : TicketPriority) (db db' : Db) : Prop where
  | silent (same : db' = db)
  | changed (after : SlaTarget)
      (trail : ∀ q, db'.policyTrail t q =
        if q = p then db.policyTrail t q ++ [(some (db.minutesOf t p), some after)] else db.policyTrail t q)
      (minutes : ∀ q, db'.minutesOf t q = if q = p then after else db.minutesOf t q)

/-- What a single call promises, whatever state it finds. -/
structure CallFaithful (t : TenantId) (p : TicketPriority) (db : Db) (e : Execution) : Prop where
  answers : (∃ error, serve e db = (some (.error error), db)) ∨
    ∃ view, (serve e db).1 = some (.ok (.policy view)) ∧
      ∀ shows : Execution, shows.useCase = .getSlaPolicy t →
        (serve shows (serve e db).2).1 = some (.ok (.policy view))
  resets : ∀ input, e.useCase = .resetSlaPolicy input → db.policies.find? (t, p) = none → (serve e db).2 = db
  others : ∀ q, q ≠ p → (serve e db).2.policyTrail t q = db.policyTrail t q ∧
    (serve e db).2.overridesOf t q = db.overridesOf t q

section Calls

variable {t : TenantId} {p : TicketPriority} {db : Db} {e : Execution}

/-- An entry about a policy goes to the end of the trail of its priority. -/
theorem policyTrail_insert {db' : Db} {id : Uuid} {actorId : UserId} {now : Instant} {metadata : AuditMetadata}
    {before after : Option SlaTarget} (free : db.auditLogs.find? ⟨id⟩ = none)
    (audited : db'.auditLogs = db.auditLogs.insert (policyEntry id t actorId metadata now))
    (minutes : ∀ q, metadata.policyMinutes? q = if q = p then some (before, after) else none) (q : TicketPriority) :
    db'.policyTrail t q = if q = p then db.policyTrail t q ++ [(before, after)] else db.policyTrail t q := by
  have rows : db'.auditLogs.rows = db.auditLogs.rows ++ [policyEntry id t actorId metadata now] :=
    audited ▸ Table.rows_insert_of_free free
  rw [Db.policyTrail, rows, List.filter_append, List.filterMap_append]
  by_cases same : q = p
  · simp [same, policyEntry, minutes, Db.policyTrail]
  · simp [same, policyEntry, minutes, Db.policyTrail]

theorem called_of_update {input : UpdateSlaPolicyInput} (asked : e.useCase = .updateSlaPolicy input)
    (fresh : e.ambient.freshIn db = true) :
    PolicyCalled input.tenantId input.priority db (serve e db).2 := by
  rw [serve_committed e fresh]
  simp only [Execution.committed, asked]
  cases made : makeSlaTarget input.responseMinutes input.resolutionMinutes with
  | error error =>
      simp only [UpdateSlaPolicy.committed, made]
      exact .silent rfl
  | ok target =>
      refine .changed target (policyTrail_insert (Ambient.unused_of_freshIn fresh).1.auditLog
        (by simp only [UpdateSlaPolicy.committed, made]; rfl) fun q => ?_) fun q => ?_
      · simp only [AuditMetadata.policyMinutes?, targetFor_effectivePolicy, eq_comm]
        rfl
      · simp only [Db.minutesOf, resolvePolicy, overridesOf_update input made, true_and]
        by_cases same : q = input.priority
        · simp [same]
        · simp [same]

theorem called_of_reset {input : ResetSlaPolicyInput} (asked : e.useCase = .resetSlaPolicy input)
    (fresh : e.ambient.freshIn db = true) :
    PolicyCalled input.tenantId input.priority db (serve e db).2 := by
  rw [serve_committed e fresh]
  simp only [Execution.committed, asked]
  cases stored : db.policies.find? (input.tenantId, input.priority) with
  | none =>
      simp only [ResetSlaPolicy.committed, stored]
      exact .silent rfl
  | some row =>
      refine .changed (DEFAULT_SLA_POLICY input.priority)
        (policyTrail_insert (Ambient.unused_of_freshIn fresh).1.auditLog
          (by simp only [ResetSlaPolicy.committed, stored]; rfl) fun q => ?_) fun q => ?_
      · simp only [AuditMetadata.policyMinutes?, targetFor_effectivePolicy, eq_comm]
        simp [effectiveTarget, ResetSlaPolicy.remaining, Db.minutesOf, resolvePolicy]
      · simp only [Db.minutesOf, resolvePolicy, overridesOf_reset, true_and]
        by_cases same : q = input.priority
        · simp [same]
        · simp [same]

theorem called_of_changes (changes : ChangesPolicyOf t p e) (fresh : e.ambient.freshIn db = true) :
    PolicyCalled t p db (serve e db).2 := by
  rcases changes with ⟨input, asked, rfl, rfl⟩ | ⟨input, asked, rfl, rfl⟩
  · exact called_of_update asked fresh
  · exact called_of_reset asked fresh

/-- The overrides of the other priorities stay. -/
theorem overridesOf_of_changes (changes : ChangesPolicyOf t p e) (fresh : e.ambient.freshIn db = true)
    {q : TicketPriority} (other : q ≠ p) : (serve e db).2.overridesOf t q = db.overridesOf t q := by
  rw [serve_committed e fresh]
  rcases changes with ⟨input, asked, rfl, rfl⟩ | ⟨input, asked, rfl, rfl⟩
  · simp only [Execution.committed, asked]
    cases made : makeSlaTarget input.responseMinutes input.resolutionMinutes with
    | error error => simp only [UpdateSlaPolicy.committed, made, Db.after_nil]
    | ok target => rw [overridesOf_update input made, if_neg fun same => other same.2]
  · simp only [Execution.committed, asked]
    rw [overridesOf_reset, if_neg fun same => other same.2]

/-- A call that is not rejected answers what the policy is shown as afterwards. -/
theorem answers_of_changes (changes : ChangesPolicyOf t p e) (fresh : e.ambient.freshIn db = true) :
    (∃ error, serve e db = (some (.error error), db)) ∨
      ∃ view, (serve e db).1 = some (.ok (.policy view)) ∧
        ∀ shows : Execution, shows.useCase = .getSlaPolicy t →
          (serve shows (serve e db).2).1 = some (.ok (.policy view)) := by
  rcases changes with ⟨input, asked, rfl, rfl⟩ | ⟨input, asked, rfl, rfl⟩
  · cases made : makeSlaTarget input.responseMinutes input.resolutionMinutes with
    | error error => exact .inl ⟨error, serve_updateSlaPolicy_rejected asked made⟩
    | ok target =>
        have served := serve_updateSlaPolicy asked fresh made
        refine .inr ⟨_, by rw [served], fun shows wanted => ?_⟩
        have overrides : (db.after (e.committed db)).overridesOf input.tenantId =
            fun q => if q = input.priority then some target else db.overridesOf input.tenantId q := by
          funext q
          simp only [Execution.committed, asked, overridesOf_update input made, true_and]
        rw [served, serve_getSlaPolicy wanted, overrides]
  · have served := serve_resetSlaPolicy asked fresh
    refine .inr ⟨_, by rw [served], fun shows wanted => ?_⟩
    have overrides : (db.after (e.committed db)).overridesOf input.tenantId = ResetSlaPolicy.remaining input db := by
      funext q
      simp only [Execution.committed, asked, overridesOf_reset, true_and, ResetSlaPolicy.remaining]
    rw [served, serve_getSlaPolicy wanted, overrides]

theorem callFaithful_of_changes (changes : ChangesPolicyOf t p e) (fresh : e.ambient.freshIn db = true) :
    CallFaithful t p db e where
  answers := answers_of_changes changes fresh
  resets input asked absent := by
    rcases changes with ⟨input', asked', _⟩ | ⟨input', asked', ofTenant, ofPriority⟩
    · cases asked.symm.trans asked'
    · cases asked.symm.trans asked'
      rw [serve_committed e fresh]
      simp only [Execution.committed, asked, ResetSlaPolicy.committed, ofTenant, ofPriority, absent, Db.after_nil]
  others q other := by
    refine ⟨?_, overridesOf_of_changes changes fresh other⟩
    cases called_of_changes changes fresh with
    | silent same => rw [same]
    | changed after trail minutes => rw [trail q, if_neg other]

end Calls

/-- The trail of a priority goes unbroken from the default of the product to the minutes in force. -/
structure TrailOf (t : TenantId) (p : TicketPriority) (db : Db) : Prop where
  unbroken : List.IsChain (fun earlier later => earlier.2 = later.1)
    ((some (DEFAULT_SLA_POLICY p), some (DEFAULT_SLA_POLICY p)) :: db.policyTrail t p)
  current : ((some (DEFAULT_SLA_POLICY p), some (DEFAULT_SLA_POLICY p)) :: db.policyTrail t p).getLast?.map Prod.snd =
    some (some (db.minutesOf t p))

/-- A change goes on where the trail ended. -/
theorem TrailOf.called {t : TenantId} {p q : TicketPriority} {db db' : Db} (before : TrailOf t q db)
    (called : PolicyCalled t p db db') : TrailOf t q db' := by
  cases called with
  | silent same => exact same ▸ before
  | changed after trail minutes =>
      by_cases same : q = p
      · subst same
        have trail' := trail q
        have minutes' := minutes q
        rw [if_pos rfl] at trail' minutes'
        obtain ⟨last, isLast, isCurrent⟩ := Option.map_eq_some_iff.mp before.current
        constructor
        · rw [trail', ← List.cons_append, List.isChain_append]
          refine ⟨before.unbroken, .singleton _, ?_⟩
          intro x isLast' y isFirst
          cases isLast.symm.trans isLast'
          cases isFirst
          exact isCurrent
        · rw [trail', minutes', ← List.cons_append, List.getLast?_append]
          rfl
      · have trail' := trail q
        have minutes' := minutes q
        rw [if_neg same] at trail' minutes'
        constructor
        · rw [trail']
          exact before.unbroken
        · rw [trail', minutes']
          exact before.current

/-- Along any updates and resets of one organisation, accepted or not, the audit entries of each priority lead
    from the default to what the policy is shown as, and every call answers that and leaves the rest alone. -/
theorem policyTrail_reconstructs {base db : Db} {t : TenantId} (unconfigured : ∀ p, base.policies.find? (t, p) = none)
    (unaudited : ∀ p, base.policyTrail t p = []) {history : List (Db × Execution)}
    (run : Run serially base history db) (calls : ∀ entry ∈ history, ∃ p, ChangesPolicyOf t p entry.2) :
    (∀ p, TrailOf t p db ∧ ∀ shows : Execution, shows.useCase = .getSlaPolicy t →
        ∃ view entry, (serve shows db).1 = some (.ok (.policy view)) ∧ targetFor p view = some entry ∧
          entry.toSlaTarget = db.minutesOf t p) ∧
      ∀ entry ∈ history, ∀ p, ChangesPolicyOf t p entry.2 → CallFaithful t p entry.1 entry.2 := by
  have trails (p : TicketPriority) : TrailOf t p db := by
    induction run with
    | start =>
        have unset : base.minutesOf t p = DEFAULT_SLA_POLICY p := by
          simp [Db.minutesOf, resolvePolicy, Db.overridesOf, unconfigured]
        constructor
        · rw [unaudited]
          exact .singleton _
        · rw [unaudited, unset]
          rfl
    | step run taken ih =>
        have before := ih fun entry member => calls entry (List.mem_append_left _ member)
        obtain ⟨q, changes⟩ := calls _ (List.mem_append_right _ (List.mem_singleton_self _))
        obtain ⟨fresh, rfl⟩ := serially_eq_some_iff.mp taken
        rw [← serve_committed _ fresh]
        exact before.called (called_of_changes changes fresh)
  refine ⟨fun p => ⟨trails p, ?_⟩, ?_⟩
  · intro shows wanted
    exact ⟨_, _, by rw [serve_getSlaPolicy wanted], targetFor_effectivePolicy _ p, rfl⟩
  · intro entry member p changes
    obtain ⟨_, _, _, _, taken, _, _⟩ := run.split member
    exact callFaithful_of_changes changes (serially_eq_some_iff.mp taken).1

section Example

/-- Two updates of one priority and a rejected one, a reset of it, a reset of nothing. -/
def policyYear : List Execution :=
  [exampleExecution 0 (.updateSlaPolicy ⟨⟨1⟩, ⟨9⟩, .HIGH, .finite 5, .finite 30⟩),
    exampleExecution 1 (.updateSlaPolicy ⟨⟨1⟩, ⟨9⟩, .HIGH, .finite 10, .finite 20⟩),
    exampleExecution 2 (.updateSlaPolicy ⟨⟨1⟩, ⟨9⟩, .HIGH, .finite 10, .finite 5⟩),
    exampleExecution 3 (.resetSlaPolicy ⟨⟨1⟩, ⟨9⟩, .HIGH⟩),
    exampleExecution 4 (.resetSlaPolicy ⟨⟨1⟩, ⟨9⟩, .HIGH⟩)]

theorem policyTrail_reconstructs_policyYear :
    ∃ history db, Run serially .empty history db ∧
      (db.policyTrail ⟨1⟩ .HIGH).map (fun change => (change.1.map (·.responseMinutes), change.2.map (·.responseMinutes)))
        = [(some 60, some 5), (some 5, some 10), (some 10, some 60)] ∧
      (∀ p, TrailOf ⟨1⟩ p db ∧ ∀ shows : Execution, shows.useCase = .getSlaPolicy ⟨1⟩ →
          ∃ view entry, (serve shows db).1 = some (.ok (.policy view)) ∧ targetFor p view = some entry ∧
            entry.toSlaTarget = db.minutesOf ⟨1⟩ p) ∧
        ∀ entry ∈ history, ∀ p, ChangesPolicyOf ⟨1⟩ p entry.2 → CallFaithful ⟨1⟩ p entry.1 entry.2 := by
  have possible : (play serially .empty policyYear).map (fun db => (db.policyTrail ⟨1⟩ .HIGH).map fun change =>
      (change.1.map (·.responseMinutes), change.2.map (·.responseMinutes))) =
      some [(some 60, some 5), (some 5, some 10), (some 10, some 60)] := by decide
  obtain ⟨db, played, trail⟩ := Option.map_eq_some_iff.mp possible
  refine ⟨_, db, play_run played, trail,
    policyTrail_reconstructs (fun p => by cases p <;> rfl) (fun p => by cases p <;> rfl) (play_run played) ?_⟩
  have each : ∀ e ∈ policyYear, ∃ p, ChangesPolicyOf ⟨1⟩ p e := by
    intro e member
    simp only [policyYear, List.mem_cons, List.not_mem_nil, or_false] at member
    rcases member with rfl | rfl | rfl | rfl | rfl
    · exact ⟨_, .inl ⟨_, rfl, rfl, rfl⟩⟩
    · exact ⟨_, .inl ⟨_, rfl, rfl, rfl⟩⟩
    · exact ⟨_, .inl ⟨_, rfl, rfl, rfl⟩⟩
    · exact ⟨_, .inr ⟨_, rfl, rfl, rfl⟩⟩
    · exact ⟨_, .inr ⟨_, rfl, rfl, rfl⟩⟩
  exact fun entry member => each entry.2 (mem_schedule member)

end Example

end Helpdesk
