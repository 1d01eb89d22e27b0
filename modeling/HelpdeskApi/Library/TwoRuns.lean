/-
Module: HelpdeskApi.Library.TwoRuns
Layer: Library
Purpose: Two runs of one program from related databases. Where every call the first run makes answers the
  same in both and leaves the databases related, the runs end the same way with related databases. What
  has to hold of the calls is a property of the first run alone (`Proc.Along`).
Trusted boundary: none
Main exports: Proc.Along, Proc.along_map, SameRun, Proc.run_same, Handler.transact_same
-/
import HelpdeskApi.Library.Handler

namespace Txn

variable {S : Signature} {α β : Type} {η : Handler S} {ctx : η.Ctx}

namespace Proc

/-- Every call a run makes satisfies `P` in the database it is made on. -/
def Along (η : Handler S) (ctx : η.Ctx) (P : S.Call → η.Db → Prop) : Proc S α → η.Db → Prop
  | .done _, _ => True
  | .call c next, db =>
      P c db ∧ ∀ reply writes, η.exec ctx c db = some (reply, writes) →
        (next reply).Along η ctx P (η.applyAll writes db)

variable {P : S.Call → η.Db → Prop}

@[simp] theorem along_done (a : α) (db : η.Db) : (Proc.done a : Proc S α).Along η ctx P db := trivial

theorem along_call (c : S.Call) (next : S.Reply c → Proc S α) (db : η.Db) :
    (Proc.call c next).Along η ctx P db ↔
      P c db ∧ ∀ reply writes, η.exec ctx c db = some (reply, writes) →
        (next reply).Along η ctx P (η.applyAll writes db) := Iff.rfl

/-- A value computed from the result of a program makes no calls of its own. -/
theorem along_map (f : α → β) (p : Proc S α) (db : η.Db) :
    (f <$> p).Along η ctx P db ↔ p.Along η ctx P db := by
  induction p generalizing db with
  | done a => exact Iff.rfl
  | call c next ih => simp only [map_call, along_call, ih]

end Proc

/-- Two runs end the same way: both fail, or both succeed with the same value and related databases. -/
def SameRun (R : η.Db → η.Db → Prop) : Option (α × η.Db) → Option (α × η.Db) → Prop
  | none, none => True
  | some (a, db₁), some (b, db₂) => a = b ∧ R db₁ db₂
  | _, _ => False

/-- Two runs of one program on related databases end the same way. -/
theorem Proc.run_same {R : η.Db → η.Db → Prop} {P : S.Call → η.Db → Prop}
    (answers : ∀ c db₁ db₂, R db₁ db₂ → P c db₁ → η.exec ctx c db₁ = η.exec ctx c db₂)
    (kept : ∀ c db₁ db₂ reply writes, R db₁ db₂ → P c db₁ → η.exec ctx c db₁ = some (reply, writes) →
      η.exec ctx c db₂ = some (reply, writes) → R (η.applyAll writes db₁) (η.applyAll writes db₂))
    (p : Proc S α) {db₁ db₂ : η.Db} (related : R db₁ db₂) (along : p.Along η ctx P db₁) :
    SameRun R (p.run η ctx db₁) (p.run η ctx db₂) := by
  induction p generalizing db₁ db₂ with
  | done a => exact ⟨rfl, related⟩
  | call c next ih =>
      obtain ⟨permitted, rest⟩ := along
      have same := answers c db₁ db₂ related permitted
      cases first : η.exec ctx c db₁ with
      | none =>
          have second : η.exec ctx c db₂ = none := same ▸ first
          simp only [run_call_failed first, run_call_failed second]
          trivial
      | some pair =>
          obtain ⟨reply, writes⟩ := pair
          have second : η.exec ctx c db₂ = some (reply, writes) := same ▸ first
          rw [run_call first, run_call second]
          exact ih reply (kept c db₁ db₂ reply writes related permitted first second) (rest _ _ first)

/-- Two transactions whose runs end the same way answer the same and leave related databases. -/
theorem Handler.transact_same {R : η.Db → η.Db → Prop} (commits : α → Bool) {p : Proc S α}
    {db₁ db₂ : η.Db} (related : R db₁ db₂) (same : SameRun R (p.run η ctx db₁) (p.run η ctx db₂)) :
    (η.transact ctx commits p db₁).1 = (η.transact ctx commits p db₂).1 ∧
      R (η.transact ctx commits p db₁).2 (η.transact ctx commits p db₂).2 := by
  unfold Handler.transact
  revert same
  cases p.run η ctx db₁ with
  | none =>
      cases p.run η ctx db₂ with
      | none => exact fun _ => ⟨rfl, related⟩
      | some pair => exact fun impossible => impossible.elim
  | some first =>
      obtain ⟨a, db₁'⟩ := first
      cases p.run η ctx db₂ with
      | none => exact fun impossible => impossible.elim
      | some second =>
          obtain ⟨b, db₂'⟩ := second
          rintro ⟨rfl, related'⟩
          refine ⟨rfl, ?_⟩
          by_cases commit : commits a = true
          · simpa [commit] using related'
          · simpa [commit] using related

end Txn
