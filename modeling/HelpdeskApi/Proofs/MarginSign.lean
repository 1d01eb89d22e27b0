/-
Module: HelpdeskApi.Proofs.MarginSign
Layer: Proofs
Purpose: Whether the margin of a timer tells a missed deadline from a kept one. It is rounded to the nearest
  minute, so it says nothing about the first half minute after the deadline and is right everywhere else.
Trusted boundary: none
Main exports: SlaTimer.referencia, SlaTimer.JustPast, MarginSign, marginSign_iff
-/
import HelpdeskApi.Domain.Sla

namespace Helpdesk

/-- `describeSlaTimer` of a whole timer. -/
def SlaTimer.view (t : SlaTimer) (now : Instant) : SlaTimerView :=
  describeSlaTimer t.kind t.dueAt t.stoppedAt t.breachedAt now

/-- The instant a timer is measured at. -/
def SlaTimer.referencia (t : SlaTimer) (now : Instant) : Instant :=
  (t.breachedAt.or t.stoppedAt).getD now

/-- The timer is measured at an instant of the first half minute after its deadline. -/
def SlaTimer.JustPast (t : SlaTimer) (now : Instant) : Prop :=
  t.dueAt < t.referencia now ∧ t.referencia now ≤ t.dueAt + 30000

/-- The margin is negative exactly when the deadline was missed, in the view and on the entity. -/
def MarginSign (t : SlaTimer) (now : Instant) : Prop :=
  ((t.view now).remainingMinutes < 0 ↔ t.dueAt < t.referencia now) ∧
    (t.remainingMinutesAt (t.referencia now) < 0 ↔ t.dueAt < t.referencia now)

/-- Half a minute is what rounding costs. -/
theorem margin_neg_iff (due instant : Int) :
    (roundMinutes (due - instant) < 0 ↔ due < instant) ↔ ¬(due < instant ∧ instant ≤ due + 30000) := by
  rw [roundMinutes_neg_iff]
  constructor
  · intro sign justPast
    have late := sign.mpr justPast.1
    omega
  · intro notJustPast
    constructor
    · intro late
      omega
    · intro past
      by_contra early
      exact notJustPast ⟨past, by omega⟩

section Margin

variable (t : SlaTimer) (now : Instant)

/-- The view and the entity show one margin. -/
theorem remainingMinutes_view :
    (t.view now).remainingMinutes = t.remainingMinutesAt (t.referencia now) := rfl

/-- The margin of a timer has the right sign unless the timer is measured just past its deadline. -/
theorem marginSign_iff : MarginSign t now ↔ ¬t.JustPast now := by
  rw [MarginSign, remainingMinutes_view, and_self]
  exact margin_neg_iff t.dueAt (t.referencia now)

end Margin

/-- A timer of one hour that a sweep breaches ten seconds after its deadline. -/
def breachedTimer : SlaTimer where
  id := ⟨1⟩
  tenantId := ⟨1⟩
  ticketId := ⟨100⟩
  kind := .RESPONSE
  startedAt := 0
  dueAt := 3600000
  stoppedAt := none
  breachedAt := some 3610000

/-- It is shown without a margin, but not with a negative one. -/
theorem marginSign_breached : (breachedTimer.view 7200000).remainingMinutes = 0 ∧
    breachedTimer.dueAt < breachedTimer.referencia 7200000 ∧ ¬MarginSign breachedTimer 7200000 := by
  refine ⟨by decide, by decide, ?_⟩
  intro sign
  have negative := sign.1.mpr (by decide)
  exact absurd negative (by decide)

end Helpdesk
