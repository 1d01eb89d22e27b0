/-
Module: HelpdeskApi.Proofs.Notifications
Layer: Proofs
Purpose: The browsers are told what has happened, and nothing else. Whatever is published shows a fact that a stored
  message tells, to rooms of the organisation of the message; and where the job of a message has come to its end
  without failing for good, everything that shows its fact has been published.
Trusted boundary: none
Main exports: OutboxRow.Shows, Deliveries.ToldForJobs, told_what_happened
-/
import HelpdeskApi.Proofs.OwnMessages

namespace Helpdesk

open Txn Transition

/-- What is published shows what the message tells. -/
def OutboxRow.Shows (m : OutboxRow) (delivery : BroadcastTicketEvent.Delivery Value) : Prop :=
  ∃ (fact : TicketingEvent) (ticketId : TicketId) (tenantId : TenantId) (occurredAt : Instant),
    Carries m.job m.id (fact.integration ticketId tenantId occurredAt) ∧
      delivery ∈ views ticketId tenantId occurredAt fact

variable {delivery : BroadcastTicketEvent.Delivery Value} {messages : List (BroadcastTicketEvent.Delivery Value)}

/-- A view is for rooms of the organisation. -/
theorem audience_of_views {ticketId : TicketId} {tenantId : TenantId} {occurredAt : Instant} {fact : TicketingEvent}
    (shown : delivery ∈ views ticketId tenantId occurredAt fact) :
    delivery.audience.tenantId = uuidText tenantId.uuid := by
  cases fact with
  | statusChanged source target assigneeId =>
      simp only [views, List.mem_cons, List.not_mem_nil, or_false] at shown
      rcases shown with rfl | rfl <;> rfl
  | _ =>
      cases List.mem_singleton.mp shown
      rfl

theorem OutboxRow.Shows.audience {m : OutboxRow} (isShown : m.Shows delivery) :
    delivery.audience.tenantId = uuidText m.tenantId.uuid := by
  obtain ⟨fact, ticketId, tenantId, occurredAt, carries, shown⟩ := isShown
  have sameTenant : m.tenantId = tenantId := carries.tenantId.trans (by cases fact <;> rfl)
  rw [sameTenant]
  exact audience_of_views shown

namespace Worker

/-- What is published for a genuine message shows it. -/
theorem shows_of_tell {worker : Worker} {m : OutboxRow} (genuine : m.Genuine)
    (routed : worker.queue ∈ queuesFor m.eventName)
    (tells : worker.task m.job = .tell messages) (inside : delivery ∈ messages) :
    m.Shows delivery := by
  rcases worker.task_of_genuine genuine routed with
    ⟨useCase, runs⟩ | ignores | ⟨fact, ticketId, tenantId, occurredAt, carries, tells'⟩
  · cases tells.symm.trans runs
  · cases tells.symm.trans ignores
  · cases tells.symm.trans tells'
    exact ⟨fact, ticketId, tenantId, occurredAt, carries, inside⟩

end Worker

namespace Deliveries

/-- What the browsers were told was asked for by the job of a stored message. -/
def ToldForJobs (σ : Deliveries) : Prop :=
  ∀ delivery ∈ σ.told, ∃ worker id data messages, σ.Routed worker id data ∧ worker.task data = .tell messages ∧
    delivery ∈ messages

section Steps

variable {σ σ' : Deliveries} {a : DeliveryMove}

theorem of_told_carryOut {worker : Worker} {data : EventJobData} {attemptsMade : Nat} {attempt : Attempt}
    (told : delivery ∈ (σ.carryOut worker data attemptsMade attempt).told) :
    delivery ∈ σ.told ∨ ∃ messages, worker.task data = .tell messages ∧ delivery ∈ messages := by
  unfold carryOut at told
  split at told
  · rename_i messages tells
    split at told
    · exact (List.mem_append.mp told).imp_right fun now => ⟨messages, tells, now⟩
    · exact (List.mem_append.mp told).imp_right fun now => ⟨messages, tells, List.mem_of_mem_take now⟩
  · rw [toDeadLetter_told] at told
    exact .inl told
  · exact .inl told
  · exact .inl told

theorem toldForJobs_step (sound : σ.Sound) (told : σ.ToldForJobs) (taken : σ.step a = some σ') : σ'.ToldForJobs := by
  have goes := onwards_of_step taken
  have before (delivery) (inside : delivery ∈ σ.told) : ∃ worker id data messages,
      σ'.Routed worker id data ∧ worker.task data = .tell messages ∧ delivery ∈ messages := by
    obtain ⟨worker, id, data, messages, routed, tells, isOne⟩ := told delivery inside
    exact ⟨worker, id, data, messages, routed.onwards goes, tells, isOne⟩
  have carried {worker : Worker} {id : Uuid} {data : EventJobData} {attemptsMade : Nat} {attempt : Attempt}
      (routed : σ.Routed worker id data) {delivery}
      (inside : delivery ∈ (σ.carryOut worker data attemptsMade attempt).told) : ∃ worker id data messages,
        σ'.Routed worker id data ∧ worker.task data = .tell messages ∧ delivery ∈ messages := by
    rcases of_told_carryOut inside with old | ⟨messages, tells, isOne⟩
    · exact before delivery old
    · exact ⟨worker, id, data, messages, routed.onwards goes, tells, isOne⟩
  intro delivery inside
  cases step_stepped taken with
  | process known ends moved => exact carried (sound.jobs _ _ _ known).1 inside
  | linger stored routed => exact carried ⟨_, stored, routed, rfl⟩ inside
  | onFailed known failed =>
      rw [onFailed_told] at inside
      exact before delivery inside
  | backend _ | enqueue _ _ _ | run _ _ _ | take _ _ _ | decide _ => exact before delivery inside

end Steps

section Runs

variable {db₀ : Db} {jobs : List Execution} {history : List (Deliveries × DeliveryMove)} {σ : Deliveries}

theorem toldForJobs_of_run (run : Run step (start db₀ jobs) history σ) : σ.ToldForJobs := by
  induction run with
  | start => exact fun _ inside => (nomatch inside)
  | step run taken ih => exact toldForJobs_step (sound_of_run run) ih taken

/-- Where all messages are genuine to begin with, everything the browsers were told shows what a stored message tells,
    to rooms of its organisation. A message that was added for them is still with the queue, or has failed for good
    and is kept there, or everything that shows it has been published. -/
theorem told_what_happened (genuine : ∀ m ∈ db₀.outbox.rows, m.Genuine) (run : Run step (start db₀ jobs) history σ) :
    (∀ delivery ∈ σ.told, ∃ m ∈ σ.backend.db.outbox.rows, m.Shows delivery ∧
      delivery.audience.tenantId = uuidText m.tenantId.uuid) ∧
    ∀ before id attempts, (before, .enqueue .realtime id attempts) ∈ history →
      ∃ m, σ.backend.db.outbox.find? id = some m ∧
        (σ.Standing .realtime id m.job ∨ ∀ delivery, m.Shows delivery → delivery ∈ σ.told) := by
  have genuineNow := genuine_of_run genuine run
  refine ⟨fun delivery told => ?_, fun before id attempts added => ?_⟩
  · obtain ⟨worker, id, data, messages, ⟨m, stored, listens, rfl⟩, tells, inside⟩ :=
      toldForJobs_of_run run delivery told
    have member := Relational.Table.mem_of_find? stored
    have isShown := worker.shows_of_tell (genuineNow m member) listens tells inside
    exact ⟨m, member, isShown, isShown.audience⟩
  · obtain ⟨data, ⟨m, stored, listens, rfl⟩, kept⟩ := accounted_of_run run added
    refine ⟨m, stored, kept.imp_right fun handled delivery isShown => ?_⟩
    obtain ⟨fact, ticketId, tenantId, occurredAt, carries, shown⟩ := isShown
    have tells : Worker.realtime.task m.job = .tell (views ticketId tenantId occurredAt fact) := by
      simp [Worker.task, process_of_carries fact carries, RealtimeProcessor.Result.task]
    cases handled with
    | run found runs committed => cases tells.symm.trans runs
    | told tells' told =>
        cases tells.symm.trans tells'
        exact told delivery shown
    | ignored ignores => cases tells.symm.trans ignores
    | discarded discards posted => cases tells.symm.trans discards

end Runs

section Example

/-- A ticket is created, and the browsers are told. -/
def noticeMoves : List DeliveryMove :=
  [.backend (.call 0 0), .backend (.call 0 0), .backend (.call 0 0), .backend (.call 0 0), .backend (.finish 0),
    .enqueue .realtime 102 5, .take .realtime 102 exampleUuid (exampleAmbient 3), .process .realtime 102 answering]

end Example

theorem told_what_happened_example : ∃ history σ delivery m, Run step (start .empty [creation]) history σ ∧
    σ.told = [delivery] ∧ m ∈ σ.backend.db.outbox.rows ∧ m.Shows delivery := by
  have possible : (play step (start .empty [creation]) noticeMoves).map (fun σ => σ.told.length) = some 1 := by decide
  obtain ⟨σ, played, once⟩ := Option.map_eq_some_iff.mp possible
  obtain ⟨delivery, told⟩ := List.length_eq_one_iff.mp once
  have run := play_run played
  have nothing : ∀ m ∈ Db.empty.outbox.rows, m.Genuine := fun _ stored => (nomatch stored)
  have inside : delivery ∈ σ.told := by rw [told]; exact List.mem_singleton_self delivery
  obtain ⟨m, stored, isShown, _⟩ := (told_what_happened nothing run).1 delivery inside
  exact ⟨_, σ, delivery, m, run, told, stored, isShown⟩

end Deliveries

end Helpdesk
