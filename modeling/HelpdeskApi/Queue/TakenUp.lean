/-
Module: HelpdeskApi.Queue.TakenUp
Layer: Queue
Purpose: What the deliveries to `SlaProcessor` have done so far, for all tickets at once and whatever else
  goes on. `Handled` relates the marks and the timers to the jobs that were delivered: a timer is stopped
  only if a message it waits for was first delivered after its ticket's, and then it is not running.
Trusted boundary: none
Main exports: EventJobData.Creates, EventJobData.Answers, TakenUp, Handled, Handled.of_request,
  Handled.of_started, Handled.of_stopped, Handled.of_passed, Handled.of_marked
-/
import HelpdeskApi.Queue.SlaSystem
import HelpdeskApi.Queue.SlaFacts
import HelpdeskApi.Queue.RequestFacts

namespace Helpdesk

open Relational Transition

namespace EventJobData

/-- The message about a new ticket. -/
def Creates (data : EventJobData) (ticketId : TicketId) : Prop :=
  data.eventName = "ticket.created" ∧ data.aggregateId = ticketId.uuid

/-- A message that a timer of the ticket waits for. -/
def Answers (data : EventJobData) (ticketId : TicketId) (kind : SlaKind) : Prop :=
  data.fulfils kind = true ∧ data.aggregateId = ticketId.uuid

instance (data : EventJobData) (ticketId : TicketId) (kind : SlaKind) : Decidable (data.Answers ticketId kind) :=
  inferInstanceAs (Decidable (_ ∧ _))

end EventJobData

/-- Some message the ticket's timer of a kind waits for is first delivered after the message about the new
    ticket. -/
def TakenUp (delivered : List EventJobData) (ticketId : TicketId) (kind : SlaKind) : Prop :=
  ∃ earlier job, earlier ++ [job] <+: delivered ∧ job.Answers ticketId kind ∧ job ∉ earlier ∧
    ∃ creation ∈ earlier, creation.Creates ticketId

section Deliveries

variable {delivered : List EventJobData} {job : EventJobData} {ticketId : TicketId} {kind : SlaKind}

theorem exists_mem_snoc {P : EventJobData → Prop} :
    (∃ job' ∈ delivered ++ [job], P job') ↔ (∃ job' ∈ delivered, P job') ∨ P job := by
  simp [or_and_right, exists_or]

theorem takenUp_snoc : TakenUp (delivered ++ [job]) ticketId kind ↔
    TakenUp delivered ticketId kind ∨
      (job.Answers ticketId kind ∧ job ∉ delivered ∧ ∃ creation ∈ delivered, creation.Creates ticketId) :=
  exists_prefix_concat

/-- A job that answers nothing for the first time changes nothing. -/
theorem takenUp_snoc_of_old (old : job.fulfils kind = true → job ∈ delivered) :
    TakenUp (delivered ++ [job]) ticketId kind ↔ TakenUp delivered ticketId kind := by
  rw [takenUp_snoc, or_iff_left]
  intro last
  obtain ⟨answers, first, _⟩ := last
  exact first (old answers.1)

theorem TakenUp.mono {later : List EventJobData} (takenUp : TakenUp delivered ticketId kind)
    (grows : delivered <+: later) : TakenUp later ticketId kind := by
  obtain ⟨earlier, job, isPrefix, answers⟩ := takenUp
  exact ⟨earlier, job, isPrefix.trans grows, answers⟩

end Deliveries

/-- How the messages, the marks and the timers stand after these deliveries. -/
structure Handled (db : Db) (delivered : List EventJobData) : Prop where
  addressed : ∀ m ∈ db.outbox.rows, ∃ t, db.tickets.find? t.id = some t ∧ m.aggregateId = t.id.uuid ∧
    m.tenantId = t.tenantId
  starts : ∀ m ∈ db.outbox.rows, m.eventName = "ticket.created" →
    ∃ input, SlaProcessor.despachar m.job = .run (.startSlaTimers input)
  sent : ∀ job ∈ delivered, ∃ m ∈ db.outbox.rows, m.job = job
  stopMarks : ∀ kind u, (db.processed.find? (stopSlaConsumer kind, u)).isSome = true ↔
    ∃ job ∈ delivered, job.eventId = u ∧ job.fulfils kind = true
  startMarks : ∀ u, (db.processed.find? (START_SLA_CONSUMER, u)).isSome = true →
    ∃ job ∈ delivered, job.eventId = u ∧ job.eventName = "ticket.created"
  tenants : ∀ r ∈ db.timers.rows, ∃ t, db.tickets.find? r.ticketId = some t ∧ r.tenantId = t.tenantId
  created : ∀ r ∈ db.timers.rows, ∃ job ∈ delivered, job.Creates r.ticketId
  both : ∀ ticketId, ∀ job ∈ delivered, job.Creates ticketId →
    ∀ kind, ∃ r ∈ db.timers.rows, r.ticketId = ticketId ∧ r.kind = kind
  stopped : ∀ r ∈ db.timers.rows, r.stoppedAt ≠ none → TakenUp delivered r.ticketId r.kind
  ended : ∀ r ∈ db.timers.rows, TakenUp delivered r.ticketId r.kind → r.isRunning = false

namespace Handled

variable {db db' : Db} {delivered : List EventJobData}

/-- Jobs with one event id are one job. -/
theorem eq_of_eventId (handled : Handled db delivered) {m : OutboxRow} (stored : m ∈ db.outbox.rows)
    {job : EventJobData} (member : job ∈ delivered) (sameId : job.eventId = m.id) : job = m.job := by
  obtain ⟨m', stored', rfl⟩ := handled.sent job member
  rw [Table.eq_of_key stored' stored sameId]

/-- A request. -/
theorem of_request (handled : Handled db delivered) {e : Execution} (isRequest : e.useCase.isRequest = true)
    (fresh : e.ambient.freshIn db = true) : Handled (db.after (e.committed db)) delivered := by
  have timers := Execution.timers_of_request isRequest db
  have processed := Execution.processed_of_request isRequest db
  have recorded := Execution.recorded_of_request isRequest db
  have described := Execution.described_of_request isRequest fresh
  constructor
  · intro m inside
    rcases described m inside with old | ⟨t, found, describes⟩
    · obtain ⟨t, found, ofTicket, ofTenant⟩ := handled.addressed m old
      obtain ⟨t', found', _, sameTenant⟩ := keepsPlaces_after (e.committed db) db t.id t found
      have sameId : t'.id = t.id := Table.key_of_find? found'
      exact ⟨t', sameId ▸ found', sameId ▸ ofTicket, ofTenant.trans sameTenant.symm⟩
    · exact ⟨t, found, describes.aggregateId, describes.tenantId⟩
  · intro m inside
    rcases described m inside with old | ⟨t, _, describes⟩
    · exact handled.starts m old
    · exact describes.starts
  · intro job member
    obtain ⟨m, stored, isJob⟩ := handled.sent job member
    exact ⟨m, recorded.messagesKept m stored, isJob⟩
  · rw [processed]
    exact handled.stopMarks
  · rw [processed]
    exact handled.startMarks
  · rw [timers]
    intro r stored
    obtain ⟨t, found, ofTenant⟩ := handled.tenants r stored
    obtain ⟨t', found', _, sameTenant⟩ := keepsPlaces_after (e.committed db) db r.ticketId t found
    exact ⟨t', found', ofTenant.trans sameTenant.symm⟩
  · rw [timers]
    exact handled.created
  · rw [timers]
    exact handled.both
  · rw [timers]
    exact handled.stopped
  · rw [timers]
    exact handled.ended

/-- One job more that has been sent. -/
theorem sent_snoc (handled : Handled db delivered) {m : OutboxRow} (stored : m ∈ db.outbox.rows) :
    ∀ job ∈ delivered ++ [m.job], ∃ m' ∈ db.outbox.rows, m'.job = job := by
  intro job member
  rcases List.mem_append.mp member with earlier | last
  · exact handled.sent job earlier
  · exact ⟨m, stored, (List.mem_singleton.mp last).symm⟩

/-- One job more, which answers nothing anew. -/
theorem stopMarks_snoc (handled : Handled db delivered) {job : EventJobData}
    (old : ∀ kind, job.fulfils kind = true → job ∈ delivered) (kind : SlaKind) (u : Uuid) :
    (db.processed.find? (stopSlaConsumer kind, u)).isSome = true ↔
      ∃ job' ∈ delivered ++ [job], job'.eventId = u ∧ job'.fulfils kind = true := by
  rw [handled.stopMarks, exists_mem_snoc, or_iff_left_of_imp]
  intro last
  exact ⟨job, old kind last.2, last⟩

/-- A delivery that changes nothing: it answers nothing anew, and if it is about a new ticket, then the ticket
    has its timers. -/
theorem repeated (handled : Handled db delivered) {m : OutboxRow} (stored : m ∈ db.outbox.rows)
    (old : ∀ kind, m.job.fulfils kind = true → m.job ∈ delivered)
    (timed : ∀ ticketId, m.job.Creates ticketId → ∀ kind, ∃ r ∈ db.timers.rows, r.ticketId = ticketId ∧ r.kind = kind) :
    Handled db (delivered ++ [m.job]) where
  addressed := handled.addressed
  starts := handled.starts
  sent := handled.sent_snoc stored
  stopMarks := handled.stopMarks_snoc old
  startMarks u marked := exists_mem_snoc.mpr (.inl (handled.startMarks u marked))
  tenants := handled.tenants
  created r timer := exists_mem_snoc.mpr (.inl (handled.created r timer))
  both ticketId job member creates := by
    rcases List.mem_append.mp member with earlier | last
    · exact handled.both ticketId job earlier creates
    · cases List.mem_singleton.mp last
      exact timed ticketId creates
  stopped r timer hasStopped := (takenUp_snoc_of_old (old r.kind)).mpr (handled.stopped r timer hasStopped)
  ended r timer takenUp := handled.ended r timer ((takenUp_snoc_of_old (old r.kind)).mp takenUp)

section Starts

variable {m : OutboxRow} {ambient : Ambient} {input : StartSlaTimersInput}

/-- The message about a new ticket creates the ticket whose timers it starts, and no other. -/
theorem creates_iff (dispatched : SlaProcessor.despachar m.job = .run (.startSlaTimers input))
    (ticketId : TicketId) : m.job.Creates ticketId ↔ ticketId = input.ticketId := by
  obtain ⟨_, _, isTicket, _⟩ := SlaProcessor.input_of_start dispatched
  rw [isTicket]
  constructor
  · intro creates
    exact congrArg TicketId.mk creates.2.symm
  · rintro rfl
    exact ⟨SlaProcessor.eventName_of_start dispatched, rfl⟩

/-- Timers are started for a ticket that has none, by a message that has not been processed. -/
theorem started_vacant (handled : Handled db delivered) (stored : m ∈ db.outbox.rows)
    (fresh : ambient.freshIn db = true)
    (dispatched : SlaProcessor.despachar m.job = .run (.startSlaTimers input))
    (unclaimed : db.processed.find? (START_SLA_CONSUMER, input.eventId) = none)
    (vacant : ∀ r ∈ db.timers.rows, r.ticketId ≠ input.ticketId) :
    Handled (db.after (StartSlaTimers.committed input ambient db)) (delivered ++ [m.job]) := by
  have answersNone (kind : SlaKind) : m.job.fulfils kind = true → m.job ∈ delivered := by
    simp [SlaSystem.fulfils_of_started kind dispatched]
  obtain ⟨isEvent, isTenant, isTicket, _⟩ := SlaProcessor.input_of_start dispatched
  have creates : m.job.Creates input.ticketId := (creates_iff dispatched _).mpr rfl
  have uncreated : ∀ job ∈ delivered, ¬ job.Creates input.ticketId := by
    intro job member created
    obtain ⟨r, timer, sameTicket, _⟩ := handled.both input.ticketId job member created .RESPONSE
    exact vacant r timer sameTicket
  obtain ⟨_, occupied⟩ | ⟨_, added⟩ := StartSlaTimers.timers_committed input fresh
  · obtain ⟨r, timer, sameTicket⟩ := occupied unclaimed
    exact absurd sameTicket (vacant r timer)
  have members := StartSlaTimers.mem_timers_of_added added
  have outbox := (outbox_of_start db input ambient).1
  have tickets := tickets_of_start db input ambient
  have marks : ∀ k, ((db.after (StartSlaTimers.committed input ambient db)).processed.find? k).isSome = true ↔
      (db.processed.find? k).isSome = true ∨ k = (START_SLA_CONSUMER, input.eventId) :=
    StartSlaTimers.marked_of_vacant unclaimed vacant
  constructor
  · rw [outbox, tickets]
    exact handled.addressed
  · rw [outbox]
    exact handled.starts
  · rw [outbox]
    exact handled.sent_snoc stored
  · intro kind u
    have other : (stopSlaConsumer kind, u) ≠ (START_SLA_CONSUMER, input.eventId) := fun same =>
      stopSlaConsumer_ne_start kind (congrArg Prod.fst same)
    rw [marks, or_iff_left other]
    exact handled.stopMarks_snoc answersNone kind u
  · intro u marked
    apply exists_mem_snoc.mpr
    rcases (marks _).mp marked with old | new
    · exact .inl (handled.startMarks u old)
    · exact .inr ⟨isEvent.symm.trans (congrArg Prod.snd new).symm, creates.1⟩
  · rw [tickets]
    intro r member
    rcases (members r).mp member with old | ⟨kind, rfl⟩
    · exact handled.tenants r old
    · obtain ⟨t, found, ofTicket, ofTenant⟩ := handled.addressed m stored
      have sameTicket : t.id = input.ticketId := isTicket.trans (congrArg TicketId.mk ofTicket) |>.symm
      have ofTimer : db.tickets.find? input.ticketId = some t := by
        rw [← sameTicket]
        exact found
      exact ⟨t, ofTimer, isTenant.trans ofTenant⟩
  · intro r member
    apply exists_mem_snoc.mpr
    rcases (members r).mp member with old | ⟨kind, rfl⟩
    · exact .inl (handled.created r old)
    · exact .inr creates
  · intro ticketId job member created kind
    rcases List.mem_append.mp member with earlier | last
    · obtain ⟨r, timer, reads⟩ := handled.both ticketId job earlier created kind
      exact ⟨r, (members r).mpr (.inl timer), reads⟩
    · cases List.mem_singleton.mp last
      exact ⟨_, (members _).mpr (.inr ⟨kind, rfl⟩), ((creates_iff dispatched _).mp created).symm, rfl⟩
  · intro r member hasStopped
    rcases (members r).mp member with old | ⟨kind, rfl⟩
    · exact (takenUp_snoc_of_old (answersNone r.kind)).mpr (handled.stopped r old hasStopped)
    · exact absurd rfl hasStopped
  · intro r member takenUp
    rw [takenUp_snoc_of_old (answersNone r.kind)] at takenUp
    rcases (members r).mp member with old | ⟨kind, rfl⟩
    · exact handled.ended r old takenUp
    · obtain ⟨earlier, job, isPrefix, _, _, creation, inside, created⟩ := takenUp
      exact absurd created (uncreated creation (isPrefix.subset (List.mem_append_left _ inside)))

theorem of_started (handled : Handled db delivered) (stored : m ∈ db.outbox.rows) (fresh : ambient.freshIn db = true)
    (dispatched : SlaProcessor.despachar m.job = .run (.startSlaTimers input)) :
    Handled (db.after (StartSlaTimers.committed input ambient db)) (delivered ++ [m.job]) := by
  have answersNone (kind : SlaKind) : m.job.fulfils kind = true → m.job ∈ delivered := by
    simp [SlaSystem.fulfils_of_started kind dispatched]
  cases claimed : db.processed.find? (START_SLA_CONSUMER, input.eventId) with
  | some row =>
      rw [StartSlaTimers.committed_of_claimed claimed]
      apply handled.repeated stored answersNone
      intro ticketId creates kind
      obtain ⟨job, member, sameId, _⟩ := handled.startMarks input.eventId (by rw [claimed]; rfl)
      have isJob := handled.eq_of_eventId stored member
        (sameId.trans (SlaProcessor.input_of_start dispatched).1)
      exact handled.both ticketId m.job (isJob ▸ member) creates kind
  | none =>
      by_cases occupied : ∃ r ∈ db.timers.rows, r.ticketId = input.ticketId
      · obtain ⟨r, timer, sameTicket⟩ := occupied
        rw [StartSlaTimers.committed_of_occupied timer sameTicket]
        apply handled.repeated stored answersNone
        intro ticketId creates kind
        obtain ⟨job, member, created⟩ := handled.created r timer
        rw [sameTicket, ← (creates_iff dispatched _).mp creates] at created
        exact handled.both ticketId job member created kind
      · apply handled.started_vacant stored fresh dispatched claimed
        intro r timer sameTicket
        exact occupied ⟨r, timer, sameTicket⟩

end Starts

section Stops

variable {m : OutboxRow} {kind : SlaKind}

/-- A timer that is still running is one that a message for it stops. -/
theorem ending_of_running (handled : Handled db delivered) (stored : m ∈ db.outbox.rows)
    (unclaimed : db.processed.find? (stopSlaConsumer kind, m.id) = none) {r : SlaTimer} (timer : r ∈ db.timers.rows)
    (running : r.isRunning = true) (sameTicket : r.ticketId = ⟨m.aggregateId⟩) (sameKind : r.kind = kind) :
    ∃ r', StopSlaTimer.ending (SlaProcessor.stopInput m.job kind) db = some r' ∧ r'.ticketId = r.ticketId ∧
      r'.kind = r.kind := by
  obtain ⟨t, found, ofTicket, ofTenant⟩ := handled.addressed m stored
  have ofId : t.id = ⟨m.aggregateId⟩ := congrArg TicketId.mk ofTicket.symm
  obtain ⟨t', found', sameTenant⟩ := handled.tenants r timer
  rw [sameTicket, ← ofId] at found'
  cases found.symm.trans found'
  have ofTimer : r.tenantId = m.tenantId := sameTenant.trans ofTenant.symm
  cases ends : StopSlaTimer.ending (SlaProcessor.stopInput m.job kind) db with
  | none =>
      have idle : StopSlaTimer.running (SlaProcessor.stopInput m.job kind) db = none := by
        simpa [StopSlaTimer.ending, SlaProcessor.stopInput, OutboxRow.job, unclaimed] using ends
      have none := List.find?_eq_none.mp idle r timer
      simp [SlaProcessor.stopInput, OutboxRow.job, ofTimer, sameTicket, sameKind, running] at none
  | some r' =>
      obtain ⟨_, _, ofTicket', ofKind', _⟩ := StopSlaTimer.running_spec (StopSlaTimer.ending_spec ends).2
      exact ⟨r', rfl, ofTicket'.trans sameTicket.symm, ofKind'.trans sameKind.symm⟩

/-- A message that stops timers of one kind creates no ticket. -/
theorem not_creates_of_stopped
    (dispatched : SlaProcessor.despachar m.job = .run (.stopSlaTimer (SlaProcessor.stopInput m.job kind)))
    (ticketId : TicketId) : ¬m.job.Creates ticketId := by
  intro creates
  have fulfils : m.job.fulfils kind = true := (SlaProcessor.despachar_stop_iff _ _).mp dispatched
  cases kind <;> simp [EventJobData.fulfils, creates.1] at fulfils

/-- A message is processed for the first time that stops a timer, if it finds one. -/
theorem stopped_unclaimed (handled : Handled db delivered)
    (unique : ∀ r ∈ db.timers.rows, ∀ r' ∈ db.timers.rows, r.ticketId = r'.ticketId → r.kind = r'.kind → r = r')
    (stored : m ∈ db.outbox.rows)
    (dispatched : SlaProcessor.despachar m.job = .run (.stopSlaTimer (SlaProcessor.stopInput m.job kind)))
    (unclaimed : db.processed.find? (stopSlaConsumer kind, m.id) = none) :
    Handled (db.after (StopSlaTimer.committed (SlaProcessor.stopInput m.job kind) db)) (delivered ++ [m.job]) := by
  have fulfils : m.job.fulfils kind = true := (SlaProcessor.despachar_stop_iff _ _).mp dispatched
  have first : m.job ∉ delivered := by
    intro member
    have marked := (handled.stopMarks kind m.id).mpr ⟨m.job, member, rfl, fulfils⟩
    simp [unclaimed] at marked
  have outbox := (outbox_of_stop db (SlaProcessor.stopInput m.job kind)).1
  have tickets := tickets_of_stop db (SlaProcessor.stopInput m.job kind)
  constructor
  · rw [outbox, tickets]
    exact handled.addressed
  · rw [outbox]
    exact handled.starts
  · rw [outbox]
    exact handled.sent_snoc stored
  · intro other u
    rw [StopSlaTimer.marked_committed, handled.stopMarks, exists_mem_snoc]
    refine or_congr_right ⟨fun same => ⟨(congrArg Prod.snd same).symm, ?_⟩, fun last => ?_⟩
    · rw [stopSlaConsumer_inj (congrArg Prod.fst same)]
      exact fulfils
    · cases SlaSystem.kind_of_stopped dispatched last.2
      rw [← last.1]
      rfl
  · intro u marked
    have other : (START_SLA_CONSUMER, u) ≠
        (stopSlaConsumer (SlaProcessor.stopInput m.job kind).kind, (SlaProcessor.stopInput m.job kind).eventId) :=
      fun same => stopSlaConsumer_ne_start kind (congrArg Prod.fst same).symm
    rw [StopSlaTimer.marked_committed, or_iff_left other] at marked
    exact exists_mem_snoc.mpr (.inl (handled.startMarks u marked))
  · rw [tickets]
    intro r member
    rcases StopSlaTimer.mem_timers_committed member with ⟨old, _⟩ | ⟨r', old, _, rfl⟩
    · exact handled.tenants r old
    · exact handled.tenants r' old
  · intro r member
    refine exists_mem_snoc.mpr (.inl ?_)
    rcases StopSlaTimer.mem_timers_committed member with ⟨old, _⟩ | ⟨r', old, _, rfl⟩
    · exact handled.created r old
    · exact handled.created r' old
  · intro ticketId job member creates other
    rcases List.mem_append.mp member with earlier | last
    · obtain ⟨r, timer, sameTicket, sameKind⟩ := handled.both ticketId job earlier creates other
      obtain ⟨r', timer', ticket', kind'⟩ := StopSlaTimer.timer_kept timer
      exact ⟨r', timer', ticket'.trans sameTicket, kind'.trans sameKind⟩
    · cases List.mem_singleton.mp last
      exact absurd creates (not_creates_of_stopped dispatched ticketId)
  · intro r member hasStopped
    rcases StopSlaTimer.mem_timers_committed member with ⟨old, _⟩ | ⟨r', old, ends, rfl⟩
    · exact (handled.stopped r old hasStopped).mono (List.prefix_append _ _)
    · obtain ⟨_, _, ofTicket', ofKind', _⟩ := StopSlaTimer.running_spec (StopSlaTimer.ending_spec ends).2
      refine takenUp_snoc.mpr (.inr ⟨⟨?_, ?_⟩, first, handled.created r' old⟩)
      · exact ofKind' ▸ fulfils
      · exact congrArg TicketId.uuid ofTicket'.symm
  · intro r member now
    rcases StopSlaTimer.mem_timers_committed member with ⟨old, other⟩ | ⟨r', old, ends, rfl⟩
    · rcases takenUp_snoc.mp now with before | ⟨answers, _, _⟩
      · exact handled.ended r old before
      · -- this very message would have stopped the timer
        by_contra running
        obtain ⟨r', ends, ofTicket', ofKind'⟩ := handled.ending_of_running stored unclaimed old
          (by simpa using running) (congrArg TicketId.mk answers.2.symm)
          (SlaSystem.kind_of_stopped dispatched answers.1)
        have old' := (StopSlaTimer.running_spec (StopSlaTimer.ending_spec ends).2).1
        exact other r' ends (congrArg SlaTimer.id (unique r old r' old' ofTicket'.symm ofKind'.symm))
    · simp [SlaTimer.isRunning]

theorem of_stopped (handled : Handled db delivered)
    (unique : ∀ r ∈ db.timers.rows, ∀ r' ∈ db.timers.rows, r.ticketId = r'.ticketId → r.kind = r'.kind → r = r')
    (stored : m ∈ db.outbox.rows)
    (dispatched : SlaProcessor.despachar m.job = .run (.stopSlaTimer (SlaProcessor.stopInput m.job kind))) :
    Handled (db.after (StopSlaTimer.committed (SlaProcessor.stopInput m.job kind) db)) (delivered ++ [m.job]) := by
  cases claimed : db.processed.find? (stopSlaConsumer kind, m.id) with
  | some row =>
      have idle : StopSlaTimer.committed (SlaProcessor.stopInput m.job kind) db = [] := by
        simp only [StopSlaTimer.committed, SlaProcessor.stopInput, OutboxRow.job, claimed]
      rw [idle]
      refine handled.repeated stored ?_ fun ticketId creates =>
        absurd creates (not_creates_of_stopped dispatched ticketId)
      intro kind' fulfils'
      obtain ⟨job, member, sameId, _⟩ := (handled.stopMarks kind m.id).mp (by rw [claimed]; rfl)
      exact handled.eq_of_eventId stored member sameId ▸ member
  | none => exact handled.stopped_unclaimed unique stored dispatched claimed

end Stops

/-- A message the worker makes nothing of. -/
theorem of_passed (handled : Handled db delivered) {m : OutboxRow} (stored : m ∈ db.outbox.rows)
    (idle : ∀ useCase, SlaProcessor.despachar m.job ≠ .run useCase) : Handled db (delivered ++ [m.job]) := by
  apply handled.repeated stored
  · intro kind fulfils
    exact absurd ((SlaProcessor.despachar_stop_iff _ _).mpr fulfils) (idle _)
  · intro ticketId creates
    obtain ⟨input, runs⟩ := handled.starts m stored creates.1
    exact absurd runs (idle _)

/-- A sweep that goes on to its next timer. -/
theorem of_marked (handled : Handled db delivered) (input : MarkSlaBreachedInput) (ambient : Ambient)
    (requestId : Option String) :
    Handled (db.after (MarkSlaBreached.committed input ambient requestId db)) delivered := by
  cases found : MarkSlaBreached.breaching input ambient db with
  | none =>
      rw [MarkSlaBreached.committed_of_idle found]
      exact handled
  | some pair =>
      obtain ⟨timer, row⟩ := pair
      have replaced := MarkSlaBreached.timers_of_breaching requestId found
      obtain ⟨stored, _, _, _, ticket⟩ := MarkSlaBreached.breaching_spec found
      have located := (Db.ticketOf_eq_some_iff.mp ticket).1
      have sameId : row.id = timer.ticketId := Table.key_of_find? located
      simp only [MarkSlaBreached.committed, found] at replaced ⊢
      constructor
      · intro m inside
        rcases Table.mem_of_mem_insert inside with old | rfl
        · exact handled.addressed m old
        · exact ⟨row, sameId ▸ located, rfl, rfl⟩
      · intro m inside isCreated
        rcases Table.mem_of_mem_insert inside with old | rfl
        · exact handled.starts m old isCreated
        · simp [MarkSlaBreached.event, outboxRow, OutboxRecord.row, slaBreached, ticketEvent] at isCreated
      · intro job member
        obtain ⟨m, sent, isJob⟩ := handled.sent job member
        exact ⟨m, Table.mem_insert_of_mem _ sent, isJob⟩
      · exact handled.stopMarks
      · exact handled.startMarks
      · intro r member
        rcases (replaced r).mp member with ⟨old, _⟩ | rfl
        · exact handled.tenants r old
        · exact handled.tenants timer stored
      · intro r member
        rcases (replaced r).mp member with ⟨old, _⟩ | rfl
        · exact handled.created r old
        · exact handled.created timer stored
      · intro ticketId job member creates kind
        obtain ⟨r, old, sameTicket, sameKind⟩ := handled.both ticketId job member creates kind
        by_cases same : r.id = timer.id
        · cases Table.eq_of_key old stored same
          exact ⟨_, (replaced _).mpr (.inr rfl), sameTicket, sameKind⟩
        · exact ⟨r, (replaced r).mpr (.inl ⟨old, same⟩), sameTicket, sameKind⟩
      · intro r member hasStopped
        rcases (replaced r).mp member with ⟨old, _⟩ | rfl
        · exact handled.stopped r old hasStopped
        · exact handled.stopped timer stored hasStopped
      · intro r member now
        rcases (replaced r).mp member with ⟨old, _⟩ | rfl
        · exact handled.ended r old now
        · simp [SlaTimer.isRunning]

end Handled

end Helpdesk
