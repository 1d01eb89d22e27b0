/-
Module: HelpdeskApi.Proofs.StopOrder
Layer: Proofs
Purpose: Which orders of delivery lose a stop. A stop that finds no timer is claimed all the same, so it is
  not tried again once the timer is there. `Progress` describes the timers and the marks after any sequence
  of deliveries, and `stopsKept_iff` says that a timer ends up stopped when it should exactly if some event
  it waits for is first delivered after the creation of the ticket.
Trusted boundary: none
Main exports: StopsAfterStart, Progress, progress_of_run, stopsKept_iff
-/
import HelpdeskApi.Queue.TicketEvents
import HelpdeskApi.Queue.TimerChanges

namespace Helpdesk

open Relational Transition

variable {log : TicketLog}

/-- The events of a run, in the order of their delivery. -/
def delivered (history : List (Db × Delivery log)) : List TicketEvent :=
  history.map fun entry => entry.2.event

/-- Some event a kind of timer waits for is first delivered after the creation of the ticket. -/
def StopsAfterStart (log : TicketLog) (events : List TicketEvent) (kind : SlaKind) : Prop :=
  ∃ earlier e, earlier ++ [e] <+: events ∧ e.meets kind = true ∧ e ∉ earlier ∧ log.created ∈ earlier

/-- Whether the timer of a kind of the ticket is stopped. -/
def Db.Stopped (db : Db) (ticketId : TicketId) (kind : SlaKind) : Prop :=
  ∃ t ∈ db.timers.rows, t.ticketId = ticketId ∧ t.kind = kind ∧ t.stoppedAt ≠ none

/-- A timer of the ticket that was never breached. -/
structure SlaTimer.Measures (t : SlaTimer) (log : TicketLog) (kind : SlaKind) : Prop where
  ticketId : t.ticketId = log.ticketId
  tenantId : t.tenantId = log.tenantId
  kind : t.kind = kind
  unbreached : t.breachedAt = none

/-- The timer the ticket has of a kind, and whether it is stopped. -/
structure Db.OneTimer (db : Db) (log : TicketLog) (kind : SlaKind) (stopped : Prop) (t : SlaTimer) : Prop where
  stored : t ∈ db.timers.rows
  measures : t.Measures log kind
  only : ∀ t' ∈ db.timers.rows, t'.ticketId = log.ticketId → t'.kind = kind → t' = t
  stopped_iff : t.stoppedAt ≠ none ↔ stopped

/-- Where the timers and the marks of a ticket stand after some deliveries. -/
structure Progress (log : TicketLog) (events : List TicketEvent) (db : Db) : Prop where
  stopMarks : ∀ e ∈ log.events, ∀ kind,
    (db.processed.find? (stopSlaConsumer kind, e.id)).isSome = true ↔ e ∈ events ∧ e.meets kind = true
  startMark : (db.processed.find? (START_SLA_CONSUMER, log.created.id)).isSome = true ↔ log.created ∈ events
  before : log.created ∉ events → ∀ t ∈ db.timers.rows, t.ticketId ≠ log.ticketId
  after : log.created ∈ events → ∀ kind, ∃ t, db.OneTimer log kind (StopsAfterStart log events kind) t

section Events

variable {events : List TicketEvent} {e : TicketEvent} {kind other : SlaKind}

theorem stopsAfterStart_snoc (log : TicketLog) (events : List TicketEvent) (e : TicketEvent)
    (kind : SlaKind) :
    StopsAfterStart log (events ++ [e]) kind ↔
      StopsAfterStart log events kind ∨ (e.meets kind = true ∧ e ∉ events ∧ log.created ∈ events) :=
  exists_prefix_concat

theorem StopsAfterStart.started (stops : StopsAfterStart log events kind) : log.created ∈ events := by
  obtain ⟨earlier, e, isPrefix, _, _, started⟩ := stops
  exact isPrefix.subset (List.mem_append_left _ started)

theorem StopsAfterStart.exists_meets (stops : StopsAfterStart log events kind) :
    ∃ e ∈ events, e.meets kind = true := by
  obtain ⟨earlier, e, isPrefix, meets, _, _⟩ := stops
  exact ⟨e, isPrefix.subset (by simp), meets⟩

/-- An event that was delivered before, or is no stop of the kind, changes nothing about the order. -/
theorem stopsAfterStart_snoc_of_old (old : e ∈ events ∨ e.meets kind = false) :
    StopsAfterStart log (events ++ [e]) kind ↔ StopsAfterStart log events kind := by
  rw [stopsAfterStart_snoc, or_iff_left]
  rintro ⟨meets, first, _⟩
  rcases old with old | other
  · exact first old
  · simp [meets] at other

/-- An event is a stop of one kind at most. -/
theorem TicketEvent.meets_unique (meets : e.meets kind = true) (different : other ≠ kind) :
    e.meets other = false := by
  obtain ⟨id, occurredAt, fact, requestId⟩ := e
  cases fact <;> cases kind <;> cases other <;> simp_all [TicketEvent.meets]

end Events

namespace Progress

variable {events : List TicketEvent} {db db' : Db} {e : TicketEvent} {kind : SlaKind}

/-- One more delivery that changes nothing, because it is an old one or asks for nothing. -/
theorem repeated (progress : Progress log events db) (known : e ∈ log.events)
    (idle : e ∈ events ∨ (e.isCreated = false ∧ ∀ kind, e.meets kind = false)) :
    Progress log (events ++ [e]) db := by
  have created : log.created ∈ events ++ [e] ↔ log.created ∈ events := by
    rw [List.mem_append, List.mem_singleton, or_iff_left_iff_imp]
    rintro rfl
    rcases idle with old | ⟨notNew, _⟩
    · exact old
    · simp [(log.isCreated_iff _ known).mpr rfl] at notNew
  have order (kind : SlaKind) :
      StopsAfterStart log (events ++ [e]) kind ↔ StopsAfterStart log events kind :=
    stopsAfterStart_snoc_of_old (idle.imp_right fun none => none.2 kind)
  constructor
  · intro e' known' kind
    rw [progress.stopMarks e' known' kind, List.mem_append, List.mem_singleton]
    refine and_congr_left fun meets => (or_iff_left_iff_imp.mpr ?_).symm
    rintro rfl
    rcases idle with old | ⟨_, none⟩
    · exact old
    · simp [none kind] at meets
  · rw [created]
    exact progress.startMark
  · rw [created]
    exact progress.before
  · rw [created]
    intro started kind
    simpa only [order] using progress.after started kind

/-- The first delivery of the creation starts one running timer of each kind. -/
theorem created (progress : Progress log events db) (first : log.created ∉ events) {ambient : Ambient}
    (fresh : ambient.freshIn db = true) (priority : TicketPriority) :
    Progress log (events ++ [log.created]) (db.after (StartSlaTimers.committed
      (log.created.startInput log.ticketId log.tenantId priority) ambient db)) := by
  have isNew : log.created.isCreated = true := (log.isCreated_iff _ log.created_mem).mpr rfl
  have noStop (kind : SlaKind) : log.created.meets kind = false := by
    by_contra meets
    simp [log.created.not_created_of_meets (by simpa using meets)] at isNew
  have vacant := progress.before first
  have unclaimed : db.processed.find? (START_SLA_CONSUMER, log.created.id) = none := by
    have unmarked := mt progress.startMark.mp first
    simpa using unmarked
  have marks (k : String × Uuid) :
      ((db.after (StartSlaTimers.committed (log.created.startInput log.ticketId log.tenantId priority)
        ambient db)).processed.find? k).isSome = true ↔
      (db.processed.find? k).isSome = true ∨ k = (START_SLA_CONSUMER, log.created.id) :=
    StartSlaTimers.marked_of_vacant unclaimed vacant k
  have added := (StartSlaTimers.timers_committed
    (log.created.startInput log.ticketId log.tenantId priority) fresh).resolve_left
      fun kept => by
        obtain ⟨r, stored, same⟩ := kept.2 unclaimed
        exact vacant r stored same
  constructor
  · intro e known kind
    have other : (stopSlaConsumer kind, e.id) ≠ (START_SLA_CONSUMER, log.created.id) := fun same =>
      stopSlaConsumer_ne_start kind (congrArg Prod.fst same)
    rw [marks, or_iff_left other, progress.stopMarks e known kind,
      List.mem_append, List.mem_singleton]
    refine and_congr_left fun meets => (or_iff_left_iff_imp.mpr ?_).symm
    rintro rfl
    simp [noStop kind] at meets
  · exact iff_of_true ((marks _).mpr (.inr rfl)) (by simp)
  · intro absent
    simp at absent
  · intro _ kind
    have unstopped : ¬ StopsAfterStart log (events ++ [log.created]) kind := by
      rw [stopsAfterStart_snoc_of_old (.inr (noStop kind))]
      exact fun stops => first stops.started
    have members := StartSlaTimers.mem_timers_of_added added.2
    refine ⟨_, ⟨(members _).mpr (.inr ⟨kind, rfl⟩), ⟨rfl, rfl, rfl, rfl⟩, ?_,
      iff_of_false (fun stopped => stopped rfl) unstopped⟩⟩
    intro t member ofTicket ofKind
    rcases (members t).mp member with old | ⟨other, rfl⟩
    · exact absurd ofTicket (vacant t old)
    · cases ofKind
      rfl

/-- The marks after a stop. -/
theorem stop_marks (progress : Progress log events db) (known : e ∈ log.events)
    (meets : e.meets kind = true) (e' : TicketEvent) (known' : e' ∈ log.events) (other : SlaKind) :
    ((db.after (StopSlaTimer.committed (e.stopInput log.ticketId log.tenantId kind) db)).processed.find?
        (stopSlaConsumer other, e'.id)).isSome = true ↔
      e' ∈ events ++ [e] ∧ e'.meets other = true := by
  rw [StopSlaTimer.marked_committed, progress.stopMarks e' known' other, List.mem_append,
    List.mem_singleton, or_and_right]
  apply or_congr_right
  simp only [TicketEvent.stopInput, Prod.mk.injEq]
  constructor
  · rintro ⟨sameConsumer, sameId⟩
    have sameEvent := log.sameEvent e' known' e known sameId
    exact ⟨sameEvent, stopSlaConsumer_inj sameConsumer ▸ sameEvent ▸ meets⟩
  · rintro ⟨rfl, meets'⟩
    refine ⟨congrArg _ ?_, rfl⟩
    by_contra different
    simp [TicketEvent.meets_unique meets different] at meets'

/-- A new event that finds no running timer of its kind finds it stopped. -/
theorem stops_of_idle (progress : Progress log events db) (known : e ∈ log.events) (first : e ∉ events)
    (ends : StopSlaTimer.ending (e.stopInput log.ticketId log.tenantId kind) db = none) {t : SlaTimer}
    (timer : db.OneTimer log kind (StopsAfterStart log events kind) t) : StopsAfterStart log events kind := by
  have measures := timer.measures
  have unclaimed : db.processed.find? (stopSlaConsumer kind, e.id) = none := by
    have unmarked := mt (progress.stopMarks e known kind).mp fun claimed => first claimed.1
    simpa using unmarked
  have idle : StopSlaTimer.running (e.stopInput log.ticketId log.tenantId kind) db = none := by
    simpa [StopSlaTimer.ending, TicketEvent.stopInput, unclaimed] using ends
  have notRunning : t.isRunning ≠ true := by
    intro running
    have none := List.find?_eq_none.mp idle t timer.stored
    simp [TicketEvent.stopInput, measures.tenantId, measures.ticketId, measures.kind, running] at none
  apply timer.stopped_iff.mp
  intro unstopped
  exact notRunning (t.isRunning_iff.mpr ⟨unstopped, measures.unbreached⟩)

/-- A stop changes the timer of its kind, if that is running, and no other. -/
theorem stop_timer (progress : Progress log events db) (meets : e.meets kind = true)
    (known : e ∈ log.events) (started : log.created ∈ events) (other : SlaKind) :
    ∃ t, (db.after (StopSlaTimer.committed (e.stopInput log.ticketId log.tenantId kind) db)).OneTimer log
      other (StopsAfterStart log (events ++ [e]) other) t := by
  obtain ⟨t, stored, measures, only, stopped_iff⟩ := progress.after started other
  cases ends : StopSlaTimer.ending (e.stopInput log.ticketId log.tenantId kind) db with
  | none =>
      have same := StopSlaTimer.timers_of_idle ends
      refine ⟨t, ⟨same ▸ stored, measures, fun t' member => only t' (same ▸ member), ?_⟩⟩
      rw [stopped_iff]
      by_cases sameKind : other = kind
      · subst sameKind
        by_cases old : e ∈ events
        · exact (stopsAfterStart_snoc_of_old (.inl old)).symm
        · have stops := progress.stops_of_idle known old ends ⟨stored, measures, only, stopped_iff⟩
          exact iff_of_true stops ((stopsAfterStart_snoc log events e other).mpr (.inl stops))
      · exact (stopsAfterStart_snoc_of_old (.inr (TicketEvent.meets_unique meets sameKind))).symm
  | some timer =>
      have replaced := StopSlaTimer.timers_of_ending ends
      obtain ⟨unclaimed, running⟩ := StopSlaTimer.ending_spec ends
      obtain ⟨stored', ofTenant, ofTicket, ofKind, isRunning⟩ := StopSlaTimer.running_spec running
      have first : e ∉ events := by
        intro old
        have claimed := (progress.stopMarks e known kind).mpr ⟨old, meets⟩
        simp only [TicketEvent.stopInput] at unclaimed
        simp [unclaimed] at claimed
      by_cases sameKind : other = kind
      · subst sameKind
        have same : timer = t := only timer stored' ofTicket ofKind
        subst same
        refine ⟨_, ⟨(replaced _).mpr (.inr rfl), ⟨ofTicket, ofTenant, ofKind, measures.unbreached⟩, ?_, ?_⟩⟩
        · intro t' member ofTicket' ofKind'
          rcases (replaced t').mp member with ⟨old, differs⟩ | new
          · exact absurd (congrArg SlaTimer.id (only t' old ofTicket' ofKind')) differs
          · exact new
        · refine iff_of_true (by simp) ((stopsAfterStart_snoc log events e other).mpr (.inr ?_))
          exact ⟨meets, first, started⟩
      · have differs : t.id ≠ timer.id := by
          intro sameId
          have same : t = timer := Table.eq_of_key stored stored' sameId
          exact sameKind (measures.kind.symm.trans (same ▸ ofKind))
        refine ⟨t, ⟨(replaced t).mpr (.inl ⟨stored, differs⟩), measures, ?_, ?_⟩⟩
        · intro t' member ofTicket' ofKind'
          rcases (replaced t').mp member with ⟨old, _⟩ | rfl
          · exact only t' old ofTicket' ofKind'
          · exact absurd (ofKind'.symm.trans ofKind) sameKind
        · rw [stopped_iff]
          exact (stopsAfterStart_snoc_of_old (.inr (TicketEvent.meets_unique meets sameKind))).symm

theorem stopped (progress : Progress log events db) (known : e ∈ log.events)
    (meets : e.meets kind = true) :
    Progress log (events ++ [e])
      (db.after (StopSlaTimer.committed (e.stopInput log.ticketId log.tenantId kind) db)) := by
  have created : log.created ∈ events ++ [e] ↔ log.created ∈ events := by
    rw [List.mem_append, List.mem_singleton, or_iff_left_iff_imp]
    rintro rfl
    have isNew := (log.isCreated_iff _ known).mpr rfl
    simp [log.created.not_created_of_meets meets] at isNew
  constructor
  · exact progress.stop_marks known meets
  · rw [StopSlaTimer.marked_committed, created, progress.startMark]
    apply or_iff_left
    intro same
    exact stopSlaConsumer_ne_start kind (congrArg Prod.fst same).symm
  · rw [created]
    intro absent
    have vacant := progress.before absent
    cases ends : StopSlaTimer.ending (e.stopInput log.ticketId log.tenantId kind) db with
    | none => exact fun t member => vacant t (StopSlaTimer.timers_of_idle ends ▸ member)
    | some timer =>
        obtain ⟨stored, _, ofTicket, _, _⟩ := StopSlaTimer.running_spec (StopSlaTimer.ending_spec ends).2
        exact absurd ofTicket (vacant timer stored)
  · rw [created]
    exact fun started other => progress.stop_timer meets known started other

/-- Every delivery keeps the account. -/
theorem step (progress : Progress log events db) {d : Delivery log} (taken : receive log db d = some db') :
    Progress log (events ++ [d.event]) db' := by
  obtain ⟨fresh, received⟩ := receive_received taken
  cases received with
  | started priority isNew =>
      have same : d.event = log.created := (log.isCreated_iff _ d.known).mp isNew
      rw [same]
      by_cases old : log.created ∈ events
      · obtain ⟨row, claimed⟩ := Option.isSome_iff_exists.mp (progress.startMark.mpr old)
        rw [StartSlaTimers.committed_of_claimed claimed]
        exact progress.repeated log.created_mem (.inl old)
      · exact progress.created old fresh priority
  | stopped kind meets => exact progress.stopped d.known meets
  | passed old other => exact progress.repeated d.known (.inr ⟨old, other⟩)

end Progress

/-- What holds after any sequence of deliveries to a database that has not heard of the ticket. -/
theorem progress_of_run {db₀ db : Db} (vacant : ∀ t ∈ db₀.timers.rows, t.ticketId ≠ log.ticketId)
    (unmarked : ∀ e ∈ log.events, ∀ consumer, db₀.processed.find? (consumer, e.id) = none)
    {history : List (Db × Delivery log)} (run : Run (receive log) db₀ history db) :
    Progress log (delivered history) db := by
  induction run with
  | start =>
      constructor
      · intro e known kind
        simp [unmarked e known, delivered]
      · simp [unmarked log.created log.created_mem, delivered]
      · exact fun _ => vacant
      · simp [delivered]
  | @step history db db' d run taken ih =>
      have snoc : delivered (history ++ [(db, d)]) = delivered history ++ [d.event] := by
        simp [delivered]
      rw [snoc]
      exact ih.step taken

/-- Once all events of a ticket have been processed, its timers are stopped as its events say, exactly if
    for every kind that has an event to wait for, one of these is first delivered after the creation. -/
theorem stopsKept_iff {db₀ db : Db} (vacant : ∀ t ∈ db₀.timers.rows, t.ticketId ≠ log.ticketId)
    (unmarked : ∀ e ∈ log.events, ∀ consumer, db₀.processed.find? (consumer, e.id) = none)
    {history : List (Db × Delivery log)} (run : Run (receive log) db₀ history db)
    (all : ∀ e ∈ log.events, e ∈ delivered history) :
    (∀ kind, db.Stopped log.ticketId kind ↔ ∃ e ∈ log.events, e.meets kind = true) ↔
      ∀ kind, (∃ e ∈ log.events, e.meets kind = true) → StopsAfterStart log (delivered history) kind := by
  have progress := progress_of_run vacant unmarked run
  have known (e : TicketEvent) (member : e ∈ delivered history) : e ∈ log.events := by
    obtain ⟨entry, _, rfl⟩ := List.mem_map.mp member
    exact entry.2.known
  apply forall_congr'
  intro kind
  obtain ⟨t, stored, measures, only, stopped_iff⟩ := progress.after (all _ log.created_mem) kind
  have isStopped : db.Stopped log.ticketId kind ↔ StopsAfterStart log (delivered history) kind := by
    rw [← stopped_iff]
    constructor
    · rintro ⟨t', member, ofTicket, ofKind, stopped⟩
      exact only t' member ofTicket ofKind ▸ stopped
    · exact fun stopped => ⟨t, stored, measures.ticketId, measures.kind, stopped⟩
  rw [isStopped]
  constructor
  · exact fun agrees => agrees.mpr
  · intro kept
    refine ⟨fun stops => ?_, kept⟩
    obtain ⟨e, member, meets⟩ := stops.exists_meets
    exact ⟨e, known e member, meets⟩

section Example

/-- A ticket has been created, and an agent has answered. -/
def answeredDb : Db :=
  (serve (exampleExecution 1 (.addComment ⟨⟨1⟩, ⟨3⟩, "AGENT", ⟨100⟩, "Lo miramos"⟩))
    (serve (exampleExecution 0 (.createTicket ⟨⟨1⟩, ⟨2⟩, "Hola", "No entra", .HIGH⟩)) .empty).2).2

/-- What its outbox tells of that. -/
def answeredTicket : TicketLog where
  ticketId := ⟨100⟩
  tenantId := ⟨1⟩
  events :=
    [⟨102, 0, .created 1 "Hola" .HIGH .OPEN ⟨2⟩, none⟩, ⟨202, 60000, .commented ⟨200⟩ ⟨3⟩ "AGENT", none⟩]
  sameEvent := by decide
  created := ⟨102, 0, .created 1 "Hola" .HIGH .OPEN ⟨2⟩, none⟩
  created_mem := by decide
  isCreated_iff := by decide

/-- A delivery of the creation. -/
def creationDelivered (n : Nat) : Delivery answeredTicket where
  event := ⟨102, 0, .created 1 "Hola" .HIGH .OPEN ⟨2⟩, none⟩
  known := by decide
  ambient := exampleAmbient n

/-- A delivery of the answer. -/
def answerDelivered (n : Nat) : Delivery answeredTicket where
  event := ⟨202, 60000, .commented ⟨200⟩ ⟨3⟩ "AGENT", none⟩
  known := by decide
  ambient := exampleAmbient n

/-- Delivered in the order they were made, the events leave the timers as they say. -/
theorem stopsKept_iff_inOrder :
    ∃ history db, Run (receive answeredTicket) answeredDb history db ∧
      (∀ kind, (∃ e ∈ answeredTicket.events, e.meets kind = true) →
        StopsAfterStart answeredTicket (delivered history) kind) ∧
      ∀ kind, db.Stopped answeredTicket.ticketId kind ↔ ∃ e ∈ answeredTicket.events, e.meets kind = true := by
  have possible : (play (receive answeredTicket) answeredDb
      [creationDelivered 2, answerDelivered 3]).isSome = true := by decide
  obtain ⟨db, played⟩ := Option.isSome_iff_exists.mp possible
  have run := play_run played
  have order : delivered (playHistory (receive answeredTicket) answeredDb [creationDelivered 2, answerDelivered 3]) =
      [(creationDelivered 2).event, (answerDelivered 3).event] := by decide
  have inOrder : ∀ kind, (∃ e ∈ answeredTicket.events, e.meets kind = true) → StopsAfterStart answeredTicket
      (delivered (playHistory (receive answeredTicket) answeredDb [creationDelivered 2, answerDelivered 3])) kind := by
    intro kind waits
    rw [order]
    cases kind with
    | RESPONSE =>
        exact ⟨[(creationDelivered 2).event], (answerDelivered 3).event, List.prefix_rfl, by decide, by decide,
          by decide⟩
    | RESOLUTION => exact absurd waits (by decide)
  exact ⟨_, db, run, inOrder, (stopsKept_iff (by decide) (by intros; rfl) run (by decide)).mpr inOrder⟩

/-- The answer overtakes the creation: it is claimed without a timer, delivered again in vain, and the
    timer never stops. -/
theorem overtakingAnswer_lost :
    ∃ history db, Run (receive answeredTicket) answeredDb history db ∧
      (∀ e ∈ answeredTicket.events, e ∈ delivered history) ∧
      ¬ ∀ kind, db.Stopped answeredTicket.ticketId kind ↔
        ∃ e ∈ answeredTicket.events, e.meets kind = true := by
  have possible : ((play (receive answeredTicket) answeredDb
      [answerDelivered 2, creationDelivered 3, answerDelivered 4]).map
        fun db => db.timers.rows.all fun t => t.stoppedAt == none) = some true := by decide
  obtain ⟨db, played, running⟩ := Option.map_eq_some_iff.mp possible
  refine ⟨_, db, play_run played, by decide, fun agrees => ?_⟩
  obtain ⟨t, stored, _, _, stopped⟩ := (agrees .RESPONSE).mpr (by decide)
  exact stopped (by simpa using List.all_eq_true.mp running t stored)

end Example

end Helpdesk
