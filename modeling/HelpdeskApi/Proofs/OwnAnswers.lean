/-
Module: HelpdeskApi.Proofs.OwnAnswers
Layer: Proofs
Purpose: Whose comments stop the clock of the first answer. The worker looks at the role of an author and at
  nothing else, so staff who open a ticket themselves can answer it themselves: every stopped timer was
  answered by somebody else exactly if no delivery that stops one is of the requester's own comment.
Trusted boundary: none
Main exports: OutboxRow.Tells, Db.AnsweredAt, OnlyOthersStop, StoppedByOther, Told, answeredAt_iff,
  onlyOthersStop_step_iff, onlyOthersStop_iff
-/
import HelpdeskApi.Proofs.ClosedInTime

namespace Helpdesk

open Relational Transition

/-- The message of a comment, which says in which role its author made it. -/
structure OutboxRow.Tells (m : OutboxRow) (c : Comment) (authorRole : String) : Prop where
  eventName : m.eventName = "comment.added"
  version : m.version = 2
  aggregateId : m.aggregateId = c.ticketId.uuid
  occurredAt : m.occurredAt = c.createdAt
  payload : m.payload =
    [("commentId", .uuid c.id.uuid), ("authorId", .uuid c.authorId.uuid), ("authorRole", .str authorRole)]

/-- A comment is stored, and its author had this role when making it. -/
def Db.CommentedAs (db : Db) (c : Comment) (authorRole : String) : Prop :=
  c ∈ db.comments.rows ∧ ∃ m ∈ db.outbox.rows, m.Tells c authorRole

/-- At that instant somebody other than the requester commented on the ticket on behalf of the organisation. -/
def Db.AnsweredAt (db : Db) (id : TicketId) (s : Instant) : Prop :=
  ∃ t c authorRole, db.tickets.find? id = some t ∧ db.CommentedAs c authorRole ∧ c.ticketId = id ∧
    c.createdAt = s ∧ isResponder authorRole = true ∧ c.authorId ≠ t.requesterId

/-- The clocks of the first answer that are stopped were stopped by an answer of the organisation. -/
def OnlyOthersStop (w : SlaSystem) : Prop :=
  ∀ r ∈ w.db.timers.rows, r.kind = .RESPONSE → ∀ s, r.stoppedAt = some s → w.db.AnsweredAt r.ticketId s

/-- The comment a message tells of was made by the requester of the ticket. -/
def OutboxRow.Own (m : OutboxRow) (db : Db) : Prop :=
  ∃ t, db.tickets.find? ⟨m.aggregateId⟩ = some t ∧
    m.payload.field? "authorId" = some (.uuid t.requesterId.uuid)

/-- Where a delivery stops the clock of the first answer, the comment is not the requester's own, or there is
    another one of the very same instant that is not. -/
def StoppedByOther (w : SlaSystem) : SlaAction → Prop
  | .deliver messageId _ => ∀ message, w.db.outbox.find? messageId = some message →
      message.job.fulfils .RESPONSE = true →
        ∀ timer, StopSlaTimer.ending (SlaProcessor.stopInput message.job .RESPONSE) w.db = some timer →
          ∃ m ∈ w.db.outbox.rows, m.job.Answers timer.ticketId .RESPONSE ∧
            m.occurredAt = message.occurredAt ∧ ¬ m.Own w.db
  | _ => True

instance (m : OutboxRow) (db : Db) : Decidable (m.Own db) :=
  decidable_of_iff (∃ t ∈ db.tickets.find? ⟨m.aggregateId⟩,
    m.payload.field? "authorId" = some (.uuid t.requesterId.uuid)) Iff.rfl

instance (w : SlaSystem) : DecidablePred (StoppedByOther w)
  | .deliver messageId _ =>
      inferInstanceAs (Decidable (∀ message ∈ w.db.outbox.find? messageId, message.job.fulfils .RESPONSE = true →
        ∀ timer ∈ StopSlaTimer.ending (SlaProcessor.stopInput message.job .RESPONSE) w.db,
          ∃ m ∈ w.db.outbox.rows, m.job.Answers timer.ticketId .RESPONSE ∧
            m.occurredAt = message.occurredAt ∧ ¬ m.Own w.db))
  | .request _ | .sweep _ _ | .mark _ _ => .isTrue trivial

/-- Every message that stops a clock of the first answer tells of a stored comment. -/
def Told (db : Db) : Prop :=
  ∀ m ∈ db.outbox.rows, m.job.fulfils .RESPONSE = true → ∃ c ∈ db.comments.rows, ∃ authorRole, m.Tells c authorRole

/-- What lasts of the comments on tickets. -/
structure KeepsComments (db db' : Db) : Prop where
  comments : ∀ c ∈ db.comments.rows, c ∈ db'.comments.rows
  messages : ∀ m ∈ db.outbox.rows, m ∈ db'.outbox.rows
  requesters : ∀ id t, db.tickets.find? id = some t →
    ∃ t', db'.tickets.find? id = some t' ∧ t'.requesterId = t.requesterId

section Answers

variable {db db' : Db} {m : OutboxRow} {c : Comment} {authorRole : String}

theorem OutboxRow.Tells.fulfils (tells : m.Tells c authorRole) :
    m.job.fulfils .RESPONSE = isResponder authorRole := by
  simp [EventJobData.fulfils, OutboxRow.job, tells.eventName, tells.version, tells.payload, Payload.byResponder,
    Payload.field?, List.lookup_cons]

/-- Answers are recorded in the outbox, with their authors. -/
theorem answeredAt_iff (told : Told db) {id : TicketId} {t : TicketRow} (found : db.tickets.find? id = some t)
    (s : Instant) : db.AnsweredAt id s ↔
      ∃ m ∈ db.outbox.rows, m.job.Answers id .RESPONSE ∧ m.occurredAt = s ∧ ¬ m.Own db := by
  constructor
  · intro answered
    obtain ⟨t', c, authorRole, found', stored, ofTicket, isInstant, responder, other⟩ := answered
    cases found.symm.trans found'
    obtain ⟨m, sent, tells⟩ := stored.2
    have ofId : m.aggregateId = id.uuid := tells.aggregateId.trans (congrArg TicketId.uuid ofTicket)
    refine ⟨m, sent, ⟨tells.fulfils.trans responder, ofId⟩, tells.occurredAt.trans isInstant, ?_⟩
    intro own
    obtain ⟨t', located, isAuthor⟩ := own
    rw [ofId] at located
    cases found.symm.trans located
    rw [tells.payload] at isAuthor
    simp only [Payload.field?, List.lookup_cons] at isAuthor
    apply other
    have sameUuid : c.authorId.uuid = t.requesterId.uuid := by simpa using isAuthor
    exact congrArg UserId.mk sameUuid
  · intro recorded
    obtain ⟨m, sent, answers, isInstant, notOwn⟩ := recorded
    obtain ⟨c, stored, authorRole, tells⟩ := told m sent answers.1
    have ofTicket : c.ticketId = id := congrArg TicketId.mk (tells.aggregateId.symm.trans answers.2)
    refine ⟨t, c, authorRole, found, ⟨stored, m, sent, tells⟩, ofTicket, tells.occurredAt.symm.trans isInstant,
      tells.fulfils.symm.trans answers.1, ?_⟩
    intro same
    apply notOwn
    refine ⟨t, ?_, ?_⟩
    · have ofId : (⟨m.aggregateId⟩ : TicketId) = id := congrArg TicketId.mk answers.2
      rw [ofId]
      exact found
    · rw [tells.payload, ← same]
      rfl

theorem Db.AnsweredAt.kept {id : TicketId} {s : Instant} (answered : db.AnsweredAt id s)
    (keeps : KeepsComments db db') : db'.AnsweredAt id s := by
  obtain ⟨t, c, authorRole, found, stored, ofTicket, isInstant, responder, other⟩ := answered
  obtain ⟨m, sent, tells⟩ := stored.2
  obtain ⟨t', found', sameRequester⟩ := keeps.requesters id t found
  exact ⟨t', c, authorRole, found', ⟨keeps.comments c stored.1, m, keeps.messages m sent, tells⟩, ofTicket,
    isInstant, responder, sameRequester ▸ other⟩

/-- Comments stay. -/
theorem mem_comments_after (writes : List Write) {db : Db} (inside : c ∈ db.comments.rows) :
    c ∈ (db.after writes).comments.rows := by
  induction writes generalizing db with
  | nil => exact inside
  | cons w writes ih =>
      apply ih
      cases w with
      | insertComment comment => exact Table.mem_insert_of_mem comment inside
      | _ => exact inside

/-- What is committed keeps the comments, if it keeps the messages. -/
theorem keepsComments_after (writes : List Write) (messages : ∀ m ∈ db.outbox.rows, m ∈ (db.after writes).outbox.rows) :
    KeepsComments db (db.after writes) where
  comments _ inside := mem_comments_after writes inside
  messages := messages
  requesters _ _ found := by
    obtain ⟨t', found', sameBirth⟩ := births_after writes found
    exact ⟨t', found', sameBirth.requesterId⟩

/-- A request records with each comment what it tells of it. -/
theorem Told.of_request {e : Execution} (told : Told db) (isRequest : e.useCase.isRequest = true)
    (fresh : e.ambient.freshIn db = true) : Told (db.after (e.committed db)) := by
  intro m inside fulfils
  rcases (Execution.recorded_of_request isRequest db).messages m inside with old | ⟨_, facts⟩
  · obtain ⟨c, stored, authorRole, tells⟩ := told m old fulfils
    exact ⟨c, mem_comments_after _ stored, authorRole, tells⟩
  · obtain ⟨row, done, _⟩ := facts .RESPONSE fulfils
    unfold Execution.fact at done
    split at done
    · rename_i input asked
      split at done
      · obtain ⟨row', accepted, same⟩ := Option.map_eq_some_iff.mp done
        cases same
        have located := (Option.filter_eq_some_iff.mp accepted).1
        have sameId : row.id = input.ticketId := Table.key_of_find? (Db.ticketOf_eq_some_iff.mp located).1
        simp only [Execution.committed, asked, AddComment.committed, accepted] at inside ⊢
        rcases Table.mem_of_mem_insert inside with old | rfl
        · obtain ⟨c, stored, authorRole, tells⟩ := told m old fulfils
          exact ⟨c, Table.mem_insert_of_mem _ stored, authorRole, tells⟩
        · refine ⟨AddComment.comment input e.ambient, ?_, input.actorRole, rfl, rfl, ?_, rfl, rfl⟩
          · exact Table.mem_of_find? (Table.find?_insert_self (Ambient.unused_of_freshIn fresh).1.comment)
          · exact congrArg TicketId.uuid sameId
      · cases done
    · split at done
      · obtain ⟨row', _, same⟩ := Option.map_eq_some_iff.mp done
        cases same
      · cases done
    · cases done

end Answers

section Steps

variable {w w' : SlaSystem} {a : SlaAction}

/-- Whatever a step does, the comments last, and what is told of them is true. -/
theorem told_step (told : Told w.db) (taken : w.step a = some w') : KeepsComments w.db w'.db ∧ Told w'.db := by
  cases SlaSystem.step_stepped taken with
  | @request e isRequest fresh =>
      have messages := (Execution.recorded_of_request isRequest w.db).messagesKept
      exact ⟨keepsComments_after _ messages, told.of_request isRequest fresh⟩
  | @started _ ambient _ input =>
      have outbox := (outbox_of_start w.db input ambient).1
      refine ⟨keepsComments_after _ fun m sent => outbox ▸ sent, ?_⟩
      intro m inside fulfils
      rw [outbox] at inside
      obtain ⟨c, stored, tells⟩ := told m inside fulfils
      exact ⟨c, mem_comments_after _ stored, tells⟩
  | @stopped _ _ message kind =>
      have outbox := (outbox_of_stop w.db (SlaProcessor.stopInput message.job kind)).1
      refine ⟨keepsComments_after _ fun m sent => outbox ▸ sent, ?_⟩
      intro m inside fulfils
      rw [outbox] at inside
      obtain ⟨c, stored, tells⟩ := told m inside fulfils
      exact ⟨c, mem_comments_after _ stored, tells⟩
  | passed => exact ⟨keepsComments_after [] fun _ sent => sent, told⟩
  | sweep => exact ⟨keepsComments_after [] fun _ sent => sent, told⟩
  | @mark _ ambient row =>
      cases found : MarkSlaBreached.breaching { tenantId := row.tenantId, timerId := row.id } ambient w.db with
      | none =>
          simp only [MarkSlaBreached.committed, found]
          exact ⟨keepsComments_after [] fun _ sent => sent, told⟩
      | some pair =>
          let writes := MarkSlaBreached.committed { tenantId := row.tenantId, timerId := row.id } ambient none w.db
          have keeps : (∀ m ∈ w.db.outbox.rows, m ∈ (w.db.after writes).outbox.rows) →
              KeepsComments w.db (w.db.after writes) := keepsComments_after writes
          simp only [writes] at keeps
          simp only [MarkSlaBreached.committed, found] at keeps ⊢
          refine ⟨keeps fun m sent => Table.mem_insert_of_mem _ sent, ?_⟩
          intro m inside fulfils
          rcases Table.mem_of_mem_insert inside with old | rfl
          · exact told m old fulfils
          · simp [EventJobData.fulfils, OutboxRow.job, outboxRow, OutboxRecord.row, MarkSlaBreached.event, slaBreached,
              ticketEvent] at fulfils

/-- Clocks that were not stopped by this step need no further look. -/
theorem OnlyOthersStop.of_kept (before : OnlyOthersStop w) (keeps : KeepsComments w.db w'.db)
    (origin : ∀ r' ∈ w'.db.timers.rows, r'.kind = .RESPONSE → r'.stoppedAt ≠ none →
      ∃ r ∈ w.db.timers.rows, r.kind = r'.kind ∧ r.ticketId = r'.ticketId ∧ r.stoppedAt = r'.stoppedAt) :
    OnlyOthersStop w' := by
  intro r' stored ofKind s stopped
  have isStopped : r'.stoppedAt ≠ none := by
    rw [stopped]
    exact Option.some_ne_none s
  obtain ⟨r, old, sameKind, sameTicket, sameStop⟩ := origin r' stored ofKind isStopped
  have answered := before r old (sameKind.trans ofKind) s (sameStop.trans stopped)
  exact sameTicket ▸ answered.kept keeps

/-- A delivery that stops a clock of the first answer. -/
theorem onlyOthersStop_stop_iff {message : OutboxRow} {timer : SlaTimer} (before : OnlyOthersStop w)
    (handled : Handled w.db w.delivered) (keeps : KeepsComments w.db w'.db)
    (same : w'.db.outbox = w.db.outbox ∧ w'.db.tickets = w.db.tickets) (told' : Told w'.db)
    (ends : StopSlaTimer.ending (SlaProcessor.stopInput message.job .RESPONSE) w.db = some timer)
    (replaced : w.db.TimerReplaced w'.db { timer with stoppedAt := some message.occurredAt }) :
    OnlyOthersStop w' ↔ ∃ m ∈ w.db.outbox.rows, m.job.Answers timer.ticketId .RESPONSE ∧
      m.occurredAt = message.occurredAt ∧ ¬ m.Own w.db := by
  obtain ⟨stored, _, _, ofKind, _⟩ := StopSlaTimer.running_spec (StopSlaTimer.ending_spec ends).2
  obtain ⟨t, found, _⟩ := handled.tenants timer stored
  have found' : w'.db.tickets.find? timer.ticketId = some t := by
    rw [same.2]
    exact found
  have recorded := answeredAt_iff told' found' message.occurredAt
  simp only [same.1, OutboxRow.Own, same.2] at recorded
  simp only [OutboxRow.Own]
  rw [← recorded]
  constructor
  · intro after
    exact after _ ((replaced _).mpr (.inr rfl)) ofKind _ rfl
  · intro answered r member isResponse s stopped
    rcases (replaced r).mp member with ⟨old, _⟩ | rfl
    · exact (before r old isResponse s stopped).kept keeps
    · cases stopped
      exact answered

/-- One step keeps the clocks to the answers of the organisation exactly if no requester stops one. -/
theorem onlyOthersStop_step_iff (told : Told w.db) (handled : Handled w.db w.delivered) (before : OnlyOthersStop w)
    (taken : w.step a = some w') : OnlyOthersStop w' ↔ StoppedByOther w a := by
  obtain ⟨keeps, told'⟩ := told_step told taken
  cases SlaSystem.step_stepped taken with
  | @request e isRequest _ =>
      have timers := Execution.timers_of_request isRequest w.db
      refine iff_of_true (before.of_kept keeps fun r member _ _ => ⟨r, ?_, rfl, rfl, rfl⟩) trivial
      rw [← timers]
      exact member
  | @started messageId ambient message input found fresh dispatched =>
      apply iff_of_true
      · apply before.of_kept keeps
        intro r member _ stopped
        rcases StartSlaTimers.mem_timers_committed fresh member with old | ⟨_, kind, rfl⟩
        · exact ⟨r, old, rfl, rfl, rfl⟩
        · exact absurd rfl stopped
      · intro message' found' fulfilled
        cases found.symm.trans found'
        simp [SlaSystem.fulfils_of_started .RESPONSE dispatched] at fulfilled
  | @stopped messageId ambient message kind found dispatched =>
      have fulfilled := (SlaProcessor.despachar_stop_iff _ _).mp dispatched
      have condition : StoppedByOther w (.deliver messageId ambient) ↔ (kind = .RESPONSE → ∀ timer,
          StopSlaTimer.ending (SlaProcessor.stopInput message.job kind) w.db = some timer →
            ∃ m ∈ w.db.outbox.rows, m.job.Answers timer.ticketId .RESPONSE ∧
              m.occurredAt = message.occurredAt ∧ ¬ m.Own w.db) := by
        constructor
        · rintro byOther rfl
          exact byOther message found fulfilled
        · intro byOther message' found' fulfilled'
          cases found.symm.trans found'
          cases SlaSystem.kind_of_stopped dispatched fulfilled'
          exact byOther rfl
      rw [condition]
      cases ends : StopSlaTimer.ending (SlaProcessor.stopInput message.job kind) w.db with
      | none =>
          refine iff_of_true (before.of_kept keeps fun r member _ _ => ⟨r, ?_, rfl, rfl, rfl⟩) (by simp)
          rw [← StopSlaTimer.timers_of_idle ends]
          exact member
      | some timer =>
          have replaced := StopSlaTimer.timers_of_ending ends
          cases kind with
          | RESPONSE =>
              have same := And.intro (outbox_of_stop w.db (SlaProcessor.stopInput message.job .RESPONSE)).1
                (tickets_of_stop w.db (SlaProcessor.stopInput message.job .RESPONSE))
              rw [onlyOthersStop_stop_iff before handled keeps same told' ends replaced]
              simp
          | RESOLUTION =>
              obtain ⟨_, _, _, ofKind, _⟩ := StopSlaTimer.running_spec (StopSlaTimer.ending_spec ends).2
              refine iff_of_true (before.of_kept keeps fun r member isResponse _ => ⟨r, ?_, rfl, rfl, rfl⟩) (by simp)
              rcases (replaced r).mp member with ⟨old, _⟩ | rfl
              · exact old
              · exact absurd (isResponse.symm.trans ofKind) (by simp [SlaProcessor.stopInput])
  | @passed messageId ambient message found idle =>
      refine iff_of_true (before.of_kept keeps fun r member _ _ => ⟨r, member, rfl, rfl, rfl⟩) ?_
      intro message' found' fulfilled
      cases found.symm.trans found'
      exact absurd ((SlaProcessor.despachar_stop_iff _ _).mpr fulfilled) (idle _)
  | sweep => exact iff_of_true before trivial
  | @mark i ambient row rest pending fresh =>
      refine iff_of_true (before.of_kept keeps ?_) trivial
      intro r member _ stopped
      rcases MarkSlaBreached.mem_timers_committed member with old | ⟨timer, _, overdue, rfl⟩
      · exact ⟨r, old, rfl, rfl, rfl⟩
      · exact absurd ((timer.isOverdue_iff _).mp overdue).1 stopped

/-- In every state of every run, each stopped clock of the first answer was stopped by the organisation, exactly
    if no delivery stopped one for a comment of the requester's own. -/
theorem onlyOthersStop_iff {base : Db} {history : List (SlaSystem × SlaAction)}
    (run : Run SlaSystem.step (.initial base.beforeQueues) history w) :
    Always OnlyOthersStop history w ↔ Meets StoppedByOther history := by
  apply run.always_iff_steps (I := fun w => (Sound w.db ∧ Handled w.db w.delivered) ∧ Told w.db)
  · refine ⟨⟨sound_beforeQueues base, handled_beforeQueues base⟩, ?_⟩
    intro m sent
    cases sent
  · intro w a w' holds taken
    obtain ⟨⟨sound, handled⟩, told⟩ := holds
    exact ⟨⟨(sound_step sound taken).1, handled_step sound handled taken⟩, (told_step told taken).2⟩
  · intro r stored
    cases stored
  · intro w a w' holds before taken
    exact onlyOthersStop_step_iff holds.2 holds.1.2 before taken

end Steps

section Example

/-- A customer opens a ticket and insists; then an agent answers. -/
def customerTicket : List SlaAction :=
  [.request (exampleExecution 0 (.createTicket ⟨⟨1⟩, ⟨2⟩, "Hola", "No entra", .HIGH⟩)),
    .deliver 102 (exampleAmbient 1),
    .request (exampleExecution 2 (.addComment ⟨⟨1⟩, ⟨2⟩, "VIEWER", ⟨100⟩, "Sigue sin entrar"⟩)),
    .deliver 302 (exampleAmbient 3),
    .request (exampleExecution 4 (.addComment ⟨⟨1⟩, ⟨3⟩, "AGENT", ⟨100⟩, "Lo miramos"⟩)),
    .deliver 502 (exampleAmbient 5)]

/-- It is the agent's answer that stops the clock. -/
theorem onlyOthersStop_iff_customerTicket :
    ∃ w, Run SlaSystem.step (.initial Db.empty.beforeQueues)
        (playHistory SlaSystem.step (.initial Db.empty.beforeQueues) customerTicket) w ∧
      Meets StoppedByOther (playHistory SlaSystem.step (.initial Db.empty.beforeQueues) customerTicket) ∧
      (∃ r ∈ w.db.timers.rows, r.stoppedAt = some 240000) ∧
      Always OnlyOthersStop (playHistory SlaSystem.step (.initial Db.empty.beforeQueues) customerTicket) w := by
  have possible : (play SlaSystem.step (.initial Db.empty.beforeQueues) customerTicket).map (fun w =>
      w.db.timers.rows.any fun r => r.stoppedAt == some 240000) = some true := by decide
  have meets : Meets StoppedByOther
      (playHistory SlaSystem.step (.initial Db.empty.beforeQueues) customerTicket) := by decide
  obtain ⟨w, played, found⟩ := Option.map_eq_some_iff.mp possible
  obtain ⟨r, stored, stopped⟩ := List.any_eq_true.mp found
  exact ⟨w, play_run played, meets, ⟨r, stored, beq_iff_eq.mp stopped⟩,
    (onlyOthersStop_iff (play_run played)).mpr meets⟩

/-- An agent opens a ticket and insists. -/
def staffTicket : List SlaAction :=
  [.request (exampleExecution 0 (.createTicket ⟨⟨1⟩, ⟨3⟩, "Hola", "No entra", .HIGH⟩)),
    .deliver 102 (exampleAmbient 1),
    .request (exampleExecution 2 (.addComment ⟨⟨1⟩, ⟨3⟩, "AGENT", ⟨100⟩, "Sigue sin entrar"⟩)),
    .deliver 302 (exampleAmbient 3)]

/-- The agent's own comment stops the clock. -/
theorem staffTicket_stopped :
    ∃ history w, Run SlaSystem.step (.initial Db.empty.beforeQueues) history w ∧ ¬ OnlyOthersStop w := by
  have possible : (play SlaSystem.step (.initial Db.empty.beforeQueues) staffTicket).map (fun w =>
      (w.db.timers.rows.any fun r => r.kind = .RESPONSE ∧ r.stoppedAt = some 120000,
        w.db.tickets.rows.all fun t => t.requesterId = ⟨3⟩,
        w.db.comments.rows.all fun c => c.authorId = ⟨3⟩)) = some (true, true, true) := by decide
  obtain ⟨w, played, facts⟩ := Option.map_eq_some_iff.mp possible
  simp only [Prod.mk.injEq, List.any_eq_true, List.all_eq_true, decide_eq_true_eq] at facts
  obtain ⟨⟨r, stored, ofKind, stopped⟩, requesters, authors⟩ := facts
  refine ⟨_, w, play_run played, ?_⟩
  intro onlyOthers
  obtain ⟨t, c, _, found, commented, _, _, _, other⟩ := onlyOthers r stored ofKind _ stopped
  apply other
  rw [authors c commented.1, requesters t (Table.mem_of_find? found)]

end Example

end Helpdesk
