/-
Module: HelpdeskApi.Proofs.RequestTrail
Layer: Proofs
Purpose: What a request sets off can be traced back to it. Its messages carry its id, a job runs under the id
  of its message, and so do the messages written by the job, however long the chain. The id is never replaced
  on the way, because everything stored has passed the check before and passes it unchanged again.
Trusted boundary: none
Main exports: Writes, SetOff, Traceable, traceable_of_run, requestId_survives
-/
import HelpdeskApi.Queue.Backend

namespace Helpdesk

open Relational Transition

/-- The step adds the message. -/
def Writes (entry : Db × BackendAction) (id : Uuid) : Prop :=
  entry.1.outbox.find? id = none ∧
    ∃ db', BackendAction.step entry.1 entry.2 = some db' ∧ (db'.outbox.find? id).isSome = true

/-- The messages a step of a history sets off: those it adds, and those that are added by processing them. -/
inductive SetOff (history : List (Db × BackendAction)) (origin : Db × BackendAction) : Uuid → Prop where
  | written {id : Uuid} (made : Writes origin id) : SetOff history origin id
  | processed {id id' : Uuid} {db : Db} {worker : Worker} {generated : RandomUuid} {ambient : Ambient}
      (setOff : SetOff history origin id) (inside : (db, .job worker id generated ambient) ∈ history)
      (made : Writes (db, .job worker id generated ambient) id') : SetOff history origin id'

/-- Every id in the outbox is harmless. -/
def Traceable (db : Db) : Prop :=
  ∀ m ∈ db.outbox.rows, ∀ text, m.requestId = some text → IdText text

section Ids

variable {request : HttpRequest} {generated : RandomUuid}

/-- Whoever sees a request first goes by its header. -/
theorem assignRequestId_fresh (header : Option String) (generated : RandomUuid) :
    assignRequestId none header generated = (sanitizeRequestId header).getD generated.text := by
  unfold assignRequestId
  cases sanitizeRequestId header <;> rfl

/-- A request is handled under the id its client sent, if that is harmless, and else under a generated one. -/
theorem requestId_eq (request : HttpRequest) :
    request.requestId = (sanitizeRequestId request.header).getD request.first.text := by
  unfold HttpRequest.requestId requestIdMiddleware genReqId
  split
  · rw [assignRequestId_fresh]
    have idText : IdText ((sanitizeRequestId request.header).getD request.first.text) := by
      cases sent : sanitizeRequestId request.header with
      | none => exact request.first.idText
      | some text => exact idText_of_sanitized sent
    rw [assignRequestId, sanitizeRequestId_idText idText]
    rfl
  · exact assignRequestId_fresh request.header request.first

theorem idText_requestId (request : HttpRequest) : IdText request.requestId := by
  rw [requestId_eq]
  cases sent : sanitizeRequestId request.header with
  | none => exact request.first.idText
  | some text => exact idText_of_sanitized sent

/-- The logger has the same id for it. -/
theorem loggedId_eq (request : HttpRequest) : request.loggedId = request.requestId := by
  have idText := idText_requestId request
  have again : ∀ generated, assignRequestId (some request.requestId) request.header generated = request.requestId := by
    intro generated
    rw [assignRequestId, sanitizeRequestId_idText idText]
    rfl
  unfold HttpRequest.loggedId
  split
  · rename_i first
    rw [requestId_eq]
    exact assignRequestId_fresh request.header request.first
  · rename_i first
    have isId : requestIdMiddleware none request.header request.first = request.requestId := by
      rw [requestId_eq]
      exact assignRequestId_fresh request.header request.first
    rw [isId]
    exact again request.second

/-- Whatever is stored, a job runs under a harmless id. -/
theorem idText_runWithJobContext (requestId : Option String) (generated : RandomUuid) :
    IdText (runWithJobContext requestId generated) := by
  unfold runWithJobContext
  cases sent : sanitizeRequestId requestId with
  | none => exact generated.idText
  | some text => exact idText_of_sanitized sent

/-- A harmless id is not replaced. -/
theorem runWithJobContext_idText {text : String} (idText : IdText text) (generated : RandomUuid) :
    runWithJobContext (some text) generated = text := by
  rw [runWithJobContext, sanitizeRequestId_idText idText]
  rfl

end Ids

section Steps

variable {db db' : Db} {a : BackendAction}

theorem traceable_execution {e : Execution} (runs : a.execution db = some e) :
    ∀ text, e.requestId = some text → IdText text := by
  intro text under
  cases a with
  | http request useCase ambient =>
      simp only [BackendAction.execution] at runs
      split at runs
      · cases runs
        rw [Option.some.injEq] at under
        exact under ▸ idText_requestId request
      · cases runs
  | job worker messageId generated ambient =>
      obtain ⟨m, _, _, _, _, isId⟩ := BackendAction.execution_job runs
      rw [isId, Option.some.injEq] at under
      exact under ▸ idText_runWithJobContext m.requestId generated
  | mark input ambient =>
      cases runs
      cases under

theorem traceable_step (traceable : Traceable db) (taken : a.step db = some db') : Traceable db' := by
  obtain ⟨e, runs, _, rfl⟩ := BackendAction.step_eq_some_iff.mp taken
  intro m stored text isId
  rcases addsUnder_serve e db m stored with old | new
  · exact traceable m old text isId
  · exact traceable_execution runs text (new.symm.trans isId)

/-- What a step adds carries the id of its execution. -/
theorem requestId_of_step {e : Execution} (runs : a.execution db = some e) (taken : a.step db = some db')
    {id : Uuid} (absent : db.outbox.find? id = none) {m : OutboxRow} (stored : db'.outbox.find? id = some m) :
    m.requestId = e.requestId := by
  obtain ⟨e', runs', _, rfl⟩ := BackendAction.step_eq_some_iff.mp taken
  cases runs.symm.trans runs'
  rcases addsUnder_serve e db m (Table.mem_of_find? stored) with old | new
  · have found := Table.find?_key old
    rw [Table.key_of_find? stored, absent] at found
    cases found
  · exact new

end Steps

section Runs

variable {base db db' : Db} {history : List (Db × BackendAction)}

theorem traceable_of_run (run : Run BackendAction.step base.beforeTickets history db) : Traceable db := by
  apply run.invariant
  · intro m stored
    cases stored
  · exact fun _ _ _ traceable taken => traceable_step traceable taken

/-- Messages stay what they are. -/
theorem keepsMessages_of_run (run : Run BackendAction.step db history db') : KeepsMessages db db' := by
  apply run.invariant (I := fun reached => KeepsMessages db reached)
  · exact fun _ _ found => found
  · intro before a after keeps taken id m found
    obtain ⟨e, _, _, rfl⟩ := BackendAction.step_eq_some_iff.mp taken
    exact keepsMessages_serve e before id m (keeps id m found)

/-- What a step adds is there at the end, with the id of its execution. -/
theorem added_of_run (run : Run BackendAction.step base.beforeTickets history db) {db₁ : Db} {a : BackendAction}
    (inside : (db₁, a) ∈ history) {e : Execution} (runs : a.execution db₁ = some e) {id : Uuid}
    (made : Writes (db₁, a) id) : ∃ m, db.outbox.find? id = some m ∧ m.requestId = e.requestId := by
  obtain ⟨earlier, later, next, _, taken, rest, _⟩ := run.split inside
  obtain ⟨absent, db₂, taken', present⟩ := made
  cases taken.symm.trans taken'
  obtain ⟨m, stored⟩ := Option.isSome_iff_exists.mp present
  exact ⟨m, keepsMessages_of_run rest id m stored, requestId_of_step runs taken absent stored⟩

/-- What a request sets off carries its id. -/
theorem setOff_of_run (run : Run BackendAction.step base.beforeTickets history db) {origin : Db × BackendAction}
    (inside : origin ∈ history) {e : Execution} (runs : origin.2.execution origin.1 = some e) {text : String}
    (under : e.requestId = some text) {id : Uuid} (setOff : SetOff history origin id) :
    ∃ m, db.outbox.find? id = some m ∧ m.requestId = some text := by
  induction setOff with
  | written made =>
      obtain ⟨m, stored, isId⟩ := added_of_run run inside runs made
      exact ⟨m, stored, isId.trans under⟩
  | @processed id id' db₂ worker generated ambient _ inside' made ih =>
      obtain ⟨m, stored, isId⟩ := ih
      obtain ⟨earlier, later, next, _, taken, rest, _⟩ := run.split inside'
      obtain ⟨e', runs', _⟩ := BackendAction.step_eq_some_iff.mp taken
      obtain ⟨m', found, _, _, _, isId'⟩ := BackendAction.execution_job runs'
      -- the worker finds the message as it is at the end
      have keeps := keepsMessages_of_run (.cons taken rest)
      cases stored.symm.trans (keeps id m' found)
      obtain ⟨m'', added, isId''⟩ := added_of_run run inside' runs' made
      rw [isId, runWithJobContext_idText (traceable_execution runs text under)] at isId'
      exact ⟨m'', added, isId''.trans isId'⟩

/-- Everything a request sets off carries the id it was handled under, and no id that is stored is ever
    replaced. -/
theorem requestId_survives (run : Run BackendAction.step base.beforeTickets history db) :
    (∀ db₁ request useCase ambient, (db₁, .http request useCase ambient) ∈ history →
      request.requestId = (sanitizeRequestId request.header).getD request.first.text ∧
        ∀ id, SetOff history (db₁, .http request useCase ambient) id →
          ∃ m, db.outbox.find? id = some m ∧ m.requestId = some request.requestId) ∧
      ∀ m ∈ db.outbox.rows, ∀ text, m.requestId = some text →
        sanitizeRequestId (some text) = some text ∧ ∀ generated, runWithJobContext (some text) generated = text := by
  constructor
  · intro db₁ request useCase ambient inside
    refine ⟨requestId_eq request, fun id setOff => ?_⟩
    obtain ⟨_, _, _, _, taken, _, _⟩ := run.split inside
    obtain ⟨e, runs, _⟩ := BackendAction.step_eq_some_iff.mp taken
    have under : e.requestId = some request.requestId := by
      simp only [BackendAction.execution] at runs
      split at runs
      · cases runs
        rfl
      · cases runs
    exact setOff_of_run run inside runs under setOff
  · intro m stored text isId
    have idText := traceable_of_run run m stored text isId
    exact ⟨sanitizeRequestId_idText idText, runWithJobContext_idText idText⟩

/-- A database with one agent. -/
def oneAgent : Db :=
  { Db.empty with memberships := Table.empty.insert ⟨⟨1⟩, ⟨3⟩, .AGENT⟩ }

/-- A ticket is created under an id of the client's, and assigned in the background. -/
def tracedRequest : BackendAction :=
  .http ⟨some " abc ", false, exampleUuid, exampleUuid⟩ (.createTicket ⟨⟨1⟩, ⟨2⟩, "Hola", "No entra", .HIGH⟩)
    (exampleAmbient 0)

def routingJob : BackendAction :=
  .job .ticketRouting 102 exampleUuid (exampleAmbient 1)

theorem requestId_survives_assignment :
    ∃ history db, Run BackendAction.step oneAgent.beforeTickets history db ∧
      ∃ m, db.outbox.find? 201 = some m ∧ m.eventName = "ticket.assigned" ∧ m.requestId = some "abc" := by
  have possible : (BackendAction.step oneAgent.beforeTickets tracedRequest).bind (fun db₁ =>
      (BackendAction.step db₁ routingJob).map fun db₂ =>
        ((db₁.outbox.find? 102).isSome, db₁.outbox.find? 201, (db₂.outbox.find? 201).map OutboxRow.eventName)) =
      some (true, none, some "ticket.assigned") := by
    decide
  obtain ⟨db₁, created, routed⟩ := Option.bind_eq_some_iff.mp possible
  obtain ⟨db₂, assigned, facts⟩ := Option.map_eq_some_iff.mp routed
  simp only [Prod.mk.injEq] at facts
  obtain ⟨announced, unassigned, isAssigned⟩ := facts
  obtain ⟨m, stored, isEvent⟩ := Option.map_eq_some_iff.mp isAssigned
  have run : Run BackendAction.step oneAgent.beforeTickets
      [(oneAgent.beforeTickets, tracedRequest), (db₁, routingJob)] db₂ := .step (.step .start created) assigned
  have first : SetOff [(oneAgent.beforeTickets, tracedRequest), (db₁, routingJob)]
      (oneAgent.beforeTickets, tracedRequest) 102 := .written ⟨rfl, db₁, created, announced⟩
  have second := first.processed (List.mem_cons_of_mem _ List.mem_cons_self)
    ⟨unassigned, db₂, assigned, Option.isSome_iff_exists.mpr ⟨m, stored⟩⟩
  obtain ⟨isId, carried⟩ := (requestId_survives run).1 _ _ _ _ List.mem_cons_self
  obtain ⟨m', stored', carries⟩ := carried 201 second
  have isAbc : sanitizeRequestId (some " abc ") = some "abc" := by decide
  refine ⟨_, db₂, run, m, stored, isEvent, ?_⟩
  cases stored.symm.trans stored'
  rw [carries, isId, isAbc]
  rfl

end Runs

end Helpdesk
