/-
Module: HelpdeskApi.Proofs.TicketNumbering
Layer: Proofs
Purpose: The visible numbers of tickets. Whoever takes a number holds the counter of the tenant until the
  transaction ends, so what it has reserved is the next number of the tenant for as long as it is at work,
  and a transaction that does not commit has taken nothing. The series of a tenant has no gaps and no
  repetitions, and only the tickets of the tenant make it longer.
Trusted boundary: none
Main exports: Numbered, created, NewIds, tickets_numbered
-/
import HelpdeskApi.Application.NumberTraces
import HelpdeskApi.Application.SerialRuns
import HelpdeskApi.Store.Marks

namespace Helpdesk

open Relational Txn Transition

/-- The numbers of the tickets of a tenant. -/
def Db.ticketNumbers (db : Db) (tenantId : TenantId) : List Int :=
  (db.tickets.rows.filter fun r => r.tenantId = tenantId).map TicketRow.number

/-- The tickets of a tenant are numbered from 1 to `n`, each number once, and the counter is one ahead. -/
structure Numbered (db : Db) (tenantId : TenantId) (n : Nat) : Prop where
  numbers : (db.ticketNumbers tenantId).Perm ((List.range n).map fun i : Nat => (i : Int) + 1)
  next : (∃ row, db.counters.find? tenantId = some row ∧ row.nextNumber = n + 1) ∨
    (db.counters.find? tenantId = none ∧ n = 0)

/-- How many transactions of a tenant have committed. -/
def created (c : Config ticketing) (tenantId : TenantId) : Nat :=
  c.sessions.countP fun s => s.isCommitted && s.job.useCase.tenantId = tenantId

/-- All that goes on is tickets being created. -/
def AllCreate (c : Config ticketing) : Prop :=
  ∀ s ∈ c.sessions, ∃ input, s.job.useCase = .createTicket input

/-- The ids the generator hands out for tickets are new, and no two are the same. -/
structure NewIds (db₀ : Db) (c : Config ticketing) : Prop where
  unused : ∀ s ∈ c.sessions, db₀.tickets.find? ⟨s.job.ambient.uuid 0⟩ = none
  distinct : ∀ (i j : Nat) (s t : Session ticketing), c.sessions[i]? = some s → c.sessions[j]? = some t →
    s.job.ambient.uuid 0 = t.job.ambient.uuid 0 → i = j

section Series

variable {db db' : Db} {tenantId : TenantId} {n : Nat}

/-- The number the next ticket of a tenant gets. -/
def Db.nextNumber (db : Db) (tenantId : TenantId) : Int :=
  (db.counters.find? tenantId).elim 1 CounterRow.nextNumber

theorem Numbered.nextNumber (numbered : Numbered db tenantId n) : db.nextNumber tenantId = n + 1 := by
  unfold Db.nextNumber
  rcases numbered.next with ⟨row, found, isNext⟩ | ⟨none, isZero⟩
  · rw [found]
    exact isNext
  · rw [none, isZero]
    rfl

/-- What a committed creation does to the tickets and the counters. -/
structure Creates (db : Db) (ticket : Ticket) (db' : Db) : Prop where
  tickets : db'.tickets.rows = db.tickets.rows ++ [createTicketRow ticket]
  counters : db'.counters = bumpCounter db.counters ticket.tenantId
  number : ticket.number = db.nextNumber ticket.tenantId

theorem Creates.find?_counters {ticket : Ticket} (creates : Creates db ticket db') (tenantId : TenantId) :
    db'.counters.find? tenantId =
      if tenantId = ticket.tenantId then
        some ((db.counters.find? tenantId).elim { tenantId := tenantId, nextNumber := 2 } bumpCounterRow)
      else db.counters.find? tenantId := by
  rw [creates.counters, bumpCounter, Table.find?_upsert]
  by_cases own : tenantId = ticket.tenantId
  · subst own
    rfl
  · rw [if_neg own]
    exact if_neg own

theorem Creates.ticketNumbers {ticket : Ticket} (creates : Creates db ticket db') (tenantId : TenantId) :
    db'.ticketNumbers tenantId =
      db.ticketNumbers tenantId ++ if ticket.tenantId = tenantId then [ticket.number] else [] := by
  unfold Db.ticketNumbers
  rw [creates.tickets, List.filter_append, List.map_append]
  by_cases own : ticket.tenantId = tenantId
  · simp [own, createTicketRow]
  · simp [own, createTicketRow]

/-- A ticket of the tenant makes the series one longer. -/
theorem Creates.own {ticket : Ticket} (creates : Creates db ticket db')
    (numbered : Numbered db ticket.tenantId n) : Numbered db' ticket.tenantId (n + 1) where
  numbers := by
    have number : ticket.number = n + 1 := creates.number.trans numbered.nextNumber
    rw [creates.ticketNumbers, if_pos rfl, List.range_succ, List.map_append, number]
    exact numbered.numbers.append_right _
  next := by
    have found := creates.find?_counters ticket.tenantId
    rw [if_pos rfl] at found
    refine .inl ⟨_, found, ?_⟩
    rcases numbered.next with ⟨row, before, isNext⟩ | ⟨none, isZero⟩
    · rw [before]
      simp [bumpCounterRow, isNext]
    · rw [none, isZero]
      rfl

/-- A ticket of another tenant leaves the series as it is. -/
theorem Creates.other {ticket : Ticket} (creates : Creates db ticket db') (other : tenantId ≠ ticket.tenantId)
    (numbered : Numbered db tenantId n) : Numbered db' tenantId n where
  numbers := by
    rw [creates.ticketNumbers, if_neg (Ne.symm other), List.append_nil]
    exact numbered.numbers
  next := by
    rw [creates.find?_counters, if_neg other]
    exact numbered.next

end Series

/-- A ticket after writes has the id of a ticket before them, or of one they save. -/
theorem id_of_ticket_after {writes : List Write} {db : Db} {row : TicketRow}
    (stored : row ∈ (db.after writes).tickets.rows) :
    (∃ old ∈ db.tickets.rows, old.id = row.id) ∨ ∃ ticket, .upsertTicket ticket ∈ writes ∧ ticket.id = row.id := by
  induction writes generalizing db with
  | nil => exact .inl ⟨row, stored, rfl⟩
  | cons w writes ih =>
      rcases ih stored with ⟨old, inside, same⟩ | ⟨ticket, written, same⟩
      · cases w with
        | upsertTicket ticket =>
            simp only [Write.apply, Table.mem_upsert_iff] at inside
            rcases inside with ⟨before, _⟩ | rfl
            · exact .inl ⟨old, before, same⟩
            · refine .inr ⟨ticket, List.mem_cons_self, same ▸ ?_⟩
              cases stored' : db.tickets.find? (Keyed.key (createTicketRow ticket)) with
              | none => rfl
              | some row => exact (Table.key_of_find? stored').symm
        | _ => exact .inl ⟨old, inside, same⟩
      · exact .inr ⟨ticket, List.mem_cons_of_mem _ written, same⟩

section Counting

variable {c : Config ticketing} {i : Nat} {s : Session ticketing}

theorem created_arrive (job : Execution) (tenantId : TenantId) :
    created { c with sessions := c.sessions ++ [.start job] } tenantId = created c tenantId := by
  simp [created, Session.isCommitted]

/-- A transaction at work that goes on or ends adds to the tickets of its tenant if it commits. -/
theorem created_put (found : c.sessions[i]? = some s) {rest : Proc sig (Except TicketingError Output)}
    (running : s.status = .running rest) (s' : Session ticketing) (sameJob : s'.job = s.job) (db : Db)
    (tenantId : TenantId) :
    created { c.put i s' with db := db } tenantId =
      created c tenantId + (s'.isCommitted && s.job.useCase.tenantId = tenantId).toNat := by
  obtain ⟨inside, isSession⟩ := List.getElem?_eq_some_iff.mp found
  have uncommitted : s.isCommitted = false := by simp [Session.isCommitted, running]
  unfold created Config.put
  rw [List.countP_set inside, isSession, uncommitted, sameJob]
  simp [Bool.toNat, Bool.cond_eq_ite]

end Counting

section Runs

variable {db₀ : Db} {jobs : List Execution} {history : List (Config ticketing × Move ticketing)}
  {c c' : Config ticketing} {m : Move ticketing}

theorem AllCreate.of_step (creates : AllCreate c') (taken : c.step m = some c') : AllCreate c :=
  Config.forall_job_of_later (A := ticketing) (P := fun e => ∃ input, e.useCase = .createTicket input)
    (.step .start taken) creates

theorem NewIds.of_step (newIds : NewIds db₀ c') (taken : c.step m = some c') : NewIds db₀ c where
  unused := Config.forall_job_of_later (A := ticketing)
    (P := fun e => db₀.tickets.find? ⟨e.ambient.uuid 0⟩ = none) (.step .start taken) newIds.unused
  distinct i j s t at_i at_j same := by
    obtain ⟨s', at_i', later⟩ := Config.later_of_step taken at_i
    obtain ⟨t', at_j', later'⟩ := Config.later_of_step taken at_j
    exact newIds.distinct i j s' t' at_i' at_j' (by rw [later.job, later'.job, same])

/-- What each transaction has done with its number. -/
theorem numbers_conform (run : Run Config.step (.start db₀ jobs) history c) :
    c.Conforms (fun (e : Execution) trace => e.opensTicket = true → Numbers e trace)
      fun (e : Execution) trace out => e.opensTicket = true → EndsNumbered e trace out := by
  refine Config.conforms_of_run (fun (e : Execution) => ⟨fun _ => .inl ⟨rfl, rfl, rfl⟩, ?_⟩) run
  cases isUseCase : e.useCase with
  | createTicket input =>
      exact (CreateTicket.numbers isUseCase).mono (fun _ numbers _ => numbers) fun _ _ ends _ => ends
  | _ =>
      refine Proc.satisfies_of_forall (fun _ opens => ?_) (fun _ _ opens => ?_) _ _ <;>
        simp [Execution.opensTicket, isUseCase] at opens

theorem AllCreate.opensTicket (creates : AllCreate c) {i : Nat} {s : Session ticketing}
    (found : c.sessions[i]? = some s) : s.job.opensTicket = true := by
  obtain ⟨input, isCreate⟩ := creates s (List.mem_of_getElem? found)
  simp [Execution.opensTicket, isCreate]

/-- A number is taken from the counter of the tenant itself. -/
theorem own_of_numbersNext {e : Execution} {tenantId : TenantId} {db : Db} {reply : Int} {writes : List Write}
    (answered : exec e.ctx (.numbersNext tenantId) db = some (reply, writes)) :
    e.useCase.tenantId = tenantId ∧ reply = db.nextNumber tenantId := by
  simp only [exec] at answered
  split at answered
  · rename_i own
    cases answered
    exact ⟨(Option.some.inj own).symm, rfl⟩
  · cases answered

/-- How a run stands with its numbers. What a transaction at work has reserved is still the next number. -/
structure Numbering (db₀ : Db) (c : Config ticketing) : Prop where
  reserved : ∀ (i : Nat) (s : Session ticketing), c.sessions[i]? = some s → (∃ rest, s.status = .running rest) →
    ∀ number ∈ reservedNumbers s.trace, number = c.db.nextNumber s.job.useCase.tenantId
  numbered : ∀ tenantId n, Numbered db₀ tenantId n → Numbered c.db tenantId (n + created c tenantId)

theorem Numbering.start (db₀ : Db) (jobs : List Execution) : Numbering db₀ (.start db₀ jobs) where
  reserved i s found running number member := by
    obtain ⟨job, _, rfl⟩ := Config.start_session found
    cases member
  numbered tenantId n numbered := by
    have none : created (.start db₀ jobs) tenantId = 0 := by
      unfold created
      rw [List.countP_eq_zero]
      intro s inside
      obtain ⟨i, found⟩ := List.mem_iff_getElem?.mp inside
      obtain ⟨job, _, rfl⟩ := Config.start_session found
      simp [Session.isCommitted]
    rw [none]
    exact numbered

/-- Sessions that are replaced by ones that have not committed change nothing. -/
theorem Numbering.put {j : Nat} {t t' : Session ticketing} (numbering : Numbering db₀ c)
    (at_j : c.sessions[j]? = some t) {rest : Proc sig (Except TicketingError Output)}
    (running : t.status = .running rest) (sameJob : t'.job = t.job) (uncommitted : t'.isCommitted = false)
    (reserved : (∃ rest, t'.status = .running rest) →
      ∀ number ∈ reservedNumbers t'.trace, number = c.db.nextNumber t'.job.useCase.tenantId) :
    Numbering db₀ (c.put j t') where
  reserved := Config.forall_put at_j (fun i s at_i _ => numbering.reserved i s at_i) reserved
  numbered tenantId n numbered := by
    have same := created_put at_j running t' sameJob c.db tenantId
    rw [uncommitted, Bool.false_and, Bool.toNat_false, Nat.add_zero] at same
    exact same ▸ numbering.numbered tenantId n numbered

/-- What a call reserves is the next number: the transaction has not bumped the counter before. -/
theorem reserved_of_call {j : Nat} {t : Session ticketing} (numbering : Numbering db₀ c)
    (at_j : c.sessions[j]? = some t) (before : Numbers t.job t.trace) {rest : Proc sig (Except TicketingError Output)}
    (running : t.status = .running rest) {call : Call} {o : Outcome sig Write RowKey call}
    (answered : exec t.job.ctx call (t.view c.db) = some (o.reply, o.writes))
    (after : Numbers t.job (t.trace ++ [⟨call, o⟩])) {number : Int}
    (member : number ∈ reservedNumbers (t.trace ++ [⟨call, o⟩])) :
    number = c.db.nextNumber t.job.useCase.tenantId := by
  rw [reservedNumbers_append, List.mem_append, Option.mem_toList] at member
  rcases member with old | new
  · exact numbering.reserved j t at_j ⟨rest, running⟩ number old
  · cases call with
    | numbersNext tenantId =>
        obtain rfl : o.reply = number := Option.some.inj new
        obtain ⟨rfl, isNext⟩ := own_of_numbersNext answered
        have unreserved : Unreserved t.trace := by
          rcases before with none | ⟨earlier, saved, reserved, _⟩
          · exact none
          · -- a second number would be one too many
            have two : reservedNumbers (t.trace ++ [⟨.numbersNext t.job.useCase.tenantId, o⟩]) = [earlier, o.reply] := by
              rw [reservedNumbers_append, reserved.number]
              rfl
            rcases after with none | ⟨later, saved, reserved', _⟩
            · cases two.symm.trans none.number
            · cases two.symm.trans reserved'.number
        have sameCounters : (t.view c.db).counters = c.db.counters := by
          have bumps := Db.after_counters c.db (repositories.transactional.pending t.trace)
          rw [show List.filterMap _ _ = _ from unreserved.bumped] at bumps
          exact bumps
        rw [isNext, Db.nextNumber, sameCounters]
        rfl
    | _ => cases new

/-- A ticket in the table was there at the start, or a transaction that has committed has opened it. -/
theorem owner_of_row (run : Run Config.step (.start db₀ jobs) history c) (creates : AllCreate c) {row : TicketRow}
    (stored : row ∈ c.db.tickets.rows) : (∃ old ∈ db₀.tickets.rows, old.id = row.id) ∨
      ∃ (i : Nat) (s : Session ticketing), c.sessions[i]? = some s ∧ s.isCommitted = true ∧
        row.id = ⟨s.job.ambient.uuid 0⟩ := by
  have log := Config.commitLog_of_run repositories.deferred_transactional run
  have sameDb : c.db = db₀.after ((Config.commitsOf history).flatMap c.writesOf) := log.db
  rw [sameDb] at stored
  rcases id_of_ticket_after stored with old | ⟨ticket, written, same⟩
  · exact .inl old
  · obtain ⟨i, committed, ofSession⟩ := List.mem_flatMap.mp written
    obtain ⟨s, out, at_i, status⟩ := (log.mem_iff i).mp committed
    rw [Config.writesOf_eq at_i] at ofSession
    have saved : ticket ∈ savedTickets s.trace := List.mem_filterMap.mpr ⟨_, ofSession, rfl⟩
    refine .inr ⟨i, s, at_i, s.isCommitted_iff.mpr ⟨out, status⟩, same.symm.trans ?_⟩
    rcases (numbers_conform run i s at_i).trace (creates.opensTicket at_i) with none | ⟨_, _, reserved, shown⟩
    · rw [none.saved] at saved
      cases saved
    · rw [reserved.saved] at saved
      rcases shown with rfl | ⟨ticket', rfl, carries⟩
      · cases saved
      · cases List.mem_singleton.mp saved
        exact carries.id

/-- The ticket of a transaction at work is not in the table yet. -/
theorem unstored_of_run (run : Run Config.step (.start db₀ jobs) history c) (creates : AllCreate c)
    (newIds : NewIds db₀ c) {j : Nat} {t : Session ticketing} (at_j : c.sessions[j]? = some t)
    {rest : Proc sig (Except TicketingError Output)} (running : t.status = .running rest) {id : TicketId}
    (isId : id = ⟨t.job.ambient.uuid 0⟩) : c.db.tickets.find? id = none := by
  rw [Option.eq_none_iff_forall_ne_some]
  intro row found
  have sameId : row.id = id := Table.key_of_find? found
  rcases owner_of_row run creates (Table.mem_of_find? found) with ⟨old, stored, same⟩ | ⟨i, s, at_i, committed, same⟩
  · have before : db₀.tickets.find? old.id = some old := Table.find?_key stored
    rw [same, sameId, isId, newIds.unused t (List.mem_of_getElem? at_j)] at before
    cases before
  · have sameUuid := TicketId.mk.inj (same.symm.trans (sameId.trans isId))
    cases newIds.distinct i j s t at_i at_j sameUuid
    cases at_i.symm.trans at_j
    simp [Session.isCommitted, running] at committed

/-- A transaction that commits has held the counter all along, so it creates the ticket of the next number. -/
theorem creates_of_commit {j : Nat} {t : Session ticketing} {number : Int} {ticket : Ticket}
    (run : Run Config.step (.start db₀ jobs) history c) (creates : AllCreate c) (newIds : NewIds db₀ c)
    (numbering : Numbering db₀ c) (at_j : c.sessions[j]? = some t)
    {rest : Proc sig (Except TicketingError Output)} (running : t.status = .running rest)
    (reserved : Reserved t.job number [ticket] t.trace) (carries : ticket.Carries t.job number) :
    Creates c.db ticket (t.view c.db) where
  tickets := by
    have unstored : c.db.tickets.find? ticket.id = none := unstored_of_run run creates newIds at_j running carries.id
    have saves := Db.after_tickets c.db (repositories.transactional.pending t.trace)
    rw [show List.filterMap _ _ = _ from reserved.saved] at saves
    have rows : (saveTicket c.db.tickets ticket).rows = _ := Table.rows_upsert_of_free unstored
    exact (congrArg Table.rows saves).trans rows
  counters := by
    have bumps := Db.after_counters c.db (repositories.transactional.pending t.trace)
    rw [show List.filterMap _ _ = _ from reserved.bumped] at bumps
    rw [carries.tenantId]
    exact bumps
  number := by
    have isNext := numbering.reserved j t at_j ⟨rest, running⟩ number
      (by rw [reserved.number]; exact List.mem_singleton_self number)
    rw [carries.number, carries.tenantId, isNext]

/-- Two transactions at work cannot both have a number of one tenant. -/
theorem other_of_reserved (run : Run Config.step (.start db₀ jobs) history c) {i j : Nat}
    {s t : Session ticketing} (different : i ≠ j) (at_i : c.sessions[i]? = some s)
    (at_j : c.sessions[j]? = some t) {rest rest' : Proc sig (Except TicketingError Output)}
    (running : s.status = .running rest) (running' : t.status = .running rest')
    (bumped : bumpedCounters s.trace = [s.job.useCase.tenantId])
    (bumped' : bumpedCounters t.trace = [t.job.useCase.tenantId]) :
    s.job.useCase.tenantId ≠ t.job.useCase.tenantId := by
  have holds {k : Nat} {u : Session ticketing} {rest : Proc sig (Except TicketingError Output)}
      (at_k : c.sessions[k]? = some u) (running : u.status = .running rest)
      (bumped : bumpedCounters u.trace = [u.job.useCase.tenantId]) :
      u.holds (.counter u.job.useCase.tenantId) = true := by
    have member : u.job.useCase.tenantId ∈ bumpedCounters u.trace := by simp [bumped]
    obtain ⟨w, written, isBump⟩ := List.mem_filterMap.mp member
    rw [Session.holds_of_running running, locked_of_run run at_k, List.mem_flatMap]
    refine ⟨w, written, ?_⟩
    cases w with
    | bumpCounter tenantId =>
        cases isBump
        exact List.mem_singleton_self _
    | _ => cases isBump
  intro same
  have unheld := Config.exclusive_of_run careful run i j s t _ different at_i at_j (holds at_i running bumped)
  rw [same, holds at_j running' bumped'] at unheld
  cases unheld

/-- A transaction that commits makes the series of its tenant one longer. -/
theorem Numbering.commit {j : Nat} {t : Session ticketing} {out : Except TicketingError Output} {number : Int}
    {ticket : Ticket} (numbering : Numbering db₀ c) (at_j : c.sessions[j]? = some t)
    (running : t.status = .running (.done out)) (made : Creates c.db ticket (t.view c.db))
    (carries : ticket.Carries t.job number)
    (others : ∀ (i : Nat) (s : Session ticketing), c.sessions[i]? = some s → i ≠ j →
      (∃ rest, s.status = .running rest) → reservedNumbers s.trace ≠ [] →
        s.job.useCase.tenantId ≠ t.job.useCase.tenantId) :
    Numbering db₀ { c.put j { t with status := .committed out } with db := t.view c.db } where
  reserved := by
    refine Config.forall_put at_j (fun i s at_i different working number' member => ?_) ?_
    · have other := others i s at_i different working (List.ne_nil_of_mem member)
      have same : (t.view c.db).nextNumber s.job.useCase.tenantId = c.db.nextNumber s.job.useCase.tenantId := by
        unfold Db.nextNumber
        rw [made.find?_counters, if_neg (carries.tenantId ▸ other)]
      exact (numbering.reserved i s at_i working number' member).trans same.symm
    · intro working
      obtain ⟨rest, status⟩ := working
      cases status
  numbered tenantId n numbered := by
    have before := numbering.numbered tenantId n numbered
    rw [created_put at_j running { t with status := .committed out } rfl]
    by_cases own : t.job.useCase.tenantId = tenantId
    · subst own
      have longer := made.own (carries.tenantId ▸ before)
      simpa [Session.isCommitted, carries.tenantId, Nat.add_assoc] using longer
    · have same := made.other (fun same => own (carries.tenantId.symm.trans same.symm)) before
      simpa [own] using same

theorem numbering_of_run (run : Run Config.step (.start db₀ jobs) history c) (creates : AllCreate c)
    (newIds : NewIds db₀ c) : Numbering db₀ c := by
  induction run with
  | start => exact .start db₀ jobs
  | @step history c c' m run taken ih =>
      have creates₀ : AllCreate c := creates.of_step taken
      have numbering : Numbering db₀ c := ih creates₀ (newIds.of_step taken)
      have conforms := numbers_conform run
      cases Config.step_stepped taken with
      | arrive job =>
          constructor
          · intro i s at_i running number member
            rcases c.getElem?_arrive job i at_i with old | ⟨_, rfl⟩
            · exact numbering.reserved i s old running number member
            · cases member
          · intro tenantId n numbered
            rw [created_arrive]
            exact numbering.numbered tenantId n numbered
      | @call j choice t call next o at_j running answer =>
          have produced := List.mem_of_getElem? answer
          have sameDb : repositories.transactional.applyAll o.effects c.db = c.db := by
            rw [repositories.deferred_transactional _ _ _ _ o produced]
            rfl
          have opens := creates₀.opensTicket at_j
          have before := (conforms j t at_j).trace opens
          have after := ((conforms j t at_j).rest _ running o ⟨_, _, produced⟩).1 opens
          obtain ⟨_, answered, _⟩ := repositories.mem_inTransaction.mp produced
          have put : Numbering db₀ (c.put j (t.advance ⟨call, o⟩ (next o.reply))) :=
            numbering.put at_j running rfl rfl fun _ number member =>
              reserved_of_call numbering at_j before running answered after member
          have same : c.put j (t.advance ⟨call, o⟩ (next o.reply)) = { c.put j _ with db := c.db } := rfl
          rw [same] at put
          simpa only [sameDb] using put
      | @commit j t out at_j running commits =>
          obtain ⟨number, ticket, reserved, carries⟩ :=
            (conforms j t at_j).rest _ running (creates₀.opensTicket at_j) commits
          have made := creates_of_commit run creates₀ (newIds.of_step taken) numbering at_j running reserved carries
          apply numbering.commit at_j running made carries
          intro i s at_i different working member
          have bumped : bumpedCounters s.trace = [s.job.useCase.tenantId] := by
            rcases (conforms i s at_i).trace (creates₀.opensTicket at_i) with none | ⟨_, _, reserved', _⟩
            · rw [none.number] at member
              exact absurd rfl member
            · exact reserved'.bumped
          obtain ⟨rest, working⟩ := working
          exact other_of_reserved run different at_i at_j working running bumped reserved.bumped
      | @rollback j t out at_j running commits =>
          exact numbering.put at_j running rfl rfl fun working => by
            obtain ⟨rest, status⟩ := working
            cases status
      | @abort j t rest at_j running =>
          exact numbering.put at_j running rfl rfl fun working => by
            obtain ⟨rest, status⟩ := working
            cases status

/-- However transactions that create tickets interleave, for however many tenants, and whichever of them fail
    or die: the tickets of a tenant that are there were numbered without gaps or repetitions, one number for
    each transaction of this tenant that has committed, and the counter is one ahead. -/
theorem tickets_numbered (run : Run Config.step (.start db₀ jobs) history c) (creates : AllCreate c)
    (newIds : NewIds db₀ c) {tenantId : TenantId} {n : Nat} (numbered : Numbered db₀ tenantId n) :
    Numbered c.db tenantId (n + created c tenantId) :=
  (numbering_of_run run creates newIds).numbered tenantId n numbered

end Runs

section Example

/-- Three tickets of one tenant, one of them without a subject, one of another tenant, and one more. -/
def exampleCreations : List Execution :=
  [⟨⟨1⟩, ⟨5⟩, "Hola", "No entra", .HIGH⟩, ⟨⟨1⟩, ⟨5⟩, "", "No entra", .LOW⟩, ⟨⟨2⟩, ⟨6⟩, "Hola", "No sale", .LOW⟩,
    ⟨⟨1⟩, ⟨7⟩, "Otra", "No sale", .LOW⟩, ⟨⟨1⟩, ⟨7⟩, "Otra más", "No sale", .LOW⟩].mapIdx
      fun i input => exampleExecution i (.createTicket input)

/-- The second one fails and the last one dies, both with a number in hand. -/
def exampleSchedule : List (Move ticketing) :=
  [.call 0 0, .call 2 0, .call 0 0, .call 0 0, .call 0 0, .finish 0, .call 1 0, .finish 1, .call 4 0, .abort 4,
    .call 3 0, .call 3 0, .call 3 0, .call 3 0, .finish 3, .call 2 0, .call 2 0, .call 2 0, .finish 2]

theorem numbered_empty (tenantId : TenantId) : Numbered .empty tenantId 0 where
  numbers := .refl _
  next := .inr ⟨rfl, rfl⟩

theorem tickets_numbered_example :
    ∃ c, play Config.step (.start (A := ticketing) .empty exampleCreations) exampleSchedule = some c ∧
      Numbered c.db ⟨1⟩ 2 ∧ Numbered c.db ⟨2⟩ 1 := by
  have possible : (play Config.step (.start (A := ticketing) .empty exampleCreations) exampleSchedule).map
      (fun c => (c.sessions.length, created c ⟨1⟩, created c ⟨2⟩)) = some (5, 2, 1) := by decide
  obtain ⟨c, played, facts⟩ := Option.map_eq_some_iff.mp possible
  simp only [Prod.mk.injEq] at facts
  obtain ⟨closed, two, one⟩ := facts
  have run := play_run played
  have job (i : Nat) (s : Session ticketing) (found : c.sessions[i]? = some s) :
      ∃ input, s.job = exampleExecution i (.createTicket input) := by
    have isJob := Config.job_of_run run closed found
    rw [exampleCreations, List.getElem?_mapIdx, Option.map_eq_some_iff] at isJob
    obtain ⟨input, _, same⟩ := isJob
    exact ⟨input, same.symm⟩
  have creates : AllCreate c := by
    intro s inside
    obtain ⟨i, found⟩ := List.mem_iff_getElem?.mp inside
    obtain ⟨input, isJob⟩ := job i s found
    exact ⟨input, by rw [isJob]; rfl⟩
  have newIds : NewIds .empty c := by
    constructor
    · intro s inside
      rfl
    · intro i j s t at_i at_j same
      obtain ⟨_, isJob⟩ := job i s at_i
      obtain ⟨_, isJob'⟩ := job j t at_j
      rw [isJob, isJob'] at same
      change 100 * (i + 1) + 0 = 100 * (j + 1) + 0 at same
      omega
  have first := tickets_numbered run creates newIds (numbered_empty ⟨1⟩)
  have second := tickets_numbered run creates newIds (numbered_empty ⟨2⟩)
  rw [two] at first
  rw [one] at second
  exact ⟨c, played, first, second⟩

end Example

end Helpdesk
