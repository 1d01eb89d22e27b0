/-
Module: HelpdeskApi.Http.World
Layer: Store
Purpose: The one database behind the application, as its sessions meet it. The tables of accounts and those of
  tickets are side by side, and tickets see the memberships that accounts have. A call to the repositories of
  accounts is a transaction of its own, while those of tickets belong to the transaction of a use case.
Trusted boundary: human-reviewed spec
Main exports: World, World.ticketing, Write, sig, store, applyAll_tickets, applyAll_accounts, mem_accountAnswers,
  mem_ticketAnswers, careful_store
-/
import HelpdeskApi.Iam.Lookups
import HelpdeskApi.Library.RelyGuarantee
import HelpdeskApi.Store.Marks

namespace Helpdesk.Http

open Iam Txn

/-- The database. What `tickets` says of memberships is not used. -/
structure World where
  directory : Directory.Db
  tickets : Helpdesk.Db

/-- The tables of tickets, beside the memberships there are. -/
def World.ticketing (w : World) : Helpdesk.Db :=
  { w.tickets with memberships := w.directory.sessions.memberships }

inductive Write where
  | account (write : Directory.Write)
  | ticket (write : Helpdesk.Write)

def Write.apply : Write → World → World
  | .account write, w => { w with directory := write.apply w.directory }
  | .ticket write, w => { w with tickets := write.apply w.tickets }

abbrev sig : Signature := Accounts.sig.sum Helpdesk.sig

/-- A call to the repositories of accounts: what it writes takes hold at once. -/
def accountAnswers (unicode : Unicode) (collation : Collation) (c : Accounts.sig.Call) (w : World) :
    List (Outcome sig Write RowKey (.inl c)) :=
  ((Accounts.repositories unicode collation).onItsOwn () c w.directory).map fun o =>
    { reply := o.reply, writes := [], effects := o.effects.map .account, locks := [] }

/-- A call to those of tickets: what it writes waits for the commit. -/
def ticketAnswers (ctx : Helpdesk.Ctx) (held : RowKey → Bool) (c : Helpdesk.Call) (w : World) :
    List (Outcome sig Write RowKey (.inr c)) :=
  (Helpdesk.repositories.inTransaction ctx held c w.ticketing).map fun o =>
    { reply := o.reply, writes := o.writes.map .ticket, effects := [], locks := o.locks }

section Answers

variable (unicode : Unicode) (collation : Collation)

abbrev store : Store sig where
  Db := World
  Ctx := Helpdesk.Ctx
  Write := Write
  Key := RowKey
  apply := Write.apply
  answers ctx held c w :=
    match c with
    | .inl c => accountAnswers unicode collation c w
    | .inr c => ticketAnswers ctx held c w

end Answers

section Lemmas

variable {unicode : Unicode} {collation : Collation} {ctx : Helpdesk.Ctx} {held : RowKey → Bool} {w : World}

@[simp] theorem directory_ticket (write : Helpdesk.Write) (w : World) :
    ((Write.ticket write).apply w).directory = w.directory := rfl

@[simp] theorem ticketing_ticket (write : Helpdesk.Write) (w : World) :
    ((Write.ticket write).apply w).ticketing = write.apply w.ticketing := by
  cases write <;> rfl

@[simp] theorem tickets_account (write : Directory.Write) (w : World) :
    ((Write.account write).apply w).tickets = w.tickets := rfl

variable (unicode collation)

/-- Writes of tickets, as the tables of tickets see them. -/
theorem applyAll_tickets (writes : List Helpdesk.Write) (w : World) :
    ((store unicode collation).applyAll (writes.map .ticket) w).directory = w.directory ∧
      ((store unicode collation).applyAll (writes.map .ticket) w).ticketing = w.ticketing.after writes := by
  induction writes generalizing w with
  | nil => exact ⟨rfl, rfl⟩
  | cons write writes ih =>
      obtain ⟨directory, ticketing⟩ := ih ((Write.ticket write).apply w)
      rw [ticketing_ticket] at ticketing
      exact ⟨directory, ticketing⟩

/-- Writes of accounts, as their tables see them. -/
theorem applyAll_accounts (writes : List Directory.Write) (w : World) :
    ((store unicode collation).applyAll (writes.map .account) w).tickets = w.tickets ∧
      ((store unicode collation).applyAll (writes.map .account) w).directory =
        (Accounts.repositories unicode collation).applyAll writes w.directory := by
  induction writes generalizing w with
  | nil => exact ⟨rfl, rfl⟩
  | cons write writes ih => exact ih ((Write.account write).apply w)

variable {unicode collation}

theorem mem_accountAnswers {c : Accounts.sig.Call} {o : Outcome sig Write RowKey (.inl c)}
    (member : o ∈ accountAnswers unicode collation c w) :
    ∃ writes, Accounts.exec unicode collation c w.directory = some (o.reply, writes) ∧
      o = { reply := o.reply, writes := [], effects := writes.map .account, locks := [] } := by
  obtain ⟨o', inside, rfl⟩ := List.mem_map.mp member
  obtain ⟨answered, _, _⟩ := (Accounts.repositories unicode collation).mem_onItsOwn.mp inside
  exact ⟨o'.effects, answered, rfl⟩

theorem mem_ticketAnswers {c : Helpdesk.Call} {o : Outcome sig Write RowKey (.inr c)}
    (member : o ∈ ticketAnswers ctx held c w) :
    (∀ k ∈ c.wants w.ticketing, held k = false) ∧
      ∃ writes, exec ctx c w.ticketing = some (o.reply, writes) ∧
        o = { reply := o.reply, writes := writes.map .ticket, effects := [],
              locks := writes.flatMap Helpdesk.Write.keys } := by
  obtain ⟨o', inside, rfl⟩ := List.mem_map.mp member
  obtain ⟨free, answered, _, locks⟩ := Helpdesk.repositories.mem_inTransaction.mp inside
  exact ⟨free, o'.writes, answered, by rw [locks]⟩

/-- No lock is handed out twice. -/
theorem careful_store : (store unicode collation).Careful := by
  intro ctx held c w o member k locked
  cases c with
  | inl c =>
      obtain ⟨writes, _, same⟩ := mem_accountAnswers member
      rw [same] at locked
      cases locked
  | inr c =>
      obtain ⟨free, writes, answered, same⟩ := mem_ticketAnswers member
      rw [same] at locked
      obtain ⟨write, written, key⟩ := List.mem_flatMap.mp locked
      exact free k (keys_wanted answered written key)

end Lemmas

end Helpdesk.Http
