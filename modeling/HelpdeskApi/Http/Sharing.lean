/-
Module: HelpdeskApi.Http.Sharing
Layer: Http
Purpose: What the sessions of the application can count on beside each other. Accounts only come, tickets and
  messages stay, and everything goes on to refer to what is there; whatever a session has locked stays as it
  is. A use case of the identity context keeps to this call by call, one of the ticketing context when it
  commits, and then it has touched nothing but the rows of its organisation.
Trusted boundary: none
Main exports: World.Goes, sharing, OnlyOf, goes_of_grows, keeps_of_upholds, keeps_of_orderly_start
-/
import HelpdeskApi.Application.References
import HelpdeskApi.Http.World
import HelpdeskApi.Iam.Coherence
import HelpdeskApi.Library.LockedRely
import HelpdeskApi.Queue.Backend

namespace Helpdesk.Http

open Iam Relational Txn

variable {unicode : Unicode} {collation : Collation}

/-- How the database goes on. -/
structure World.Goes (unicode : Unicode) (w w' : World) : Prop where
  directory : Grows unicode w.directory w'.directory
  onwards : w.ticketing.Onwards w'.ticketing
  messages : KeepsMessages w.ticketing w'.ticketing
  linked : w.ticketing.Linked → w'.ticketing.Linked

/-- The sessions of the application among each other: what they lock are rows and values of unique indexes. -/
def sharing (unicode : Unicode) (collation : Collation) : Protocol (store unicode collation) where
  goes := World.Goes unicode
  refl w := ⟨(growing unicode).refl w.directory, .refl w.ticketing, fun _ _ found => found, id⟩
  trans first second :=
    ⟨(growing unicode).trans first.directory second.directory, first.onwards.trans second.onwards,
      fun id m found => second.messages id m (first.messages id m found), second.linked ∘ first.linked⟩
  keeps k w w' := w'.ticketing.at (.row k) = w.ticketing.at (.row k)
  keeps_refl _ _ := rfl
  keeps_trans first second := second.trans first

/-- Only what this organisation sees of the tickets has changed. -/
structure OnlyOf (t : TenantId) (w w' : World) : Prop where
  directory : w'.directory = w.directory
  others : ∀ t', t' ≠ t → w'.ticketing.visible (some t') = w.ticketing.visible (some t')

theorem OnlyOf.refl (t : TenantId) (w : World) : OnlyOf t w w := ⟨rfl, fun _ _ => rfl⟩

section Accounts

variable {w w' : World}

/-- Members stay members when the tables of accounts grow. -/
theorem knows_of_grows (grows : Grows unicode w.directory w'.directory) {t : TenantId} {u : UserId}
    (known : w.ticketing.Knows t u) : w'.ticketing.Knows t u := by
  obtain ⟨m, inside, isMember⟩ := known
  obtain ⟨membership, there, rfl⟩ := List.mem_map.mp inside
  exact ⟨membership.toRow, List.mem_map_of_mem (grows.memberships there), isMember⟩

/-- Accounts are no concern of the tickets. -/
theorem goes_of_grows (grows : Grows unicode w.directory w'.directory) (same : w'.tickets = w.tickets) :
    w.Goes unicode w' := by
  obtain ⟨directory, tickets⟩ := w
  obtain ⟨directory', tickets'⟩ := w'
  cases same
  have onwards : (World.mk directory tickets).ticketing.Onwards (World.mk directory' tickets).ticketing :=
    ⟨fun known => knows_of_grows grows known, id⟩
  exact ⟨grows, onwards, fun _ _ found => found, fun linked => linked.onwards onwards rfl rfl rfl rfl rfl⟩

theorem at_of_tickets (same : w'.tickets = w.tickets) (k : RowKey) :
    w'.ticketing.at (.row k) = w.ticketing.at (.row k) := by
  obtain ⟨directory, tickets⟩ := w
  obtain ⟨directory', tickets'⟩ := w'
  cases same
  cases k <;> rfl

/-- A use case of the identity context keeps its promises among all the others, and leaves the tickets alone. -/
theorem keeps_of_upholds {α : Type} {ctx : Ctx} {commits : α → Bool} {V : α → Directory.Db → Prop}
    {X : Directory.Db → Prop} {p : Proc Accounts.sig α}
    (upholds : p.Upholds (Accounts.repositories unicode collation) () (growing unicode) V X w.directory) :
    p.left.Keeps (sharing unicode collation) ctx commits (fun w w' => w'.tickets = w.tickets)
      (fun a w => V a w.directory) [] [] w := by
  induction p generalizing w with
  | done a =>
      exact Proc.keeps_done (fun _ => rfl) fun onwards goes => Proc.upholds_done.mp upholds _ goes.directory
  | call c next ih =>
      intro later held goes o answered after isAfter
      obtain ⟨writes, answer, same⟩ := mem_accountAnswers answered
      have later' := upholds.later goes.goes.directory
      obtain ⟨grows, rest⟩ := later'.answered answer
      obtain ⟨tickets, directory⟩ := applyAll_accounts unicode collation writes later
      rw [same] at isAfter
      subst isAfter
      rw [← directory] at grows rest
      have goes' : (sharing unicode collation).goes later _ := goes_of_grows grows tickets
      refine ⟨⟨goes', fun k _ => at_of_tickets tickets k⟩, tickets, ?_⟩
      rw [same]
      exact ih o.reply rest

end Accounts

section Tickets

variable {t : TenantId} {w : World} {pending : List Helpdesk.Write} {locked : List RowKey}

/-- Writes leave alone what they do not lock. -/
theorem at_after {k : RowKey} {writes : List Helpdesk.Write} (unlocked : ∀ write ∈ writes, k ∉ write.keys)
    (db : Helpdesk.Db) : (db.after writes).at (.row k) = db.at (.row k) := by
  induction writes generalizing db with
  | nil => rfl
  | cons write writes ih =>
      exact (ih (fun write' later => unlocked write' (List.mem_cons_of_mem _ later)) (write.apply db)).trans
        (Db.at_row_apply (unlocked write List.mem_cons_self) db)

/-- What waits for its commit, when the others have gone on. -/
theorem waiting_later {later : World} (goes : (sharing unicode collation).Later locked w later)
    (waiting : Waiting t pending w.ticketing) (locks : ∀ write ∈ pending, ∀ k ∈ write.keys, k ∈ locked) :
    Waiting t pending later.ticketing ∧ (w.ticketing.after pending).Onwards (later.ticketing.after pending) :=
  waiting.later goes.goes.onwards fun write waits k key => goes.keeps k (locks write waits k key)

/-- The commit of what has waited. -/
theorem allows_commit (waiting : Waiting t pending w.ticketing)
    (locks : ∀ write ∈ pending, ∀ k ∈ write.keys, k ∈ locked) {last : World}
    (isLast : last = (store unicode collation).applyAll (pending.map .ticket) w) :
    (sharing unicode collation).Allows locked w last ∧ OnlyOf t w last := by
  obtain ⟨directory, ticketing⟩ := applyAll_tickets unicode collation pending w
  rw [← isLast] at directory ticketing
  have grows : Grows unicode w.directory last.directory := directory ▸ (growing unicode).refl w.directory
  have goes : w.Goes unicode last := by
    refine ⟨grows, ?_, ?_, ?_⟩ <;> rw [ticketing]
    · exact onwards_after pending w.ticketing
    · exact fun _ _ found => find?_outbox_after pending found
    · exact waiting.linked
  refine ⟨⟨goes, fun k unlocked => ?_⟩, directory, fun t' other => ?_⟩
  · change last.ticketing.at (.row k) = _
    rw [ticketing]
    exact at_after (fun write waits key => unlocked (locks write waits k key)) w.ticketing
  · rw [ticketing]
    exact waiting.others other

/-- A use case of the ticketing context keeps to what all count on, if it is orderly. -/
theorem keeps_of_orderly {α : Type} {ctx : Ctx} {commits : α → Bool} {p : Proc Helpdesk.sig α}
    (own : ctx.tenant = some t) (linked : w.ticketing.Linked) (waiting : Waiting t pending w.ticketing)
    (locks : ∀ write ∈ pending, ∀ k ∈ write.keys, k ∈ locked) (orderly : Orderly ctx t p (w.ticketing.after pending)) :
    p.right.Keeps (sharing unicode collation) ctx commits (OnlyOf t) (fun _ _ => True) (pending.map .ticket) locked
      w := by
  induction p generalizing w pending locked with
  | done a =>
      intro later goes last isLast
      obtain ⟨waits, _⟩ := waiting_later goes waiting locks
      split at isLast
      · obtain ⟨allowed, only⟩ := allows_commit waits locks isLast
        exact ⟨allowed, only, fun _ _ => trivial⟩
      · rw [isLast]
        exact ⟨.refl _ _, .refl t later, fun _ _ => trivial⟩
  | call c next ih =>
      intro later held goes o answered after isAfter
      obtain ⟨waits, onwards⟩ := waiting_later goes waiting locks
      obtain ⟨_, writes, answer, same⟩ := mem_ticketAnswers answered
      obtain ⟨_, ticketing⟩ := applyAll_tickets unicode collation pending later
      rw [ticketing] at answer
      have linked' := goes.goes.linked linked
      obtain ⟨refers, rest⟩ := orderly _ onwards (waits.linked linked') o.reply writes answer
      have isLater : after = later := by
        rw [isAfter, same]
        rfl
      rw [isLater]
      refine ⟨.refl _ _, .refl t later, ?_⟩
      have waits' : Waiting t (pending ++ writes) later.ticketing := by
        rcases exec_own own answer with rfl | ⟨write, rfl, isOwn⟩
        · rw [List.append_nil]
          exact waits
        · exact waits.concat isOwn (refers write List.mem_cons_self)
      have locks' : ∀ write ∈ pending ++ writes, ∀ k ∈ write.keys, k ∈ locked ++ o.locks := by
        intro write inside k key
        rcases List.mem_append.mp inside with old | new
        · exact List.mem_append_left _ (locks write old k key)
        · rw [same]
          exact List.mem_append_right _ (List.mem_flatMap.mpr ⟨write, new, key⟩)
      have rest' : Orderly ctx t (next o.reply) (later.ticketing.after (pending ++ writes)) := by
        rw [Db.after_append]
        exact rest
      have kept := ih o.reply linked' waits' locks' rest'
      rw [List.map_append] at kept
      rw [same] at kept ⊢
      exact kept

/-- It begins with nothing to wait for. -/
theorem keeps_of_orderly_start {α : Type} {ctx : Ctx} {commits : α → Bool} {p : Proc Helpdesk.sig α}
    (own : ctx.tenant = some t) (linked : w.ticketing.Linked) (orderly : Orderly ctx t p w.ticketing) :
    p.right.Keeps (sharing unicode collation) ctx commits (OnlyOf t) (fun _ _ => True) [] [] w := by
  have waiting : Waiting t [] w.ticketing := trivial
  have kept : p.right.Keeps (sharing unicode collation) ctx commits (OnlyOf t) (fun _ _ => True)
      (([] : List Helpdesk.Write).map .ticket) [] w :=
    keeps_of_orderly own linked waiting (List.forall_mem_nil _) orderly
  exact kept

end Tickets

end Helpdesk.Http
