/-
Module: HelpdeskApi.Realtime.SocketLives
Layer: Realtime
Purpose: What the gateway knows of its sockets, along any run. It only knows sockets whose `handleConnection`
  has returned, and a timer is set only for a socket it knows. To every single socket the gateway is a register
  the socket is put on after some waiting, and taken off when it disconnects, whatever other sockets do.
Trusted boundary: none
Main exports: Tracked, tracked_of_run, Knows, knows_of_run, Client.presence, Gateway.presence, Gateway.lived,
  lived_of_step, presence_run
-/
import HelpdeskApi.Library.Presence
import HelpdeskApi.Realtime.Gateway

namespace Helpdesk

open Relational Transition

variable {M : Type} {history : List (Gateway M × GatewayEvent M)} {g g' : Gateway M} {event : GatewayEvent M}
  {id : SocketId}

/-- The gateway only knows sockets whose handling is over, and the timers that are set are those of sockets it
    knows. -/
structure Tracked (g : Gateway M) : Prop where
  ended : ∀ id s, g.sockets.find? id = some s → ∃ c, g.clients.find? id = some c ∧ c.handling.isOver = true
  armed : ∀ handle t, g.timers.find? handle = some t → ∃ s, g.sockets.find? t.client = some s ∧ s.expiry = handle
  numbered : ∀ handle t, g.timers.find? handle = some t → handle < g.nextTimer

namespace Tracked

theorem initial : Tracked (.initial : Gateway M) where
  ended id s known := by cases known
  armed handle t pending := by cases pending
  numbered handle t pending := by cases pending

/-- A socket that is not through with its handling is not known. -/
theorem unknown (tracked : Tracked g) {c : Client M} (found : g.clients.find? id = some c)
    (waits : c.handling.isOver = false) : g.sockets.find? id = none := by
  cases known : g.sockets.find? id with
  | none => rfl
  | some s =>
      obtain ⟨c', found', ended⟩ := tracked.ended id s known
      cases found.symm.trans found'
      rw [waits] at ended
      cases ended

/-- A socket that is through with its handling stays so. -/
theorem change (tracked : Tracked g) {f : Client M → Client M} {keeps : ∀ c, (f c).id = c.id}
    (kept : ∀ c, g.clients.find? id = some c → c.handling.isOver = true → (f c).handling.isOver = true) :
    Tracked (g.change id f keeps) where
  ended id' s known := by
    obtain ⟨c, found, ended⟩ := tracked.ended id' s known
    rw [find?_change, found]
    by_cases isSelf : id' = id
    · subst isSelf
      exact ⟨f c, if_pos rfl, kept c found ended⟩
    · exact ⟨c, if_neg isSelf, ended⟩
  armed := tracked.armed
  numbered := tracked.numbered

theorem clearTimeout (tracked : Tracked g) (handle : Nat) : Tracked (g.clearTimeout handle) where
  ended := tracked.ended
  armed handle' t pending := by
    rw [find?_cleared] at pending
    split at pending
    · cases pending
    · exact tracked.armed handle' t pending
  numbered handle' t pending := by
    rw [find?_cleared] at pending
    split at pending
    · cases pending
    · exact tracked.numbered handle' t pending

theorem nextTimer_disconnect (g : Gateway M) (id : SocketId) : (g.disconnect id).nextTimer = g.nextTimer := by
  unfold Gateway.disconnect
  split
  · unfold Gateway.handleDisconnect
    split <;> rfl
  · rfl

/-- The timer of a socket goes with its entry. -/
theorem disconnect (tracked : Tracked g) (id : SocketId) : Tracked (g.disconnect id) := by
  by_cases isOpen : (g.clients.find? id).map Client.connected = some true
  · constructor
    · intro id' s known
      rw [find?_disconnected isOpen] at known
      split at known
      · cases known
      · rename_i other
        rw [find?_disconnect isOpen, if_neg other]
        exact tracked.ended id' s known
    · intro handle t pending
      obtain ⟨before, left⟩ := pending_of_disconnect isOpen pending
      obtain ⟨s, known, same⟩ := tracked.armed handle t before
      refine ⟨s, ?_, same⟩
      rw [find?_disconnected isOpen, if_neg]
      · exact known
      · intro isSelf
        exact left s (isSelf ▸ known) same
    · intro handle t pending
      rw [nextTimer_disconnect]
      exact tracked.numbered handle t (pending_of_disconnect isOpen pending).1
  · rw [disconnect_of_gone isOpen]
    exact tracked

/-- A socket that is registered has a timer of its own. -/
theorem register (tracked : Tracked g) {c : Client M} (found : g.clients.find? id = some c)
    (waits : c.handling.isOver = false) (principal : AuthPrincipal) : Tracked (g.register id principal) where
  ended id' s known := by
    have clients : (g.register id principal).clients.find? id' =
        if id' = id then (g.clients.find? id').map (Client.await (.done (some principal))) else g.clients.find? id' :=
      find?_change _ _
    rw [clients]
    rw [find?_register] at known
    by_cases isSelf : id' = id
    · subst isSelf
      exact ⟨c.await (.done (some principal)), (if_pos rfl).trans (congrArg _ found), rfl⟩
    · rw [if_neg isSelf] at known ⊢
      exact tracked.ended id' s known
  armed handle t pending := by
    rw [find?_scheduled] at pending
    rw [find?_register]
    rcases Option.or_eq_some_iff.mp pending with before | ⟨_, new⟩
    · obtain ⟨s, known, same⟩ := tracked.armed handle t before
      refine ⟨s, ?_, same⟩
      rw [if_neg]
      · exact known
      · intro isSelf
        cases (tracked.unknown found waits).symm.trans (isSelf ▸ known)
    · split at new
      · rename_i isNext
        cases new
        rw [if_pos rfl, tracked.unknown found waits]
        exact ⟨_, rfl, isNext⟩
      · cases new
  numbered handle t pending := by
    rw [find?_scheduled] at pending
    change handle < g.nextTimer + 1
    rcases Option.or_eq_some_iff.mp pending with before | ⟨_, new⟩
    · exact Nat.lt_succ_of_lt (tracked.numbered handle t before)
    · split at new
      · rename_i isNext
        exact isNext ▸ Nat.lt_succ_self _
      · cases new

/-- Sockets that stay, and are as far with their handling as they were. -/
theorem clients (tracked : Tracked g) {clients : Table (Client M)}
    (stay : ∀ id c, g.clients.find? id = some c → ∃ c', clients.find? id = some c' ∧ c'.handling = c.handling) :
    Tracked { g with clients := clients } where
  ended id s known := by
    obtain ⟨c, found, ended⟩ := tracked.ended id s known
    obtain ⟨c', found', same⟩ := stay id c found
    exact ⟨c', found', same ▸ ended⟩
  armed := tracked.armed
  numbered := tracked.numbered

theorem step (tracked : Tracked g) (taken : g.step event = some g') : Tracked g' := by
  cases Gateway.step_stepped taken with
  | @connect id new =>
      apply tracked.clients
      intro id' c found
      refine ⟨c, ?_, rfl⟩
      rw [Table.find?_insert, found, Option.some_or]
  | refused waits => exact (tracked.change fun _ _ _ => rfl).disconnect _
  | verified waits =>
      apply tracked.change
      intro c found ended
      rw [found, Option.map_some, Option.some.injEq] at waits
      rw [waits] at ended
      cases ended
  | staff waits isStaff =>
      apply tracked.change
      intro c found ended
      rw [found, Option.map_some, Option.some.injEq] at waits
      rw [waits] at ended
      cases ended
  | @registered id handling principal waits last same =>
      obtain ⟨c, found, rfl⟩ := Option.map_eq_some_iff.mp waits
      exact tracked.register found (Handling.waits_of_atLastAwait last) principal
  | watched known valid => exact tracked.change fun _ _ ended => ended
  | unwatched known => exact tracked.change fun _ _ ended => ended
  | ignoredWatch => exact tracked
  | ignoredUnwatch ignored => exact tracked
  | gone isOpen => exact tracked.disconnect _
  | expired pending => exact (tracked.clearTimeout _).disconnect _
  | @publish audience message =>
      apply tracked.clients
      intro id c found
      have published : (g.publish audience message).clients.find? id = _ := find?_publish audience message
      rw [found, Option.map_some] at published
      refine ⟨_, published, ?_⟩
      split <;> rfl

end Tracked

theorem tracked_of_run (run : Run Gateway.step .initial history g) : Tracked g :=
  run.invariant .initial fun _ _ _ tracked taken => tracked.step taken

/-- The gateway knows the socket, if it is open and through with its handling. -/
def Knows (g : Gateway M) (id : SocketId) : Prop :=
  ∀ c, g.clients.find? id = some c → c.connected = true → c.handling.isOver = true →
    (g.sockets.find? id).isSome = true

namespace Knows

variable {id' : SocketId}

theorem clients (kept : Knows g id) {clients : Table (Client M)}
    (stay : ∀ c', clients.find? id = some c' → c'.connected = true → c'.handling.isOver = true →
      ∃ c, g.clients.find? id = some c ∧ c.connected = true ∧ c.handling.isOver = true) :
    Knows { g with clients := clients } id := by
  intro c' found' isOpen' ended'
  obtain ⟨c, found, isOpen, ended⟩ := stay c' found' isOpen' ended'
  exact kept c found isOpen ended

theorem change (kept : Knows g id') {f : Client M → Client M} {keeps : ∀ c, (f c).id = c.id}
    (stay : ∀ c, g.clients.find? id = some c → (f c).connected = true → (f c).handling.isOver = true →
      c.connected = true ∧ c.handling.isOver = true) : Knows (g.change id f keeps) id' := by
  apply kept.clients
  intro c' found' isOpen ended
  have changed := (find?_change (g := g) f keeps).symm.trans found'
  by_cases isSelf : id' = id
  · subst isSelf
    rw [if_pos rfl] at changed
    obtain ⟨c, found, rfl⟩ := Option.map_eq_some_iff.mp changed
    exact ⟨c, found, stay c found isOpen ended⟩
  · rw [if_neg isSelf] at changed
    exact ⟨c', changed, isOpen, ended⟩

/-- A socket that has disconnected need not be known. -/
theorem disconnect (kept : id' ≠ id → Knows g id') : Knows (g.disconnect id) id' := by
  by_cases isOpen : (g.clients.find? id).map Client.connected = some true
  · intro c found stillOpen ended
    rw [find?_disconnect isOpen] at found
    rw [find?_disconnected isOpen]
    by_cases isSelf : id' = id
    · rw [if_pos isSelf] at found
      obtain ⟨c₀, _, rfl⟩ := Option.map_eq_some_iff.mp found
      cases stillOpen
    · rw [if_neg isSelf] at found ⊢
      exact kept isSelf c found stillOpen ended
  · rw [disconnect_of_gone isOpen]
    by_cases isSelf : id' = id
    · subst isSelf
      intro c found stillOpen _
      rw [found, Option.map_some, stillOpen] at isOpen
      exact absurd rfl isOpen
    · exact kept isSelf

theorem register (kept : Knows g id') (principal : AuthPrincipal) : Knows (g.register id principal) id' := by
  intro c found isOpen ended
  rw [find?_register]
  by_cases isSelf : id' = id
  · rw [if_pos isSelf]
    rfl
  · rw [if_neg isSelf]
    have clients : (g.register id principal).clients.find? id' = g.clients.find? id' :=
      (find?_change (g := g) _ _).trans (if_neg isSelf)
    exact kept c (clients ▸ found) isOpen ended

theorem step (kept : ∀ id, Knows g id) (taken : g.step event = some g') (id : SocketId) : Knows g' id := by
  cases Gateway.step_stepped taken with
  | @connect id' new =>
      apply (kept id).clients
      intro c found isOpen ended
      rw [Table.find?_insert] at found
      rcases Option.or_eq_some_iff.mp found with before | ⟨_, fresh⟩
      · exact ⟨c, before, isOpen, ended⟩
      · split at fresh
        · cases fresh
          cases ended
        · cases fresh
  | @refused id' waits =>
      apply Knows.disconnect
      intro other c found
      have before := (find?_change (g := g) _ _).symm.trans found
      rw [if_neg other] at before
      exact kept id c before
  | verified waits =>
      apply (kept id).change
      intro c _ _ ended
      cases ended
  | staff waits isStaff =>
      apply (kept id).change
      intro c _ _ ended
      cases ended
  | registered waits last same => exact (kept id).register _
  | watched known valid => exact (kept id).change fun _ _ isOpen ended => ⟨isOpen, ended⟩
  | unwatched known => exact (kept id).change fun _ _ isOpen ended => ⟨isOpen, ended⟩
  | ignoredWatch => exact kept id
  | ignoredUnwatch ignored => exact kept id
  | gone isOpen => exact Knows.disconnect fun _ => kept id
  | expired pending => exact Knows.disconnect fun _ => kept id
  | @publish audience message =>
      apply (kept id).clients
      intro c' found' isOpen ended
      obtain ⟨c, found, rfl⟩ := Option.map_eq_some_iff.mp ((find?_publish audience message).symm.trans found')
      refine ⟨c, found, ?_, ?_⟩
      · split at isOpen <;> exact isOpen
      · split at ended <;> exact ended

end Knows

theorem knows_of_run (run : Run Gateway.step .initial history g) (id : SocketId) : Knows g id := by
  have kept : ∀ id, Knows g id := by
    apply run.invariant
    · intro id c found
      cases found
    · exact fun _ _ _ kept taken => Knows.step kept taken
  exact kept id

/-- Where a socket is with the gateway: it waits as long as its handling does, and is registered as long as it
    is known. -/
def Client.presence (c : Client M) (known : Bool) : Presence.Phase :=
  match c.handling.isOver, c.connected, known with
  | false, true, _ => .waiting
  | false, false, _ => .leftEarly
  | true, true, true => .registered
  | true, false, true => .stale
  | true, _, false => .gone

def Gateway.presence (g : Gateway M) (id : SocketId) : Presence.Phase :=
  (g.clients.find? id).elim .outside fun c => c.presence (g.sockets.find? id).isSome

/-- What an event is to a socket. A timer that fires makes an open socket leave. -/
def Gateway.lived (g : Gateway M) (id : SocketId) : GatewayEvent M → Option Presence.Move
  | .connect id' => if id' = id then some .come else none
  | .verified id' none => if id' = id then some .refuse else none
  | .joined id' =>
      if id' = id ∧ ((g.clients.find? id).any fun c => c.handling.atLastAwait) = true then some .register else none
  | .disconnect id' => if id' = id then some .leave else none
  | .expire handle =>
      if ((g.timers.find? handle).any fun t => decide (t.client = id)) = true ∧
          ((g.clients.find? id).any Client.connected) = true then some .leave else none
  | _ => none

/-- A socket is put on the register at the last `await` of its handling, and nowhere else. -/
theorem lived_eq_register_iff : g.lived id event = some .register ↔
    event = .joined id ∧ ∃ c, g.clients.find? id = some c ∧ c.handling.atLastAwait = true := by
  constructor
  · intro registers
    cases event with
    | joined id' =>
        obtain ⟨⟨rfl, last⟩, _⟩ := Option.ite_none_right_eq_some.mp registers
        exact ⟨rfl, (Option.any_eq_true _ _).mp last⟩
    | connect id' | disconnect id' | expire handle =>
        obtain ⟨_, other⟩ := Option.ite_none_right_eq_some.mp registers
        cases other
    | verified id' principal =>
        cases principal with
        | none =>
            obtain ⟨_, other⟩ := Option.ite_none_right_eq_some.mp registers
            cases other
        | some principal => cases registers
    | watch id' ticketId | unwatch id' ticketId | publish audience message => cases registers
  · rintro ⟨rfl, c, found, last⟩
    exact if_pos ⟨rfl, (Option.any_eq_true _ _).mpr ⟨c, found, last⟩⟩

section Presence

variable {c : Client M}

theorem Client.presence_of_waits (waits : c.handling.isOver = false) (known : Bool) :
    c.presence known = if c.connected = true then .waiting else .leftEarly := by
  unfold Client.presence
  rw [waits]
  cases c.connected <;> rfl

theorem Client.presence_known (ended : c.handling.isOver = true) :
    c.presence true = if c.connected = true then .registered else .stale := by
  unfold Client.presence
  rw [ended]
  cases c.connected <;> rfl

theorem Client.presence_unknown (ended : c.handling.isOver = true) : c.presence false = .gone := by
  unfold Client.presence
  rw [ended]
  cases c.connected <;> rfl

theorem presence_eq (found : g.clients.find? id = some c) :
    g.presence id = c.presence (g.sockets.find? id).isSome := by
  rw [Gateway.presence, found]
  rfl

/-- A socket is where it was, if what the gateway knows of it and how far it is have not changed. -/
theorem presence_congr (clients : g'.clients.find? id = g.clients.find? id)
    (sockets : g'.sockets.find? id = g.sockets.find? id) : g'.presence id = g.presence id := by
  rw [Gateway.presence, Gateway.presence, clients, sockets]

theorem Client.presence_congr {c c' : Client M} (connected : c'.connected = c.connected)
    (ended : c'.handling.isOver = c.handling.isOver) (known : Bool) : c'.presence known = c.presence known := by
  unfold Client.presence
  rw [connected, ended]

theorem presence_change {f : Client M → Client M} {keeps : ∀ c, (f c).id = c.id} {id' : SocketId}
    (same : ∀ c, g.clients.find? id = some c → (f c).connected = c.connected ∧ (f c).handling.isOver = c.handling.isOver) :
    (g.change id f keeps).presence id' = g.presence id' := by
  rw [Gateway.presence, Gateway.presence, find?_change]
  by_cases isSelf : id' = id
  · subst isSelf
    rw [if_pos rfl]
    cases found : g.clients.find? id' with
    | none => rfl
    | some c => exact Client.presence_congr (same c found).1 (same c found).2 _
  · rw [if_neg isSelf]
    rfl

/-- Another socket does not notice that one disconnects. -/
theorem presence_disconnect_other {id' : SocketId} (other : id' ≠ id) :
    (g.disconnect id).presence id' = g.presence id' := by
  by_cases isOpen : (g.clients.find? id).map Client.connected = some true
  · apply presence_congr
    · rw [find?_disconnect isOpen, if_neg other]
    · rw [find?_disconnected isOpen, if_neg other]
  · rw [disconnect_of_gone isOpen]

/-- A socket that disconnects is taken off the register. -/
theorem presence_disconnect (found : g.clients.find? id = some c) (isOpen : c.connected = true) :
    (g.disconnect id).presence id = c.disconnect.presence false := by
  have isOpen' : (g.clients.find? id).map Client.connected = some true := by rw [found, Option.map_some, isOpen]
  have found' : (g.disconnect id).clients.find? id = some c.disconnect := by
    rw [find?_disconnect isOpen', if_pos rfl, found]
    rfl
  rw [presence_eq found', find?_disconnected isOpen', if_pos rfl]
  rfl

/-- An open socket that disconnects leaves. -/
theorem leaves_of_disconnect (kept : Knows g id) (found : g.clients.find? id = some c) (isOpen : c.connected = true) :
    Presence.step (g.presence id) .leave = some ((g.disconnect id).presence id) := by
  rw [presence_disconnect found isOpen, presence_eq found]
  cases ended : c.handling.isOver with
  | false =>
      have waits : c.disconnect.handling.isOver = false := ended
      rw [Client.presence_of_waits ended, Client.presence_of_waits waits, if_pos isOpen]
      rfl
  | true =>
      have isOver : c.disconnect.handling.isOver = true := ended
      rw [kept c found isOpen ended, Client.presence_known ended, Client.presence_unknown isOver, if_pos isOpen]
      rfl

/-- A socket whose token is not valid is refused, whether it is still open or not. -/
theorem refused_of_verified (tracked : Tracked g) (found : g.clients.find? id = some c)
    (waits : c.handling.isOver = false) :
    Presence.step (g.presence id) .refuse =
      some (((g.change id (Client.await (.done none)) fun _ => rfl).disconnect id).presence id) := by
  have found' := find?_changed found (Client.await (.done none)) fun _ => rfl
  rw [presence_eq found, Client.presence_of_waits waits]
  cases isOpen : c.connected with
  | true =>
      rw [presence_disconnect found' isOpen, Client.presence_unknown rfl]
      rfl
  | false =>
      have gone : ((g.change id (Client.await (.done none)) fun _ => rfl).clients.find? id).map Client.connected ≠
          some true := by
        rw [found', Option.map_some]
        change some c.connected ≠ some true
        rw [isOpen]
        exact fun same => Bool.false_ne_true (Option.some.inj same)
      rw [disconnect_of_gone gone, presence_eq found']
      change _ = some ((c.await (.done none)).presence (g.sockets.find? id).isSome)
      rw [tracked.unknown found waits]
      change _ = some ((c.await (.done none)).presence false)
      rw [Client.presence_unknown rfl]
      rfl

/-- A socket that is registered may have left in the meantime. -/
theorem registered_of_joined (found : g.clients.find? id = some c) (waits : c.handling.isOver = false)
    (principal : AuthPrincipal) :
    Presence.step (g.presence id) .register = some ((g.register id principal).presence id) := by
  have found' : (g.register id principal).clients.find? id = some (c.await (.done (some principal))) :=
    find?_changed found _ _
  rw [presence_eq found, presence_eq found', find?_register, if_pos rfl, Client.presence_of_waits waits]
  change _ = some ((c.await (.done (some principal))).presence true)
  rw [Client.presence_known rfl]
  change _ = some (if c.connected = true then _ else _)
  cases c.connected <;> rfl

theorem presence_register_other {id' : SocketId} (other : id' ≠ id) (principal : AuthPrincipal) :
    (g.register id principal).presence id' = g.presence id' := by
  apply presence_congr
  · exact (find?_change (g := g) _ _).trans (if_neg other)
  · rw [find?_register, if_neg other]

theorem presence_publish (a : RealtimeAudience) (m : M) : (g.publish a m).presence id = g.presence id := by
  rw [Gateway.presence, Gateway.presence, find?_publish]
  cases found : g.clients.find? id with
  | none => rfl
  | some c =>
      change Client.presence (if c.reachedBy (roomOf a) = true then c.receive m else c) _ = _
      split <;> rfl

/-- What a step is to a socket: a move of its life, or none. -/
def Lived (g : Gateway M) (event : GatewayEvent M) (g' : Gateway M) (id : SocketId) : Prop :=
  (g.lived id event).elim (g'.presence id = g.presence id) fun k =>
    Presence.step (g.presence id) k = some (g'.presence id)

theorem lived_of_none (none : g.lived id event = none) (same : g'.presence id = g.presence id) :
    Lived g event g' id := by
  rw [Lived, none]
  exact same

theorem lived_of_some {k : Presence.Move} (some : g.lived id event = some k)
    (moves : Presence.step (g.presence id) k = .some (g'.presence id)) : Lived g event g' id := by
  rw [Lived, some]
  exact moves

theorem lived_connect {id' : SocketId} (new : g.clients.find? id' = none) :
    Lived g (.connect id') { g with clients := g.clients.insert (.fresh id') } id := by
  by_cases isSelf : id' = id
  · subst isSelf
    have comes : g.lived id' (.connect id') = some .come := if_pos rfl
    have found : ({ g with clients := g.clients.insert (.fresh id') } : Gateway M).clients.find? id' =
        some (.fresh id') := Table.find?_insert_self new
    apply lived_of_some comes
    rw [presence_eq found, Gateway.presence, new]
    rfl
  · have unseen : g.lived id (.connect id' : GatewayEvent M) = none := if_neg isSelf
    have same : (g.clients.insert (.fresh id')).find? id = g.clients.find? id := by
      rw [Table.find?_insert, key_client]
      change (g.clients.find? id).or (if id' = id then _ else none) = _
      rw [if_neg isSelf, Option.or_none]
    exact lived_of_none unseen (presence_congr same rfl)

theorem lived_refused (tracked : Tracked g) {id' : SocketId}
    (waits : (g.clients.find? id').map Client.handling = some .verifying) :
    Lived g (.verified id' none) ((g.change id' (Client.await (.done none)) fun _ => rfl).disconnect id') id := by
  by_cases isSelf : id' = id
  · subst isSelf
    obtain ⟨c, found, verifying⟩ := Option.map_eq_some_iff.mp waits
    have refused : g.lived id' (.verified id' none) = some .refuse := if_pos rfl
    apply lived_of_some refused
    exact refused_of_verified tracked found (by rw [verifying]; rfl)
  · have unseen : g.lived id (.verified id' none : GatewayEvent M) = none := if_neg isSelf
    apply lived_of_none unseen
    rw [presence_disconnect_other (Ne.symm isSelf)]
    exact presence_congr ((find?_change _ _).trans (if_neg (Ne.symm isSelf))) rfl

theorem lived_staff {id' : SocketId} {principal : AuthPrincipal}
    (waits : (g.clients.find? id').map Client.handling = some (.joinedTenant principal))
    (isStaff : hasAtLeastRole principal.role .AGENT = true) :
    Lived g (.joined id')
      (g.change id' (fun c => (c.join (roomOf (.staff principal.tenantId))).await (.joinedStaff principal)) fun _ => rfl)
      id := by
  obtain ⟨c, found, joined⟩ := Option.map_eq_some_iff.mp waits
  have goesOn : g.lived id (.joined id') = none := by
    apply if_neg
    rintro ⟨rfl, last⟩
    rw [found, Option.any_some, joined, Handling.atLastAwait, isStaff] at last
    cases last
  apply lived_of_none goesOn
  apply presence_change
  intro c' found'
  cases found.symm.trans found'
  rw [joined]
  exact ⟨rfl, rfl⟩

theorem lived_registered {id' : SocketId} {c : Client M} (found : g.clients.find? id' = some c)
    (last : c.handling.atLastAwait = true) (principal : AuthPrincipal) :
    Lived g (.joined id') (g.register id' principal) id := by
  by_cases isSelf : id' = id
  · subst isSelf
    have registers : g.lived id' (.joined id') = some .register := by
      apply if_pos
      rw [found, Option.any_some]
      exact ⟨rfl, last⟩
    apply lived_of_some registers
    exact registered_of_joined found (Handling.waits_of_atLastAwait last) principal
  · have unseen : g.lived id (.joined id' : GatewayEvent M) = none := if_neg fun both => isSelf both.1
    apply lived_of_none unseen
    exact presence_register_other (Ne.symm isSelf) principal

theorem lived_gone {id' : SocketId} (knows : Knows g id)
    (isOpen : (g.clients.find? id').map Client.connected = some true) :
    Lived g (.disconnect id') (g.disconnect id') id := by
  by_cases isSelf : id' = id
  · subst isSelf
    obtain ⟨c, found, connected⟩ := Option.map_eq_some_iff.mp isOpen
    have leaves : g.lived id' (.disconnect id') = some .leave := if_pos rfl
    apply lived_of_some leaves
    exact leaves_of_disconnect knows found connected
  · have unseen : g.lived id (.disconnect id' : GatewayEvent M) = none := if_neg isSelf
    apply lived_of_none unseen
    exact presence_disconnect_other (Ne.symm isSelf)

/-- A timer that fires makes its socket leave, unless the socket has left before: then nothing happens. -/
theorem lived_expired (tracked : Tracked g) (knows : Knows g id) {handle : Nat} {timer : Timeout}
    (pending : g.timers.find? handle = some timer) :
    Lived g (.expire handle) ((g.clearTimeout handle).disconnect timer.client) id := by
  by_cases isSelf : timer.client = id
  · subst isSelf
    obtain ⟨s, known, _⟩ := tracked.armed handle timer pending
    obtain ⟨c, found, _⟩ := tracked.ended timer.client s known
    cases isOpen : c.connected with
    | true =>
        have leaves : g.lived timer.client (.expire handle) = some .leave := by
          apply if_pos
          rw [pending, found]
          exact ⟨decide_eq_true rfl, isOpen⟩
        apply lived_of_some leaves
        have still : Knows (g.clearTimeout handle) timer.client := knows
        exact leaves_of_disconnect still found isOpen
    | false =>
        have stays : g.lived timer.client (.expire handle) = none := by
          apply if_neg
          rintro ⟨_, connected⟩
          rw [found, Option.any_some, isOpen] at connected
          cases connected
        have gone : ((g.clearTimeout handle).clients.find? timer.client).map Client.connected ≠ some true := by
          change (g.clients.find? timer.client).map Client.connected ≠ some true
          rw [found, Option.map_some, isOpen]
          exact fun same => Bool.false_ne_true (Option.some.inj same)
        apply lived_of_none stays
        rw [disconnect_of_gone gone]
        rfl
  · have stays : g.lived id (.expire handle) = none := by
      apply if_neg
      rintro ⟨same, _⟩
      rw [pending] at same
      exact isSelf (of_decide_eq_true same)
    apply lived_of_none stays
    exact presence_disconnect_other (g := g.clearTimeout handle) (Ne.symm isSelf)

/-- To every single socket, every step of the gateway is a move of its life, or none. -/
theorem lived_of_step (tracked : Tracked g) (knows : Knows g id) (taken : g.step event = some g') :
    Lived g event g' id := by
  cases Gateway.step_stepped taken with
  | connect new => exact lived_connect new
  | refused waits => exact lived_refused tracked waits
  | verified waits =>
      apply lived_of_none rfl
      apply presence_change
      intro c found
      rw [found, Option.map_some, Option.some.injEq] at waits
      rw [waits]
      exact ⟨rfl, rfl⟩
  | staff waits isStaff => exact lived_staff waits isStaff
  | registered waits last same =>
      obtain ⟨c, found, rfl⟩ := Option.map_eq_some_iff.mp waits
      exact lived_registered found last _
  | watched known valid =>
      apply lived_of_none rfl
      exact presence_change fun _ _ => ⟨rfl, rfl⟩
  | unwatched known =>
      apply lived_of_none rfl
      exact presence_change fun _ _ => ⟨rfl, rfl⟩
  | ignoredWatch => exact lived_of_none rfl rfl
  | ignoredUnwatch ignored => exact lived_of_none rfl rfl
  | gone isOpen => exact lived_gone knows isOpen
  | expired pending => exact lived_expired tracked knows pending
  | publish =>
      apply lived_of_none rfl
      exact presence_publish _ _

/-- To every single socket, every run of the gateway is a life. -/
theorem presence_run (run : Run Gateway.step .initial history g) (id : SocketId) :
    Run Presence.step .outside
      (history.filterMap fun entry => (entry.1.lived id entry.2).map fun k => (entry.1.presence id, k))
      (g.presence id) := by
  apply run.simulate (f := fun g => g.presence id) (g := fun g event => g.lived id event)
  intro s l s' member taken
  obtain ⟨earlier, before, _⟩ := run.mem_history member
  exact lived_of_step (tracked_of_run before) (knows_of_run before id) taken

end Presence

end Helpdesk
