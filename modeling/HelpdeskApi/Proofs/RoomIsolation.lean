/-
Module: HelpdeskApi.Proofs.RoomIsolation
Layer: Proofs
Purpose: Whom a published message can reach. The tenant in a room's name has a fixed length and no client
  chooses it, so no string makes one room pass for another; and a socket is only in rooms its principal may
  be in, and in those of tickets it has asked for.
Trusted boundary: none
Main exports: roomOf_injective, Watches, Entitled, publish_isolated
-/
import HelpdeskApi.Realtime.Gateway

namespace Helpdesk

open Relational Transition

section Names

theorem UuidText.length_text (t : UuidText) : t.text.length = 36 := by
  have wellFormed := t.wellFormed
  simp only [isUuid, decide_eq_true_eq] at wellFormed
  exact wellFormed.1

/-- What comes after the tenant in the name of a room. -/
def RealtimeAudience.rest : RealtimeAudience → JsString
  | .tenant _ => []
  | .staff _ => js ":staff"
  | .ticket _ ticketId => js ":ticket:" ++ ticketId

theorem roomOf_eq (a : RealtimeAudience) : roomOf a = js "tenant:" ++ (a.tenantId.text ++ a.rest) := by
  cases a <;> simp [roomOf, RealtimeAudience.tenantId, RealtimeAudience.rest]

/-- The name of a room says the tenant and what comes after it. -/
theorem parts_of_roomOf {a b : RealtimeAudience} (same : roomOf a = roomOf b) :
    a.tenantId = b.tenantId ∧ a.rest = b.rest := by
  rw [roomOf_eq, roomOf_eq] at same
  have sameLength : a.tenantId.text.length = b.tenantId.text.length := by
    rw [UuidText.length_text, UuidText.length_text]
  obtain ⟨sameText, sameRest⟩ := List.append_inj (List.append_cancel_left same) sameLength
  exact ⟨UuidText.ext sameText, sameRest⟩

/-- Whatever a client sends as the id of a ticket, it names no room of anything else. -/
theorem roomOf_injective : Function.Injective roomOf := by
  intro a b same
  obtain ⟨sameTenant, sameRest⟩ := parts_of_roomOf same
  have staff : js ":staff" = [58, 115, 116, 97, 102, 102] := by decide
  have ticket : js ":ticket:" = [58, 116, 105, 99, 107, 101, 116, 58] := by decide
  cases a <;> cases b <;> simp_all [RealtimeAudience.tenantId, RealtimeAudience.rest]

/-- The room of an audience is not the own room of any socket. -/
theorem roomOf_ne_own (a : RealtimeAudience) (id : SocketId) : roomOf a ≠ id.text := by
  intro same
  apply id.outside
  rw [← same, roomOf_eq]
  exact List.prefix_append _ _

end Names

variable {M : Type} {history : List (Gateway M × GatewayEvent M)} {g g' : Gateway M} {event : GatewayEvent M}
  {id : SocketId} {ticketId : JsString}

/-- The socket has asked to watch the ticket, and has not taken it back since. -/
def Watches (history : List (Gateway M × GatewayEvent M)) (id : SocketId) (ticketId : JsString) : Prop :=
  ∃ earlier g later, history = earlier ++ (g, .watch id (.string ticketId)) :: later ∧
    ∀ entry ∈ later, entry.2 ≠ .unwatch id (.string ticketId)

theorem Watches.asked : Watches (history ++ [(g, .watch id (.string ticketId))]) id ticketId :=
  ⟨history, g, [], rfl, fun _ inside => by cases inside⟩

theorem Watches.after (watches : Watches history id ticketId) (kept : event ≠ .unwatch id (.string ticketId)) :
    Watches (history ++ [(g, event)]) id ticketId := by
  obtain ⟨earlier, g₀, later, rfl, notSince⟩ := watches
  refine ⟨earlier, g₀, later ++ [(g, event)], by simp, ?_⟩
  intro entry inside
  rcases List.mem_append.mp inside with old | new
  · exact notSince entry old
  · rw [List.mem_singleton.mp new]
    exact kept

/-- Whether a principal may be in the room of an audience, given what the socket has asked for. -/
def Entitled (history : List (Gateway M × GatewayEvent M)) (id : SocketId) (principal : AuthPrincipal) :
    RealtimeAudience → Prop
  | .tenant tenantId => principal.tenantId = tenantId
  | .staff tenantId => principal.tenantId = tenantId ∧ (principal.role = .AGENT ∨ principal.role = .ADMIN)
  | .ticket tenantId ticketId => principal.tenantId = tenantId ∧ Watches history id ticketId

theorem Entitled.after {principal : AuthPrincipal} {a : RealtimeAudience}
    (entitled : Entitled history id principal a)
    (kept : ∀ ticketId, a = .ticket principal.tenantId ticketId → event ≠ .unwatch id (.string ticketId)) :
    Entitled (history ++ [(g, event)]) id principal a := by
  cases a with
  | tenant tenantId => exact entitled
  | staff tenantId => exact entitled
  | ticket tenantId ticketId =>
      obtain ⟨rfl, watches⟩ := entitled
      exact ⟨rfl, watches.after (kept ticketId rfl)⟩

/-- Why a socket may be in a room: it is its own room, or one its principal is entitled to. The gateway knows
    every socket that is in the room of a ticket. -/
def Grounds (history : List (Gateway M × GatewayEvent M)) (state : Option SocketState) (id : SocketId)
    (principal : Option AuthPrincipal) (room : JsString) : Prop :=
  room = id.text ∨ ∃ p a, principal = some p ∧ room = roomOf a ∧ Entitled history id p a ∧
    ∀ tenantId ticketId, a = .ticket tenantId ticketId → state.isSome = true

/-- A socket is only in rooms it may be in, and the gateway remembers its principal. -/
structure Placed (history : List (Gateway M × GatewayEvent M)) (id : SocketId) (client : Option (Client M))
    (state : Option SocketState) : Prop where
  rooms : ∀ c, client = some c → ∀ room ∈ c.rooms, Grounds history state id c.handling.principal room
  known : ∀ s, state = some s → ∃ c, client = some c ∧ c.handling.principal = some s.principal

section Grounds

variable {client : Option (Client M)} {state state' : Option SocketState} {principal : Option AuthPrincipal}
  {room : JsString}

theorem Grounds.after (grounds : Grounds history state id principal room)
    (known : state.isSome = true → state'.isSome = true)
    (kept : ∀ p ticketId, principal = some p → state.isSome = true → room = roomOf (.ticket p.tenantId ticketId) →
      event ≠ .unwatch id (.string ticketId)) :
    Grounds (history ++ [(g, event)]) state' id principal room := by
  rcases grounds with own | ⟨p, a, isPrincipal, rfl, entitled, remembered⟩
  · exact .inl own
  · refine .inr ⟨p, a, isPrincipal, rfl, ?_, fun t i isTicket => known (remembered t i isTicket)⟩
    apply entitled.after
    intro ticketId isTicket
    exact kept p ticketId isPrincipal (remembered _ _ isTicket) (by rw [isTicket])

/-- An event that does not take a ticket back leaves a socket where it may be. -/
theorem Placed.after (placed : Placed history id client state)
    (kept : ∀ ticketId, event ≠ .unwatch id (.string ticketId)) :
    Placed (history ++ [(g, event)]) id client state where
  rooms c isClient room inside :=
    (placed.rooms c isClient room inside).after (fun known => known) fun _ ticketId _ _ _ => kept ticketId
  known := placed.known

/-- A socket that joins the room of an audience its principal is entitled to. -/
theorem Placed.join {c : Client M} {p : AuthPrincipal} {a : RealtimeAudience} {handling : Handling}
    (placed : Placed history id (some c) state) (kept : ∀ ticketId, event ≠ .unwatch id (.string ticketId))
    (entitled : Entitled (history ++ [(g, event)]) id p a) (isPrincipal : handling.principal = some p)
    (grown : ∀ q, c.handling.principal = some q → q = p)
    (remembered : ∀ tenantId ticketId, a = .ticket tenantId ticketId → state.isSome = true) :
    Placed (history ++ [(g, event)]) id (some ((c.join (roomOf a)).await handling)) state where
  rooms c' isClient room inside := by
    cases isClient
    change room ∈ c.rooms.insert (roomOf a) at inside
    rcases List.mem_insert_iff.mp inside with rfl | old
    · exact .inr ⟨p, a, isPrincipal, rfl, entitled, remembered⟩
    · rcases (placed.rooms c rfl room old).after (fun known => known) fun _ ticketId _ _ _ => kept ticketId with
        own | ⟨q, b, isOld, rest⟩
      · exact .inl own
      · cases grown q isOld
        exact .inr ⟨p, b, isPrincipal, rest⟩
  known s isState := by
    obtain ⟨c₀, same, remembers⟩ := placed.known s isState
    cases same
    exact ⟨_, rfl, by rw [grown s.principal remembers]; exact isPrincipal⟩

/-- A socket that has left all rooms, and that the gateway has forgotten. -/
theorem Placed.gone (client : Option (Client M)) : Placed history id (client.map Client.disconnect) none where
  rooms c isClient room inside := by
    obtain ⟨c₀, _, rfl⟩ := Option.map_eq_some_iff.mp isClient
    cases inside
  known s isState := by cases isState

end Grounds

/-- Every socket is only where it may be. -/
def Isolated (history : List (Gateway M × GatewayEvent M)) (g : Gateway M) : Prop :=
  ∀ id, Placed history id (g.clients.find? id) (g.sockets.find? id)

/-- What an event does to one socket leaves the others where they are. -/
theorem Isolated.change (isolated : Isolated history g) {f : Client M → Client M} {keeps : ∀ c, (f c).id = c.id}
    (kept : ∀ id' ticketId, id' ≠ id → event ≠ .unwatch id' (.string ticketId))
    (changed : ∀ c, g.clients.find? id = some c → Placed history id (some c) (g.sockets.find? id) →
      Placed (history ++ [(g, event)]) id (some (f c)) (g.sockets.find? id)) :
    Isolated (history ++ [(g, event)]) (g.change id f keeps) := by
  intro id'
  rw [find?_change]
  by_cases isSelf : id' = id
  · subst isSelf
    rw [if_pos rfl]
    have placed := isolated id'
    cases found : g.clients.find? id' with
    | none =>
        constructor
        · intro c isClient
          cases isClient
        · intro s isState
          obtain ⟨c, isClient, _⟩ := placed.known s isState
          cases found.symm.trans isClient
    | some c => exact changed c found (found ▸ placed)
  · rw [if_neg isSelf]
    exact (isolated id').after fun ticketId => kept id' ticketId isSelf

/-- An event that takes no ticket back leaves the sockets where they are. -/
theorem Isolated.after (isolated : Isolated history g)
    (kept : ∀ id ticketId, event ≠ .unwatch id (.string ticketId)) : Isolated (history ++ [(g', event)]) g :=
  fun id => (isolated id).after (kept id)

/-- A socket that disconnects is in no room at all, wherever it was. -/
theorem Isolated.disconnect (isolated : Isolated history g) (id : SocketId) : Isolated history (g.disconnect id) := by
  by_cases isOpen : (g.clients.find? id).map Client.connected = some true
  · intro id'
    rw [find?_disconnect isOpen, find?_disconnected isOpen]
    by_cases isSelf : id' = id
    · rw [if_pos isSelf, if_pos isSelf]
      exact .gone _
    · rw [if_neg isSelf, if_neg isSelf]
      exact isolated id'
  · rw [disconnect_of_gone isOpen]
    exact isolated

/-- A socket whose token is not valid is where it was. -/
theorem Placed.refused {c : Client M} {state : Option SocketState} (placed : Placed history id (some c) state)
    (verifying : c.handling = .verifying) (kept : ∀ ticketId, event ≠ .unwatch id (.string ticketId)) :
    Placed (history ++ [(g, event)]) id (some (c.await (.done none))) state where
  rooms c' isClient room inside := by
    cases isClient
    have grounds := placed.rooms c rfl room inside
    rw [verifying] at grounds
    exact grounds.after (fun known => known) fun _ ticketId _ _ _ => kept ticketId
  known s isState := by
    obtain ⟨c₀, same, remembers⟩ := placed.known s isState
    cases same
    rw [verifying] at remembers
    cases remembers

/-- A new socket is only in its own room. -/
theorem Placed.fresh : Placed history id (some (Client.fresh (M := M) id)) none where
  rooms c isClient room inside := by
    cases isClient
    exact .inl (List.mem_singleton.mp inside)
  known s isState := by cases isState

/-- The rooms of a socket that has left the room of a ticket. -/
theorem Placed.leave {c : Client M} {state : SocketState}
    (placed : Placed history id (some c) (some state)) :
    Placed (history ++ [(g, .unwatch id (.string ticketId))]) id
      (some (c.leave (roomOf (.ticket state.principal.tenantId ticketId)))) (some state) where
  rooms c' isClient room inside := by
    cases isClient
    obtain ⟨old, notLeft⟩ := List.mem_filter.mp inside
    obtain ⟨c₀, same, remembers⟩ := placed.known state rfl
    cases same
    refine (placed.rooms c rfl room old).after (fun known => known) ?_
    intro p other isPrincipal _ isRoom same
    cases isPrincipal.symm.trans remembers
    cases same
    exact of_decide_eq_true notLeft isRoom
  known s isState := by
    obtain ⟨c₀, same, remembers⟩ := placed.known s isState
    cases same
    exact ⟨_, rfl, remembers⟩

/-- A socket whose id is remembered with the principal its handling has. -/
theorem Placed.registered {c : Client M} {state : Option SocketState} {p : AuthPrincipal}
    (placed : Placed history id (some c) state) (same : c.handling.principal = some p)
    (kept : ∀ ticketId, event ≠ .unwatch id (.string ticketId)) (state' : SocketState)
    (remembered : state'.principal = p) :
    Placed (history ++ [(g, event)]) id (some (c.await (.done (some p)))) (some state') where
  rooms c' isClient room inside := by
    cases isClient
    change Grounds _ _ _ (some p) room
    rw [← same]
    exact (placed.rooms c rfl room inside).after (fun _ => rfl) fun _ ticketId _ _ _ => kept ticketId
  known s isState := by
    cases isState
    exact ⟨_, rfl, congrArg some remembered.symm⟩

/-- What was sent to a socket does not matter. -/
theorem Placed.map {client : Option (Client M)} {state : Option SocketState}
    (placed : Placed history id client state) {f : Client M → Client M} (sameRooms : ∀ c, (f c).rooms = c.rooms)
    (sameHandling : ∀ c, (f c).handling = c.handling) : Placed history id (client.map f) state where
  rooms c isClient room inside := by
    obtain ⟨c₀, found, rfl⟩ := Option.map_eq_some_iff.mp isClient
    rw [sameHandling]
    rw [sameRooms] at inside
    exact placed.rooms c₀ found room inside
  known s isState := by
    obtain ⟨c, found, remembers⟩ := placed.known s isState
    exact ⟨f c, congrArg _ found, by rw [sameHandling, remembers]⟩

theorem Isolated.connect (isolated : Isolated history g) (id : SocketId) :
    Isolated (history ++ [(g, .connect id)]) { g with clients := g.clients.insert (.fresh id) } := by
  intro id'
  rw [Table.find?_insert]
  have placed := isolated id'
  cases found : g.clients.find? id' with
  | some c =>
      rw [Option.some_or, ← found]
      exact placed.after fun _ same => by cases same
  | none =>
      rw [Option.none_or]
      split
      · rename_i isNew
        cases isNew
        change Placed _ id (some (Client.fresh id)) (g.sockets.find? id)
        cases known : g.sockets.find? id with
        | none => exact .fresh
        | some s =>
            obtain ⟨c, isClient, _⟩ := placed.known s known
            cases found.symm.trans isClient
      · rw [← found]
        exact placed.after fun _ same => by cases same

/-- A socket that joins the room of its staff after the room of its tenant. -/
theorem Isolated.staff (isolated : Isolated history g) {principal : AuthPrincipal}
    (waits : (g.clients.find? id).map Client.handling = some (.joinedTenant principal))
    (isStaff : hasAtLeastRole principal.role .AGENT = true) :
    Isolated (history ++ [(g, .joined id)])
      (g.change id (fun c => (c.join (roomOf (.staff principal.tenantId))).await (.joinedStaff principal)) fun _ => rfl) := by
  apply isolated.change (fun _ _ _ same => by cases same)
  intro c found placed
  have joined : c.handling = .joinedTenant principal := by simpa [found] using waits
  refine placed.join (fun _ same => by cases same) ⟨rfl, (hasAtLeastRole_agent_iff _).mp isStaff⟩ rfl ?_
    fun _ _ same => by cases same
  intro q isPrincipal
  rw [joined] at isPrincipal
  cases isPrincipal
  rfl

theorem Isolated.register (isolated : Isolated history g) {c : Client M} {principal : AuthPrincipal}
    (found : g.clients.find? id = some c) (same : c.handling.principal = some principal) :
    Isolated (history ++ [(g, .joined id)]) (g.register id principal) := by
  intro id'
  rw [find?_register, show (g.register id principal).clients.find? id' = _ from find?_change _ _]
  have placed := isolated id'
  by_cases isSelf : id' = id
  · subst isSelf
    rw [if_pos rfl, if_pos rfl, found]
    rw [found] at placed
    have kept : ∀ ticketId, GatewayEvent.joined (M := M) id' ≠ .unwatch id' (.string ticketId) := fun _ same => by
      cases same
    apply placed.registered same kept _
    cases g.sockets.find? id' <;> rfl
  · rw [if_neg isSelf, if_neg isSelf]
    exact placed.after fun _ same => by cases same

theorem Isolated.watch (isolated : Isolated history g) {state : SocketState}
    (known : g.sockets.find? id = some state) (ticketId : JsString) :
    Isolated (history ++ [(g, .watch id (.string ticketId))])
      (g.change id (Client.join (roomOf (.ticket state.principal.tenantId ticketId))) fun _ => rfl) := by
  apply isolated.change (fun _ _ _ same => by cases same)
  intro c found placed
  obtain ⟨c', isClient, remembers⟩ := placed.known state known
  cases isClient
  have entitled : Entitled (history ++ [(g, .watch id (.string ticketId))]) id state.principal
      (.ticket state.principal.tenantId ticketId) := ⟨rfl, .asked⟩
  have joined : ((c.join (roomOf (.ticket state.principal.tenantId ticketId))).await c.handling) =
      c.join (roomOf (.ticket state.principal.tenantId ticketId)) := rfl
  rw [← joined]
  refine placed.join (fun _ same => by cases same) entitled remembers ?_ fun _ _ _ => by rw [known]; rfl
  intro q isPrincipal
  cases isPrincipal.symm.trans remembers
  rfl

/-- An id is not watched by a socket the gateway does not know. -/
theorem Isolated.ignored (isolated : Isolated history g) {value : ClientValue}
    (ignored : g.sockets.find? id = none ∨ value = .other) : Isolated (history ++ [(g, .unwatch id value)]) g := by
  intro id'
  have placed := isolated id'
  constructor
  · intro c isClient room inside
    refine (placed.rooms c isClient room inside).after (fun known => known) ?_
    intro p ticketId _ known _ same
    cases same
    rcases ignored with unknown | isOther
    · rw [unknown] at known
      cases known
    · cases isOther
  · exact placed.known

theorem Isolated.publish (isolated : Isolated history g) (audience : RealtimeAudience) (message : M) :
    Isolated (history ++ [(g, .publish audience message)]) (g.publish audience message) := by
  intro id
  have placed : Placed (history ++ [(g, .publish audience message)]) id _ _ :=
    (isolated id).after fun _ same => by cases same
  rw [find?_publish]
  apply placed.map
  · intro c
    split <;> rfl
  · intro c
    split <;> rfl

theorem Isolated.step (isolated : Isolated history g) (taken : g.step event = some g') :
    Isolated (history ++ [(g, event)]) g' := by
  cases Gateway.step_stepped taken with
  | @connect id new => exact isolated.connect id
  | @refused id waits =>
      apply Isolated.disconnect
      apply isolated.change (fun _ _ _ same => by cases same)
      intro c found placed
      have verifying : c.handling = .verifying := by simpa [found] using waits
      exact placed.refused verifying fun _ same => by cases same
  | @verified id principal waits =>
      apply isolated.change (fun _ _ _ same => by cases same)
      intro c found placed
      have verifying : c.handling = .verifying := by simpa [found] using waits
      refine placed.join (fun _ same => by cases same) rfl rfl ?_ fun _ _ same => by cases same
      intro q isPrincipal
      rw [verifying] at isPrincipal
      cases isPrincipal
  | staff waits isStaff => exact isolated.staff waits isStaff
  | registered waits last same =>
      obtain ⟨c, found, rfl⟩ := Option.map_eq_some_iff.mp waits
      exact isolated.register found same
  | watched known valid => exact isolated.watch known _
  | @unwatched id state ticketId known =>
      refine isolated.change (fun id' _ isOther same => ?_) fun c found placed => ?_
      · cases same
        exact isOther rfl
      · rw [known] at placed ⊢
        exact placed.leave
  | ignoredWatch => exact isolated.after fun _ _ same => by cases same
  | ignoredUnwatch ignored => exact isolated.ignored ignored
  | @gone id isOpen => exact (isolated.after fun _ _ same => by cases same).disconnect id
  | @expired handle timer pending =>
      have still : Isolated history (g.clearTimeout handle) := isolated
      exact (still.after fun _ _ same => by cases same).disconnect timer.client
  | publish => exact isolated.publish _ _

theorem isolated_of_run (run : Run Gateway.step .initial history g) : Isolated history g := by
  induction run with
  | start =>
      intro id
      constructor
      · intro c isClient
        cases isClient
      · intro s isState
        cases isState
  | step run taken ih => exact ih.step taken

/-- A socket in the room of an audience is entitled to it: no other audience has a room of that name. -/
theorem Grounds.entitled {state : Option SocketState} {principal : Option AuthPrincipal} {a : RealtimeAudience}
    (grounds : Grounds history state id principal (roomOf a)) :
    ∃ p, principal = some p ∧ Entitled history id p a := by
  rcases grounds with own | ⟨p, b, isPrincipal, sameRoom, entitled, _⟩
  · exact absurd own (roomOf_ne_own a id)
  · rw [roomOf_injective sameRoom]
    exact ⟨p, isPrincipal, entitled⟩

/-- A message only reaches sockets of the tenant it is for: if it is for the staff, those of agents and
    administrators; if it is for those who watch a ticket, those that have asked for that very ticket and have
    not taken it back. -/
theorem publish_isolated {a : RealtimeAudience} {message : M} {c c' : Client M}
    (run : Run Gateway.step .initial history g) (published : g.step (.publish a message) = some g')
    (before : g.clients.find? id = some c) (after : g'.clients.find? id = some c')
    (reached : c'.received ≠ c.received) :
    ∃ principal, c.handling.principal = some principal ∧ principal.tenantId = a.tenantId ∧
      (∀ t, a = .staff t → principal.role = .AGENT ∨ principal.role = .ADMIN) ∧
      ∀ t ticketId, a = .ticket t ticketId → Watches history id ticketId := by
  cases published
  rw [find?_publish, before, Option.map_some] at after
  have inRoom : c.reachedBy (roomOf a) = true := by
    by_contra notInRoom
    rw [if_neg notInRoom] at after
    cases after
    exact reached rfl
  have member : roomOf a ∈ c.rooms := of_decide_eq_true (Bool.and_eq_true_iff.mp inRoom).2
  obtain ⟨principal, isPrincipal, entitled⟩ := ((isolated_of_run run id).rooms c before _ member).entitled
  refine ⟨principal, isPrincipal, ?_⟩
  cases a with
  | tenant tenantId => exact ⟨entitled, (fun _ same => by cases same), fun _ _ same => by cases same⟩
  | staff tenantId => exact ⟨entitled.1, fun _ _ => entitled.2, fun _ _ same => by cases same⟩
  | ticket tenantId ticketId =>
      refine ⟨entitled.1, (fun _ same => by cases same), fun t other same => ?_⟩
      cases same
      exact entitled.2

section Example

private def acme : UuidText :=
  ⟨js "11111111-1111-4111-8111-111111111111", by decide⟩

private def ana : SocketId :=
  ⟨js "a1", by decide⟩

/-- A socket connects as a viewer, watches the ticket `t:staff` and is sent a message about it. -/
private def watching : List (GatewayEvent Nat) :=
  [.connect ana, .verified ana (some ⟨js "u1", acme, .VIEWER⟩), .joined ana, .watch ana (.string (js "t:staff"))]

theorem publish_isolated_watching :
    ∃ history g, ∃ principal : AuthPrincipal, Run Gateway.step (.initial : Gateway Nat) history g ∧ principal.tenantId = acme ∧
      Watches history ana (js "t:staff") := by
  have possible : ((play Gateway.step .initial watching).bind fun g =>
      (g.step (.publish (.ticket acme (js "t:staff")) 7)).map fun g' =>
        ((g.clients.find? ana).map Client.received, (g'.clients.find? ana).map Client.received)) =
      some (some [], some [7]) := by decide
  obtain ⟨g, played, next⟩ := Option.bind_eq_some_iff.mp possible
  obtain ⟨g', published, received⟩ := Option.map_eq_some_iff.mp next
  obtain ⟨receivedBefore, receivedAfter⟩ := Prod.mk.inj received
  obtain ⟨c, before, isEmpty⟩ := Option.map_eq_some_iff.mp receivedBefore
  obtain ⟨c', after, isFull⟩ := Option.map_eq_some_iff.mp receivedAfter
  have reached : c'.received ≠ c.received := by simp [isEmpty, isFull]
  obtain ⟨principal, _, sameTenant, _, watches⟩ := publish_isolated (play_run played) published before after reached
  exact ⟨_, g, principal, play_run played, sameTenant, watches _ _ rfl⟩

end Example

end Helpdesk
