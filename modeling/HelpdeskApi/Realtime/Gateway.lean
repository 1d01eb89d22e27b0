/-
Module: HelpdeskApi.Realtime.Gateway
Layer: Realtime
Purpose: The gateway that pushes messages to the sockets of the people who may see them. A socket is known
  by the rooms it has joined; the names of rooms are put together from strings, one of which a client can
  choose. `handleConnection` waits after every room it joins, and anything can happen meanwhile. What the
  gateway remembers of a socket it forgets when the socket disconnects, which it is told once.
Trusted boundary: human-reviewed spec
Main exports: JsString, UuidText, RealtimeAudience, roomOf, AuthPrincipal, SocketId, Client, SocketState,
  Timeout, Gateway, GatewayEvent, Gateway.step, Gateway.step_stepped
-/
import HelpdeskApi.Store.Schema
import HelpdeskApi.Library.Runs

namespace Helpdesk

open Relational

/-- A JavaScript string: any sequence of UTF-16 code units. -/
abbrev JsString :=
  List UInt16

/-- The code units of a character. -/
def utf16 (c : Char) : JsString :=
  if c.toNat < 0x10000 then [.ofNat c.toNat]
  else [.ofNat (0xD800 + (c.toNat - 0x10000) / 0x400), .ofNat (0xDC00 + (c.toNat - 0x10000) % 0x400)]

/-- A string literal. -/
def js (s : String) : JsString :=
  s.toList.flatMap utf16

/-- A hexadecimal digit. -/
def isHexDigit (u : UInt16) : Bool :=
  (48 ≤ u ∧ u ≤ 57) ∨ (65 ≤ u ∧ u ≤ 70) ∨ (97 ≤ u ∧ u ≤ 102)

/-- `8-4-4-4-12` hexadecimal digits. -/
def isUuid (s : JsString) : Bool :=
  s.length = 36 ∧ (s.mapIdx fun i u => if i ∈ [8, 13, 18, 23] then u == 45 else isHexDigit u).all id

/-- A UUID in text. -/
@[ext]
structure UuidText where
  text : JsString
  wellFormed : isUuid text = true
deriving DecidableEq

/-- Whom a message is for. -/
inductive RealtimeAudience where
  | tenant (tenantId : UuidText)
  | staff (tenantId : UuidText)
  | ticket (tenantId : UuidText) (ticketId : JsString)
deriving DecidableEq

def RealtimeAudience.tenantId : RealtimeAudience → UuidText
  | .tenant tenantId => tenantId
  | .staff tenantId => tenantId
  | .ticket tenantId _ => tenantId

def roomOf : RealtimeAudience → JsString
  | .tenant tenantId => js "tenant:" ++ tenantId.text
  | .staff tenantId => js "tenant:" ++ tenantId.text ++ js ":staff"
  | .ticket tenantId ticketId => js "tenant:" ++ tenantId.text ++ js ":ticket:" ++ ticketId

/-- What a verified token says. -/
structure AuthPrincipal where
  userId : JsString
  tenantId : UuidText
  role : Role
deriving DecidableEq

/-- The id of a socket, which is the name of a room only this socket is in. -/
structure SocketId where
  text : JsString
  outside : ¬js "tenant:" <+: text
deriving DecidableEq

/-- Where `handleConnection` is: it waits for the token to be verified, then for the room of the tenant to
    be joined, then for the room of the staff, unless the socket does not join it; then it is over. -/
inductive Handling where
  | verifying
  | joinedTenant (principal : AuthPrincipal)
  | joinedStaff (principal : AuthPrincipal)
  | done (principal : Option AuthPrincipal)
deriving DecidableEq

/-- The principal whose token was verified. -/
def Handling.principal : Handling → Option AuthPrincipal
  | .verifying => none
  | .joinedTenant principal => some principal
  | .joinedStaff principal => some principal
  | .done principal => principal

/-- Whether `handleConnection` is at its last `await`: where it goes on, it registers the socket. -/
def Handling.atLastAwait : Handling → Bool
  | .joinedTenant principal => !hasAtLeastRole principal.role .AGENT
  | .joinedStaff _ => true
  | _ => false

/-- Whether `handleConnection` has returned. -/
def Handling.isOver : Handling → Bool
  | .done _ => true
  | _ => false

theorem Handling.waits_of_atLastAwait {handling : Handling} (last : handling.atLastAwait = true) :
    handling.isOver = false := by
  cases handling with
  | verifying => cases last
  | joinedTenant => rfl
  | joinedStaff => rfl
  | done => cases last

/-- What a client sends as the id of a ticket. -/
inductive ClientValue where
  | string (s : JsString)
  | other
deriving DecidableEq

variable {M : Type}

/-- A socket and what was sent to it. -/
structure Client (M : Type) where
  id : SocketId
  connected : Bool
  rooms : List JsString
  handling : Handling
  received : List M

/-- What the gateway remembers of a socket: who it is, and the timer that closes it. -/
structure SocketState where
  id : SocketId
  principal : AuthPrincipal
  expiry : Nat

/-- A timer that is set: it closes its socket when the token of the socket expires. -/
structure Timeout where
  handle : Nat
  client : SocketId

instance : Keyed (Client M) SocketId := ⟨Client.id⟩

instance : Keyed SocketState SocketId := ⟨SocketState.id⟩

instance : Keyed Timeout Nat := ⟨Timeout.handle⟩

@[simp] theorem key_client (c : Client M) : Keyed.key c = c.id := rfl

@[simp] theorem key_socketState (s : SocketState) : Keyed.key s = s.id := rfl

@[simp] theorem key_timeout (t : Timeout) : Keyed.key t = t.handle := rfl

namespace Client

/-- A socket that has just connected is in its own room. -/
def fresh (id : SocketId) : Client M where
  id := id
  connected := true
  rooms := [id.text]
  handling := .verifying
  received := []

def join (room : JsString) (c : Client M) : Client M :=
  { c with rooms := c.rooms.insert room }

def leave (room : JsString) (c : Client M) : Client M :=
  { c with rooms := c.rooms.filter (· ≠ room) }

def await (handling : Handling) (c : Client M) : Client M :=
  { c with handling := handling }

/-- A socket that is gone has left all rooms. -/
def disconnect (c : Client M) : Client M :=
  { c with connected := false, rooms := [] }

/-- Whether what is emitted to a room reaches the socket. -/
def reachedBy (room : JsString) (c : Client M) : Bool :=
  c.connected && decide (room ∈ c.rooms)

def receive (message : M) (c : Client M) : Client M :=
  { c with received := c.received ++ [message] }

end Client

/-- The sockets, of all processes, what the gateways remember of them, and the timers that are set. -/
structure Gateway (M : Type) where
  clients : Table (Client M)
  sockets : Table SocketState
  timers : Table Timeout
  nextTimer : Nat

/-- What can happen next. The token of a socket may turn out not to be valid, or be missing. -/
inductive GatewayEvent (M : Type) where
  | connect (id : SocketId)
  | verified (id : SocketId) (principal : Option AuthPrincipal)
  | joined (id : SocketId)
  | watch (id : SocketId) (ticketId : ClientValue)
  | unwatch (id : SocketId) (ticketId : ClientValue)
  | disconnect (id : SocketId)
  | expire (handle : Nat)
  | publish (audience : RealtimeAudience) (message : M)

namespace Gateway

def initial : Gateway M where
  clients := .empty
  sockets := .empty
  timers := .empty
  nextTimer := 0

/-- Change a socket. -/
def change (g : Gateway M) (id : SocketId) (f : Client M → Client M) (keeps : ∀ c, (f c).id = c.id) : Gateway M :=
  { g with clients := g.clients.modify id f keeps }

/-- A timer that has fired, or that is cleared, is set no more. -/
def clearTimeout (g : Gateway M) (handle : Nat) : Gateway M :=
  { g with timers := g.timers.deleteWhere fun t => t.handle = handle }

/-- `setTimeout` answers with a handle that no timer has had. When it fires is left open. -/
def scheduleExpiry (g : Gateway M) (id : SocketId) : Nat × Gateway M :=
  (g.nextTimer,
    { g with
      timers := g.timers.insert { handle := g.nextTimer, client := id }
      nextTimer := g.nextTimer + 1 })

def handleDisconnect (g : Gateway M) (id : SocketId) : Gateway M :=
  match g.sockets.find? id with
  | none => g
  | some state => { g.clearTimeout state.expiry with sockets := g.sockets.deleteWhere fun s => s.id = id }

/-- The socket disconnects, at either end. `handleDisconnect` is told if it was open, and never again:
    `client.disconnect` does nothing to a socket that is gone. -/
def disconnect (g : Gateway M) (id : SocketId) : Gateway M :=
  match (g.clients.find? id).map Client.connected with
  | some true => (g.change id Client.disconnect fun _ => rfl).handleDisconnect id
  | _ => g

/-- `this.sockets.set`, at the end of `handleConnection`: whether the socket is still there is not asked. -/
def register (g : Gateway M) (id : SocketId) (principal : AuthPrincipal) : Gateway M :=
  let (expiry, g) := g.scheduleExpiry id
  { g with
    clients := g.clients.modify id (Client.await (.done (some principal))) fun _ => rfl
    sockets := g.sockets.upsert { id := id, principal := principal, expiry := expiry }
      (fun s => { s with principal := principal, expiry := expiry }) fun _ => rfl }

/-- The reason a client is given that has not shown a valid token. -/
def CLOSE_UNAUTHORIZED : String :=
  "unauthorized"

/-- `watchTicket`: its answer, the id that is watched or an error, and the gateway after it. -/
def watchTicket (g : Gateway M) (id : SocketId) (ticketId : ClientValue) :
    Except String JsString × Gateway M :=
  match g.sockets.find? id with
  | none => (.error CLOSE_UNAUTHORIZED, g)
  | some state =>
      match ticketId with
      | .string (u :: rest) =>
          (.ok (u :: rest),
            g.change id (Client.join (roomOf (.ticket state.principal.tenantId (u :: rest)))) fun _ => rfl)
      | _ => (.error "ticket_id_invalido", g)

def unwatchTicket (g : Gateway M) (id : SocketId) (ticketId : ClientValue) : Gateway M :=
  match g.sockets.find? id with
  | none => g
  | some state =>
      match ticketId with
      | .string ticketId =>
          g.change id (Client.leave (roomOf (.ticket state.principal.tenantId ticketId))) fun _ => rfl
      | .other => g

/-- `publish`: `server.to(room).emit(event, payload)`. -/
def publish (g : Gateway M) (audience : RealtimeAudience) (message : M) : Gateway M :=
  { g with
    clients := g.clients.updateWhere (Client.reachedBy (roomOf audience)) (Client.receive message) fun _ => rfl }

def step (g : Gateway M) : GatewayEvent M → Option (Gateway M)
  | .connect id =>
      match g.clients.find? id with
      | none => some { g with clients := g.clients.insert (.fresh id) }
      | some _ => none
  | .verified id principal =>
      match (g.clients.find? id).map Client.handling with
      | some .verifying =>
          match principal with
          | none => some ((g.change id (Client.await (.done none)) fun _ => rfl).disconnect id)
          | some principal =>
              some <| g.change id
                (fun c => (c.join (roomOf (.tenant principal.tenantId))).await (.joinedTenant principal)) fun _ => rfl
      | _ => none
  | .joined id =>
      match (g.clients.find? id).map Client.handling with
      | some (.joinedTenant principal) =>
          if hasAtLeastRole principal.role .AGENT then
            some <| g.change id
              (fun c => (c.join (roomOf (.staff principal.tenantId))).await (.joinedStaff principal)) fun _ => rfl
          else some (g.register id principal)
      | some (.joinedStaff principal) => some (g.register id principal)
      | _ => none
  | .watch id ticketId => some (g.watchTicket id ticketId).2
  | .unwatch id ticketId => some (g.unwatchTicket id ticketId)
  | .disconnect id =>
      match (g.clients.find? id).map Client.connected with
      | some true => some (g.disconnect id)
      | _ => none
  | .expire handle =>
      match g.timers.find? handle with
      | some timer => some ((g.clearTimeout handle).disconnect timer.client)
      | none => none
  | .publish audience message => some (g.publish audience message)

/-- Everything an event can do, one constructor for each way it can go. -/
inductive Stepped (g : Gateway M) : GatewayEvent M → Gateway M → Prop where
  | connect {id : SocketId} (new : g.clients.find? id = none) :
      Stepped g (.connect id) { g with clients := g.clients.insert (.fresh id) }
  | refused {id : SocketId} (waits : (g.clients.find? id).map Client.handling = some .verifying) :
      Stepped g (.verified id none) ((g.change id (Client.await (.done none)) fun _ => rfl).disconnect id)
  | verified {id : SocketId} {principal : AuthPrincipal}
      (waits : (g.clients.find? id).map Client.handling = some .verifying) :
      Stepped g (.verified id (some principal))
        (g.change id (fun c => (c.join (roomOf (.tenant principal.tenantId))).await (.joinedTenant principal))
          fun _ => rfl)
  | staff {id : SocketId} {principal : AuthPrincipal}
      (waits : (g.clients.find? id).map Client.handling = some (.joinedTenant principal))
      (isStaff : hasAtLeastRole principal.role .AGENT = true) :
      Stepped g (.joined id)
        (g.change id (fun c => (c.join (roomOf (.staff principal.tenantId))).await (.joinedStaff principal))
          fun _ => rfl)
  | registered {id : SocketId} {handling : Handling} {principal : AuthPrincipal}
      (waits : (g.clients.find? id).map Client.handling = some handling) (last : handling.atLastAwait = true)
      (same : handling.principal = some principal) : Stepped g (.joined id) (g.register id principal)
  | watched {id : SocketId} {state : SocketState} {ticketId : JsString} (known : g.sockets.find? id = some state)
      (valid : ticketId ≠ []) :
      Stepped g (.watch id (.string ticketId))
        (g.change id (Client.join (roomOf (.ticket state.principal.tenantId ticketId))) fun _ => rfl)
  | unwatched {id : SocketId} {state : SocketState} {ticketId : JsString}
      (known : g.sockets.find? id = some state) :
      Stepped g (.unwatch id (.string ticketId))
        (g.change id (Client.leave (roomOf (.ticket state.principal.tenantId ticketId))) fun _ => rfl)
  | ignoredWatch {id : SocketId} {ticketId : ClientValue} : Stepped g (.watch id ticketId) g
  | ignoredUnwatch {id : SocketId} {ticketId : ClientValue}
      (ignored : g.sockets.find? id = none ∨ ticketId = .other) : Stepped g (.unwatch id ticketId) g
  | gone {id : SocketId} (isOpen : (g.clients.find? id).map Client.connected = some true) :
      Stepped g (.disconnect id) (g.disconnect id)
  | expired {handle : Nat} {timer : Timeout} (pending : g.timers.find? handle = some timer) :
      Stepped g (.expire handle) ((g.clearTimeout handle).disconnect timer.client)
  | publish {audience : RealtimeAudience} {message : M} :
      Stepped g (.publish audience message) (g.publish audience message)

theorem step_stepped {g g' : Gateway M} {event : GatewayEvent M} (taken : g.step event = some g') :
    g.Stepped event g' := by
  cases event with
  | connect id =>
      simp only [step] at taken
      split at taken
      · rename_i new
        exact (Option.some.inj taken) ▸ .connect new
      · cases taken
  | verified id principal =>
      simp only [step] at taken
      split at taken
      · rename_i waits
        cases principal with
        | none => exact (Option.some.inj taken) ▸ .refused waits
        | some principal => exact (Option.some.inj taken) ▸ .verified waits
      · cases taken
  | joined id =>
      simp only [step] at taken
      split at taken
      · rename_i principal waits
        split at taken
        · rename_i isStaff
          exact (Option.some.inj taken) ▸ .staff waits isStaff
        · rename_i notStaff
          exact (Option.some.inj taken) ▸ .registered waits (by simp [Handling.atLastAwait, notStaff]) rfl
      · rename_i principal waits
        exact (Option.some.inj taken) ▸ .registered waits rfl rfl
      · cases taken
  | watch id ticketId =>
      simp only [step, watchTicket, Option.some.injEq] at taken
      split at taken
      · exact taken ▸ .ignoredWatch
      · rename_i state known
        split at taken
        · exact taken ▸ .watched known (List.cons_ne_nil _ _)
        · exact taken ▸ .ignoredWatch
  | unwatch id ticketId =>
      simp only [step, unwatchTicket, Option.some.injEq] at taken
      split at taken
      · rename_i unknown
        exact taken ▸ .ignoredUnwatch (.inl unknown)
      · rename_i state known
        cases ticketId with
        | string ticketId => exact taken ▸ .unwatched known
        | other => exact taken ▸ .ignoredUnwatch (.inr rfl)
  | disconnect id =>
      simp only [step] at taken
      split at taken
      · rename_i isOpen
        exact (Option.some.inj taken) ▸ .gone isOpen
      · cases taken
  | expire handle =>
      simp only [step] at taken
      split at taken
      · rename_i timer pending
        exact (Option.some.inj taken) ▸ .expired pending
      · cases taken
  | publish audience message => exact (Option.some.inj taken) ▸ .publish

end Gateway

section Lookups

variable {g : Gateway M} {id id' : SocketId}

theorem find?_change (f : Client M → Client M) (keeps : ∀ c, (f c).id = c.id) :
    (g.change id f keeps).clients.find? id' =
      if id' = id then (g.clients.find? id').map f else g.clients.find? id' := by
  rw [Gateway.change, Table.find?_modify]
  split <;> simp

theorem find?_changed {c : Client M} (found : g.clients.find? id = some c) (f : Client M → Client M)
    (keeps : ∀ c, (f c).id = c.id) : (g.change id f keeps).clients.find? id = some (f c) := by
  rw [find?_change, if_pos rfl, found, Option.map_some]

/-- `handleDisconnect` does nothing to the sockets themselves. -/
theorem clients_handleDisconnect : (g.handleDisconnect id).clients = g.clients := by
  unfold Gateway.handleDisconnect
  split <;> rfl

theorem find?_forgotten : (g.handleDisconnect id).sockets.find? id' =
    if id' = id then none else g.sockets.find? id' := by
  unfold Gateway.handleDisconnect
  split
  · rename_i unknown
    split
    · rename_i same
      rw [same, unknown]
    · rfl
  · exact Table.find?_deleteKey g.sockets id id'

/-- A socket that is not open does not disconnect. -/
theorem disconnect_of_gone (gone : (g.clients.find? id).map Client.connected ≠ some true) : g.disconnect id = g := by
  unfold Gateway.disconnect
  split
  · rename_i isOpen
    exact absurd isOpen gone
  · rfl

theorem find?_disconnect (isOpen : (g.clients.find? id).map Client.connected = some true) :
    (g.disconnect id).clients.find? id' =
      if id' = id then (g.clients.find? id').map Client.disconnect else g.clients.find? id' := by
  rw [Gateway.disconnect, isOpen]
  change ((g.change id Client.disconnect _).handleDisconnect id).clients.find? id' = _
  rw [clients_handleDisconnect]
  exact find?_change _ _

theorem find?_disconnected (isOpen : (g.clients.find? id).map Client.connected = some true) :
    (g.disconnect id).sockets.find? id' = if id' = id then none else g.sockets.find? id' := by
  rw [Gateway.disconnect, isOpen]
  change ((g.change id Client.disconnect _).handleDisconnect id).sockets.find? id' = _
  rw [find?_forgotten]
  rfl

theorem find?_cleared {handle handle' : Nat} : (g.clearTimeout handle).timers.find? handle' =
    if handle' = handle then none else g.timers.find? handle' :=
  Table.find?_deleteKey g.timers handle handle'

/-- The timers that are left once a socket has disconnected: not the one of its entry. -/
theorem pending_of_disconnect (isOpen : (g.clients.find? id).map Client.connected = some true) {handle : Nat}
    {t : Timeout} (pending : (g.disconnect id).timers.find? handle = some t) :
    g.timers.find? handle = some t ∧ ∀ s, g.sockets.find? id = some s → s.expiry ≠ handle := by
  rw [Gateway.disconnect, isOpen] at pending
  change ((g.change id Client.disconnect _).handleDisconnect id).timers.find? handle = some t at pending
  unfold Gateway.handleDisconnect at pending
  split at pending
  · rename_i unknown
    exact ⟨pending, fun s known => absurd (known.symm.trans unknown) (Option.some_ne_none s)⟩
  · rename_i state known
    change (g.clearTimeout state.expiry).timers.find? handle = some t at pending
    rw [find?_cleared] at pending
    split at pending
    · cases pending
    · rename_i other
      refine ⟨pending, fun s known' => ?_⟩
      cases known.symm.trans known'
      exact fun same => other same.symm

theorem find?_publish (a : RealtimeAudience) (m : M) :
    (g.publish a m).clients.find? id' =
      (g.clients.find? id').map fun c => if c.reachedBy (roomOf a) then c.receive m else c :=
  Table.find?_updateWhere g.clients _ (Client.receive m) (fun _ => rfl) id'

theorem find?_register (principal : AuthPrincipal) :
    (g.register id principal).sockets.find? id' =
      if id' = id then
        some ((g.sockets.find? id').elim ⟨id, principal, g.nextTimer⟩ fun s =>
          { s with principal := principal, expiry := g.nextTimer })
      else g.sockets.find? id' :=
  Table.find?_upsert _ _ _ _ _

theorem find?_scheduled (principal : AuthPrincipal) {handle : Nat} :
    (g.register id principal).timers.find? handle =
      (g.timers.find? handle).or (if g.nextTimer = handle then some ⟨g.nextTimer, id⟩ else none) :=
  Table.find?_insert g.timers _ handle

end Lookups

end Helpdesk
