/-
Module: HelpdeskApi.Proofs.ForgottenSockets
Layer: Proofs
Purpose: Whether the gateway forgets the sockets that are gone. It forgets a socket when the socket disconnects,
  and `handleConnection` registers it without asking whether it has. A socket that disconnects during one of
  its awaits is registered afterwards and never forgotten; this is the one way to be left on the map.
Trusted boundary: none
Main exports: Forgets, RegistersOpen, forgets_iff, known_iff, forgets_iff_lives, stale_of_run
-/
import HelpdeskApi.Realtime.SocketLives

namespace Helpdesk

open Relational Transition

variable {M : Type} {history : List (Gateway M × GatewayEvent M)} {g g' : Gateway M} {event : GatewayEvent M}
  {id : SocketId}

/-- The socket has disconnected, and its handlers have returned. -/
def Client.isGone (c : Client M) : Prop :=
  c.connected = false ∧ c.handling.isOver = true

/-- Of a socket that is gone the gateway keeps no entry and no timer, and the keys of its map are connected
    sockets. -/
structure Forgets (g : Gateway M) : Prop where
  entries : ∀ c ∈ g.clients.rows, c.isGone → ∀ s ∈ g.sockets.rows, s.id ≠ c.id
  timers : ∀ c ∈ g.clients.rows, c.isGone → ∀ t ∈ g.timers.rows, t.client ≠ c.id
  keys : ∀ s ∈ g.sockets.rows, ∃ c ∈ g.clients.rows, c.id = s.id ∧ c.connected = true

/-- Where `handleConnection` goes on to register a socket, the socket is still connected. -/
def RegistersOpen (g : Gateway M) : GatewayEvent M → Prop
  | .joined id => ∀ c ∈ g.clients.find? id, c.handling.atLastAwait = true → c.connected = true
  | _ => True

instance (g : Gateway M) : DecidablePred (RegistersOpen g)
  | .joined id =>
      inferInstanceAs (Decidable (∀ c ∈ g.clients.find? id, c.handling.atLastAwait = true → c.connected = true))
  | .connect _ | .verified _ _ | .watch _ _ | .unwatch _ _ | .disconnect _ | .expire _ | .publish _ _ => .isTrue trivial

/-- The sockets that are gone and still known are the stale ones. -/
theorem stale_iff_known {c : Client M} (found : g.clients.find? id = some c) :
    g.presence id = .stale ↔ c.isGone ∧ (g.sockets.find? id).isSome = true := by
  rw [presence_eq found, Client.isGone]
  unfold Client.presence
  cases c.handling.isOver <;> cases c.connected <;> cases (g.sockets.find? id).isSome <;> simp

theorem forgets_iff_notStale (tracked : Tracked g) : Forgets g ↔ ∀ id, g.presence id ≠ .stale := by
  constructor
  · intro forgets id stale
    cases found : g.clients.find? id with
    | none =>
        rw [Gateway.presence, found] at stale
        cases stale
    | some c =>
        obtain ⟨gone, known⟩ := (stale_iff_known found).mp stale
        obtain ⟨s, isState⟩ := Option.isSome_iff_exists.mp known
        have sameId : s.id = c.id := (Table.key_of_find? isState).trans (Table.key_of_find? found).symm
        exact forgets.entries c (Table.mem_of_find? found) gone s (Table.mem_of_find? isState) sameId
  · intro fresh
    have unknown : ∀ c ∈ g.clients.rows, c.isGone → g.sockets.find? c.id = none := by
      intro c inside gone
      rw [← Option.not_isSome_iff_eq_none]
      intro known
      exact fresh c.id ((stale_iff_known (Table.find?_key inside)).mpr ⟨gone, known⟩)
    constructor
    · intro c inside gone s stored same
      have known : g.sockets.find? s.id = some s := Table.find?_key stored
      rw [same, unknown c inside gone] at known
      cases known
    · intro c inside gone t pending same
      obtain ⟨s, known, _⟩ := tracked.armed t.handle t (Table.find?_key pending)
      rw [same, unknown c inside gone] at known
      cases known
    · intro s stored
      have known : g.sockets.find? s.id = some s := Table.find?_key stored
      obtain ⟨c, found, ended⟩ := tracked.ended s.id s known
      refine ⟨c, Table.mem_of_find? found, Table.key_of_find? found, ?_⟩
      cases connected : c.connected with
      | true => rfl
      | false => exact absurd ((stale_iff_known found).mpr ⟨⟨connected, ended⟩, by rw [known]; rfl⟩) (fresh s.id)

/-- To register open sockets only is to register every socket in time. -/
theorem registersOpen_iff :
    RegistersOpen g event ↔ ∀ id k, g.lived id event = some k → Presence.InTime (g.presence id) k := by
  constructor
  · rintro isOpen id k lived early rfl
    obtain ⟨rfl, c, found, last⟩ := lived_eq_register_iff.mp lived
    have waits := Handling.waits_of_atLastAwait last
    rw [presence_eq found, Client.presence_of_waits waits, if_pos (isOpen c found last)] at early
    cases early
  · intro inTime
    cases event with
    | joined id =>
        intro c found last
        have waits := Handling.waits_of_atLastAwait last
        by_contra notOpen
        apply inTime id .register (lived_eq_register_iff.mpr ⟨rfl, c, found, last⟩)
        · rw [presence_eq found, Client.presence_of_waits waits, if_neg notOpen]
        · rfl
    | _ => trivial

/-- No socket is stale if and only if every socket was registered in time. -/
theorem notStale_iff_registersOpen (run : Run Gateway.step .initial history g) :
    (∀ id, g.presence id ≠ .stale) ↔ Meets RegistersOpen history := by
  have lives : (∀ id, g.presence id ≠ .stale) ↔
      ∀ id, Meets (fun g event => ∀ k, g.lived id event = some k → Presence.InTime (g.presence id) k) history := by
    apply forall_congr'
    intro id
    rw [Presence.notStale_iff (presence_run run id)]
    exact meets_filterMap (fun g => g.presence id) (fun g event => g.lived id event) Presence.InTime history
  rw [lives]
  constructor
  · intro meets entry member
    exact registersOpen_iff.mpr fun id => meets id entry member
  · intro meets id entry member
    exact registersOpen_iff.mp (meets entry member) id

/-- The gateway forgets every socket that is gone if and only if no socket was registered after it had
    disconnected. -/
theorem forgets_iff (run : Run Gateway.step .initial history g) : Forgets g ↔ Meets RegistersOpen history :=
  (forgets_iff_notStale (tracked_of_run run)).trans (notStale_iff_registersOpen run)

/-- Where all are registered in time, the keys of the map are the sockets that are connected and through with
    their handling, and no others. -/
theorem known_iff (run : Run Gateway.step .initial history g) (inTime : Meets RegistersOpen history) :
    (g.sockets.find? id).isSome = true ↔
      ∃ c, g.clients.find? id = some c ∧ c.connected = true ∧ c.handling.isOver = true := by
  constructor
  · intro known
    obtain ⟨s, isState⟩ := Option.isSome_iff_exists.mp known
    obtain ⟨c, found, ended⟩ := (tracked_of_run run).ended id s isState
    refine ⟨c, found, ?_, ended⟩
    have fresh : g.presence id ≠ .stale := (notStale_iff_registersOpen run).mpr inTime id
    cases connected : c.connected with
    | true => rfl
    | false => exact absurd ((stale_iff_known found).mpr ⟨⟨connected, ended⟩, known⟩) fresh
  · rintro ⟨c, found, isOpen, ended⟩
    exact knows_of_run run id c found isOpen ended

/-- What a run was to a socket. -/
def lives (history : List (Gateway M × GatewayEvent M)) (id : SocketId) : List Presence.Move :=
  history.filterMap fun entry => entry.1.lived id entry.2

/-- In other words: no socket came, disconnected, and was registered. -/
theorem forgets_iff_lives (run : Run Gateway.step .initial history g) :
    Forgets g ↔ ∀ id, lives history id ≠ [.come, .leave, .register] := by
  rw [forgets_iff_notStale (tracked_of_run run)]
  apply forall_congr'
  intro id
  rw [Ne, Presence.stale_iff (presence_run run id), List.map_filterMap]
  simp only [Option.map_map, Function.comp_def, Option.map_id', lives, ne_eq]

/-- What the gateway has once failed to forget it never forgets, not even when the timer fires. -/
theorem stale_of_run {g₀ : Gateway M} {earlier : List (Gateway M × GatewayEvent M)}
    (before : Run Gateway.step .initial earlier g₀) (after : Run Gateway.step g₀ history g)
    (stale : g₀.presence id = .stale) : g.presence id = .stale := by
  induction after with
  | start => exact stale
  | step after taken ih =>
      have run := before.append after
      have lived := lived_of_step (tracked_of_run run) (knows_of_run run id) taken
      unfold Lived at lived
      cases seen : Gateway.lived _ id _ with
      | none =>
          rw [seen] at lived
          exact lived.trans ih
      | some k =>
          rw [seen, ih] at lived
          change Presence.step .stale k = _ at lived
          rw [Presence.step_stale] at lived
          cases lived

section Example

private def globex : UuidText :=
  ⟨js "22222222-2222-4222-8222-222222222222", by decide⟩

private def bea : SocketId :=
  ⟨js "b1", by decide⟩

private def leo : SocketId :=
  ⟨js "c1", by decide⟩

/-- A socket disconnects while its room is joined. -/
def hastyLeave : List (GatewayEvent Nat) :=
  [.connect bea, .verified bea (some ⟨js "u1", globex, .VIEWER⟩), .disconnect bea, .joined bea]

/-- The socket is registered after it has disconnected, and stays on the map. -/
theorem not_forgets_hastyLeave :
    ¬∀ (history : List (Gateway Nat × GatewayEvent Nat)) (g : Gateway Nat),
      Run Gateway.step .initial history g → Forgets g := by
  intro always
  have possible : (play Gateway.step .initial hastyLeave).map (fun g => g.presence bea) = some .stale := by decide
  obtain ⟨g, played, stale⟩ := Option.map_eq_some_iff.mp possible
  have run := play_run played
  exact (forgets_iff_notStale (tracked_of_run run)).mp (always _ g run) bea stale

/-- One socket disconnects, the other one is closed when its token expires, and both were registered before. -/
def patientLeave : List (GatewayEvent Nat) :=
  [.connect bea, .verified bea (some ⟨js "u1", globex, .VIEWER⟩), .connect leo, .joined bea,
    .verified leo (some ⟨js "u2", globex, .AGENT⟩), .joined leo, .disconnect bea, .joined leo, .expire 1]

theorem forgets_patientLeave :
    ∃ g, play Gateway.step .initial patientLeave = some g ∧
      (Forgets g ↔ Meets RegistersOpen (playHistory Gateway.step .initial patientLeave)) ∧ Forgets g := by
  have possible : (play Gateway.step .initial patientLeave).isSome = true := by decide
  have meets : Meets RegistersOpen (playHistory Gateway.step .initial patientLeave) := by
    unfold Meets
    decide
  obtain ⟨g, played⟩ := Option.isSome_iff_exists.mp possible
  have exactly := forgets_iff (play_run played)
  exact ⟨g, played, exactly, exactly.mpr meets⟩

end Example

end Helpdesk
