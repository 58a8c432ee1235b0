import FaceVec.Ws.Grants
import FaceVec.Ws.Liveness

/-!
What a closed socket leaves behind. `close` empties its subscriptions at once,
but a check that is granted afterwards subscribes the closed socket again, and
no later event takes it out of the registry.
-/

namespace FaceVec.Ws

open Interleaving Attendance Auth Courses

variable {E K Payload : Type} {ids : IdText}

/-- The close event of the socket has been handled. -/
def IsClosed (store : Store ids E K Payload) (socket : SocketId) : Prop :=
  ∃ state : Socket, store.sockets[socket]? = some state ∧ state.readyState = .CLOSED

/-- The socket is in no subscriber set, and its own set is empty. -/
structure Forgotten (store : Store ids E K Payload) (socket : SocketId) : Prop where
  unlisted : ∀ replica topic,
    socket ∉ Registry.members (store.registries replica).bySession topic
  unsubscribed : ∀ replica, (store.registries replica).subscriptions socket = []

def Traceless (store : Store ids E K Payload) : Prop :=
  ∀ socket, IsClosed store socket → Forgotten store socket

/-- The step grants a check of a socket that is closed. -/
def Late (system : System (Store ids E K Payload) (Handler E K))
    (event : Event Input (Change ids E K Payload)) : Prop :=
  ∃ socket subscription, grants system event = some (socket, subscription) ∧
    IsClosed system.store socket

section Closing

variable (store : Store ids E K Payload) (socket : SocketId)

theorem changing_found (other : SocketId) (change : Socket → Socket) (state : Socket)
    (found : (store.changing other change).sockets[socket]? = some state) :
    ∃ old : Socket, store.sockets[socket]? = some old ∧
      state = if other = socket then change old else old := by
  rw [Store.changing, List.getElem?_modify] at found
  obtain ⟨old, stored, rfl⟩ := Option.map_eq_some_iff.mp found
  exact ⟨old, stored, rfl⟩

theorem heartbeat_closed (replica : Nat) (state : Socket)
    (closed : (heartbeat replica state).readyState = .CLOSED) : state.readyState = .CLOSED := by
  unfold heartbeat at closed
  split at closed
  · split at closed
    · exact closed
    · cases closed
  · exact closed

theorem ambient_closed (change : Change ids E K Payload) [LinearOrder K]
    (closed : IsClosed (ambient ids change store) socket) :
    closes socket (.env change : Event Input (Change ids E K Payload)) ∨ IsClosed store socket := by
  cases change with
  | publish replica live redisReady => cases redisReady <;> exact Or.inr closed
  | receive replica =>
      simp only [ambient] at closed
      split at closed <;> exact Or.inr closed
  | heartbeat replica =>
      obtain ⟨state, found, gone⟩ := closed
      simp only [ambient, List.getElem?_map] at found
      obtain ⟨old, stored, rfl⟩ := Option.map_eq_some_iff.mp found
      exact Or.inr ⟨old, stored, heartbeat_closed replica old gone⟩
  | pong other =>
      obtain ⟨state, found, gone⟩ := closed
      obtain ⟨old, stored, rfl⟩ := changing_found store socket other _ state found
      refine Or.inr ⟨old, stored, ?_⟩
      split at gone <;> exact gone
  | closing other =>
      obtain ⟨state, found, gone⟩ := closed
      obtain ⟨old, stored, rfl⟩ := changing_found store socket other _ state found
      refine Or.inr ⟨old, stored, ?_⟩
      split at gone
      · split at gone
        · cases gone
        · exact gone
      · exact gone
  | closed other =>
      obtain ⟨state, found, gone⟩ := closed
      rw [ambient, registering_sockets] at found
      obtain ⟨old, stored, rfl⟩ := changing_found store socket other _ state found
      split at gone
      · next same => exact Or.inl same
      · exact Or.inr ⟨old, stored, gone⟩
  | _ => exact Or.inr closed

theorem onMessage_sockets (data : Data) :
    (onMessage (E := E) (K := K) ids socket data store).1.sockets = store.sockets := by
  unfold onMessage
  split
  · simp
  · rfl
  · split
    · split <;> simp
    · split
      · split <;> simp
      · split <;> simp

theorem handleUpgrade_closed [Field K] [LinearOrder K] [FloorRing K] (input : Input)
    (handler : Handler E K)
    (closed : IsClosed (handleUpgrade ids input store handler).1 socket) : IsClosed store socket := by
  rcases handleUpgrade_cases store input handler with same | ⟨state, mark, opened, same⟩
  · rwa [same] at closed
  · obtain ⟨later, found, gone⟩ := closed
    rw [same, onConnection, send_sockets, List.getElem?_append] at found
    split at found
    · exact ⟨later, found, gone⟩
    · have new := List.mem_singleton.mp (List.mem_of_getElem? found)
      rw [new, opened] at gone
      cases gone

end Closing

section Steps

variable [Field K] [LinearOrder K] [FloorRing K]
variable (system : System (Store ids E K Payload) (Handler E K))
  (event : Event Input (Change ids E K Payload))

theorem step_closed (socket : SocketId) (closed : IsClosed ((server ids).step system event).store socket) :
    closes socket event ∨ IsClosed system.store socket := by
  cases event with
  | env change => exact ambient_closed system.store socket change closed
  | act index input =>
      right
      rw [step_store] at closed
      simp only [server, exec] at closed
      split at closed
      · simpa [IsClosed, onMessage_sockets] using closed
      · simpa [IsClosed, checkAccess_sockets] using closed
      · exact handleUpgrade_closed system.store socket _ _ closed

theorem step_traceless (housed : Housed system.store) (traceless : Traceless system.store)
    (early : ¬ Late system event) : Traceless ((server ids).step system event).store := by
  intro socket closed
  have after := step_housed system event housed
  have unsubscribed : ∀ replica,
      (((server ids).step system event).store.registries replica).subscriptions socket = [] := by
    intro replica
    apply List.eq_nil_iff_forall_not_mem.mpr
    intro topic member
    rw [step_registries] at member
    rcases step_closed system event socket closed with closes | before
    · rw [closes_drops system event socket closes] at member
      exact registered_ends system.store socket replica topic housed .drops trivial member
    · rcases registered_subscriptions system.store socket replica topic _ member with
        old | ⟨subscription, state, joins, _⟩
      · rw [(traceless socket before).unsubscribed replica] at old
        cases old
      · exact early ⟨socket, subscription, (registration_joins system event socket subscription).mp joins,
          before⟩
  refine ⟨fun replica topic listed => ?_, unsubscribed⟩
  have member := (after.agrees replica topic socket).mp listed
  rw [unsubscribed replica] at member
  cases member

/-- A late grant leaves the closed socket in the registry. -/
theorem late_traces (late : Late system event) : ¬ Traceless ((server ids).step system event).store := by
  obtain ⟨socket, subscription, granted, state, found, gone⟩ := late
  intro traceless
  have sockets : ((server ids).step system event).store.sockets = system.store.sockets := by
    cases event with
    | env change => cases granted
    | act index input =>
        cases input with
        | read fault => exact checkAccess_sockets _ _ _
        | _ => cases granted
  have joined := registered_joins system.store socket state subscription found
  rw [← (registration_joins system event socket subscription).mpr granted, ← step_registries,
    (traceless socket ⟨state, sockets ▸ found, gone⟩).unsubscribed] at joined
  cases joined

/-- After every step each closed socket is forgotten, exactly if no step of the
run grants a check of a socket that is closed already. -/
theorem closed_sockets_traceless_iff (ids : IdText) (db : Database E) (clock : K)
    (redis : Revocations K) (events : List (Event Input (Change ids E K Payload))) :
    (server ids).Along (fun system event => Traceless ((server ids).step system event).store)
        (listening ids db clock redis) events ↔
      (server ids).Along (fun system event => ¬ Late system event)
        (listening ids db clock redis) events := by
  apply along_iff_of_invariant (server ids) _ _ fun system =>
    Housed system.store ∧ Traceless system.store
  · rintro system event ⟨housed, traceless⟩
    constructor
    · exact fun after late => late_traces system event late after
    · exact step_traceless system event housed traceless
  · rintro system event ⟨housed, traceless⟩ early
    exact ⟨step_housed system event housed, step_traceless system event housed traceless early⟩
  · refine ⟨listening_housed db clock redis, ?_⟩
    rintro socket ⟨state, found, _⟩
    cases found

end Steps

/-- The socket subscribes to its session and closes before the check is read. -/
def hangup : List (Event Input (Change letters ℤ ℚ Unit)) :=
  asking (sessionMessage "aa") ++ [.env (.closed 0), .act 1 (.read none)]

/-- All checks are over, and the closed socket is still a subscriber. -/
theorem closed_socket_subscribed :
    let final := (server letters).run (listening letters seminar 100 noRevocations) hangup
    IsClosed final.store 0 ∧ (∀ socket subscription, ¬ Checking final socket subscription) ∧
      0 ∈ Registry.members (final.store.registries 0).bySession "aa" ∧
      (final.store.registries 0).subscriptions 0 = ["aa"] := by
  refine ⟨⟨_, rfl, rfl⟩, ?_, List.Mem.head _, rfl⟩
  rintro socket subscription ⟨index, pending⟩
  rcases index with _ | _ | index
  · cases pending
  · cases pending
  · cases pending

end FaceVec.Ws
