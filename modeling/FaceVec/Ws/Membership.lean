import FaceVec.Ws.Access

/-!
Who hears what after one step of the server. A step changes the registry of at
most one replica, and there the place of one socket; a broadcast reaches the
open sockets that the registry of its replica lists, and nobody else.
-/

namespace FaceVec.Ws

open Interleaving Attendance Auth Courses

variable {E K Payload : Type} {ids : IdText}

/-- What a message asks to subscribe or to unsubscribe. -/
inductive Subscription where
  | session (sessionId : String)
  | importJob (jobId : String)
  deriving DecidableEq, Repr

def Subscription.topic : Subscription → String
  | .session sessionId => sessionId
  | .importJob jobId => importTopic jobId

/-- A `jobId` goes first. -/
def ClientMessage.subscription (message : ClientMessage) : Option Subscription :=
  match message.jobId, message.sessionId with
  | some (.text jobId), _ => some (.importJob jobId)
  | _, some (.text sessionId) => some (.session sessionId)
  | _, _ => none

/-- The subscription that the event asks to end. -/
def unsubscribes : Event Input (Change ids E K Payload) → Option (SocketId × Subscription)
  | .act _ (.message socket (.value message)) =>
      if message.type = some (.text "unsubscribe") then
        message.subscription.map fun subscription => (socket, subscription)
      else none
  | _ => none

def closes (socket : SocketId) : Event Input (Change ids E K Payload) → Prop
  | .env (.closed other) => other = socket
  | _ => False

def broadcasts (store : Store ids E K Payload) :
    Event Input (Change ids E K Payload) → Option (Nat × LiveEvent ids Payload)
  | .env (.publish replica event false) => some (replica, event)
  | .env (.receive replica) => (store.inboxes replica).head?.map fun event => (replica, event)
  | _ => none

def liveMark : Mark ids E K Payload → Option (SocketId × LiveEvent ids Payload)
  | .live socket event => some (socket, event)
  | _ => none

def sentFrames (trail : List (Mark ids E K Payload)) : List (SocketId × LiveEvent ids Payload) :=
  trail.filterMap liveMark

def frames (store : Store ids E K Payload) (event : Event Input (Change ids E K Payload)) :
    List (SocketId × LiveEvent ids Payload) :=
  match broadcasts store event with
  | none => []
  | some (replica, live) =>
      ((store.registries replica).broadcast live.topic store.isOpen).map fun socket => (socket, live)

inductive Registered (store : Store ids E K Payload)
    (event : Event Input (Change ids E K Payload)) : (Nat → Registry) → Prop where
  | kept : Registered store event store.registries
  | joined (socket : SocketId) (state : Socket) (topic : String) :
      store.sockets[socket]? = some state →
      Registered store event (Function.update store.registries state.replica
        ((store.registries state.replica).subscribe topic socket))
  | left (socket : SocketId) (state : Socket) (subscription : Subscription) :
      store.sockets[socket]? = some state → unsubscribes event = some (socket, subscription) →
      Registered store event (Function.update store.registries state.replica
        ((store.registries state.replica).unsubscribe subscription.topic socket))
  | removed (socket : SocketId) (state : Socket) :
      store.sockets[socket]? = some state → closes socket event →
      Registered store event (Function.update store.registries state.replica
        ((store.registries state.replica).remove socket))

/-- Sockets stay where they are. -/
def Settled (store after : Store ids E K Payload) : Prop :=
  ∀ (socket : SocketId) (state : Socket), store.sockets[socket]? = some state →
    ∃ later : Socket, after.sockets[socket]? = some later ∧ later.replica = state.replica

structure Moved (store after : Store ids E K Payload)
    (event : Event Input (Change ids E K Payload)) : Prop where
  registered : Registered store event after.registries
  settled : Settled store after
  sent : sentFrames after.trail = sentFrames store.trail ++ frames store event

section Steps

variable (store after : Store ids E K Payload) (event : Event Input (Change ids E K Payload))

theorem settled_same (same : after.sockets = store.sockets) : Settled store after :=
  fun _ state found => ⟨state, same ▸ found, rfl⟩

/-- A step that does not broadcast, and leaves registries, sockets and frames alone. -/
theorem moved_still (silent : broadcasts store event = none) (sockets : after.sockets = store.sockets)
    (registries : after.registries = store.registries) (trail : after.trail = store.trail) :
    Moved store after event where
  registered := registries ▸ .kept
  settled := settled_same store after sockets
  sent := by simp [trail, frames, silent]

theorem sentFrames_quiet (trail marks : List (Mark ids E K Payload))
    (quiet : ∀ mark ∈ marks, liveMark mark = none) : sentFrames (trail ++ marks) = sentFrames trail := by
  simpa [sentFrames] using quiet

theorem moved_record (moved : Moved store after event) (marks : List (Mark ids E K Payload))
    (quiet : ∀ mark ∈ marks, liveMark mark = none) : Moved store (after.record marks) event where
  registered := moved.registered
  settled := moved.settled
  sent := (sentFrames_quiet after.trail marks quiet).trans moved.sent

theorem moved_send (moved : Moved store after event) (socket : SocketId) (reply : Reply) :
    Moved store (send socket reply after) event := by
  unfold send
  split
  · exact moved_record store after event moved _ (by simp [liveMark])
  · exact moved

theorem moved_registering (silent : broadcasts store event = none) (socket : SocketId)
    (change : Registry → Registry)
    (changed : ∀ state, store.sockets[socket]? = some state → Registered store event
      (Function.update store.registries state.replica (change (store.registries state.replica)))) :
    Moved store (store.registering socket change) event := by
  unfold Store.registering
  split
  · exact moved_still store store event silent rfl rfl rfl
  · next state found => exact ⟨changed state found, settled_same store _ rfl, by simp [frames, silent]⟩

theorem onMessage_moved (index : Nat) (socket : SocketId) (data : Data) :
    Moved store (onMessage ids socket data store).1 (.act index (.message socket data)) := by
  have still : Moved store store (.act index (.message socket data)) :=
    moved_still store store _ rfl rfl rfl rfl
  have replies := moved_send store store _ still socket
  unfold onMessage
  split
  · exact replies _
  · exact still
  · next message =>
      split
      · split
        · exact still
        · exact still
        · exact replies _
      · split
        · next asks =>
            have leaves : ∀ subscription, message.subscription = some subscription →
                Moved store (store.registering socket fun registry =>
                  registry.unsubscribe subscription.topic socket)
                  (.act index (.message socket (.value message))) := by
              intro subscription named
              apply moved_registering store _ rfl
              intro state found
              exact .left socket state subscription found (by simp [unsubscribes, asks, named])
            split
            · next jobId _ => exact moved_send store _ _ (leaves (.importJob jobId)
                (by simp [ClientMessage.subscription, *])) socket _
            · next sessionId _ _ => exact moved_send store _ _ (leaves (.session sessionId)
                (by simp [ClientMessage.subscription, *])) socket _
            · exact replies _
        · split
          · exact replies _
          · exact replies _

theorem subscribed_moved (silent : broadcasts store event = none) (socket : SocketId)
    (topic : String) (check : Check E) (reply : Reply) :
    Moved store (subscribed ids socket topic check reply store) event := by
  apply moved_send
  have registers := moved_registering store event silent socket
    (fun registry => registry.subscribe topic socket) fun state found => .joined socket state topic found
  have recorded := moved_record store _ event registers [.passed socket check] (by simp [liveMark])
  have same : ((store.record [.passed socket check]).registering socket fun registry =>
      registry.subscribe topic socket) =
        (store.registering socket fun registry => registry.subscribe topic socket).record
          [.passed socket check] := by
    unfold Store.registering Store.record
    cases store.sockets[socket]? <;> rfl
  rw [same]
  exact recorded

theorem checkAccess_moved (index : Nat) (fault : Option Failure) (handler : Handler E K) :
    Moved store (checkAccess ids fault store handler).1 (.act index (.read fault)) := by
  have still : Moved store store (.act index (.read fault)) := moved_still store store _ rfl rfl rfl rfl
  unfold checkAccess
  split
  · split
    · exact still
    · split
      · exact moved_send store store _ still _ _
      · exact subscribed_moved store _ rfl _ _ _ _
  · split
    · exact moved_send store store _ still _ _
    · exact still
  · split
    · exact still
    · split
      · exact moved_send store store _ still _ _
      · exact subscribed_moved store _ rfl _ _ _ _
  · exact still

variable [Field K] [LinearOrder K] [FloorRing K]

theorem handleUpgrade_moved (index : Nat) (input : Input) (handler : Handler E K) :
    Moved store (handleUpgrade ids input store handler).1 (.act index input) := by
  have still : Moved store store (.act index input) := by
    apply moved_still store store _ _ rfl rfl rfl
    cases input <;> rfl
  cases handler with
  | upgrading replica admission =>
      cases input with
      | handshake succeeds =>
          cases succeeds with
          | false => exact still
          | true =>
              simp only [handleUpgrade, onConnection]
              apply moved_send
              refine ⟨.kept, fun socket state found => ⟨state, ?_, rfl⟩, ?_⟩
              · rw [List.getElem?_append_left (List.getElem?_eq_some_iff.mp found).1, found]
              · exact (sentFrames_quiet store.trail _ (by simp [liveMark])).trans (by simp [frames, broadcasts])
      | _ => exact still
  | idle =>
      simp only [handleUpgrade]
      split
      · split
        · split <;> exact still
        · exact still
      · exact still
      · exact still
  | denylisting replica claims verified =>
      simp only [handleUpgrade]
      split
      · exact still
      · split <;> exact still
      · exact still
      · exact still
  | cuttingOff replica claims verified denylist =>
      simp only [handleUpgrade]
      split
      · exact still
      · split <;> exact still
      · exact still
      · exact still
  | _ => exact still

theorem exec_moved (index : Nat) (input : Input) (handler : Handler E K) :
    Moved store (exec ids input store handler).1 (.act index input) := by
  unfold exec
  split
  · exact onMessage_moved store index _ _
  · exact checkAccess_moved store index _ _
  · exact handleUpgrade_moved store index input handler

omit [Field K] [LinearOrder K] [FloorRing K] in
theorem moved_sockets (change : SocketId → Socket → Socket)
    (silent : broadcasts store event = none)
    (changed : ∀ socket, after.sockets[socket]? = (store.sockets[socket]?).map (change socket))
    (home : ∀ socket state, (change socket state).replica = state.replica)
    (registries : after.registries = store.registries) (trail : after.trail = store.trail) :
    Moved store after event where
  registered := registries ▸ .kept
  settled socket state found :=
    ⟨change socket state, by rw [changed, found]; rfl, home socket state⟩
  sent := by simp [trail, frames, silent]

omit [Field K] [LinearOrder K] [FloorRing K] in
theorem moved_changing (silent : broadcasts store event = none) (socket : SocketId)
    (change : Socket → Socket) (home : ∀ state, (change state).replica = state.replica) :
    Moved store (store.changing socket change) event := by
  apply moved_sockets store _ event fun other state => if socket = other then change state else state
  · exact silent
  · intro other
    rw [Store.changing, List.getElem?_modify]
    by_cases same : socket = other <;> cases store.sockets[other]? <;> simp [same]
  · intro other state
    split
    · exact home state
    · rfl
  · rfl
  · rfl

omit [Field K] [LinearOrder K] [FloorRing K] in
/-- The store that broadcasts may differ in what no frame depends on. -/
theorem moved_broadcast (replica : Nat) (live : LiveEvent ids Payload)
    (speaks : broadcasts store event = some (replica, live))
    (sockets : after.sockets = store.sockets) (registries : after.registries = store.registries)
    (trail : after.trail = store.trail) : Moved store (broadcast replica live after) event where
  registered := by
    have same : (broadcast replica live after).registries = store.registries := registries
    rw [same]
    exact .kept
  settled := settled_same store _ sockets
  sent := by
    have isOpen : after.isOpen = store.isOpen := by
      funext socket
      rw [Store.isOpen, Store.isOpen, sockets]
    simp only [broadcast, Store.record, sentFrames, List.filterMap_append, trail, frames, speaks,
      isOpen, registries]
    congr 1
    rw [List.filterMap_map]
    exact congrFun (List.filterMap_eq_map (f := fun socket => (socket, live))) _

omit [Field K] [FloorRing K] in
theorem ambient_moved (change : Change ids E K Payload) :
    Moved store (ambient ids change store) (.env change) := by
  cases change with
  | tick now => exact moved_still store _ _ rfl rfl rfl rfl
  | write db => exact moved_still store _ _ rfl rfl rfl rfl
  | revoke redis => exact moved_still store _ _ rfl rfl rfl rfl
  | publish replica live redisReady =>
      cases redisReady with
      | true => exact moved_still store _ _ rfl rfl rfl rfl
      | false => exact moved_broadcast store store _ replica live rfl rfl rfl rfl
  | receive replica =>
      simp only [ambient]
      split
      · next empty => exact moved_still store _ _ (by simp [broadcasts, empty]) rfl rfl rfl
      · next live rest waiting =>
          exact moved_broadcast store _ _ replica live (by simp [broadcasts, waiting]) rfl rfl rfl
  | lose replica => exact moved_still store _ _ rfl rfl rfl rfl
  | heartbeat replica =>
      apply moved_sockets store _ _ (fun _ => heartbeat replica) rfl
      · exact fun socket => List.getElem?_map
      · intro socket state
        unfold heartbeat
        split
        · split <;> rfl
        · rfl
      · rfl
      · rfl
  | pong socket => exact moved_changing store _ rfl socket _ fun _ => rfl
  | closing socket =>
      apply moved_changing store _ rfl socket
      intro state
      split <;> rfl
  | closed socket =>
      have changed := moved_changing store (.env (.closed socket)) rfl socket
        (fun state => { state with readyState := .CLOSED }) fun _ => rfl
      simp only [ambient, Store.registering]
      split
      · exact changed
      · next state found =>
          refine ⟨?_, changed.settled, changed.sent⟩
          simp only [Store.changing, List.getElem?_modify] at found
          obtain ⟨old, stored, rfl⟩ := Option.map_eq_some_iff.mp found
          have removes : Registered store (.env (.closed socket)) _ := .removed socket old stored rfl
          simpa [Store.changing] using removes

theorem step_moved (system : System (Store ids E K Payload) (Handler E K))
    (event : Event Input (Change ids E K Payload)) :
    Moved system.store ((server ids).step system event).store event := by
  cases event with
  | act index input => exact exec_moved system.store index input (system.procs index)
  | env change => exact ambient_moved system.store change

end Steps

section Inboxes

variable (store : Store ids E K Payload)

@[simp] theorem send_inboxes (socket : SocketId) (reply : Reply) :
    (send socket reply store).inboxes = store.inboxes := by
  unfold send
  split <;> rfl

@[simp] theorem send_sockets (socket : SocketId) (reply : Reply) :
    (send socket reply store).sockets = store.sockets := by
  unfold send
  split <;> rfl

@[simp] theorem send_registries (socket : SocketId) (reply : Reply) :
    (send socket reply store).registries = store.registries := by
  unfold send
  split <;> rfl

@[simp] theorem registering_inboxes (socket : SocketId) (change : Registry → Registry) :
    (store.registering socket change).inboxes = store.inboxes := by
  unfold Store.registering
  split <;> rfl

@[simp] theorem registering_sockets (socket : SocketId) (change : Registry → Registry) :
    (store.registering socket change).sockets = store.sockets := by
  unfold Store.registering
  split <;> rfl

@[simp] theorem registering_trail (socket : SocketId) (change : Registry → Registry) :
    (store.registering socket change).trail = store.trail := by
  unfold Store.registering
  split <;> rfl

theorem onMessage_inboxes (socket : SocketId) (data : Data) :
    (onMessage ids socket data store).1.inboxes = store.inboxes := by
  unfold onMessage
  split
  · simp
  · rfl
  · split
    · split <;> simp
    · split
      · split <;> simp
      · split <;> simp

theorem checkAccess_inboxes (fault : Option Failure) (handler : Handler E K) :
    (checkAccess ids fault store handler).1.inboxes = store.inboxes := by
  unfold checkAccess subscribed
  split
  · split
    · rfl
    · split <;> simp [Store.record]
  · split <;> simp
  · split
    · rfl
    · split <;> simp [Store.record]
  · rfl

variable [Field K] [LinearOrder K] [FloorRing K]

theorem handleUpgrade_inboxes (input : Input) (handler : Handler E K) :
    (handleUpgrade ids input store handler).1.inboxes = store.inboxes := by
  cases handler with
  | idle =>
      simp only [handleUpgrade]
      split
      · split
        · split <;> rfl
        · rfl
      · rfl
      · rfl
  | denylisting replica claims verified =>
      simp only [handleUpgrade]
      split
      · rfl
      · split <;> rfl
      · rfl
      · rfl
  | cuttingOff replica claims verified denylist =>
      simp only [handleUpgrade]
      split
      · rfl
      · split <;> rfl
      · rfl
      · rfl
  | upgrading replica admission =>
      simp only [handleUpgrade]
      split
      · simp [onConnection]
      · rfl
      · rfl
  | _ => rfl

theorem exec_inboxes (input : Input) (handler : Handler E K) :
    (exec ids input store handler).1.inboxes = store.inboxes := by
  unfold exec
  split
  · exact onMessage_inboxes store _ _
  · exact checkAccess_inboxes store _ _
  · exact handleUpgrade_inboxes store _ _

end Inboxes

end FaceVec.Ws
