import FaceVec.Messaging
import FaceVec.Outbox.Publishing
import FaceVec.Ws.Feed

/-!
The way of an attendance event to the live feed: the outbox relays publish it,
the broker queues it, a consumer of `notifications-consumer.ts` hands it to
`publishAttendance`, and a broadcast sends it to sockets. Publishing and
consuming are at-least-once. The relay says that consumers deduplicate on the
message id; this one does not look at it.
-/

namespace FaceVec.Notifications

open Interleaving Auth Courses Ws

variable {E K Score : Type}

/-- What the relay publishes; the message id is the row id. -/
abbrev Notification (Score : Type) := Outbox.Publication (EventPayload Score)

/-- What `publishAttendance` meets: Redis, a Redis that fails it, or none. -/
inductive Outlet where
  | redis | failing | local_
  deriving DecidableEq, Repr

structure Store (ids : IdText) (E K Score : Type) where
  relay : Outbox.Store (EventPayload Score)
  broker : Broker Queue (Notification Score)
  /-- Deliveries that a consumer has yet to handle, of channels that are gone. -/
  stranded : List (Notification Score)
  /-- What was handed to the broadcaster. -/
  forwarded : List (Notification Score)
  ws : Ws.Store ids E K (Notification Score)

/-- A transaction of the relay, and a handler of the WebSocket server. -/
structure Party (E K Score : Type) where
  drain : Outbox.Drain (EventPayload Score)
  handler : Ws.Handler E K

inductive Input where
  | relay (input : Outbox.Input)
  | ws (input : Ws.Input)

inductive Change (ids : IdText) (E K Score : Type) where
  | relay (change : Outbox.Change (EventPayload Score))
  | deliver (position channel : Nat)
  | handle (tag replica : Nat) (outlet : Outlet)
  | frame (tag : Nat)
  | lose (channel : Nat)
  /-- A consumer handles a delivery whose channel is gone. -/
  | late (position replica : Nat) (outlet : Outlet)
  | ws (change : Ws.Change ids E K (Notification Score))

def words (routingKey : String) : List String :=
  (routingKey.toList.splitOn '.').map String.ofList

def prefetch : Nat := 20

def hasCapacity (channel : Nat) (broker : Broker Queue (Notification Score)) : Bool :=
  decide ((broker.unacked.countP fun delivery => decide (delivery.channel = channel)) < prefetch)

/-- The exchange takes what the relay has published since. -/
def take (before after : Outbox.Store (EventPayload Score))
    (broker : Broker Queue (Notification Score)) : Broker Queue (Notification Score) :=
  (after.published.drop before.published.length).foldl
    (fun broker notification => publish (words notification.routingKey) notification broker) broker

/-- The `sessionId` of the payload names the topic; without one nobody hears. -/
def liveEvent (ids : IdText) (notification : Notification Score) :
    Option (LiveEvent ids (Notification Score)) :=
  match notification.payload with
  | .attendanceRecorded _ sessionId _ _ _ _ _ _ =>
      some (.attendance ⟨ids.print sessionId, sessionId, ids.parse_print sessionId⟩ notification)
  | _ => none

section Exec

variable (ids : IdText) (batchSize maxAttempts : ℕ+) [Field K] [LinearOrder K] [FloorRing K]

def publishAttendance (notification : Notification Score) (replica : Nat) (outlet : Outlet)
    (ws : Ws.Store ids E K (Notification Score)) : Ws.Store ids E K (Notification Score) :=
  match liveEvent ids notification, outlet with
  | some event, .redis => Ws.ambient ids (.publish replica event true) ws
  | some event, .local_ => Ws.ambient ids (.publish replica event false) ws
  | _, _ => ws

/-- `handle` without the acknowledgement. -/
def forward (notification : Notification Score) (replica : Nat) (outlet : Outlet)
    (store : Store ids E K Score) : Store ids E K Score :=
  if notification.routingKey = EventType.AttendanceRecorded then
    { store with
      forwarded := store.forwarded ++ [notification]
      ws := publishAttendance ids notification replica outlet store.ws }
  else store

def handle (tag replica : Nat) (outlet : Outlet) (store : Store ids E K Score) :
    Store ids E K Score :=
  match store.broker.find tag with
  | none => store
  | some delivery =>
      if delivery.sent = [] then
        { forward ids delivery.message replica outlet store with
          broker := store.broker.send tag [.ack] }
      else store

def exec (input : Input) (store : Store ids E K Score) (party : Party E K Score) :
    Store ids E K Score × Party E K Score :=
  match input with
  | .relay input =>
      let next := (Outbox.machine batchSize maxAttempts).exec input store.relay party.drain
      ({ store with relay := next.1, broker := take store.relay next.1 store.broker },
        { party with drain := next.2 })
  | .ws input =>
      let next := Ws.exec ids input store.ws party.handler
      ({ store with ws := next.1 }, { party with handler := next.2 })

def ambient (change : Change ids E K Score) (store : Store ids E K Score) : Store ids E K Score :=
  match change with
  | .relay change => { store with relay := Outbox.ambient change store.relay }
  | .deliver position channel =>
      if hasCapacity channel store.broker then
        match store.broker.deliver .NOTIFICATIONS position channel with
        | none => store
        | some (_, broker) => { store with broker }
      else store
  | .handle tag replica outlet => handle ids tag replica outlet store
  | .frame tag => { store with broker := store.broker.handleFrame tag }
  | .lose channel =>
      { store with
        broker := store.broker.lose channel
        stranded := store.stranded ++ (store.broker.unacked.filter fun delivery =>
          decide (delivery.channel = channel) && delivery.sent.isEmpty).map (·.message) }
  | .late position replica outlet =>
      match store.stranded[position]? with
      | none => store
      | some notification =>
          { forward ids notification replica outlet store with
            stranded := store.stranded.eraseIdx position }
  -- Nobody else publishes attendance events.
  | .ws (.publish _ (.attendance _ _) _) => store
  | .ws change => { store with ws := Ws.ambient ids change store.ws }

def feed : Machine (Store ids E K Score) (Party E K Score) Input (Change ids E K Score) where
  exec := exec ids batchSize maxAttempts
  ambient := ambient ids

end Exec

abbrev State (ids : IdText) (E K Score : Type) := System (Store ids E K Score) (Party E K Score)

def start (ids : IdText) (db : Database E) (clock : K) (redis : Revocations K) :
    State ids E K Score :=
  ⟨⟨Outbox.start.store, .empty, [], [], (listening ids db clock redis).store⟩,
    fun index => ⟨⟨index, .idle⟩, .idle⟩⟩

/-- The rows whose events a socket was sent. -/
def rowsHeard {ids : IdText} (socket : SocketId) (trail : List (Mark ids E K (Notification Score))) :
    List Uuid :=
  (sentFrames trail).filterMap fun
    | (hearer, .attendance _ notification) =>
        if hearer = socket then some notification.messageId else none
    | _ => none

/-- No row is forwarded twice, and no socket hears it twice. -/
structure ForwardedOnce {ids : IdText} (store : Store ids E K Score) : Prop where
  forwarded : (store.forwarded.map (·.messageId)).Nodup
  heard : ∀ socket, (rowsHeard socket store.ws.trail).Nodup

/-- No fault makes the relay publish an attendance event again, or the broker
deliver one again that was forwarded: no channel is lost before the broker has
the acknowledgement of one, or before it is handled if its consumer will still
handle it. -/
def Calm {ids : IdText} (maxAttempts : ℕ+) (system : State ids E K Score) :
    Event Input (Change ids E K Score) → Prop
  | .act index (.relay input) =>
      Outbox.Undisturbed maxAttempts EventType.AttendanceRecorded system.store.relay.published
        (system.procs index).drain input
  | .env (.lose channel) => ∀ delivery ∈ system.store.broker.unacked, delivery.channel = channel →
      delivery.message.routingKey = EventType.AttendanceRecorded → delivery.sent = []
  | .env (.late position _ _) => ∀ notification ∈ system.store.stranded[position]?,
      notification.routingKey ≠ EventType.AttendanceRecorded
  | _ => True

end FaceVec.Notifications
