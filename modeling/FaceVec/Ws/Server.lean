import FaceVec.Attendance.Recording
import FaceVec.Auth.AccessTokens
import FaceVec.Courses.Enrollment
import FaceVec.Interleaving
import FaceVec.Ws.Registry

/-!
The WebSocket server of every replica: upgrades, the messages of sockets, and
the live events of `broadcaster.ts`. An upgrade takes one step for the token
and one for each question to Redis, a subscription one for each read. `trail`
is a history of what was checked and sent; no step reads it.
-/

namespace FaceVec.Ws

open Interleaving Attendance Auth Courses

variable {E K Payload : Type}

/-- How an id is written. Clients choose their own spelling: several may be
read as the same id, but none that names an import topic is an id. -/
structure IdText where
  print : Uuid → String
  parse : String → Option Uuid
  parse_print : ∀ id, parse (print id) = some id
  parse_import : ∀ text, parse ("import:" ++ text) = none

structure Spelling (ids : IdText) where
  text : String
  id : Uuid
  reads : ids.parse text = some id

def importTopic (jobId : String) : String := "import:" ++ jobId

/-- The events of `broadcaster.ts`, by what the broadcast looks at. -/
inductive LiveEvent (ids : IdText) (Payload : Type) where
  | attendance (sessionId : Spelling ids) (payload : Payload)
  | importProgress (jobId : Spelling ids) (payload : Payload)

def LiveEvent.topic {ids : IdText} : LiveEvent ids Payload → String
  | .attendance sessionId _ => sessionId.text
  | .importProgress jobId _ => importTopic jobId.text

inductive Resource where
  | session (id : Uuid)
  | importJob (id : Uuid)
  deriving DecidableEq, Repr

def LiveEvent.resource {ids : IdText} : LiveEvent ids Payload → Resource
  | .attendance sessionId _ => .session sessionId.id
  | .importProgress jobId _ => .importJob jobId.id

/-- A field of a client's JSON: a string, or another value by its JSON text. -/
inductive JsonField where
  | text (value : String)
  | other (json : String)
  deriving DecidableEq, Repr

structure ClientMessage where
  type : Option JsonField := none
  sessionId : Option JsonField := none
  jobId : Option JsonField := none
  deriving DecidableEq, Repr

inductive Data where
  | invalid
  /-- The JSON `null`, of which no field can be read. -/
  | null
  | value (message : ClientMessage)
  deriving DecidableEq, Repr

structure Reply where
  type : String
  message : Option String := none
  jobId : Option JsonField := none
  sessionId : Option JsonField := none
  deriving DecidableEq, Repr

inductive ReadyState where
  | OPEN | CLOSING | CLOSED
  deriving DecidableEq, Repr

/-- An `AuthedSocket`, with the token of its upgrade. -/
structure Socket where
  replica : Nat
  token : AccessTokenClaims
  auth : AuthContext
  readyState : ReadyState
  isAlive : Bool
  deriving DecidableEq, Repr

/-- The instants at which an upgrade was authenticated, and what Redis held
when it was asked; `none` where it was not ready. -/
structure Admission (K : Type) where
  token : AccessTokenClaims
  verified : K
  denylist : Option (Revocations K × K)
  cutoffs : Option (Revocations K × K)

/-- A passed access check, with the database at its first and its last read. -/
structure Check (E : Type) where
  resource : Resource
  auth : AuthContext
  found : Database E
  decided : Database E

inductive Mark (ids : IdText) (E K Payload : Type) where
  | admitted (socket : SocketId) (admission : Admission K)
  | passed (socket : SocketId) (check : Check E)
  | reply (socket : SocketId) (reply : Reply)
  | live (socket : SocketId) (event : LiveEvent ids Payload)

structure Store (ids : IdText) (E K Payload : Type) where
  db : Database E
  clock : K
  redis : Revocations K
  sockets : List Socket
  registries : Nat → Registry
  /-- What Redis pub/sub has yet to hand to each replica. -/
  inboxes : Nat → List (LiveEvent ids Payload)
  trail : List (Mark ids E K Payload)

inductive Handler (E K : Type) where
  | idle
  | denylisting (replica : Nat) (token : AccessTokenClaims) (verified : K)
  | cuttingOff (replica : Nat) (token : AccessTokenClaims) (verified : K)
      (denylist : Option (Revocations K × K))
  | upgrading (replica : Nat) (admission : Admission K)
  | checkingSession (socket : SocketId) (sessionId : String)
  | findingJob (socket : SocketId) (jobId : String)
  | checkingJob (socket : SocketId) (jobId : String) (job : ImportJob) (found : Database E)
  | done

/-- What a question to Redis meets. -/
inductive Contact where
  | ready | unready | fails
  deriving DecidableEq, Repr

inductive Input where
  /-- `none` is a token that is missing or was not signed here. -/
  | upgrade (replica : Nat) (pathname : String) (token : Option AccessTokenClaims)
  | ask (contact : Contact)
  | handshake (succeeds : Bool)
  | message (socket : SocketId) (data : Data)
  | read (fault : Option Failure)
  deriving DecidableEq, Repr

inductive Change (ids : IdText) (E K Payload : Type) where
  | tick (now : K)
  | write (db : Database E)
  | revoke (redis : Revocations K)
  | publish (replica : Nat) (event : LiveEvent ids Payload) (redisReady : Bool)
  | receive (replica : Nat)
  | lose (replica : Nat)
  | heartbeat (replica : Nat)
  | pong (socket : SocketId)
  | closing (socket : SocketId)
  | closed (socket : SocketId)

def Store.isOpen {ids : IdText} (store : Store ids E K Payload) (socket : SocketId) : Bool :=
  store.sockets[socket]?.any fun state => decide (state.readyState = .OPEN)

def Store.record {ids : IdText} (store : Store ids E K Payload) (marks : List (Mark ids E K Payload)) :
    Store ids E K Payload :=
  { store with trail := store.trail ++ marks }

def send {ids : IdText} (socket : SocketId) (reply : Reply) (store : Store ids E K Payload) :
    Store ids E K Payload :=
  if store.isOpen socket then store.record [.reply socket reply] else store

def broadcast {ids : IdText} (replica : Nat) (event : LiveEvent ids Payload)
    (store : Store ids E K Payload) : Store ids E K Payload :=
  store.record (((store.registries replica).broadcast event.topic store.isOpen).map (.live · event))

/-- Change the registry of the replica that holds the socket. -/
def Store.registering {ids : IdText} (store : Store ids E K Payload) (socket : SocketId)
    (change : Registry → Registry) : Store ids E K Payload :=
  match store.sockets[socket]? with
  | none => store
  | some state =>
      { store with
        registries := Function.update store.registries state.replica
          (change (store.registries state.replica)) }

/-- A read by the text of an id; PostgreSQL refuses a text that is no UUID. -/
def lookup {α : Type} (ids : IdText) (text : String) (read : Uuid → Except Failure α) :
    Except Failure α :=
  match ids.parse text with
  | none => .error (.prisma (.other "P2023") none)
  | some id => read id

def faulty {α : Type} (fault : Option Failure) (result : Except Failure α) : Except Failure α :=
  match fault with
  | some failure => .error failure
  | none => result

def findJob (db : Database E) (id : Uuid) : Except Failure ImportJob :=
  match findImportJob db id with
  | none => .error (.http (notFoundError "Import job not found"))
  | some job => .ok job

def refusedSession (sessionId : String) : Reply :=
  { type := "error", message := some "not authorized for this session",
    sessionId := some (.text sessionId) }

def refusedJob (jobId : String) : Reply :=
  { type := "error", message := some "not authorized for this job", jobId := some (.text jobId) }

def errorReply (message : String) : Reply := { type := "error", message := some message }

section Exec

variable (ids : IdText)

/-- `onMessage` up to its first read. -/
def onMessage (socket : SocketId) (data : Data) (store : Store ids E K Payload) :
    Store ids E K Payload × Handler E K :=
  match data with
  | .invalid => (send socket (errorReply "invalid JSON") store, .done)
  -- Reading `type` of null throws, and nobody waits for the handler.
  | .null => (store, .done)
  | .value message =>
      if message.type = some (.text "subscribe") then
        match message.jobId, message.sessionId with
        | some (.text jobId), _ => (store, .findingJob socket jobId)
        | _, some (.text sessionId) => (store, .checkingSession socket sessionId)
        | _, _ => (send socket (errorReply "sessionId is required") store, .done)
      else if message.type = some (.text "unsubscribe") then
        match message.jobId, message.sessionId with
        | some (.text jobId), _ =>
            (send socket { type := "unsubscribed", jobId := some (.text jobId) }
              (store.registering socket fun registry =>
                registry.unsubscribe (importTopic jobId) socket), .done)
        | _, some (.text sessionId) =>
            (send socket { type := "unsubscribed", sessionId := some (.text sessionId) }
              (store.registering socket fun registry => registry.unsubscribe sessionId socket), .done)
        | _, sessionId => (send socket { type := "unsubscribed", sessionId } store, .done)
      else if message.type = some (.text "ping") then
        (send socket { type := "pong" } store, .done)
      else (send socket (errorReply "unknown message type") store, .done)

def subscribed (socket : SocketId) (topic : String) (check : Check E) (reply : Reply)
    (store : Store ids E K Payload) : Store ids E K Payload :=
  send socket reply ((store.record [.passed socket check]).registering socket fun registry =>
    registry.subscribe topic socket)

/-- `onMessage` from its reads on. -/
def checkAccess (fault : Option Failure) (store : Store ids E K Payload) :
    Handler E K → Store ids E K Payload × Handler E K
  | .checkingSession socket sessionId =>
      match store.sockets[socket]? with
      | none => (store, .done)
      | some state =>
          match faulty fault (lookup ids sessionId fun id =>
              getSessionForActor store.db id state.auth) with
          | .error _ => (send socket (refusedSession sessionId) store, .done)
          | .ok session =>
              (subscribed ids socket sessionId ⟨.session session.id, state.auth, store.db, store.db⟩
                { type := "subscribed", sessionId := some (.text sessionId) } store, .done)
  | .findingJob socket jobId =>
      match faulty fault (lookup ids jobId (findJob store.db)) with
      | .error _ => (send socket (refusedJob jobId) store, .done)
      | .ok job => (store, .checkingJob socket jobId job store.db)
  | .checkingJob socket jobId job found =>
      match store.sockets[socket]? with
      | none => (store, .done)
      | some state =>
          match faulty fault (getCourseForActor store.db job.courseId state.auth) with
          | .error _ => (send socket (refusedJob jobId) store, .done)
          | .ok _ =>
              (subscribed ids socket (importTopic jobId)
                ⟨.importJob job.id, state.auth, found, store.db⟩
                { type := "subscribed", jobId := some (.text jobId) } store, .done)
  | handler => (store, handler)

variable [Field K] [LinearOrder K] [FloorRing K]

def onConnection (socket : SocketId) (store : Store ids E K Payload) : Store ids E K Payload :=
  send socket { type := "connected" } store

/-- `authenticate` and `handleUpgrade`. -/
def handleUpgrade (input : Input) (store : Store ids E K Payload) :
    Handler E K → Store ids E K Payload × Handler E K
  | .idle =>
      match input with
      | .upgrade replica pathname (some token) =>
          if pathname = "/ws" then
            match verifyAccessToken token store.clock with
            | .error _ => (store, .done)
            | .ok claims => (store, .denylisting replica claims store.clock)
          else (store, .done)
      | .upgrade _ _ none => (store, .done)
      | _ => (store, .idle)
  | .denylisting replica claims verified =>
      match input with
      -- Without Redis the question is skipped.
      | .ask .unready => (store, .cuttingOff replica claims verified none)
      | .ask .ready =>
          if isAccessTokenRevoked store.redis claims.jti store.clock then (store, .done)
          else (store, .cuttingOff replica claims verified (some (store.redis, store.clock)))
      | .ask .fails => (store, .done)
      | _ => (store, .denylisting replica claims verified)
  | .cuttingOff replica claims verified denylist =>
      match input with
      | .ask .unready => (store, .upgrading replica ⟨claims, verified, denylist, none⟩)
      | .ask .ready =>
          if (userTokenCutoff store.redis claims.userId store.clock).any (claims.issuedAt < ·) then
            (store, .done)
          else
            (store, .upgrading replica
              ⟨claims, verified, denylist, some (store.redis, store.clock)⟩)
      | .ask .fails => (store, .done)
      | _ => (store, .cuttingOff replica claims verified denylist)
  | .upgrading replica admission =>
      match input with
      | .handshake true =>
          let claims := admission.token
          let auth := ⟨claims.userId, claims.role, claims.jti, claims.expiresAt⟩
          let socket := store.sockets.length
          (onConnection ids socket
            { store with
              sockets := store.sockets ++ [⟨replica, claims, auth, .OPEN, true⟩]
              trail := store.trail ++ [.admitted socket admission] }, .done)
      | .handshake false => (store, .done)
      | _ => (store, .upgrading replica admission)
  | handler => (store, handler)

def exec (input : Input) (store : Store ids E K Payload) (handler : Handler E K) :
    Store ids E K Payload × Handler E K :=
  match input, handler with
  | .message socket data, .idle => onMessage ids socket data store
  | .read fault, handler => checkAccess ids fault store handler
  | input, handler => handleUpgrade ids input store handler

def Store.changing {ids : IdText} (store : Store ids E K Payload) (socket : SocketId)
    (change : Socket → Socket) : Store ids E K Payload :=
  { store with sockets := store.sockets.modify socket change }

/-- One round of `setInterval` over the clients of a replica. -/
def heartbeat (replica : Nat) (socket : Socket) : Socket :=
  if socket.replica = replica ∧ socket.readyState ≠ .CLOSED then
    if socket.isAlive then { socket with isAlive := false }
    else { socket with readyState := .CLOSING }
  else socket

def ambient (change : Change ids E K Payload) (store : Store ids E K Payload) :
    Store ids E K Payload :=
  match change with
  | .tick now => { store with clock := max store.clock now }
  | .write db => { store with db }
  | .revoke redis => { store with redis }
  | .publish _ event true =>
      { store with inboxes := fun other => store.inboxes other ++ [event] }
  | .publish replica event false => broadcast replica event store
  | .receive replica =>
      match store.inboxes replica with
      | [] => store
      | event :: rest =>
          broadcast replica event
            { store with inboxes := Function.update store.inboxes replica rest }
  | .lose replica => { store with inboxes := Function.update store.inboxes replica [] }
  | .heartbeat replica => { store with sockets := store.sockets.map (heartbeat replica) }
  | .pong socket => store.changing socket fun state => { state with isAlive := true }
  | .closing socket =>
      store.changing socket fun state =>
        if state.readyState = .OPEN then { state with readyState := .CLOSING } else state
  | .closed socket =>
      (store.changing socket fun state => { state with readyState := .CLOSED }).registering socket
        fun registry => registry.remove socket

def server : Machine (Store ids E K Payload) (Handler E K) Input (Change ids E K Payload) where
  exec := exec ids
  ambient := ambient ids

end Exec

def listening (ids : IdText) (db : Database E) (clock : K) (redis : Revocations K) :
    System (Store ids E K Payload) (Handler E K) :=
  ⟨⟨db, clock, redis, [], fun _ => .empty, fun _ => [], []⟩, fun _ => .idle⟩

end FaceVec.Ws
