import Mathlib.Data.List.Chain
import FaceVec.Ws.Disconnection

/-!
The heartbeat of `ws-server.ts`: who is still connected. Each round drops the
sockets that have not answered since the round before.
-/

namespace FaceVec.Ws

open Interleaving Auth

variable {E K Payload : Type} {ids : IdText}

inductive Beat where
  | ping | pong
  deriving DecidableEq, Repr

/-- The rounds of a replica and the answers of one of its sockets. -/
def beats (replica : Nat) (socket : SocketId) :
    List (Event Input (Change ids E K Payload)) → List Beat
  | [] => []
  | .env (.heartbeat other) :: rest =>
      if other = replica then .ping :: beats replica socket rest else beats replica socket rest
  | .env (.pong other) :: rest =>
      if other = socket then .pong :: beats replica socket rest else beats replica socket rest
  | _ :: rest => beats replica socket rest

/-- No round follows another without an answer in between. -/
def Answers (rhythm : List Beat) : Prop :=
  rhythm.IsChain fun first second => first = .pong ∨ second = .pong

/-- One of the two ends closes the socket. -/
def Shuts (socket : SocketId) : Event Input (Change ids E K Payload) → Prop
  | .env (.closing other) | .env (.closed other) => other = socket
  | _ => False

/-- What an event does to a socket that is there. -/
def touched (socket : SocketId) (event : Event Input (Change ids E K Payload)) (state : Socket) :
    Socket :=
  match event with
  | .env (.heartbeat replica) => heartbeat replica state
  | .env (.pong other) => if other = socket then { state with isAlive := true } else state
  | .env (.closing other) =>
      if other = socket then
        if state.readyState = .OPEN then { state with readyState := .CLOSING } else state
      else state
  | .env (.closed other) => if other = socket then { state with readyState := .CLOSED } else state
  | _ => state

theorem changing_at (store : Store ids E K Payload) (other socket : SocketId)
    (change : Socket → Socket) (state : Socket) (found : store.sockets[socket]? = some state) :
    (store.changing other change).sockets[socket]? =
      some (if other = socket then change state else state) := by
  rw [Store.changing, List.getElem?_modify, found]
  rfl

theorem ambient_touched [LinearOrder K] (store : Store ids E K Payload)
    (change : Change ids E K Payload) (socket : SocketId) (state : Socket)
    (found : store.sockets[socket]? = some state) :
    (ambient ids change store).sockets[socket]? =
      some (touched socket (.env change : Event Input (Change ids E K Payload)) state) := by
  cases change with
  | publish replica live redisReady => cases redisReady <;> exact found
  | receive replica =>
      simp only [ambient]
      split <;> exact found
  | heartbeat replica =>
      simp only [ambient, List.getElem?_map, found, Option.map_some]
      rfl
  | pong other => exact changing_at store other socket _ state found
  | closing other => exact changing_at store other socket _ state found
  | closed other =>
      simp only [ambient, registering_sockets]
      exact changing_at store other socket _ state found
  | _ => exact found

variable [Field K] [LinearOrder K] [FloorRing K]

theorem step_touched (system : System (Store ids E K Payload) (Handler E K))
    (event : Event Input (Change ids E K Payload)) (socket : SocketId) (state : Socket)
    (found : system.store.sockets[socket]? = some state) :
    ((server ids).step system event).store.sockets[socket]? = some (touched socket event state) := by
  cases event with
  | env change => exact ambient_touched system.store change socket state found
  | act index input =>
      rw [step_store]
      simp only [server, exec, touched]
      split
      · rw [onMessage_sockets]
        exact found
      · rw [checkAccess_sockets]
        exact found
      · rcases handleUpgrade_cases system.store _ (system.procs index) with
          same | ⟨state, mark, -, same⟩
        · rw [same]
          exact found
        · rw [same, onConnection, send_sockets,
            List.getElem?_append_left (List.getElem?_eq_some_iff.mp found).1]
          exact found

omit [Field K] [LinearOrder K] [FloorRing K] in
theorem touched_lost (socket : SocketId) (event : Event Input (Change ids E K Payload))
    (state : Socket) (lost : state.readyState ≠ .OPEN) :
    (touched socket event state).readyState ≠ .OPEN := by
  unfold touched
  split
  · unfold heartbeat
    split
    · split
      · exact lost
      · nofun
    · exact lost
  · split <;> exact lost
  · rw [if_neg lost]
    split <;> exact lost
  · split
    · nofun
    · exact lost
  · exact lost

theorem run_lost (system : System (Store ids E K Payload) (Handler E K))
    (events : List (Event Input (Change ids E K Payload))) (socket : SocketId) (state : Socket)
    (found : system.store.sockets[socket]? = some state) (lost : state.readyState ≠ .OPEN) :
    ((server ids).run system events).store.isOpen socket = false := by
  induction events generalizing system state with
  | nil => simp [Machine.run, Store.isOpen, found, lost]
  | cons event rest ih =>
      exact ih _ _ (step_touched system event socket state found)
        (touched_lost socket event state lost)

theorem answers_pong (rhythm : List Beat) : Answers (.pong :: rhythm) ↔ Answers rhythm := by
  cases rhythm <;> simp [Answers]

theorem answers_ping_pong (rhythm : List Beat) :
    Answers (.ping :: .pong :: rhythm) ↔ Answers rhythm := by
  cases rhythm <;> simp [Answers]

theorem answers_ping_ping (rhythm : List Beat) : ¬Answers (.ping :: .ping :: rhythm) := by
  simp [Answers]

/-- The rhythm of a socket, with the round it has not answered yet. -/
def awaited (state : Socket) (rhythm : List Beat) : List Beat :=
  if state.isAlive then rhythm else .ping :: rhythm

theorem run_open (events : List (Event Input (Change ids E K Payload)))
    (system : System (Store ids E K Payload) (Handler E K)) (socket : SocketId) (state : Socket)
    (found : system.store.sockets[socket]? = some state) (opened : state.readyState = .OPEN) :
    ((server ids).run system events).store.isOpen socket = true ↔
      (∀ event ∈ events, ¬Shuts socket event) ∧
        Answers (awaited state (beats state.replica socket events)) := by
  induction events generalizing system state with
  | nil =>
      have rhythm : Answers (awaited state (beats state.replica socket
          ([] : List (Event Input (Change ids E K Payload))))) := by
        unfold awaited
        split <;> simp [Answers, beats]
      simp [Machine.run, Store.isOpen, found, opened, rhythm]
  | cons event rest ih =>
      have next := step_touched system event socket state found
      rw [Machine.run, List.forall_mem_cons]
      -- An event that does not concern the socket.
      have quiet : ¬Shuts socket event → touched socket event state = state →
          beats state.replica socket (event :: rest) = beats state.replica socket rest →
          (((server ids).run ((server ids).step system event) rest).store.isOpen socket = true ↔
            (¬Shuts socket event ∧ ∀ later ∈ rest, ¬Shuts socket later) ∧
              Answers (awaited state (beats state.replica socket (event :: rest)))) := by
        intro spared same rhythm
        rw [same] at next
        rw [ih _ state next opened, rhythm]
        simp [spared]
      cases event with
      | act index input => exact quiet id rfl rfl
      | env change =>
          cases change with
          | heartbeat replica =>
              by_cases mine : replica = state.replica
              · subst mine
                cases alive : state.isAlive with
                | true =>
                    simp only [touched, heartbeat, opened, alive, ne_eq, reduceCtorEq,
                      not_false_eq_true, and_self, if_true] at next
                    rw [ih _ _ next rfl]
                    simp [awaited, beats, alive, Shuts]
                | false =>
                    rw [run_lost _ rest socket _ next (by simp [touched, heartbeat, opened, alive])]
                    simp [awaited, beats, alive, answers_ping_ping]
              · refine quiet id ?_ (if_neg mine)
                simp [touched, heartbeat, Ne.symm mine]
          | pong other =>
              by_cases own : other = socket
              · simp only [touched, if_pos own] at next
                rw [ih _ _ next opened]
                cases alive : state.isAlive <;>
                  simp [awaited, beats, own, alive, Shuts, answers_pong, answers_ping_pong]
              · exact quiet id (if_neg own) (if_neg own)
          | closing other =>
              by_cases own : other = socket
              · rw [run_lost _ rest socket _ next (by simp [touched, own, opened])]
                simp [Shuts, own]
              · exact quiet own (if_neg own) rfl
          | closed other =>
              by_cases own : other = socket
              · rw [run_lost _ rest socket _ next (by simp [touched, own])]
                simp [Shuts, own]
              · exact quiet own (if_neg own) rfl
          | _ => exact quiet id rfl rfl

/-- From its upgrade on, a socket is open for as long as neither end closes it and
it answers each round of its replica before the next, whatever else happens. -/
theorem answering_sockets_stay (system : System (Store ids E K Payload) (Handler E K))
    (index replica : Nat) (admission : Admission K)
    (upgrading : system.procs index = .upgrading replica admission)
    (later : List (Event Input (Change ids E K Payload))) :
    ((server ids).run system (.act index (.handshake true) :: later)).store.isOpen
        system.store.sockets.length = true ↔
      (∀ event ∈ later, ¬Shuts system.store.sockets.length event) ∧
        Answers (beats replica system.store.sockets.length later) := by
  obtain ⟨auth, found⟩ : ∃ auth, ((server ids).step system
      (.act index (.handshake true))).store.sockets[system.store.sockets.length]? =
        some ⟨replica, admission.token, auth, .OPEN, true⟩ := by
    rw [step_store, upgrading]
    simp [server, exec, handleUpgrade, onConnection]
  exact run_open later _ _ _ found rfl

/-- The upgrade of the phone, up to its handshake. -/
def knocking : System (Store letters ℤ ℚ Unit) (Handler ℤ ℚ) :=
  (server letters).run (listening letters seminar 100 noRevocations) (arrival.take 3)

theorem answering_sockets_stay_phone :
    ((server letters).run knocking [.act 0 (.handshake true), .env (.heartbeat 0),
        .env (.pong 0), .env (.heartbeat 0)]).store.isOpen 0 = true ∧
      ¬((server letters).run knocking [.act 0 (.handshake true), .env (.heartbeat 0),
        .env (.heartbeat 0)]).store.isOpen 0 = true := by
  have stays := answering_sockets_stay knocking 0 0 _ rfl
  constructor
  · exact (stays _).mpr ⟨by simp [Shuts], (answers_ping_pong [.ping]).mpr (List.isChain_singleton _)⟩
  · intro opened
    exact answers_ping_ping [] ((stays _).mp opened).2

end FaceVec.Ws
