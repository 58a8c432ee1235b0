import FaceVec.Ws.Upgrades

/-!
How long a socket keeps its authority. The token is verified, and Redis is
asked, while the upgrade is authenticated; `auth` then stays with the socket,
and neither the clock nor Redis is looked at when frames are sent.
-/

namespace FaceVec.Ws

open Interleaving Attendance Auth Courses

variable {E K Payload : Type} {ids : IdText}

/-- The same store at another time and with other revocations. -/
def Store.lapsed (store : Store ids E K Payload) (clock : K) (redis : Revocations K) :
    Store ids E K Payload :=
  { store with clock, redis }

/-- Time passes or a revocation is written. -/
def lapses : Event Input (Change ids E K Payload) → Bool
  | .env (.tick _) | .env (.revoke _) => true
  | _ => false

def authenticates : Event Input (Change ids E K Payload) → Bool
  | .act _ (.upgrade _ _ _) | .act _ (.ask _) => true
  | _ => false

section Lapses

variable (store : Store ids E K Payload) (clock : K) (redis : Revocations K)

theorem send_lapsed (socket : SocketId) (reply : Reply) :
    send socket reply (store.lapsed clock redis) = (send socket reply store).lapsed clock redis := by
  have same : (store.lapsed clock redis).isOpen socket = store.isOpen socket := rfl
  unfold send
  rw [same]
  split <;> rfl

theorem registering_lapsed (socket : SocketId) (change : Registry → Registry) :
    (store.lapsed clock redis).registering socket change =
      (store.registering socket change).lapsed clock redis := by
  have same : (store.lapsed clock redis).sockets = store.sockets := rfl
  unfold Store.registering
  rw [same]
  split <;> rfl

theorem subscribed_lapsed (socket : SocketId) (topic : String) (check : Check E) (reply : Reply) :
    subscribed ids socket topic check reply (store.lapsed clock redis) =
      (subscribed ids socket topic check reply store).lapsed clock redis := by
  unfold subscribed
  rw [← send_lapsed, ← registering_lapsed]
  rfl

theorem onMessage_lapsed (socket : SocketId) (data : Data) :
    onMessage ids socket data (store.lapsed clock redis) =
      (((onMessage ids socket data store).1).lapsed clock redis, (onMessage ids socket data store).2) := by
  unfold onMessage
  simp only [send_lapsed, registering_lapsed]
  split
  · rfl
  · rfl
  · split
    · split <;> rfl
    · split
      · split <;> rfl
      · split <;> rfl

theorem checkAccess_lapsed (fault : Option Failure) (handler : Handler E K) :
    checkAccess ids fault (store.lapsed clock redis) handler =
      ((checkAccess ids fault store handler).1.lapsed clock redis,
        (checkAccess ids fault store handler).2) := by
  have db : (store.lapsed clock redis).db = store.db := rfl
  have sockets : (store.lapsed clock redis).sockets = store.sockets := rfl
  unfold checkAccess
  simp only [send_lapsed, subscribed_lapsed, db, sockets]
  split
  · split
    · rfl
    · split <;> rfl
  · split <;> rfl
  · split
    · rfl
    · split <;> rfl
  · rfl

variable [Field K] [LinearOrder K] [FloorRing K]

theorem exec_lapsed (input : Input) (handler : Handler E K) (index : Nat)
    (silent : authenticates (.act index input : Event Input (Change ids E K Payload)) = false) :
    exec ids input (store.lapsed clock redis) handler =
      ((exec ids input store handler).1.lapsed clock redis, (exec ids input store handler).2) := by
  cases input with
  | upgrade => cases silent
  | ask => cases silent
  | message socket data =>
      cases handler with
      | idle => exact onMessage_lapsed store clock redis socket data
      | _ => rfl
  | read fault => exact checkAccess_lapsed store clock redis fault handler
  | handshake succeeds =>
      cases handler with
      | upgrading replica admission =>
          cases succeeds with
          | true =>
              simp only [exec, handleUpgrade, onConnection]
              rw [← send_lapsed]
              rfl
          | false => rfl
      | _ => rfl

omit [Field K] [FloorRing K] in
theorem ambient_lapsed (change : Change ids E K Payload)
    (steady : lapses (.env change : Event Input (Change ids E K Payload)) = false) :
    ambient ids change (store.lapsed clock redis) = (ambient ids change store).lapsed clock redis := by
  cases change with
  | tick => cases steady
  | revoke => cases steady
  | publish replica event redisReady => cases redisReady <;> rfl
  | receive replica =>
      have same : (store.lapsed clock redis).inboxes = store.inboxes := rfl
      simp only [ambient, same]
      split <;> rfl
  | closed socket =>
      exact registering_lapsed (store.changing socket fun state => { state with readyState := .CLOSED })
        clock redis socket fun registry => registry.remove socket
  | _ => rfl

end Lapses

section Runs

variable [Field K] [LinearOrder K] [FloorRing K]

/-- Two systems that differ in the time and the revocations alone. -/
def Alike (system other : System (Store ids E K Payload) (Handler E K)) : Prop :=
  system.store = other.store.lapsed system.store.clock system.store.redis ∧
    system.procs = other.procs

theorem alike_step (system other : System (Store ids E K Payload) (Handler E K))
    (event : Event Input (Change ids E K Payload)) (alike : Alike system other)
    (silent : authenticates event = false) (steady : lapses event = false) :
    Alike ((server ids).step system event) ((server ids).step other event) := by
  obtain ⟨store, procs⟩ := system
  obtain ⟨sameStore, sameProcs⟩ := alike
  dsimp only at sameStore sameProcs
  subst sameProcs
  cases event with
  | act index input =>
      have moved := exec_lapsed other.store store.clock store.redis input (other.procs index) index silent
      rw [← sameStore] at moved
      constructor
      · simp only [Machine.step, server, moved]
        rfl
      · simp only [Machine.step, server, moved]
  | env change =>
      have moved := ambient_lapsed other.store store.clock store.redis change steady
      rw [← sameStore] at moved
      constructor
      · simp only [Machine.step, server, moved]
        rfl
      · rfl

theorem alike_lapse (system other : System (Store ids E K Payload) (Handler E K))
    (event : Event Input (Change ids E K Payload)) (alike : Alike system other)
    (lapse : lapses event = true) : Alike ((server ids).step system event) other := by
  obtain ⟨store, procs⟩ := system
  obtain ⟨sameStore, sameProcs⟩ := alike
  dsimp only at sameStore sameProcs
  cases event with
  | act => cases lapse
  | env change =>
      cases change with
      | tick now =>
          refine ⟨?_, sameProcs⟩
          rw [sameStore]
          rfl
      | revoke redis =>
          refine ⟨?_, sameProcs⟩
          rw [sameStore]
          rfl
      | _ => cases lapse

/-- While no upgrade is authenticated, nothing of the run depends on how time
passes and what is revoked. -/
theorem run_lapses (events : List (Event Input (Change ids E K Payload)))
    (system other : System (Store ids E K Payload) (Handler E K)) (alike : Alike system other)
    (silent : ∀ event ∈ events, authenticates event = false) :
    Alike ((server ids).run system events)
      ((server ids).run other (events.filter fun event => !lapses event)) := by
  induction events generalizing system other with
  | nil => exact alike
  | cons event rest ih =>
      have restSilent : ∀ later ∈ rest, authenticates later = false :=
        fun later member => silent later (List.mem_cons_of_mem _ member)
      cases lapse : lapses event with
      | true =>
          rw [List.filter_cons_of_neg (by simp [lapse])]
          exact ih _ _ (alike_lapse system other event alike lapse) restSilent
      | false =>
          rw [List.filter_cons_of_pos (by simp [lapse])]
          exact ih _ _ (alike_step system other event alike (silent event List.mem_cons_self) lapse)
            restSilent

/-- Every live frame goes to a socket whose token passed the three checks of its
upgrade, as the clock and Redis were then. From then on neither expiry nor revocation
changes what is sent. -/
theorem authority_of_the_upgrade (ids : IdText) (db : Database E) (clock : K) (redis : Revocations K)
    (events later : List (Event Input (Change ids E K Payload))) :
    let final := (server ids).run (listening ids db clock redis) events
    (∀ before socket event after, final.store.trail = before ++ .live socket event :: after →
      ∃ admission state, .admitted socket admission ∈ before ∧ admission.Valid ∧
        (∃ index, Authenticated (listening ids db clock redis) events index admission) ∧
        final.store.sockets[socket]? = some state ∧ state.token = admission.token) ∧
    ((∀ event ∈ later, authenticates event = false) →
      ((server ids).run final later).store.trail =
        ((server ids).run final (later.filter fun event => !lapses event)).store.trail) := by
  intro final
  have guarded := run_guarded db clock redis events
  constructor
  · intro before socket event after sent
    obtain ⟨⟨admission, admitted⟩, _⟩ := guarded.justified before socket event after sent
    have noted : .admitted socket admission ∈ final.store.trail :=
      sent ▸ List.mem_append_left _ admitted
    obtain ⟨valid, state, found, token⟩ := guarded.admitted socket admission noted
    have authenticated := (run_story (listening ids db clock redis) events (fun _ => trivial)
      (fun _ _ => List.not_mem_nil)).2 socket admission noted
    exact ⟨admission, state, admitted, valid, authenticated, found, token⟩
  · intro silent
    have alike := run_lapses later final final ⟨rfl, rfl⟩ silent
    rw [alike.1]
    rfl

end Runs

/-- Ids as strokes, many enough to tell sessions apart. -/
def strokes : IdText where
  print id := String.ofList (List.replicate id '1')
  parse text := if text.toList.all (· == '1') then some text.toList.length else none
  parse_print id := by simp
  parse_import text := by simp

def phone : AccessTokenClaims := ⟨7, .PROFESSOR, "phone", 100, 1000⟩

/-- A course of professor 7 with one session. -/
def lectures : Database ℤ where
  students := Table.empty
  faceEmbeddings := Table.empty
  courses := .single ⟨3, "CS-1", "Vision", 7⟩
  courseEnrollments := Table.empty
  importJobs := Table.empty
  attendanceSessions := .single ⟨2, 3, 7, .OPEN, none⟩
  attendanceRecords := Table.empty
  outboxMessages := Table.empty

def recorded : LiveEvent strokes Unit := .attendance ⟨"11", 2, by decide⟩ ()

def subscription : ClientMessage :=
  { type := some (.text "subscribe"), sessionId := some (.text "11") }

/-- The professor subscribes, then ends every session of theirs. -/
def untilLogoutAll : List (Event Input (Change strokes ℤ ℚ Unit)) :=
  [.act 0 (.upgrade 0 "/ws" (some phone)), .act 0 (.ask .ready), .act 0 (.ask .ready),
    .act 0 (.handshake true), .act 1 (.message 0 (.value subscription)), .act 1 (.read none),
    .env (.tick 200),
    .env (.revoke (logoutAllRedis .least noRevocations ⟨7, .PROFESSOR, "phone", 1000⟩ 200))]

def afterLogoutAll : System (Store strokes ℤ ℚ Unit) (Handler ℤ ℚ) :=
  (server strokes).run (listening strokes lectures 100 noRevocations) untilLogoutAll

def afterExpiry : System (Store strokes ℤ ℚ Unit) (Handler ℤ ℚ) :=
  (server strokes).run afterLogoutAll [.env (.tick 2000)]

/-- The sockets that were sent live frames, with the topics. -/
def liveFrames (trail : List (Mark ids E K Payload)) : List (SocketId × String) :=
  trail.filterMap fun mark =>
    match mark with
    | .live socket event => some (socket, event.topic)
    | _ => none

/-- The socket is sent frames when its token is revoked, and when it has expired. -/
theorem frames_outlive_token :
    (∃ socket, afterLogoutAll.store.sockets[0]? = some socket ∧ socket.token = phone) ∧
    Denylisted afterLogoutAll.store.redis phone.jti afterLogoutAll.store.clock ∧
    CutOff afterLogoutAll.store.redis phone.userId phone.issuedAt afterLogoutAll.store.clock ∧
    liveFrames afterLogoutAll.store.trail = [] ∧
    liveFrames ((server strokes).step afterLogoutAll (.env (.publish 0 recorded false))).store.trail =
      [(0, "11")] ∧
    phone.expiresAt ≤ ⌊afterExpiry.store.clock⌋ ∧
    liveFrames ((server strokes).step afterExpiry (.env (.publish 0 recorded false))).store.trail =
      [(0, "11")] := by
  refine ⟨⟨_, rfl, rfl⟩, ?_, ?_, rfl, ?_, ?_, ?_⟩
  · rw [← isAccessTokenRevoked_iff]
    decide +kernel
  · rw [← userTokenCutoff_any_iff]
    decide +kernel
  · decide +kernel
  · decide +kernel
  · decide +kernel

end FaceVec.Ws
