import FaceVec.Ws.Liveness
import FaceVec.Ws.Notifications

/-!
When an attendance event reaches the live feed once. Its row is published
once, the broker has at most as many live copies as were published and not yet
forwarded, and a socket hears at most what was forwarded. Each fault that is
left out here repeats an event that the consumer then forwards again.
-/

namespace FaceVec.Notifications

open Interleaving Auth Courses Ws

variable {E K Score : Type} {ids : IdText}

def ofRow (id : Uuid) : LiveEvent ids (Notification Score) → Bool
  | .attendance _ notification => notification.messageId == id
  | .importProgress _ _ => false

abbrev attends (id : Uuid) : Notification Score → Bool :=
  Outbox.announces EventType.AttendanceRecorded id

theorem attends_iff (id : Uuid) (notification : Notification Score) :
    attends id notification = true ↔
      notification.routingKey = EventType.AttendanceRecorded ∧ notification.messageId = id := by
  simp [Outbox.announces]

def relayOf (system : State ids E K Score) : Outbox.State (EventPayload Score) :=
  ⟨system.store.relay, fun index => (system.procs index).drain⟩

def wsOf (system : State ids E K Score) :
    System (Ws.Store ids E K (Notification Score)) (Ws.Handler E K) :=
  ⟨system.store.ws, fun index => (system.procs index).handler⟩

abbrev NoSuccessor : Notification Score → Queue → Notification Score → Prop := fun _ _ _ => False

/-- Of each row no more was forwarded, or can still be forwarded, than was published. -/
structure Carried (store : Store ids E K Score) : Prop where
  sequenced : ∀ delivery ∈ store.broker.unacked, Broker.Sequenced NoSuccessor delivery
  copies : ∀ id, store.forwarded.countP (attends id) + store.broker.live (attends id) ≤
    store.relay.published.countP (attends id)

/-- Of each row no socket hears more than was forwarded. -/
structure Aired (store : Store ids E K Score) : Prop where
  kind : ∀ notification ∈ store.forwarded,
    notification.routingKey = EventType.AttendanceRecorded
  homed : Homed store.ws
  within : ∀ id, Within (ofRow id) (store.forwarded.countP (attends id)) store.ws

theorem within_grows (of : LiveEvent ids (Notification Score) → Bool) (bound more : Nat)
    (ws : Ws.Store ids E K (Notification Score)) (within : Within of bound ws) (grows : bound ≤ more) :
    Within of more ws :=
  fun socket replica there => (within socket replica there).trans grows

theorem attendance_routes :
    routes (words EventType.AttendanceRecorded) = [.NOTIFICATIONS] := by decide

section Broadcasts

variable [Field K] [LinearOrder K] [FloorRing K]

theorem published_within (of : LiveEvent ids (Notification Score) → Bool) (bound replica : Nat)
    (event : LiveEvent ids (Notification Score)) (redisReady : Bool)
    (ws : Ws.Store ids E K (Notification Score)) (homed : Homed ws) (within : Within of bound ws) :
    Homed (Ws.ambient ids (.publish replica event redisReady) ws) ∧
      Within of (bound + if of event then 1 else 0)
        (Ws.ambient ids (.publish replica event redisReady) ws) :=
  ⟨moved_homed ws _ _ homed (ambient_moved ws _),
    step_within (.env (.publish replica event redisReady)) of ⟨ws, fun _ => .idle⟩ bound homed within⟩

theorem publishAttendance_aired (notification : Notification Score) (replica : Nat)
    (outlet : Outlet) (ws : Ws.Store ids E K (Notification Score)) (id : Uuid) (bound : Nat)
    (homed : Homed ws) (within : Within (ofRow id) bound ws) :
    Homed (publishAttendance ids notification replica outlet ws) ∧
      Within (ofRow id) (bound + if notification.messageId == id then 1 else 0)
        (publishAttendance ids notification replica outlet ws) := by
  have silent : Homed ws ∧ Within (ofRow id)
      (bound + if notification.messageId == id then 1 else 0) ws :=
    ⟨homed, within_grows _ _ _ ws within (Nat.le_add_right _ _)⟩
  unfold publishAttendance liveEvent
  cases notification.payload with
  | attendanceRecorded _ sessionId =>
      cases outlet with
      | redis => exact published_within _ bound replica _ true ws homed within
      | failing => exact silent
      | local_ => exact published_within _ bound replica _ false ws homed within
  | _ => exact silent

omit [Field K] [FloorRing K] in
theorem forward_others (notification : Notification Score) (replica : Nat) (outlet : Outlet)
    (store : Store ids E K Score) :
    (forward ids notification replica outlet store).relay = store.relay ∧
      (forward ids notification replica outlet store).broker = store.broker := by
  unfold forward
  split <;> exact ⟨rfl, rfl⟩

omit [Field K] [FloorRing K] in
theorem forward_count (notification : Notification Score) (replica : Nat) (outlet : Outlet)
    (store : Store ids E K Score) (id : Uuid) :
    (forward ids notification replica outlet store).forwarded.countP (attends id) =
      store.forwarded.countP (attends id) + if attends id notification then 1 else 0 := by
  unfold forward
  split
  · rw [List.countP_append, List.countP_singleton]
  · next other => simp [Outbox.announces, other]

theorem forward_aired (notification : Notification Score) (replica : Nat) (outlet : Outlet)
    (store : Store ids E K Score) (aired : Aired store) :
    Aired (forward ids notification replica outlet store) := by
  have counts := forward_count notification replica outlet store
  unfold forward at counts ⊢
  split
  · next kind =>
      rw [if_pos kind] at counts
      have sends := fun id => publishAttendance_aired notification replica outlet store.ws id
        (store.forwarded.countP (attends id)) aired.homed (aired.within id)
      refine ⟨?_, (sends 0).1, fun id => ?_⟩
      · intro other member
        rcases List.mem_append.mp member with old | new
        · exact aired.kind other old
        · rw [List.mem_singleton.mp new]
          exact kind
      · rw [counts id]
        simpa [Outbox.announces, kind] using (sends id).2
  · exact aired

end Broadcasts

section Consumers

variable (store : Store ids E K Score) (carried : Carried store)

include carried

theorem deliver_carried (position channel : Nat) (delivery : Delivery Queue (Notification Score))
    (broker : Broker Queue (Notification Score))
    (delivers : store.broker.deliver .NOTIFICATIONS position channel = some (delivery, broker)) :
    Carried { store with broker } := by
  obtain ⟨message, _, made, _, unacked, _⟩ :=
    Broker.deliver_some store.broker _ position channel delivery broker delivers
  constructor
  · intro other member
    rw [unacked] at member
    rcases List.mem_append.mp member with old | new
    · exact carried.sequenced other old
    · rw [List.mem_singleton.mp new, made]
      exact .held rfl
  · intro id
    rw [Broker.live_deliver (attends id) store.broker _ position channel delivery broker delivers]
    exact carried.copies id

theorem frame_carried (tag : Nat) : Carried { store with broker := store.broker.handleFrame tag } := by
  constructor
  · intro delivery member
    rcases Broker.handleFrame_cases NoSuccessor store.broker carried.sequenced tag with
      kept | ⟨_, _, _, ⟨_, removed⟩ | ⟨_, _, _, impossible, _⟩⟩
    · exact carried.sequenced delivery (kept ▸ member)
    · dsimp only at member
      rw [removed] at member
      exact carried.sequenced delivery (List.mem_of_mem_filter member)
    · exact impossible.elim
  · intro id
    rw [Broker.live_handleFrame (attends id) NoSuccessor store.broker carried.sequenced tag
      fun _ _ _ impossible => impossible.elim]
    exact carried.copies id

theorem lose_carried (channel : Nat) (stranded : List (Notification Score))
    (calm : ∀ delivery ∈ store.broker.unacked, delivery.channel = channel →
      delivery.message.routingKey = EventType.AttendanceRecorded → delivery.sent = []) :
    Carried { store with broker := store.broker.lose channel, stranded } := by
  constructor
  · exact fun delivery member => carried.sequenced delivery (List.mem_of_mem_filter member)
  · intro id
    rw [Broker.live_lose_held (attends id) store.broker channel]
    · exact carried.copies id
    · intro delivery member same wanted
      have kind := ((attends_iff id delivery.message).mp wanted).1
      simp [Delivery.superseded, calm delivery member same kind]

variable [Field K] [LinearOrder K] [FloorRing K]

omit [Field K] [FloorRing K] in
theorem handle_carried (tag replica : Nat) (outlet : Outlet) :
    Carried (handle ids tag replica outlet store) := by
  unfold handle
  cases found : store.broker.find tag with
  | none => exact carried
  | some delivery =>
      obtain ⟨member, rfl⟩ := (Broker.find_iff store.broker delivery tag).mp found
      dsimp only
      split
      · next waits =>
          constructor
          · intro other inside
            have amended : other ∈ (store.broker.amend delivery.tag (· ++ [.ack])).unacked := inside
            obtain ⟨old, stored, ⟨_, rfl⟩ | ⟨same, rfl⟩⟩ := Broker.mem_amend _ _ _ other amended
            · exact carried.sequenced _ stored
            · rw [Broker.unacked_eq_of_tag store.broker delivery old member stored same]
              exact .acked (by simp [waits])
          · intro id
            have ended := Broker.live_acknowledge store.broker delivery (attends id) member waits
            have before := carried.copies id
            have more := forward_count delivery.message replica outlet store id
            have same := (forward_others delivery.message replica outlet store).1
            dsimp only
            rw [same, more]
            omega
      · exact carried

end Consumers

section Relay

variable (store : Store ids E K Score) (carried : Carried store)

include carried in
theorem take_carried (relay : Outbox.Store (EventPayload Score))
    (published : relay.published = store.relay.published ∨
      ∃ notification, relay.published = store.relay.published ++ [notification]) :
    Carried { store with relay, broker := take store.relay relay store.broker } := by
  rcases published with same | ⟨notification, more⟩
  · have idle : take store.relay relay store.broker = store.broker := by
      simp [take, same]
    rw [idle]
    exact ⟨carried.sequenced, by simpa [same] using carried.copies⟩
  · have taken : take store.relay relay store.broker =
        publish (words notification.routingKey) notification store.broker := by
      simp [take, more]
    rw [taken]
    constructor
    · intro delivery member
      dsimp only at member
      rw [publish_unacked] at member
      exact carried.sequenced delivery member
    · intro id
      have before := carried.copies id
      dsimp only
      rw [live_publish, more, List.countP_append, List.countP_singleton]
      split
      · next wanted =>
          -- The exchange has one queue for the key.
          rw [((attends_iff id notification).mp wanted).1, attendance_routes, List.length_singleton]
          omega
      · omega

end Relay

/-- The invariant of the runs without the faults. -/
structure Sound (maxAttempts : ℕ+) (system : State ids E K Score) : Prop where
  safe : Outbox.Safe maxAttempts (relayOf system)
  unrepeated : Outbox.Unrepeated maxAttempts EventType.AttendanceRecorded (relayOf system)
  carried : Carried system.store
  aired : Aired system.store

section Runs

variable (batchSize maxAttempts : ℕ+) [Field K] [LinearOrder K] [FloorRing K]
  (system : State ids E K Score)

theorem relayOf_act (index : Nat) (input : Outbox.Input) :
    relayOf ((feed ids batchSize maxAttempts).step system (.act index (.relay input))) =
      (Outbox.machine batchSize maxAttempts).step (relayOf system) (.act index input) := by
  have procs : (fun other => (Function.update system.procs index
      { system.procs index with
        drain := ((Outbox.machine batchSize maxAttempts).exec input system.store.relay
          (system.procs index).drain).2 } other).drain) =
      Function.update (fun other => (system.procs other).drain) index
        ((Outbox.machine batchSize maxAttempts).exec input system.store.relay
          (system.procs index).drain).2 := by
    funext other
    by_cases same : other = index
    · subst same
      simp
    · simp [same]
  exact congrArg (System.mk _) procs

theorem relayOf_ws (index : Nat) (input : Ws.Input) :
    relayOf ((feed ids batchSize maxAttempts).step system (.act index (.ws input))) =
      relayOf system := by
  have procs : (fun other => (((feed ids batchSize maxAttempts).step system
      (.act index (.ws input))).procs other).drain) = fun other => (system.procs other).drain := by
    funext other
    by_cases same : other = index
    · subst same
      simp [feed, exec]
    · simp [same]
  exact congrArg (System.mk _) procs

variable {maxAttempts}

theorem act_sound (index : Nat) (input : Input) (sound : Sound maxAttempts system)
    (calm : Calm maxAttempts system (.act index input)) :
    Sound maxAttempts ((feed ids batchSize maxAttempts).step system (.act index input)) := by
  cases input with
  | relay input =>
      refine ⟨?_, ?_, ?_, ⟨sound.aired.kind, sound.aired.homed, sound.aired.within⟩⟩
      · rw [relayOf_act]
        exact Outbox.step_safe batchSize maxAttempts (relayOf system) (.act index input) sound.safe
      · rw [relayOf_act]
        exact Outbox.act_unrepeated (relayOf system) sound.safe sound.unrepeated index input calm
      · apply take_carried system.store sound.carried
        rcases Outbox.drainBatch_published batchSize maxAttempts (system.procs index).drain.number
          (system.procs index).drain.phase input system.store.relay with same | ⟨row, more, _⟩
        · exact Or.inl same
        · exact Or.inr ⟨_, more⟩
  | ws input =>
      have moved := exec_moved system.store.ws index input (system.procs index).handler
      refine ⟨?_, ?_, ⟨sound.carried.sequenced, sound.carried.copies⟩, ⟨sound.aired.kind, ?_, ?_⟩⟩
      · exact relayOf_ws batchSize maxAttempts system index input ▸ sound.safe
      · exact relayOf_ws batchSize maxAttempts system index input ▸ sound.unrepeated
      · exact moved_homed system.store.ws _ _ sound.aired.homed moved
      · intro id
        exact step_within (.act index input) (ofRow id) (wsOf system) _ sound.aired.homed
          (sound.aired.within id)

theorem ws_aired (store : Store ids E K Score) (aired : Aired store)
    (change : Ws.Change ids E K (Notification Score))
    (other : ∀ id, counted (ofRow id) (publishes (.env change)) = 0) :
    Aired { store with ws := Ws.ambient ids change store.ws } := by
  refine ⟨aired.kind, moved_homed store.ws _ _ aired.homed (ambient_moved store.ws change), ?_⟩
  intro id
  have heard := step_within (.env change) (ofRow id) ⟨store.ws, fun _ => .idle⟩ _ aired.homed
    (aired.within id)
  rw [other id] at heard
  exact heard

omit [Field K] [FloorRing K] in
theorem late_same (store : Store ids E K Score) (notification : Notification Score) (replica : Nat)
    (outlet : Outlet) (other : notification.routingKey ≠ EventType.AttendanceRecorded) :
    forward ids notification replica outlet store = store := if_neg other

/-- The relay apart, only what the broker and the sockets hold changes. -/
theorem ambient_carried (change : Change ids E K Score) (carried : Carried system.store)
    (aired : Aired system.store) (calm : Calm maxAttempts system (.env change)) :
    Carried (ambient ids change system.store) ∧ Aired (ambient ids change system.store) := by
  cases change with
  | relay change =>
      have published : (Outbox.ambient change system.store.relay).published =
          system.store.relay.published := by
        cases change <;> rfl
      refine ⟨⟨carried.sequenced, fun id => ?_⟩, ⟨aired.kind, aired.homed, aired.within⟩⟩
      simp only [ambient]
      rw [published]
      exact carried.copies id
  | deliver position channel =>
      simp only [ambient]
      split
      · split
        · exact ⟨carried, aired⟩
        · next delivery broker delivers =>
            exact ⟨deliver_carried system.store carried position channel delivery broker delivers,
              ⟨aired.kind, aired.homed, aired.within⟩⟩
      · exact ⟨carried, aired⟩
  | handle tag replica outlet =>
      refine ⟨handle_carried system.store carried tag replica outlet, ?_⟩
      simp only [ambient, handle]
      split
      · exact aired
      · next delivery _ =>
          split
          · have sent := forward_aired delivery.message replica outlet system.store aired
            exact ⟨sent.kind, sent.homed, sent.within⟩
          · exact aired
  | frame tag =>
      exact ⟨frame_carried system.store carried tag, ⟨aired.kind, aired.homed, aired.within⟩⟩
  | lose channel =>
      exact ⟨lose_carried system.store carried channel _ calm,
        ⟨aired.kind, aired.homed, aired.within⟩⟩
  | late position replica outlet =>
      simp only [ambient]
      split
      · exact ⟨carried, aired⟩
      -- In a calm run no attendance event comes late.
      · next notification found =>
          rw [late_same system.store notification replica outlet (calm notification found)]
          exact ⟨⟨carried.sequenced, carried.copies⟩, ⟨aired.kind, aired.homed, aired.within⟩⟩
  | ws change =>
      cases change with
      | publish replica event redisReady =>
          cases event with
          | attendance sessionId notification => exact ⟨carried, aired⟩
          | importProgress jobId notification =>
              exact ⟨⟨carried.sequenced, carried.copies⟩,
                ws_aired system.store aired _ fun id => rfl⟩
      | _ => exact ⟨⟨carried.sequenced, carried.copies⟩, ws_aired system.store aired _ fun id => rfl⟩

omit [Field K] [FloorRing K] in
theorem forward_relay (change : Change ids E K Score) (store : Store ids E K Score)
    (other : ∀ relayed, change ≠ .relay relayed) :
    (ambient ids change store).relay = store.relay := by
  cases change with
  | relay change => exact absurd rfl (other change)
  | deliver position channel =>
      simp only [ambient]
      split
      · split <;> rfl
      · rfl
  | handle tag replica outlet =>
      simp only [ambient, handle]
      split
      · rfl
      · split
        · exact (forward_others _ _ _ store).1
        · rfl
  | late position replica outlet =>
      simp only [ambient]
      split
      · rfl
      · exact (forward_others _ _ _ store).1
  | frame tag => rfl
  | lose channel => rfl
  | ws change =>
      cases change with
      | publish replica event redisReady => cases event <;> rfl
      | _ => rfl

theorem step_sound (event : Event Input (Change ids E K Score)) (sound : Sound maxAttempts system)
    (calm : Calm maxAttempts system event) :
    Sound maxAttempts ((feed ids batchSize maxAttempts).step system event) := by
  cases event with
  | act index input => exact act_sound batchSize system index input sound calm
  | env change =>
      obtain ⟨carried, aired⟩ := ambient_carried system change sound.carried sound.aired calm
      by_cases relayed : ∃ inner, change = .relay inner
      · obtain ⟨inner, rfl⟩ := relayed
        exact ⟨Outbox.step_safe batchSize maxAttempts (relayOf system) (.env inner) sound.safe,
          @Outbox.ambient_unrepeated _ batchSize _ _ (relayOf system) sound.safe
            sound.unrepeated inner, carried, aired⟩
      · have same : relayOf ((feed ids batchSize maxAttempts).step system (.env change)) =
            relayOf system :=
          congrArg (System.mk · _) (forward_relay change system.store fun inner is => relayed ⟨inner, is⟩)
        exact ⟨same ▸ sound.safe, same ▸ sound.unrepeated, carried, aired⟩

end Runs

section Once

variable {maxAttempts : ℕ+} (system : State ids E K Score)

theorem start_sound (db : Database E) (clock : K) (redis : Revocations K) :
    Sound maxAttempts (start ids db clock redis : State ids E K Score) where
  safe := Outbox.start_safe maxAttempts
  unrepeated := Outbox.start_unrepeated maxAttempts EventType.AttendanceRecorded
  carried := ⟨by simp [start, Broker.empty], by simp [start, Broker.empty, Broker.live]⟩
  aired := ⟨by simp [start], ⟨fun _ _ => List.nodup_nil, by simp [start, listening, Registry.empty, Registry.members]⟩,
    fun id socket replica _ => by simp [start, listening, heard, sentFrames]⟩

theorem forwarded_le (sound : Sound maxAttempts system) (id : Uuid) :
    system.store.forwarded.countP (attends id) ≤ 1 :=
  (Nat.le_of_add_right_le (sound.carried.copies id)).trans (sound.unrepeated.single id)

theorem sound_once (sound : Sound maxAttempts system) : ForwardedOnce system.store := by
  constructor
  · rw [List.nodup_iff_count_le_one]
    intro id
    rw [List.count, List.countP_map]
    refine le_trans (List.countP_mono_left ?_) (forwarded_le system sound id)
    intro notification member same
    exact (attends_iff id notification).mpr
      ⟨sound.aired.kind notification member, by simpa using same⟩
  · intro socket
    rw [List.nodup_iff_count_le_one]
    intro id
    have rows : (rowsHeard socket system.store.ws.trail).count id =
        heard (ofRow id) system.store.ws.trail socket := by
      unfold rowsHeard heard
      rw [List.count, List.countP_filterMap]
      apply List.countP_congr
      rintro ⟨hearer, event⟩ _
      cases event with
      | attendance sessionId notification =>
          by_cases same : hearer = socket <;> simp [same, ofRow]
      | importProgress jobId notification => simp [ofRow]
    obtain ⟨replica, there⟩ : ∃ replica, At system.store.ws socket replica := by
      cases found : system.store.ws.sockets[socket]? with
      | none => exact ⟨0, fun state present => by simp [found] at present⟩
      | some state => exact ⟨state.replica, fun other present => by
          rw [Option.some.inj (found.symm.trans present)]⟩
    have bound := sound.aired.within id socket replica there
    have once := forwarded_le system sound id
    rw [rows]
    omega

end Once

/-- Without a fault after publishing and without redelivery of what was
forwarded, the live feed gets each attendance event once. -/
theorem attendance_forwarded_once (ids : IdText) (batchSize maxAttempts : ℕ+)
    [Field K] [LinearOrder K] [FloorRing K] (db : Database E) (clock : K) (redis : Revocations K)
    (events : List (Event Input (Change ids E K Score)))
    (calm : (feed ids batchSize maxAttempts).Along (Calm maxAttempts) (start ids db clock redis) events) :
    ForwardedOnce ((feed ids batchSize maxAttempts).run (start ids db clock redis) events).store :=
  sound_once _ (along_invariant _ (Calm maxAttempts) (Sound maxAttempts)
    (fun system event sound calm => step_sound batchSize system event sound calm) _ _
    (start_sound db clock redis) calm)

abbrev FeedEvent := Event Input (Change letters ℤ ℚ ℤ)

abbrev FeedState := State letters ℤ ℚ ℤ

/-- A professor's socket subscribes to session 2. -/
def subscribing : List FeedEvent :=
  [.act 0 (.ws (.upgrade 0 "/ws" (some phone))), .act 0 (.ws (.ask .ready)), .act 0 (.ws (.ask .ready)),
    .act 0 (.ws (.handshake true)), .act 1 (.ws (.message 0 (.value (sessionMessage "aa")))),
    .act 1 (.ws (.read none))]

/-- Row 1 announces an attendance in session 2. -/
def recording : FeedEvent :=
  .env (.relay (.insert 1 "AttendanceSession" 2 EventType.AttendanceRecorded
    (.attendanceRecorded 9 2 3 4 .PRESENT .MANUAL none 0)))

/-- A batch publishes row 1, the broker confirms the publication, and the row is updated. -/
def publishing (batch position : Nat) : List FeedEvent :=
  [.act batch (.relay (.claim [1])), .act batch (.relay .publish),
    .env (.relay (.brokerConfirms position)), .act batch (.relay .confirm), .act batch (.relay .update)]

def consuming (tag : Nat) : List FeedEvent :=
  [.env (.deliver 0 tag), .env (.handle tag 0 .local_)]

def fed (events : List FeedEvent) : FeedState :=
  (feed letters Config.least.OUTBOX_BATCH_SIZE Config.least.OUTBOX_MAX_ATTEMPTS).run
    (start letters seminar 100 noRevocations) (subscribing ++ recording :: events)

theorem attendance_forwarded_once_seminar :
    ForwardedOnce (fed (publishing 0 0 ++ .act 0 (.relay .commit) :: consuming 0 ++ [.env (.frame 0)])).store :=
  attendance_forwarded_once letters _ _ seminar 100 noRevocations _
    ⟨trivial, trivial, trivial, trivial, trivial, trivial, trivial, trivial, trivial, trivial, trivial,
      trivial, trivial, trivial, trivial, trivial, trivial⟩

/-- The broker has confirmed row 1 when the first transaction is rolled back. -/
def rolledBack : FeedState :=
  fed (publishing 0 0 ++ .act 0 (.relay .abort) :: publishing 1 1 ++
    .act 1 (.relay .commit) :: consuming 0 ++ consuming 1)

/-- The channel is lost before the broker has the acknowledgement of row 1. -/
def redelivered : FeedState :=
  fed (publishing 0 0 ++ .act 0 (.relay .commit) :: consuming 0 ++ .env (.lose 0) :: consuming 1)

/-- Each of the two faults makes the socket hear row 1 twice. -/
theorem attendance_forwarded_twice :
    (rowsHeard 0 rolledBack.store.ws.trail = [1, 1] ∧ ¬ ForwardedOnce rolledBack.store) ∧
      rowsHeard 0 redelivered.store.ws.trail = [1, 1] ∧ ¬ ForwardedOnce redelivered.store := by
  have rolled : rowsHeard 0 rolledBack.store.ws.trail = [1, 1] := rfl
  have again : rowsHeard 0 redelivered.store.ws.trail = [1, 1] := rfl
  refine ⟨⟨rolled, fun once => ?_⟩, again, fun once => ?_⟩
  · exact absurd (rolled ▸ once.heard 0) (by decide)
  · exact absurd (again ▸ once.heard 0) (by decide)

end FaceVec.Notifications
