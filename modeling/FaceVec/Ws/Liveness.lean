import FaceVec.Ws.Authority
import FaceVec.Ws.Membership

/-!
Whether an accepted subscription is live. The lookup that accepts a
subscription compares ids, the registry compares the texts they are written
as, and events carry the text the database writes.
-/

namespace FaceVec.Ws

open Interleaving Attendance Auth Courses

variable {E K Payload : Type} {ids : IdText}

namespace Subscription

def text : Subscription → String
  | session sessionId => sessionId
  | importJob jobId => jobId

def reply : Subscription → Reply
  | session sessionId => { type := "subscribed", sessionId := some (.text sessionId) }
  | importJob jobId => { type := "subscribed", jobId := some (.text jobId) }

def resource (ids : IdText) : Subscription → Option Resource
  | session sessionId => (ids.parse sessionId).map .session
  | importJob jobId => (ids.parse jobId).map .importJob

/-- The id is written as the database writes it. -/
def Canonical (ids : IdText) (subscription : Subscription) : Prop :=
  ∃ id, subscription.text = ids.print id

end Subscription

def LiveEvent.Canonical : LiveEvent ids Payload → Prop
  | .attendance sessionId _ => sessionId.text = ids.print sessionId.id
  | .importProgress jobId _ => jobId.text = ids.print jobId.id

/-- What is published carries ids that the database wrote. -/
def Emits : Event Input (Change ids E K Payload) → Prop
  | .env (.publish _ live _) => live.Canonical
  | _ => True

/-- The socket unsubscribes with the same spelling, or closes. -/
def Ends (socket : SocketId) (subscription : Subscription)
    (event : Event Input (Change ids E K Payload)) : Prop :=
  unsubscribes event = some (socket, subscription) ∨ closes socket event

/-- The socket unsubscribes from something else of the same topic: from a
session that is written like the topic of an import job. -/
def Crosses (socket : SocketId) (subscription : Subscription)
    (event : Event Input (Change ids E K Payload)) : Prop :=
  ∃ other : Subscription, unsubscribes event = some (socket, other) ∧ other ≠ subscription ∧
    other.topic = subscription.topic

def Listens (store : Store ids E K Payload) (socket : SocketId) (topic : String) : Prop :=
  ∃ state : Socket, store.sockets[socket]? = some state ∧
    socket ∈ Registry.members (store.registries state.replica).bySession topic

section Server

variable [Field K] [LinearOrder K] [FloorRing K]

def Accepts (system : System (Store ids E K Payload) (Handler E K))
    (event : Event Input (Change ids E K Payload)) (socket : SocketId)
    (subscription : Subscription) : Prop :=
  .reply socket subscription.reply ∈
    ((server ids).step system event).store.trail.drop system.store.trail.length

def newFrames (system : System (Store ids E K Payload) (Handler E K))
    (event : Event Input (Change ids E K Payload)) : List (SocketId × LiveEvent ids Payload) :=
  (sentFrames ((server ids).step system event).store.trail).drop (sentFrames system.store.trail).length

/-- What the step broadcasts for the subscription on the instance of the socket
is sent to the socket if it is open. -/
def Served (socket : SocketId) (subscription : Subscription)
    (system : System (Store ids E K Payload) (Handler E K))
    (event : Event Input (Change ids E K Payload)) : Prop :=
  ∀ live state, system.store.sockets[socket]? = some state →
    broadcasts system.store event = some (state.replica, live) →
    subscription.resource ids = some live.resource → state.readyState = .OPEN →
    (socket, live) ∈ newFrames system event

theorem newFrames_eq (system : System (Store ids E K Payload) (Handler E K))
    (event : Event Input (Change ids E K Payload)) :
    newFrames system event = frames system.store event := by
  rw [newFrames, (step_moved system event).sent, List.drop_left]

/-- Without a parting message a socket stays under its topic. -/
theorem listens_step (system : System (Store ids E K Payload) (Handler E K))
    (event : Event Input (Change ids E K Payload)) (socket : SocketId) (topic : String)
    (stays : ∀ subscription, unsubscribes event = some (socket, subscription) →
      subscription.topic ≠ topic)
    (connected : ¬ closes socket event) (listens : Listens system.store socket topic) :
    Listens ((server ids).step system event).store socket topic := by
  obtain ⟨state, found, member⟩ := listens
  have moved := step_moved system event
  obtain ⟨later, still, home⟩ := moved.settled socket state found
  refine ⟨later, still, ?_⟩
  rw [home]
  have registered := moved.registered
  generalize ((server ids).step system event).store.registries = registries at registered ⊢
  cases registered with
  | kept => exact member
  | joined other otherState joined =>
      by_cases same : state.replica = otherState.replica
      · rw [same, Function.update_self, Registry.mem_subscribe]
        exact Or.inl (same ▸ member)
      · rw [Function.update_of_ne same]
        exact member
  | left other otherState subscription _ asks =>
      by_cases same : state.replica = otherState.replica
      · rw [same, Function.update_self, Registry.mem_unsubscribe]
        refine ⟨same ▸ member, ?_⟩
        rintro ⟨rfl, rfl⟩
        exact stays subscription asks rfl
      · rw [Function.update_of_ne same]
        exact member
  | removed other otherState _ gone =>
      by_cases same : state.replica = otherState.replica
      · rw [same, Function.update_self, Registry.mem_remove]
        refine ⟨same ▸ member, ?_⟩
        rintro ⟨_, rfl⟩
        exact connected gone
      · rw [Function.update_of_ne same]
        exact member

end Server

section Inboxes

variable [Field K] [LinearOrder K] [FloorRing K]

theorem step_inboxes (system : System (Store ids E K Payload) (Handler E K))
    (event : Event Input (Change ids E K Payload)) (emits : Emits event)
    (canonical : ∀ replica, ∀ live ∈ system.store.inboxes replica, live.Canonical) :
    ∀ replica, ∀ live ∈ ((server ids).step system event).store.inboxes replica, live.Canonical := by
  cases event with
  | act index input =>
      rw [step_store]
      simp only [server]
      rw [exec_inboxes]
      exact canonical
  | env change =>
      cases change with
      | publish replica live redisReady =>
          cases redisReady with
          | false => exact canonical
          | true =>
              intro other event member
              rcases List.mem_append.mp member with old | new
              · exact canonical other event old
              · rw [List.mem_singleton.mp new]
                exact emits
      | receive replica =>
          simp only [Machine.step, server, ambient]
          split
          · exact canonical
          · next live rest waiting =>
              intro other event member
              by_cases same : other = replica
              · subst same
                apply canonical other
                rw [waiting]
                exact List.mem_cons_of_mem _ (by simpa [broadcast, Store.record] using member)
              · apply canonical other
                simpa [broadcast, Store.record, same] using member
      | lose replica =>
          intro other event member
          by_cases same : other = replica
          · subst same
            simp [Machine.step, server, ambient] at member
          · apply canonical other
            simpa [Machine.step, server, ambient, same] using member
      | closed socket =>
          simp only [Machine.step, server, ambient, registering_inboxes]
          exact canonical
      | _ => exact canonical

end Inboxes

theorem reply_injective (one other : Subscription) (same : one.reply = other.reply) : one = other := by
  cases one <;> cases other <;> simp_all [Subscription.reply]

/-- Where an accepted subscription leaves the socket. -/
structure Joined (after : Store ids E K Payload) (socket : SocketId) (subscription : Subscription) :
    Prop where
  listens : Listens after socket subscription.topic
  isOpen : after.isOpen socket = true
  reads : ∃ id, ids.parse subscription.text = some id

/-- The step tells a socket that it is subscribed only where it is. -/
def Tells (store after : Store ids E K Payload) : Prop :=
  ∃ marks, after.trail = store.trail ++ marks ∧
    ∀ socket subscription, .reply socket (Subscription.reply subscription) ∈ marks →
      Joined after socket subscription

section Answers

variable (store after : Store ids E K Payload)

theorem tells_silent (marks : List (Mark ids E K Payload)) (trail : after.trail = store.trail ++ marks)
    (silent : ∀ socket reply, .reply socket reply ∈ marks → reply.type ≠ "subscribed") :
    Tells store after := by
  refine ⟨marks, trail, fun socket subscription told => ?_⟩
  have other := silent socket _ told
  cases subscription <;> exact absurd rfl other

theorem tells_still (trail : after.trail = store.trail) : Tells store after :=
  tells_silent store after [] (by simp [trail]) (by simp)

theorem tells_send (trail : after.trail = store.trail) (socket : SocketId) (reply : Reply)
    (other : reply.type ≠ "subscribed") : Tells store (send socket reply after) := by
  unfold send
  split
  · exact tells_silent store _ [.reply socket reply] (by simp [Store.record, trail]) (by simpa using other)
  · exact tells_still store after trail

theorem tells_subscribed (socket : SocketId) (state : Socket) (subscription : Subscription)
    (check : Check E) (found : store.sockets[socket]? = some state)
    (reads : ∃ id, ids.parse subscription.text = some id) :
    Tells store (subscribed ids socket subscription.topic check subscription.reply store) := by
  have listens : Listens (subscribed ids socket subscription.topic check subscription.reply store) socket
      subscription.topic := by
    refine ⟨state, by simp [subscribed, Store.record, found], ?_⟩
    simp [subscribed, Store.registering, Store.record, found]
  unfold subscribed send at listens ⊢
  split at listens
  · next opened =>
      rw [if_pos opened]
      refine ⟨[.passed socket check, .reply socket subscription.reply], ?_, fun other told same => ?_⟩
      · simp [Store.record]
      · simp only [List.mem_cons, reduceCtorEq, Mark.reply.injEq, List.not_mem_nil, or_false,
          false_or] at same
        obtain ⟨rfl, same⟩ := same
        obtain rfl := reply_injective _ _ same
        exact ⟨listens, opened, reads⟩
  · next closed =>
      rw [if_neg closed]
      exact tells_silent store _ [.passed socket check] (by simp [Store.record]) (by simp)

theorem onMessage_tells (socket : SocketId) (data : Data) :
    Tells store (onMessage ids socket data store).1 := by
  unfold onMessage
  split
  · exact tells_send store store rfl _ _ (by simp [errorReply])
  · exact tells_still store store rfl
  · split
    · split
      · exact tells_still store store rfl
      · exact tells_still store store rfl
      · exact tells_send store store rfl _ _ (by simp [errorReply])
    · split
      · split
        · exact tells_send store _ (registering_trail store _ _) _ _ (by simp)
        · exact tells_send store _ (registering_trail store _ _) _ _ (by simp)
        · exact tells_send store store rfl _ _ (by simp)
      · split
        · exact tells_send store store rfl _ _ (by simp)
        · exact tells_send store store rfl _ _ (by simp [errorReply])

theorem checkAccess_tells (fault : Option Failure) (handler : Handler E K)
    (knows : ∀ socket jobId job found, handler = .checkingJob socket jobId job found →
      ids.parse jobId = some job.id) :
    Tells store (checkAccess ids fault store handler).1 := by
  unfold checkAccess
  split
  · next socket sessionId =>
      split
      · exact tells_still store store rfl
      · next state found =>
          split
          · exact tells_send store store rfl _ _ (by simp [refusedSession])
          · next session answered =>
              obtain ⟨id, reads, _⟩ := lookup_ok _ _ _ (faulty_ok _ _ _ answered)
              exact tells_subscribed store socket state (.session sessionId) _ found ⟨id, reads⟩
  · split
    · exact tells_send store store rfl _ _ (by simp [refusedJob])
    · exact tells_still store store rfl
  · next socket jobId job found =>
      split
      · exact tells_still store store rfl
      · next state held =>
          split
          · exact tells_send store store rfl _ _ (by simp [refusedJob])
          · exact tells_subscribed store socket state (.importJob jobId) _ held
              ⟨job.id, knows socket jobId job found rfl⟩
  · exact tells_still store store rfl

variable [Field K] [LinearOrder K] [FloorRing K]

theorem handleUpgrade_tells (input : Input) (handler : Handler E K) :
    Tells store (handleUpgrade ids input store handler).1 := by
  cases handler with
  | upgrading replica admission =>
      simp only [handleUpgrade]
      split
      · unfold onConnection send
        split
        · exact tells_silent store _ [.admitted store.sockets.length admission,
            .reply store.sockets.length { type := "connected" }] (by simp [Store.record]) (by simp)
        · exact tells_silent store _ [.admitted store.sockets.length admission] rfl (by simp)
      · exact tells_still store store rfl
      · exact tells_still store store rfl
  | idle =>
      simp only [handleUpgrade]
      split
      · split
        · split <;> exact tells_still store store rfl
        · exact tells_still store store rfl
      · exact tells_still store store rfl
      · exact tells_still store store rfl
  | denylisting replica claims verified =>
      simp only [handleUpgrade]
      split
      · exact tells_still store store rfl
      · split <;> exact tells_still store store rfl
      · exact tells_still store store rfl
      · exact tells_still store store rfl
  | cuttingOff replica claims verified denylist =>
      simp only [handleUpgrade]
      split
      · exact tells_still store store rfl
      · split <;> exact tells_still store store rfl
      · exact tells_still store store rfl
      · exact tells_still store store rfl
  | _ => exact tells_still store store rfl

omit [Field K] [FloorRing K] in
theorem ambient_tells (change : Change ids E K Payload) : Tells store (ambient ids change store) := by
  have speaks : ∀ replica live other, other.trail = store.trail →
      Tells store (broadcast replica live other) :=
    fun replica live other trail => tells_silent store _
      (((other.registries replica).broadcast live.topic other.isOpen).map (.live · live))
      (by simp [broadcast, Store.record, trail]) (by simp)
  cases change with
  | publish replica live redisReady =>
      cases redisReady with
      | true => exact tells_still store _ rfl
      | false => exact speaks replica live store rfl
  | receive replica =>
      simp only [ambient]
      split
      · exact tells_still store store rfl
      · exact speaks replica _ _ rfl
  | closed socket => exact tells_still store _ (registering_trail _ _ _)
  | _ => exact tells_still store _ rfl

end Answers

section Runs

variable [Field K] [LinearOrder K] [FloorRing K]
variable (system : System (Store ids E K Payload) (Handler E K))
  (event : Event Input (Change ids E K Payload)) (socket : SocketId) (subscription : Subscription)

theorem step_tells (guarded : Guarded system) :
    Tells system.store ((server ids).step system event).store := by
  cases event with
  | act index input =>
      rw [step_store]
      simp only [server, exec]
      split
      · exact onMessage_tells system.store _ _
      · apply checkAccess_tells
        intro socket jobId job found checking
        have knows := guarded.knows index
        rw [checking] at knows
        exact knows.2
      · exact handleUpgrade_tells system.store _ _
  | env change => exact ambient_tells system.store change

theorem accepts_joined (guarded : Guarded system) (accepts : Accepts system event socket subscription) :
    Joined ((server ids).step system event).store socket subscription := by
  obtain ⟨marks, trail, joined⟩ := step_tells system event guarded
  rw [Accepts, trail, List.drop_left] at accepts
  exact joined socket subscription accepts

omit [Field K] [LinearOrder K] [FloorRing K] in
theorem topic_eq (live : LiveEvent ids Payload) (canonical : subscription.Canonical ids)
    (emitted : live.Canonical) (about : subscription.resource ids = some live.resource) :
    live.topic = subscription.topic := by
  obtain ⟨id, written⟩ := canonical
  cases subscription with
  | session sessionId =>
      obtain rfl : sessionId = ids.print id := written
      cases live with
      | attendance spelling payload =>
          have same : id = spelling.id := by
            simpa [Subscription.resource, ids.parse_print, LiveEvent.resource] using about
          rw [same]
          exact emitted
      | importProgress spelling payload =>
          simp [Subscription.resource, ids.parse_print, LiveEvent.resource] at about
  | importJob jobId =>
      obtain rfl : jobId = ids.print id := written
      cases live with
      | attendance spelling payload =>
          simp [Subscription.resource, ids.parse_print, LiveEvent.resource] at about
      | importProgress spelling payload =>
          have same : id = spelling.id := by
            simpa [Subscription.resource, ids.parse_print, LiveEvent.resource] using about
          rw [same]
          exact congrArg importTopic emitted

omit [Field K] [LinearOrder K] [FloorRing K] in
theorem broadcasts_canonical (store : Store ids E K Payload) (replica : Nat)
    (live : LiveEvent ids Payload) (emits : Emits event)
    (canonical : ∀ replica, ∀ live ∈ store.inboxes replica, live.Canonical)
    (speaks : broadcasts store event = some (replica, live)) : live.Canonical := by
  unfold broadcasts at speaks
  split at speaks
  · obtain ⟨rfl, rfl⟩ := Prod.mk.inj (Option.some.inj speaks)
    exact emits
  · next other =>
      obtain ⟨first, waiting, same⟩ := Option.map_eq_some_iff.mp speaks
      obtain ⟨rfl, rfl⟩ := Prod.mk.inj same
      exact canonical other first (List.mem_of_mem_head? waiting)
  · cases speaks

/-- What makes a subscription live, as long as it lasts. -/
structure Attached : Prop where
  listens : Listens system.store socket subscription.topic
  canonical : ∀ replica, ∀ live ∈ system.store.inboxes replica, live.Canonical

theorem attached_served (written : subscription.Canonical ids) (emits : Emits event)
    (attached : Attached system socket subscription) :
    Served socket subscription system event := by
  intro live state found speaks about opened
  obtain ⟨same, stored, member⟩ := attached.listens
  obtain rfl : same = state := Option.some.inj (stored.symm.trans found)
  have emitted := broadcasts_canonical event system.store _ live emits attached.canonical speaks
  have topic := topic_eq subscription live written emitted about
  have receives : socket ∈ (system.store.registries same.replica).broadcast live.topic
      system.store.isOpen := by
    rw [Registry.mem_broadcast, topic]
    exact ⟨member, by simp [Store.isOpen, found, opened]⟩
  rw [newFrames_eq]
  simpa [frames, speaks] using receives

theorem attached_step (emits : Emits event) (lasts : ¬ Ends socket subscription event)
    (uncrossed : ¬ Crosses socket subscription event)
    (attached : Attached system socket subscription) :
    Attached ((server ids).step system event) socket subscription := by
  refine ⟨?_, step_inboxes system event emits attached.canonical⟩
  apply listens_step system event socket _ _ (fun gone => lasts (Or.inr gone)) attached.listens
  intro other asks sameTopic
  by_cases same : other = subscription
  · subst same
    exact lasts (Or.inl asks)
  · exact uncrossed ⟨other, asks, same, sameTopic⟩

end Runs

namespace Subscription

/-- The same subscription with its id written as the database writes it. -/
def rewritten (ids : IdText) (id : Uuid) : Subscription → Subscription
  | session _ => session (ids.print id)
  | importJob _ => importJob (ids.print id)

def unsubscribe : Subscription → ClientMessage
  | session sessionId =>
      { type := some (.text "unsubscribe"), sessionId := some (.text sessionId) }
  | importJob jobId => { type := some (.text "unsubscribe"), jobId := some (.text jobId) }

/-- What the database emits for the subscription. -/
def emitted (ids : IdText) (id : Uuid) (payload : Payload) : Subscription → LiveEvent ids Payload
  | session _ => .attendance ⟨ids.print id, id, ids.parse_print id⟩ payload
  | importJob _ => .importProgress ⟨ids.print id, id, ids.parse_print id⟩ payload

end Subscription

section Misspelled

variable (subscription : Subscription) (id : Uuid)

theorem emitted_topic (payload : Payload) :
    (subscription.emitted ids id payload).topic = (subscription.rewritten ids id).topic := by
  cases subscription <;> rfl

theorem emitted_canonical (payload : Payload) : (subscription.emitted ids id payload).Canonical := by
  cases subscription <;> rfl

theorem emitted_resource (payload : Payload) (reads : ids.parse subscription.text = some id) :
    subscription.resource ids = some (subscription.emitted ids id payload).resource := by
  cases subscription <;>
    simpa [Subscription.resource, Subscription.emitted, LiveEvent.resource, Subscription.text] using reads

theorem rewritten_topic (misspelled : subscription.text ≠ ids.print id) :
    (subscription.rewritten ids id).topic ≠ subscription.topic := by
  cases subscription with
  | session sessionId => exact fun same => misspelled same.symm
  | importJob jobId => exact fun same => misspelled (importTopic_injective _ _ same).symm

theorem unsubscribes_unsubscribe (index : Nat) (socket : SocketId) :
    unsubscribes (.act index (.message socket (.value subscription.unsubscribe)) :
      Event Input (Change ids E K Payload)) = some (socket, subscription) := by
  cases subscription <;> rfl

/-- An unsubscribed socket is not under the topic any more. -/
theorem unsubscribe_absent (store : Store ids E K Payload) (socket : SocketId) (state : Socket)
    (found : store.sockets[socket]? = some state) :
    (onMessage (E := E) ids socket (.value subscription.unsubscribe) store).1.sockets = store.sockets ∧
      socket ∉ Registry.members ((onMessage (E := E) ids socket (.value subscription.unsubscribe)
        store).1.registries state.replica).bySession subscription.topic := by
  cases subscription <;>
    simp [onMessage, Subscription.unsubscribe, Subscription.topic, Store.registering, found]

end Misspelled

/-- Neither of these two steps ends the misspelled subscription. -/
theorem misspelled_lasting (index : Nat) (payload : Payload) (socket : SocketId)
    (subscription : Subscription) (id : Uuid) (replica : Nat)
    (misspelled : subscription.text ≠ ids.print id)
    (event : Event Input (Change ids E K Payload))
    (member : event ∈ [Event.act index
        (.message socket (.value (subscription.rewritten ids id).unsubscribe)),
      .env (.publish replica (subscription.emitted ids id payload) false)]) :
    Emits event ∧ ¬ Ends socket subscription event ∧ ¬ Crosses socket subscription event := by
  have differs := rewritten_topic subscription id misspelled
  rcases List.mem_cons.mp member with rfl | last
  · refine ⟨trivial, ?_, ?_⟩
    · rintro (same | gone)
      · rw [unsubscribes_unsubscribe] at same
        obtain ⟨_, same⟩ := Prod.mk.inj (Option.some.inj same)
        exact differs (congrArg Subscription.topic same)
      · exact gone
    · rintro ⟨crossing, same, _, sameTopic⟩
      rw [unsubscribes_unsubscribe] at same
      obtain ⟨_, rfl⟩ := Prod.mk.inj (Option.some.inj same)
      exact differs sameTopic
  · rw [List.mem_singleton.mp last]
    refine ⟨emitted_canonical subscription id payload, ?_, ?_⟩
    · rintro (same | gone)
      · cases same
      · exact gone
    · rintro ⟨crossing, same, _⟩
      cases same

section Runs

variable [Field K] [LinearOrder K] [FloorRing K]

/-- A subscription of another spelling ends with the canonical one. -/
theorem misspelled_unserved (system : System (Store ids E K Payload) (Handler E K)) (index : Nat)
    (idle : system.procs index = .idle) (payload : Payload) (socket : SocketId)
    (subscription : Subscription) (id : Uuid)
    (reads : ids.parse subscription.text = some id) (state : Socket)
    (found : system.store.sockets[socket]? = some state) (opened : state.readyState = .OPEN)
    (served : (server ids).Along (Served socket subscription) system
      [.act index (.message socket (.value (subscription.rewritten ids id).unsubscribe)),
        .env (.publish state.replica (subscription.emitted ids id payload) false)]) : False := by
  obtain ⟨sockets, absent⟩ :=
    unsubscribe_absent (subscription.rewritten ids id) system.store socket state found
  have store : ((server ids).step system (.act index
      (.message socket (.value (subscription.rewritten ids id).unsubscribe)))).store =
        (onMessage ids socket (.value (subscription.rewritten ids id).unsubscribe) system.store).1 := by
    rw [step_store, idle]
    rfl
  have sent := served.2.1 (subscription.emitted ids id payload) state (by rw [store, sockets, found])
    rfl (emitted_resource subscription id payload reads) opened
  rw [newFrames_eq, store] at sent
  simp only [frames, broadcasts, List.mem_map, Registry.mem_broadcast] at sent
  obtain ⟨other, ⟨member, _⟩, same⟩ := sent
  obtain ⟨rfl, _⟩ := Prod.mk.inj same
  rw [emitted_topic] at member
  exact absent member

/-- A subscription that is spelled as the database writes it is served while it lasts. -/
theorem canonical_served (system : System (Store ids E K Payload) (Handler E K)) (socket : SocketId)
    (subscription : Subscription) (canonical : subscription.Canonical ids)
    (attached : Attached system socket subscription)
    (later : List (Event Input (Change ids E K Payload)))
    (lasting : ∀ event ∈ later, Emits event ∧ ¬ Ends socket subscription event ∧
      ¬ Crosses socket subscription event) :
    (server ids).Along (Served socket subscription) system later := by
  apply along_of_invariant (server ids)
    (fun _ event => Emits event ∧ ¬ Ends socket subscription event ∧
      ¬ Crosses socket subscription event)
    (fun current => Attached current socket subscription)
  · rintro current event held ⟨emitted, lasts, uncrossed⟩
    exact attached_step current event socket subscription emitted lasts uncrossed held
  · rintro current event held ⟨emitted, _⟩
    exact attached_served current event socket subscription canonical emitted held
  · exact attached
  · exact along_of_forall _ _ _ _ lasting

theorem run_inboxes (db : Database E) (clock : K) (redis : Revocations K)
    (events : List (Event Input (Change ids E K Payload))) (emits : ∀ event ∈ events, Emits event)
    (replica : Nat) (live : LiveEvent ids Payload)
    (waits : live ∈ ((server ids).run (listening ids db clock redis) events).store.inboxes replica) :
    live.Canonical := by
  refine along_invariant (server ids) (fun _ event => Emits event)
    (fun system => ∀ replica, ∀ live ∈ system.store.inboxes replica, live.Canonical)
    (fun system event inboxes emitted => step_inboxes system event emitted inboxes)
    (listening ids db clock redis) events (fun replica live member => absurd member List.not_mem_nil)
    ?_ replica live waits
  exact along_of_forall _ _ _ _ emits

/-- An accepted subscription is live until it ends exactly if its id is written
as the database writes it, as long as the socket does not unsubscribe from a
session that is written like the topic of the subscription. -/
theorem subscription_live_iff (ids : IdText) (payload : Payload) (db : Database E) (clock : K)
    (redis : Revocations K) (events : List (Event Input (Change ids E K Payload)))
    (answer : Event Input (Change ids E K Payload)) (socket : SocketId) (subscription : Subscription)
    (emits : ∀ event ∈ events ++ [answer], Emits event)
    (accepts : Accepts ((server ids).run (listening ids db clock redis) events) answer socket
      subscription) :
    (∀ later : List (Event Input (Change ids E K Payload)),
        (∀ event ∈ later, Emits event ∧ ¬ Ends socket subscription event ∧
          ¬ Crosses socket subscription event) →
        (server ids).Along (Served socket subscription)
          ((server ids).run (listening ids db clock redis) (events ++ [answer])) later) ↔
      subscription.Canonical ids := by
  have reached : (server ids).run (listening ids db clock redis) (events ++ [answer]) =
      (server ids).step ((server ids).run (listening ids db clock redis) events) answer :=
    run_append _ _ events [answer]
  have joined := accepts_joined _ answer socket subscription (run_guarded db clock redis events) accepts
  rw [← reached] at joined
  constructor
  · intro serves
    obtain ⟨id, reads⟩ := joined.reads
    obtain ⟨state, found, _⟩ := joined.listens
    have opened : state.readyState = .OPEN := by
      simpa [Store.isOpen, found] using joined.isOpen
    obtain ⟨index, absent⟩ := exists_absent (events ++ [answer])
    by_contra misspelled
    have other : subscription.text ≠ ids.print id := fun same => misspelled ⟨id, same⟩
    have idle := run_absent (server ids) (listening ids db clock redis) _ index absent
    exact misspelled_unserved _ index idle payload socket subscription id reads state found opened
      (serves _ (misspelled_lasting index payload socket subscription id state.replica other))
  · intro canonical later lasting
    exact canonical_served _ socket subscription canonical
      ⟨joined.listens, run_inboxes db clock redis _ emits⟩ later lasting

end Runs

/-- Ids as letters of either case; the database writes small ones. -/
def letters : IdText where
  print id := String.ofList (List.replicate id 'a')
  parse text :=
    if text.toList.all fun c => c == 'a' || c == 'A' then some text.toList.length else none
  parse_print id := by simp
  parse_import text := by simp

/-- The course of professor 7 with a session and an import. -/
def seminar : Database ℤ :=
  { lectures with importJobs := .single ⟨1, 3, some 7, .PROCESSING, 2, 0, none⟩ }

def arrival : List (Event Input (Change letters ℤ ℚ Unit)) :=
  [.act 0 (.upgrade 0 "/ws" (some phone)), .act 0 (.ask .ready), .act 0 (.ask .ready),
    .act 0 (.handshake true)]

def asking (message : ClientMessage) : List (Event Input (Change letters ℤ ℚ Unit)) :=
  arrival ++ [.act 1 (.message 0 (.value message))]

def attending (message : ClientMessage) : System (Store letters ℤ ℚ Unit) (Handler ℤ ℚ) :=
  (server letters).run (listening letters seminar 100 noRevocations) (asking message)

def sessionMessage (sessionId : String) : ClientMessage :=
  { type := some (.text "subscribe"), sessionId := some (.text sessionId) }

def jobMessage : ClientMessage :=
  { type := some (.text "subscribe"), jobId := some (.text "a") }

theorem subscription_live_iff_seminar :
    Accepts (attending (sessionMessage "aa")) (.act 1 (.read none)) 0 (.session "aa") ∧
    ∀ later : List (Event Input (Change letters ℤ ℚ Unit)),
      (∀ event ∈ later, Emits event ∧ ¬ Ends 0 (.session "aa") event ∧
        ¬ Crosses 0 (.session "aa") event) →
      (server letters).Along (Served 0 (.session "aa"))
        ((server letters).run (listening letters seminar 100 noRevocations)
          (asking (sessionMessage "aa") ++ [.act 1 (.read none)])) later := by
  have accepts : Accepts (attending (sessionMessage "aa")) (.act 1 (.read none)) 0 (.session "aa") :=
    List.Mem.tail _ (List.Mem.head _)
  refine ⟨accepts, ?_⟩
  have emits : ∀ event ∈ asking (sessionMessage "aa") ++ [.act 1 (.read none)], Emits event := by
    simp [asking, arrival, Emits]
  exact (subscription_live_iff letters () seminar 100 noRevocations _ _ 0 (.session "aa") emits
    accepts).mpr ⟨2, rfl⟩

def recordedOnce : List (Event Input (Change letters ℤ ℚ Unit)) :=
  [.env (.publish 0 (.attendance ⟨"aa", 2, by decide⟩ ()) false)]

def progressAfterCrossing : List (Event Input (Change letters ℤ ℚ Unit)) :=
  [.act 2 (.message 0 (.value (Subscription.session "import:a").unsubscribe)),
    .env (.publish 0 (.importProgress ⟨"a", 1, by decide⟩ ()) false)]

/-- A session that is subscribed in capitals is accepted and silent; and the
subscription of an import falls silent when the socket unsubscribes from
the session `import:a`. -/
theorem subscription_silent :
    (Accepts (attending (sessionMessage "AA")) (.act 1 (.read none)) 0 (.session "AA") ∧
      (∀ event ∈ recordedOnce, Emits event ∧ ¬ Ends 0 (.session "AA") event) ∧
      ¬ (server letters).Along (Served 0 (.session "AA"))
        ((server letters).step (attending (sessionMessage "AA")) (.act 1 (.read none))) recordedOnce) ∧
    (Accepts ((server letters).step (attending jobMessage) (.act 1 (.read none)))
        (.act 1 (.read none)) 0 (.importJob "a") ∧
      (∀ event ∈ progressAfterCrossing, Emits event ∧ ¬ Ends 0 (.importJob "a") event) ∧
      ¬ (server letters).Along (Served 0 (.importJob "a"))
        ((server letters).run (attending jobMessage) [.act 1 (.read none), .act 1 (.read none)])
        progressAfterCrossing) := by
  refine ⟨⟨List.Mem.tail _ (List.Mem.head _), ?_, ?_⟩, List.Mem.tail _ (List.Mem.head _), ?_, ?_⟩
  · intro event member
    rw [List.mem_singleton.mp member]
    exact ⟨rfl, by simp [Ends, closes, unsubscribes]⟩
  · rintro ⟨served, _⟩
    have sent := served _ _ rfl rfl rfl rfl
    rw [newFrames_eq] at sent
    exact absurd sent List.not_mem_nil
  · intro event member
    rcases List.mem_cons.mp member with rfl | last
    · refine ⟨trivial, ?_⟩
      rw [Ends, unsubscribes_unsubscribe]
      simp [closes]
    · rw [List.mem_singleton.mp last]
      exact ⟨rfl, by simp [Ends, closes, unsubscribes]⟩
  · rintro ⟨_, served, _⟩
    have sent := served _ _ rfl rfl rfl rfl
    rw [newFrames_eq] at sent
    exact absurd sent List.not_mem_nil

end FaceVec.Ws
