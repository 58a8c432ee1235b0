import FaceVec.Ws.Membership

/-!
What one step of the server does to subscriptions, exactly. A message that
subscribes leaves its process with a check, a check ends with a grant or a
refusal, and only a grant, a message that unsubscribes and the end of a
connection change a registry.
-/

namespace FaceVec.Ws

open Interleaving Attendance Auth Courses

variable {E K Payload : Type} {ids : IdText}

/-- The subscription that a process has yet to check. -/
def Handler.pending : Handler E K → Option (SocketId × Subscription)
  | .checkingSession socket sessionId => some (socket, .session sessionId)
  | .findingJob socket jobId => some (socket, .importJob jobId)
  | .checkingJob socket jobId _ _ => some (socket, .importJob jobId)
  | _ => none

/-- What a client says about a subscription. -/
inductive Word where
  | subscribe (subscription : Subscription)
  | unsubscribe (subscription : Subscription)
  deriving DecidableEq, Repr

def ClientMessage.word (message : ClientMessage) : Option Word :=
  if message.type = some (.text "subscribe") then message.subscription.map .subscribe
  else if message.type = some (.text "unsubscribe") then message.subscription.map .unsubscribe
  else none

/-- What the step hears from a socket. Each message has a process of its own. -/
def received (system : System (Store ids E K Payload) (Handler E K)) :
    Event Input (Change ids E K Payload) → Option (SocketId × Word)
  | .act index (.message socket (.value message)) =>
      match system.procs index with
      | .idle => message.word.map fun word => (socket, word)
      | _ => none
  | _ => none

/-- The subscription that the next read of a process grants. -/
def grant (fault : Option Failure) (store : Store ids E K Payload) :
    Handler E K → Option (SocketId × Subscription)
  | .checkingSession socket sessionId =>
      match store.sockets[socket]? with
      | none => none
      | some state =>
          match faulty fault (lookup ids sessionId fun id =>
              getSessionForActor store.db id state.auth) with
          | .error _ => none
          | .ok _ => some (socket, .session sessionId)
  | .checkingJob socket jobId job _ =>
      match store.sockets[socket]? with
      | none => none
      | some state =>
          match faulty fault (getCourseForActor store.db job.courseId state.auth) with
          | .error _ => none
          | .ok _ => some (socket, .importJob jobId)
  | _ => none

def grants (system : System (Store ids E K Payload) (Handler E K)) :
    Event Input (Change ids E K Payload) → Option (SocketId × Subscription)
  | .act index (.read fault) => grant fault system.store (system.procs index)
  | _ => none

/-- What happens to a socket in the registry of its replica. -/
inductive Registration where
  | joins (subscription : Subscription)
  | leaves (subscription : Subscription)
  | drops
  deriving DecidableEq, Repr

def Registration.apply (socket : SocketId) : Registration → Registry → Registry
  | joins subscription, registry => registry.subscribe subscription.topic socket
  | leaves subscription, registry => registry.unsubscribe subscription.topic socket
  | drops, registry => registry.remove socket

def registration (system : System (Store ids E K Payload) (Handler E K)) :
    Event Input (Change ids E K Payload) → Option (SocketId × Registration)
  | .env (.closed socket) => some (socket, .drops)
  | event =>
      match grants system event, received system event with
      | some (socket, subscription), _ => some (socket, .joins subscription)
      | none, some (socket, .unsubscribe subscription) => some (socket, .leaves subscription)
      | none, _ => none

def Store.registered (store : Store ids E K Payload) :
    Option (SocketId × Registration) → Nat → Registry
  | none => store.registries
  | some (socket, change) => (store.registering socket (change.apply socket)).registries

section Messages

variable (store : Store ids E K Payload) (socket : SocketId) (message : ClientMessage)

/-- A named subscription is in the first of the two fields that is a string. -/
theorem subscription_cases (subscription : Subscription)
    (named : message.subscription = some subscription) :
    (∃ jobId, message.jobId = some (.text jobId) ∧ subscription = .importJob jobId) ∨
      ∃ sessionId, (message.jobId = none ∨ ∃ json, message.jobId = some (.other json)) ∧
        message.sessionId = some (.text sessionId) ∧ subscription = .session sessionId := by
  unfold ClientMessage.subscription at named
  split at named
  · next jobId given => exact Or.inl ⟨jobId, given, (Option.some.inj named).symm⟩
  · next sessionId given absent =>
      refine Or.inr ⟨sessionId, ?_, given, (Option.some.inj named).symm⟩
      cases written : message.jobId with
      | none => exact Or.inl rfl
      | some field =>
          cases field with
          | text jobId => exact absurd written (absent jobId)
          | other json => exact Or.inr ⟨json, rfl⟩
  · cases named

theorem word_subscribe (subscription : Subscription)
    (said : message.word = some (.subscribe subscription)) :
    message.type = some (.text "subscribe") ∧ message.subscription = some subscription := by
  unfold ClientMessage.word at said
  split at said
  · next asks => exact ⟨asks, by simpa using said⟩
  · split at said <;> simp at said

theorem word_unsubscribe (subscription : Subscription)
    (said : message.word = some (.unsubscribe subscription)) :
    message.type = some (.text "unsubscribe") ∧ message.subscription = some subscription := by
  unfold ClientMessage.word at said
  split at said
  · simp at said
  · split at said
    · next asks => exact ⟨asks, by simpa using said⟩
    · cases said

theorem onMessage_subscribe (subscription : Subscription)
    (said : message.word = some (.subscribe subscription)) :
    ∃ handler : Handler E K, onMessage ids socket (.value message) store = (store, handler) ∧
      handler.pending = some (socket, subscription) := by
  obtain ⟨asks, named⟩ := word_subscribe message subscription said
  rcases subscription_cases message subscription named with
    ⟨jobId, given, rfl⟩ | ⟨sessionId, absent, given, rfl⟩
  · exact ⟨.findingJob socket jobId, by simp [onMessage, asks, given], rfl⟩
  · refine ⟨.checkingSession socket sessionId, ?_, rfl⟩
    rcases absent with absent | ⟨json, absent⟩ <;> simp [onMessage, asks, given, absent]

theorem onMessage_unsubscribe (subscription : Subscription)
    (said : message.word = some (.unsubscribe subscription)) :
    (onMessage (E := E) (K := K) ids socket (.value message) store).1.registries =
        store.registered (some (socket, .leaves subscription)) ∧
      (onMessage (E := E) (K := K) ids socket (.value message) store).2 = .done := by
  obtain ⟨asks, named⟩ := word_unsubscribe message subscription said
  have changes : store.registered (some (socket, .leaves subscription)) =
      (store.registering socket fun registry =>
        registry.unsubscribe subscription.topic socket).registries := rfl
  rw [changes]
  rcases subscription_cases message subscription named with
    ⟨jobId, given, rfl⟩ | ⟨sessionId, absent, given, rfl⟩
  · simp [onMessage, asks, given, Subscription.topic]
  · rcases absent with absent | ⟨json, absent⟩ <;>
      simp [onMessage, asks, given, absent, Subscription.topic]

theorem onMessage_silent (silent : message.word = none) :
    (onMessage (E := E) (K := K) ids socket (.value message) store).1.registries = store.registries ∧
      (onMessage (E := E) (K := K) ids socket (.value message) store).2 = .done := by
  have unnamed : message.type = some (.text "subscribe") ∨ message.type = some (.text "unsubscribe") →
      message.subscription = none := by
    unfold ClientMessage.word at silent
    rintro (asks | leaves)
    · simpa [asks] using silent
    · simpa [leaves] using silent
  unfold ClientMessage.subscription at unnamed
  unfold onMessage
  simp only
  split
  · next asks =>
      have unnamed := unnamed (Or.inl asks)
      split at unnamed <;> simp_all
  · split
    · next leaves =>
        have unnamed := unnamed (Or.inr leaves)
        split at unnamed <;> simp_all
    · split <;> simp

end Messages

section Checks

variable (store : Store ids E K Payload) (fault : Option Failure) (handler : Handler E K)

theorem subscribed_registries (socket : SocketId) (subscription : Subscription) (check : Check E)
    (reply : Reply) :
    (subscribed (K := K) ids socket subscription.topic check reply store).registries =
      store.registered (some (socket, .joins subscription)) := by
  have sockets : (store.record [.passed socket check]).sockets = store.sockets := rfl
  simp only [subscribed, send_registries, Store.registered, Store.registering, sockets]
  split <;> rfl

theorem checkAccess_registries :
    (checkAccess ids fault store handler).1.registries =
      store.registered ((grant fault store handler).map fun granted => (granted.1, .joins granted.2)) := by
  cases handler with
  | checkingSession socket sessionId =>
      simp only [checkAccess, grant]
      cases store.sockets[socket]? with
      | none => rfl
      | some state =>
          simp only
          cases faulty fault (lookup ids sessionId fun id =>
              getSessionForActor store.db id state.auth) with
          | error failure => exact send_registries _ _ _
          | ok session => exact subscribed_registries store socket (.session sessionId) _ _
  | findingJob socket jobId =>
      simp only [checkAccess, grant]
      split
      · exact send_registries _ _ _
      · rfl
  | checkingJob socket jobId job found =>
      simp only [checkAccess, grant]
      cases store.sockets[socket]? with
      | none => rfl
      | some state =>
          simp only
          cases faulty fault (getCourseForActor store.db job.courseId state.auth) with
          | error failure => exact send_registries _ _ _
          | ok course => exact subscribed_registries store socket (.importJob jobId) _ _
  | _ => rfl

theorem checkAccess_sockets : (checkAccess ids fault store handler).1.sockets = store.sockets := by
  unfold checkAccess subscribed
  split
  · split
    · rfl
    · split <;> simp [Store.record]
  · split <;> simp
  · split
    · rfl
    · split <;> simp [Store.record]
  · rfl

/-- A check goes on or ends; no process begins one by reading. -/
theorem checkAccess_pending :
    (checkAccess ids fault store handler).2.pending = handler.pending ∨
      (checkAccess ids fault store handler).2 = .done := by
  unfold checkAccess
  split
  · split
    · exact Or.inr rfl
    · split <;> exact Or.inr rfl
  · split
    · exact Or.inr rfl
    · exact Or.inl rfl
  · split
    · exact Or.inr rfl
    · split <;> exact Or.inr rfl
  · exact Or.inl rfl

/-- What is granted was pending, for a socket that is there, and the check is over. -/
theorem grant_pending (socket : SocketId) (subscription : Subscription)
    (granted : grant fault store handler = some (socket, subscription)) :
    handler.pending = some (socket, subscription) ∧
      (checkAccess ids fault store handler).2 = .done ∧
      ∃ state : Socket, store.sockets[socket]? = some state := by
  cases handler with
  | checkingSession asking sessionId =>
      simp only [grant] at granted
      split at granted
      · cases granted
      · next state found =>
          split at granted
          · cases granted
          · next session answered =>
              cases granted
              exact ⟨rfl, by simp [checkAccess, found, answered], state, found⟩
  | checkingJob asking jobId job database =>
      simp only [grant] at granted
      split at granted
      · cases granted
      · next state found =>
          split at granted
          · cases granted
          · next course answered =>
              cases granted
              exact ⟨rfl, by simp [checkAccess, found, answered], state, found⟩
  | _ => cases granted

end Checks

section Upgrades

variable [Field K] [LinearOrder K] [FloorRing K]
variable (store : Store ids E K Payload) (input : Input) (handler : Handler E K)

/-- An upgrade changes the store only by the open socket that it adds. -/
theorem handleUpgrade_cases :
    (handleUpgrade ids input store handler).1 = store ∨
      ∃ state mark, state.readyState = .OPEN ∧
        (handleUpgrade ids input store handler).1 = onConnection ids store.sockets.length
          { store with sockets := store.sockets ++ [state], trail := store.trail ++ [mark] } := by
  cases handler with
  | upgrading replica admission =>
      cases input with
      | handshake succeeds =>
          cases succeeds with
          | false => exact Or.inl rfl
          | true => exact Or.inr ⟨_, _, rfl, rfl⟩
      | _ => exact Or.inl rfl
  | idle =>
      left
      simp only [handleUpgrade]
      split
      · split
        · split <;> rfl
        · rfl
      · rfl
      · rfl
  | denylisting replica claims verified =>
      left
      simp only [handleUpgrade]
      split
      · rfl
      · split <;> rfl
      · rfl
      · rfl
  | cuttingOff replica claims verified denylist =>
      left
      simp only [handleUpgrade]
      split
      · rfl
      · split <;> rfl
      · rfl
      · rfl
  | _ => exact Or.inl rfl

theorem handleUpgrade_registries :
    (handleUpgrade ids input store handler).1.registries = store.registries := by
  rcases handleUpgrade_cases store input handler with same | ⟨state, mark, _, opened⟩
  · rw [same]
  · rw [opened, onConnection, send_registries]

theorem handleUpgrade_pending :
    (handleUpgrade ids input store handler).2.pending = handler.pending := by
  cases handler with
  | idle =>
      simp only [handleUpgrade]
      split
      · split
        · split <;> rfl
        · rfl
      · rfl
      · rfl
  | denylisting replica claims verified =>
      simp only [handleUpgrade]
      split
      · rfl
      · split <;> rfl
      · rfl
      · rfl
  | cuttingOff replica claims verified denylist =>
      simp only [handleUpgrade]
      split
      · rfl
      · split <;> rfl
      · rfl
      · rfl
  | upgrading replica admission =>
      simp only [handleUpgrade]
      split <;> rfl
  | _ => rfl

end Upgrades

/-- The two maps of every registry agree, on sockets of its own replica. -/
structure Housed (store : Store ids E K Payload) : Prop where
  agrees : ∀ replica, (store.registries replica).Agrees
  home : ∀ replica socket topic, topic ∈ (store.registries replica).subscriptions socket →
    ∃ state : Socket, store.sockets[socket]? = some state ∧ state.replica = replica

/-- The socket itself has the topic among its subscriptions. -/
def Subscribes (store : Store ids E K Payload) (socket : SocketId) (topic : String) : Prop :=
  ∃ replica, topic ∈ (store.registries replica).subscriptions socket

/-- The socket has lost the topic afterwards. -/
def Registration.Ends (topic : String) : Registration → Prop
  | joins _ => False
  | leaves subscription => subscription.topic = topic
  | drops => True

section Registries

variable (store : Store ids E K Payload) (socket other : SocketId) (replica : Nat) (topic : String)

theorem registering_elsewhere (state : Socket) (change : Registry → Registry)
    (found : store.sockets[socket]? = some state) (elsewhere : replica ≠ state.replica) :
    (store.registering socket change).registries replica = store.registries replica := by
  simp [Store.registering, found, elsewhere]

theorem registering_home (state : Socket) (change : Registry → Registry)
    (found : store.sockets[socket]? = some state) :
    (store.registering socket change).registries state.replica =
      change (store.registries state.replica) := by
  simp [Store.registering, found]

/-- Only a socket that joins gets a topic, on its own replica. -/
theorem registered_subscriptions (change : Option (SocketId × Registration))
    (member : topic ∈ (store.registered change replica).subscriptions other) :
    topic ∈ (store.registries replica).subscriptions other ∨
      ∃ subscription state, change = some (other, .joins subscription) ∧
        subscription.topic = topic ∧ store.sockets[other]? = some state ∧ state.replica = replica := by
  cases change with
  | none => exact Or.inl member
  | some pair =>
      obtain ⟨socket, change⟩ := pair
      rw [Store.registered] at member
      cases found : store.sockets[socket]? with
      | none =>
          left
          simpa [Store.registering, found] using member
      | some state =>
          by_cases home : replica = state.replica
          · subst home
            rw [registering_home store socket state _ found] at member
            cases change with
            | joins subscription =>
                rcases (Registry.mem_subscriptions_subscribe _ _ _ _ _).mp member with
                  old | ⟨same, rfl⟩
                · exact Or.inl old
                · exact Or.inr ⟨subscription, state, rfl, same.symm, found, rfl⟩
            | leaves subscription =>
                exact Or.inl ((Registry.mem_subscriptions_unsubscribe _ _ _ _ _).mp member).1
            | drops => exact Or.inl ((Registry.mem_subscriptions_remove _ _ _ _).mp member).1
          · rw [registering_elsewhere store socket replica state _ found home] at member
            exact Or.inl member

theorem registered_joins (state : Socket) (subscription : Subscription)
    (found : store.sockets[socket]? = some state) :
    subscription.topic ∈ (store.registered (some (socket, .joins subscription))
      state.replica).subscriptions socket := by
  rw [Store.registered, registering_home store socket state _ found]
  exact (Registry.mem_subscriptions_subscribe _ _ _ _ _).mpr (Or.inr ⟨rfl, rfl⟩)

theorem registered_ends (housed : Housed store) (change : Registration) (ends : change.Ends topic) :
    topic ∉ (store.registered (some (socket, change)) replica).subscriptions socket := by
  intro member
  rcases registered_subscriptions store socket replica topic _ member with
    old | ⟨subscription, _, joins, _⟩
  · obtain ⟨state, found, rfl⟩ := housed.home replica socket topic old
    rw [Store.registered, registering_home store socket state _ found] at member
    cases change with
    | joins subscription => exact ends
    | leaves subscription =>
        exact ((Registry.mem_subscriptions_unsubscribe _ _ _ _ _).mp member).2 ⟨ends.symm, rfl⟩
    | drops => exact ((Registry.mem_subscriptions_remove _ _ _ _).mp member).2 rfl
  · obtain ⟨_, rfl⟩ := Prod.mk.inj (Option.some.inj joins)
    exact ends

theorem registered_kept (change : Option (SocketId × Registration))
    (stays : ∀ own, change = some (other, own) → ¬ own.Ends topic)
    (member : topic ∈ (store.registries replica).subscriptions other) :
    topic ∈ (store.registered change replica).subscriptions other := by
  cases change with
  | none => exact member
  | some pair =>
      obtain ⟨socket, change⟩ := pair
      rw [Store.registered]
      cases found : store.sockets[socket]? with
      | none => simpa [Store.registering, found] using member
      | some state =>
          by_cases home : replica = state.replica
          · subst home
            rw [registering_home store socket state _ found]
            cases change with
            | joins subscription =>
                exact (Registry.mem_subscriptions_subscribe _ _ _ _ _).mpr (Or.inl member)
            | leaves subscription =>
                refine (Registry.mem_subscriptions_unsubscribe _ _ _ _ _).mpr ⟨member, ?_⟩
                rintro ⟨same, rfl⟩
                exact stays _ rfl same.symm
            | drops =>
                refine (Registry.mem_subscriptions_remove _ _ _ _).mpr ⟨member, ?_⟩
                rintro rfl
                exact stays _ rfl trivial
          · rw [registering_elsewhere store socket replica state _ found home]
            exact member

theorem registered_agrees (housed : Housed store) (change : Option (SocketId × Registration)) :
    (store.registered change replica).Agrees := by
  cases change with
  | none => exact housed.agrees replica
  | some pair =>
      obtain ⟨socket, change⟩ := pair
      rw [Store.registered]
      cases found : store.sockets[socket]? with
      | none => simpa [Store.registering, found] using housed.agrees replica
      | some state =>
          by_cases home : replica = state.replica
          · subst home
            rw [registering_home store socket state _ found]
            cases change with
            | joins subscription => exact Registry.subscribe_agrees _ (housed.agrees _) socket _
            | leaves subscription => exact Registry.unsubscribe_agrees _ (housed.agrees _) socket _
            | drops => exact Registry.remove_agrees _ (housed.agrees _) socket
          · rw [registering_elsewhere store socket replica state _ found home]
            exact housed.agrees replica

end Registries

section Steps

variable [Field K] [LinearOrder K] [FloorRing K]
variable (system : System (Store ids E K Payload) (Handler E K))
  (event : Event Input (Change ids E K Payload))

/-- The check of a process ends, and nothing is granted. -/
def Refuses (socket : SocketId) (subscription : Subscription) : Prop :=
  ∃ index fault, event = .act index (.read fault) ∧
    (system.procs index).pending = some (socket, subscription) ∧ grants system event = none ∧
    (((server ids).step system event).procs index).pending = none

/-- Some process has yet to check the subscription. -/
def Checking (socket : SocketId) (subscription : Subscription) : Prop :=
  ∃ index, (system.procs index).pending = some (socket, subscription)

omit [Field K] [LinearOrder K] [FloorRing K] in
theorem registration_unheard (index : Nat) (input : Input)
    (ungranted : grants system (.act index input) = none)
    (unheard : received system (.act index input) = none) :
    registration system (.act index input) = none := by
  simp only [registration, ungranted, unheard]

theorem message_registries (index : Nat) (socket : SocketId) (data : Data) :
    ((server ids).step system (.act index (.message socket data))).store.registries =
      system.store.registered (registration system (.act index (.message socket data))) := by
  rw [step_store]
  cases handler : system.procs index with
  | idle =>
      cases data with
      | invalid => exact send_registries _ _ _
      | null => rfl
      | value message =>
          simp only [server, exec, registration, grants, received, handler]
          cases said : message.word with
          | none => exact (onMessage_silent system.store socket message said).1
          | some word =>
              cases word with
              | subscribe subscription =>
                  obtain ⟨waiting, same, _⟩ :=
                    onMessage_subscribe (E := E) (K := K) system.store socket message subscription said
                  rw [same]
                  rfl
              | unsubscribe subscription =>
                  exact (onMessage_unsubscribe system.store socket message subscription said).1
  | _ =>
      have unheard : received system (.act index (.message socket data)) = none := by
        cases data <;> simp only [received, handler]
      rw [registration_unheard system index _ rfl unheard]
      exact handleUpgrade_registries _ _ _

theorem act_registries (index : Nat) (input : Input) :
    ((server ids).step system (.act index input)).store.registries =
      system.store.registered (registration system (.act index input)) := by
  cases input with
  | message socket data => exact message_registries system index socket data
  | read fault =>
      rw [step_store]
      have reads := checkAccess_registries system.store fault (system.procs index)
      simp only [registration, grants, received]
      cases granted : grant fault system.store (system.procs index) with
      | none => exact reads.trans (by rw [granted]; rfl)
      | some pair => exact reads.trans (by rw [granted]; rfl)
  | _ => exact handleUpgrade_registries _ _ _

theorem step_registries :
    ((server ids).step system event).store.registries =
      system.store.registered (registration system event) := by
  cases event with
  | act index input => exact act_registries system index input
  | env change =>
      cases change with
      | publish replica live redisReady => cases redisReady <;> rfl
      | receive replica =>
          simp only [Machine.step, server, ambient]
          split <;> rfl
      | closed socket =>
          simp only [Machine.step, server, ambient, Store.registering, Store.changing,
            registration, Store.registered, List.getElem?_modify]
          cases system.store.sockets[socket]? with
          | none => rfl
          | some state => simp; rfl
      | _ => rfl

/-- What a step may do to the check of a process. -/
inductive Turn (index : Nat) : Prop where
  | kept (same : (((server ids).step system event).procs index).pending =
      (system.procs index).pending)
  | began (socket : SocketId) (subscription : Subscription)
      (heard : received system event = some (socket, .subscribe subscription))
      (idle : (system.procs index).pending = none)
      (pending : (((server ids).step system event).procs index).pending =
        some (socket, subscription))
  | granted (socket : SocketId) (subscription : Subscription)
      (passed : grants system event = some (socket, subscription))
      (pending : (system.procs index).pending = some (socket, subscription))
      (ended : (((server ids).step system event).procs index).pending = none)
  | refused (socket : SocketId) (subscription : Subscription)
      (refuses : Refuses system event socket subscription)
      (pending : (system.procs index).pending = some (socket, subscription))

theorem message_turn (index : Nat) (socket : SocketId) (data : Data) :
    Turn system (.act index (.message socket data)) index := by
  cases handler : system.procs index with
  | idle =>
      have next : ((server ids).step system (.act index (.message socket data))).procs index =
          (onMessage ids socket data system.store).2 := by
        rw [step_self, handler]
        rfl
      cases data with
      | invalid => exact .kept (by rw [next, handler]; rfl)
      | null => exact .kept (by rw [next, handler]; rfl)
      | value message =>
          cases said : message.word with
          | none =>
              apply Turn.kept
              rw [next, handler, (onMessage_silent system.store socket message said).2]
              rfl
          | some word =>
              cases word with
              | subscribe subscription =>
                  obtain ⟨waiting, same, pending⟩ :=
                    onMessage_subscribe (E := E) (K := K) system.store socket message subscription said
                  refine .began socket subscription ?_ (by rw [handler]; rfl) ?_
                  · simp [received, handler, said]
                  · rw [next, same]
                    exact pending
              | unsubscribe subscription =>
                  apply Turn.kept
                  rw [next, handler, (onMessage_unsubscribe system.store socket message subscription said).2]
                  rfl
  | _ =>
      apply Turn.kept
      rw [step_self, handler]
      exact handleUpgrade_pending _ _ _

theorem read_turn (index : Nat) (fault : Option Failure) :
    Turn system (.act index (.read fault)) index := by
  have next : ((server ids).step system (.act index (.read fault))).procs index =
      (checkAccess ids fault system.store (system.procs index)).2 := step_self _ _ _ _
  cases passed : grants system (.act index (.read fault)) with
  | some pair =>
      obtain ⟨socket, subscription⟩ := pair
      obtain ⟨pending, ended, _⟩ := grant_pending system.store fault _ socket subscription passed
      exact .granted socket subscription passed pending (by rw [next, ended]; rfl)
  | none =>
      cases pending : (system.procs index).pending with
      | none =>
          apply Turn.kept
          rw [next, pending]
          rcases checkAccess_pending system.store fault (system.procs index) with same | ended
          · exact same.trans pending
          · rw [ended]
            rfl
      | some pair =>
          obtain ⟨socket, subscription⟩ := pair
          rcases checkAccess_pending system.store fault (system.procs index) with same | ended
          · exact .kept (by rw [next, same])
          · refine .refused socket subscription ⟨index, fault, rfl, pending, passed, ?_⟩ pending
            rw [next, ended]
            rfl

theorem step_turn (index : Nat) : Turn system event index := by
  cases event with
  | env change => exact .kept rfl
  | act acting input =>
      by_cases same : index = acting
      · subst same
        cases input with
        | message socket data => exact message_turn system index socket data
        | read fault => exact read_turn system index fault
        | _ =>
            apply Turn.kept
            rw [step_self]
            exact handleUpgrade_pending _ _ _
      · exact .kept (by rw [step_other _ _ _ _ _ same])

theorem received_checking (socket : SocketId) (subscription : Subscription)
    (heard : received system event = some (socket, .subscribe subscription)) :
    Checking ((server ids).step system event) socket subscription := by
  cases event with
  | env change => cases heard
  | act index input =>
      cases input with
      | message speaker data =>
          cases data with
          | value message =>
              simp only [received] at heard
              split at heard
              · next handler =>
                  obtain ⟨word, said, same⟩ := Option.map_eq_some_iff.mp heard
                  obtain ⟨rfl, rfl⟩ := Prod.mk.inj same
                  obtain ⟨waiting, next, pending⟩ :=
                    onMessage_subscribe (E := E) (K := K) system.store speaker message subscription said
                  refine ⟨index, ?_⟩
                  rw [step_self, handler]
                  exact (congrArg (fun result => Handler.pending result.2) next).trans pending
              · cases heard
          | _ => cases heard
      | _ => cases heard

omit [Field K] [LinearOrder K] [FloorRing K] in
theorem grants_checking (socket : SocketId) (subscription : Subscription)
    (passed : grants system event = some (socket, subscription)) :
    Checking system socket subscription := by
  cases event with
  | env change => cases passed
  | act index input =>
      cases input with
      | read fault => exact ⟨index, (grant_pending system.store fault _ socket subscription passed).1⟩
      | _ => cases passed

theorem step_housed (housed : Housed system.store) :
    Housed ((server ids).step system event).store := by
  have settled := (step_moved system event).settled
  constructor
  · intro replica
    rw [step_registries]
    exact registered_agrees system.store replica housed _
  · intro replica socket topic member
    rw [step_registries] at member
    have before : ∃ state : Socket, system.store.sockets[socket]? = some state ∧
        state.replica = replica := by
      rcases registered_subscriptions system.store socket replica topic _ member with
        old | ⟨_, state, _, _, found, home⟩
      · exact housed.home replica socket topic old
      · exact ⟨state, found, home⟩
    obtain ⟨state, found, home⟩ := before
    obtain ⟨later, still, same⟩ := settled socket state found
    exact ⟨later, still, same.trans home⟩

omit [Field K] [LinearOrder K] [FloorRing K] in
theorem registration_joins (socket : SocketId) (subscription : Subscription) :
    registration system event = some (socket, .joins subscription) ↔
      grants system event = some (socket, subscription) := by
  cases event with
  | act index input =>
      simp only [registration]
      cases grants system (.act index input) with
      | some pair =>
          obtain ⟨granted, passed⟩ := pair
          simp
      | none =>
          simp only [reduceCtorEq, iff_false]
          split <;> simp_all
  | env change => cases change <;> simp [registration, grants, received]

omit [Field K] [LinearOrder K] [FloorRing K] in
theorem closes_drops (socket : SocketId) (closed : closes socket event) :
    registration system event = some (socket, .drops) := by
  cases event with
  | act index input => exact absurd closed id
  | env change =>
      cases change with
      | closed other =>
          obtain rfl : other = socket := closed
          rfl
      | _ => exact absurd closed id

omit [Field K] [LinearOrder K] [FloorRing K] in
theorem listening_housed (db : Database E) (clock : K) (redis : Revocations K) :
    Housed (listening ids db clock redis : System (Store ids E K Payload) (Handler E K)).store where
  agrees _ := Registry.empty_agrees
  home _ _ _ member := absurd member List.not_mem_nil

end Steps

end FaceVec.Ws
