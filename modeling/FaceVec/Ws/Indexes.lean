import Mathlib.Data.Set.Insert
import FaceVec.Ws.Membership

/-!
The connection registry over whole runs. What it stands for is a relation of
topics and sockets; `bySession` and the sockets' own `subscriptions` are two
indexes of it, and `broadcast` reads the first one. The registry of each replica
of the server is the outcome of such a run.
-/

namespace FaceVec.Ws

open Interleaving Auth

inductive Operation where
  | subscribe (sessionId : String) (socket : SocketId)
  | unsubscribe (sessionId : String) (socket : SocketId)
  | remove (socket : SocketId)
  deriving DecidableEq, Repr

namespace Registry

def apply (registry : Registry) : Operation → Registry
  | .subscribe sessionId socket => registry.subscribe sessionId socket
  | .unsubscribe sessionId socket => registry.unsubscribe sessionId socket
  | .remove socket => registry.remove socket

def run (registry : Registry) (operations : List Operation) : Registry :=
  operations.foldl apply registry

/-- What `broadcast` passes to `socket.send`, in order; the payload is made a text once. -/
def sends {Payload : Type} (stringify : Payload → String) (registry : Registry)
    (sessionId : String) (payload : Payload) (isOpen : SocketId → Bool) :
    List (SocketId × String) :=
  let message := stringify payload
  (registry.broadcast sessionId isOpen).map fun socket => (socket, message)

end Registry

section Relation

abbrev Subscribed := Set (String × SocketId)

def Operation.relate (subscribed : Subscribed) : Operation → Subscribed
  | .subscribe sessionId socket => insert (sessionId, socket) subscribed
  | .unsubscribe sessionId socket => subscribed \ {(sessionId, socket)}
  | .remove socket => { pair ∈ subscribed | pair.2 ≠ socket }

def relation (operations : List Operation) : Subscribed := operations.foldl Operation.relate ∅

/-- No pair of the relation is of the socket. -/
def Gone (socket : SocketId) (subscribed : Subscribed) : Prop :=
  ∀ topic, (topic, socket) ∉ subscribed

theorem relate_gone (socket : SocketId) (subscribed : Subscribed) (operation : Operation)
    (gone : Gone socket subscribed) (silent : ∀ topic, operation ≠ .subscribe topic socket) :
    Gone socket (operation.relate subscribed) := by
  intro topic
  cases operation with
  | subscribe sessionId other =>
      rintro (same | old)
      · cases same
        exact silent topic rfl
      · exact gone topic old
  | unsubscribe sessionId other => exact fun kept => gone topic kept.1
  | remove other => exact fun kept => gone topic kept.1

theorem relates_gone (socket : SocketId) (subscribed : Subscribed) (operations : List Operation)
    (gone : Gone socket subscribed)
    (silent : ∀ topic, Operation.subscribe topic socket ∉ operations) :
    Gone socket (operations.foldl Operation.relate subscribed) := by
  induction operations generalizing subscribed with
  | nil => exact gone
  | cons first rest ih =>
      apply ih
      · refine relate_gone socket subscribed first gone fun topic same => silent topic ?_
        exact List.mem_cons.mpr (Or.inl same.symm)
      · exact fun topic member => silent topic (List.mem_cons_of_mem _ member)

/-- A removed socket is related to nothing until it subscribes again. -/
theorem removed_gone (before after : List Operation) (socket : SocketId)
    (silent : ∀ topic, Operation.subscribe topic socket ∉ after) :
    Gone socket (relation (before ++ .remove socket :: after)) := by
  rw [relation, List.foldl_append, List.foldl_cons]
  exact relates_gone socket _ after (fun topic kept => kept.2 rfl) silent

end Relation

namespace Registry

/-- Both indexes are the relation; a topic lists a socket once, and is there only
with a socket. -/
structure Represents (registry : Registry) (subscribed : Subscribed) : Prop where
  members : ∀ topic socket,
    socket ∈ members registry.bySession topic ↔ (topic, socket) ∈ subscribed
  subscriptions : ∀ topic socket,
    topic ∈ registry.subscriptions socket ↔ (topic, socket) ∈ subscribed
  distinct : ∀ topic, (Registry.members registry.bySession topic).Nodup
  inhabited : ∀ topic, registry.bySession topic ≠ some []

theorem empty_represents : empty.Represents ∅ where
  members _ _ := by simp [empty, Registry.members]
  subscriptions _ _ := by simp [empty]
  distinct _ := List.nodup_nil
  inhabited _ := nofun

theorem add_ne_nil {α : Type} [DecidableEq α] (set : List α) (value : α) : add set value ≠ [] := by
  intro nothing
  have member : value ∈ add set value := (mem_add set value value).mpr (Or.inr rfl)
  rw [nothing] at member
  contradiction

theorem discard_inhabited (bySession : String → Option (List SocketId)) (sessionId topic : String)
    (socket : SocketId) (inhabited : ∀ topic, bySession topic ≠ some []) :
    discard bySession sessionId socket topic ≠ some [] := by
  unfold discard
  cases bySession sessionId with
  | none => exact inhabited topic
  | some set =>
      dsimp only
      by_cases same : topic = sessionId
      · subst same
        rw [Function.update_self]
        split
        · nofun
        · next somebody => exact fun nothing => somebody (by rw [Option.some.inj nothing]; rfl)
      · rw [Function.update_of_ne same]
        exact inhabited topic

theorem discards_inhabited (topics : List String) (bySession : String → Option (List SocketId))
    (socket : SocketId) (inhabited : ∀ topic, bySession topic ≠ some []) (topic : String) :
    topics.foldl (fun bySession sessionId => discard bySession sessionId socket) bySession topic ≠
      some [] := by
  induction topics generalizing bySession with
  | nil => exact inhabited topic
  | cons first rest ih =>
      exact ih _ fun topic => discard_inhabited bySession first topic socket inhabited

variable (registry : Registry) (subscribed : Subscribed) (represents : registry.Represents subscribed)

include represents

theorem subscribe_represents (sessionId : String) (socket : SocketId) :
    (registry.subscribe sessionId socket).Represents
      ((Operation.subscribe sessionId socket).relate subscribed) where
  members topic other := by
    rw [mem_subscribe, represents.members]
    simp [Operation.relate, or_comm]
  subscriptions topic other := by
    rw [mem_subscriptions_subscribe, represents.subscriptions]
    simp [Operation.relate, or_comm]
  distinct topic := nodup_subscribe registry socket topic (represents.distinct topic) sessionId
  inhabited topic := by
    by_cases same : topic = sessionId
    · subst same
      simpa [subscribe] using add_ne_nil _ socket
    · simpa [subscribe, same] using represents.inhabited topic

theorem unsubscribe_represents (sessionId : String) (socket : SocketId) :
    (registry.unsubscribe sessionId socket).Represents
      ((Operation.unsubscribe sessionId socket).relate subscribed) where
  members topic other := by
    rw [mem_unsubscribe, represents.members]
    simp [Operation.relate]
  subscriptions topic other := by
    rw [mem_subscriptions_unsubscribe, represents.subscriptions]
    simp [Operation.relate]
  distinct topic := nodup_unsubscribe registry socket topic (represents.distinct topic) sessionId
  inhabited topic := discard_inhabited _ _ topic socket represents.inhabited

theorem remove_represents (socket : SocketId) :
    (registry.remove socket).Represents ((Operation.remove socket).relate subscribed) where
  members topic other := by
    -- The topics that `remove` goes through are those of the first index too.
    rw [mem_remove, represents.members, represents.subscriptions]
    refine and_congr_right fun related => not_congr ⟨And.right, ?_⟩
    rintro rfl
    exact ⟨related, rfl⟩
  subscriptions topic other := by
    rw [mem_subscriptions_remove, represents.subscriptions]
    rfl
  distinct topic := nodup_remove registry socket topic (represents.distinct topic)
  inhabited topic := discards_inhabited _ _ socket represents.inhabited topic

theorem apply_represents (operation : Operation) :
    (registry.apply operation).Represents (operation.relate subscribed) := by
  cases operation with
  | subscribe sessionId socket =>
      exact subscribe_represents registry subscribed represents sessionId socket
  | unsubscribe sessionId socket =>
      exact unsubscribe_represents registry subscribed represents sessionId socket
  | remove socket => exact remove_represents registry subscribed represents socket

/-- A broadcast sends its message once to each open socket of the topic. -/
theorem sends_count {Payload : Type} (stringify : Payload → String) (topic : String)
    (payload : Payload) (isOpen : SocketId → Bool) (socket : SocketId) (message : String) :
    (registry.sends stringify topic payload isOpen).count (socket, message) =
      if isOpen socket = true ∧ topic ∈ registry.subscriptions socket ∧ message = stringify payload
        then 1 else 0 := by
  have once : (registry.sends stringify topic payload isOpen).Nodup := by
    refine List.pairwise_map.mpr (((represents.distinct topic).filter _).imp ?_)
    exact fun {one other} apart same => apart (congrArg Prod.fst same)
  have sent : (socket, message) ∈ registry.sends stringify topic payload isOpen ↔
      isOpen socket = true ∧ topic ∈ registry.subscriptions socket ∧
        message = stringify payload := by
    simp only [sends, List.mem_map, mem_broadcast, represents.members, represents.subscriptions,
      Prod.mk.injEq]
    constructor
    · rintro ⟨_, ⟨related, open_⟩, rfl, rfl⟩
      exact ⟨open_, related, rfl⟩
    · rintro ⟨open_, related, rfl⟩
      exact ⟨socket, ⟨related, open_⟩, rfl, rfl⟩
  rw [List.Nodup.count once]
  simp only [sent]

theorem run_represents (operations : List Operation) :
    (registry.run operations).Represents (operations.foldl Operation.relate subscribed) := by
  induction operations generalizing registry subscribed with
  | nil => exact represents
  | cons first rest ih => exact ih _ _ (apply_represents registry subscribed represents first)

omit represents

/-- After any operations both indexes are the relation of who is subscribed to what, no topic
is empty, a removed socket is nowhere until it subscribes again, and a broadcast reaches
each open socket of its topic once. -/
theorem indexes_agree (operations : List Operation) :
    let registry := empty.run operations
    registry.Agrees ∧
      (∀ topic socket,
        topic ∈ registry.subscriptions socket ↔ (topic, socket) ∈ relation operations) ∧
      (∀ topic, registry.bySession topic ≠ some []) ∧
      (∀ before after socket, operations = before ++ .remove socket :: after →
        (∀ topic, Operation.subscribe topic socket ∉ after) →
          registry.subscriptions socket = [] ∧
            ∀ topic, socket ∉ members registry.bySession topic) ∧
      ∀ (Payload : Type) (stringify : Payload → String) topic payload isOpen socket message,
        (registry.sends stringify topic payload isOpen).count (socket, message) =
          if isOpen socket = true ∧ topic ∈ registry.subscriptions socket ∧
            message = stringify payload then 1 else 0 := by
  have represents := run_represents empty ∅ empty_represents operations
  refine ⟨fun topic socket => ?_, represents.subscriptions, represents.inhabited, ?_, ?_⟩
  · exact (represents.members topic socket).trans (represents.subscriptions topic socket).symm
  · rintro before after socket rfl silent
    have gone := removed_gone before after socket silent
    constructor
    · refine List.eq_nil_iff_forall_not_mem.mpr fun topic listed => gone topic ?_
      exact (represents.subscriptions topic socket).mp listed
    · exact fun topic listed => gone topic ((represents.members topic socket).mp listed)
  · intro Payload stringify topic payload isOpen socket message
    exact sends_count _ _ represents stringify topic payload isOpen socket message

end Registry

section Server

variable {E K Payload : Type} {ids : IdText}

/-- A registry that only the operations have changed. -/
def Reached (registry : Registry) : Prop := ∃ operations, Registry.empty.run operations = registry

theorem reached_apply (registry : Registry) (operation : Operation) (reached : Reached registry) :
    Reached (registry.apply operation) := by
  obtain ⟨operations, rfl⟩ := reached
  exact ⟨operations ++ [operation], by rw [Registry.run, List.foldl_append]; rfl⟩

theorem reached_update (registries : Nat → Registry) (replica : Nat) (operation : Operation)
    (reached : ∀ other, Reached (registries other)) (other : Nat) :
    Reached (Function.update registries replica ((registries replica).apply operation) other) := by
  by_cases same : other = replica
  · subst same
    rw [Function.update_self]
    exact reached_apply _ operation (reached other)
  · rw [Function.update_of_ne same]
    exact reached other

variable [Field K] [LinearOrder K] [FloorRing K]

theorem step_reached (system : System (Store ids E K Payload) (Handler E K))
    (event : Event Input (Change ids E K Payload))
    (reached : ∀ replica, Reached (system.store.registries replica)) (replica : Nat) :
    Reached (((server ids).step system event).store.registries replica) := by
  have registered := (step_moved system event).registered
  generalize ((server ids).step system event).store.registries = registries at registered ⊢
  cases registered with
  | kept => exact reached replica
  | joined socket state topic =>
      exact reached_update _ state.replica (.subscribe topic socket) reached replica
  | left socket state subscription =>
      exact reached_update _ state.replica (.unsubscribe subscription.topic socket) reached replica
  | removed socket state => exact reached_update _ state.replica (.remove socket) reached replica

theorem run_reached (db : Database E) (clock : K) (redis : Revocations K)
    (events : List (Event Input (Change ids E K Payload))) (replica : Nat) :
    Reached (((server ids).run (listening ids db clock redis) events).store.registries replica) :=
  run_invariant _ (fun system => ∀ replica, Reached (system.store.registries replica))
    (fun system event reached => step_reached system event reached) _ events
    (fun _ => ⟨[], rfl⟩) replica

end Server

end FaceVec.Ws
