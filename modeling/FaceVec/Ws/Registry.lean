import Mathlib.Logic.Function.Basic
import Mathlib.Data.List.Basic

/-!
`ConnectionRegistry` of `ws/connection-registry.ts`: which sockets of one
instance hear which topic. `subscriptions` are the sockets' own sets. A topic
is a session id as a client wrote it, or the topic of an import job.
-/

namespace FaceVec.Ws

abbrev SocketId := Nat

structure Registry where
  bySession : String → Option (List SocketId)
  subscriptions : SocketId → List String

namespace Registry

def empty : Registry := ⟨fun _ => none, fun _ => []⟩

def add {α : Type} [DecidableEq α] (set : List α) (value : α) : List α :=
  if value ∈ set then set else set ++ [value]

def delete {α : Type} [DecidableEq α] (set : List α) (value : α) : List α :=
  set.filter fun other => decide (other ≠ value)

/-- Take a socket out of a topic, and the topic away with its last socket. -/
def discard (bySession : String → Option (List SocketId)) (sessionId : String) (socket : SocketId) :
    String → Option (List SocketId) :=
  match bySession sessionId with
  | none => bySession
  | some set =>
      let left := delete set socket
      Function.update bySession sessionId (if left.isEmpty then none else some left)

def subscribe (registry : Registry) (sessionId : String) (socket : SocketId) : Registry :=
  let set := (registry.bySession sessionId).getD []
  { bySession := Function.update registry.bySession sessionId (some (add set socket))
    subscriptions := Function.update registry.subscriptions socket
      (add (registry.subscriptions socket) sessionId) }

def unsubscribe (registry : Registry) (sessionId : String) (socket : SocketId) : Registry :=
  { bySession := discard registry.bySession sessionId socket
    subscriptions := Function.update registry.subscriptions socket
      (delete (registry.subscriptions socket) sessionId) }

/-- Drop a socket from every topic it was subscribed to. -/
def remove (registry : Registry) (socket : SocketId) : Registry :=
  { bySession := (registry.subscriptions socket).foldl
      (fun bySession sessionId => discard bySession sessionId socket) registry.bySession
    subscriptions := Function.update registry.subscriptions socket [] }

def members (bySession : String → Option (List SocketId)) (topic : String) : List SocketId :=
  (bySession topic).getD []

/-- The sockets that a broadcast sends its message to, in this order. -/
def broadcast (registry : Registry) (sessionId : String) (isOpen : SocketId → Bool) :
    List SocketId :=
  (members registry.bySession sessionId).filter isOpen

section Sets

variable {α : Type} [DecidableEq α]

@[simp] theorem mem_add (set : List α) (value other : α) :
    other ∈ add set value ↔ other ∈ set ∨ other = value := by
  unfold add
  split
  · next present =>
      constructor
      · exact Or.inl
      · rintro (old | rfl)
        · exact old
        · exact present
  · simp

@[simp] theorem mem_delete (set : List α) (value other : α) :
    other ∈ delete set value ↔ other ∈ set ∧ other ≠ value := by
  simp [delete]

end Sets

theorem mem_discard (bySession : String → Option (List SocketId)) (sessionId topic : String)
    (socket other : SocketId) :
    other ∈ members (discard bySession sessionId socket) topic ↔
      other ∈ members bySession topic ∧ ¬ (topic = sessionId ∧ other = socket) := by
  unfold discard
  cases found : bySession sessionId with
  | none =>
      by_cases same : topic = sessionId
      · subst same
        simp [members, found]
      · simp [same]
  | some set =>
      by_cases same : topic = sessionId
      · subst same
        have shown : members (Function.update bySession topic
            (if (delete set socket).isEmpty then none else some (delete set socket))) topic =
              delete set socket := by
          unfold members
          rw [Function.update_self]
          split
          · next nobody => exact (List.isEmpty_iff.mp nobody).symm
          · rfl
        rw [shown]
        simp [members, found]
      · simp [members, same]

@[simp] theorem mem_subscribe (registry : Registry) (sessionId topic : String)
    (socket other : SocketId) :
    other ∈ members (registry.subscribe sessionId socket).bySession topic ↔
      other ∈ members registry.bySession topic ∨ (topic = sessionId ∧ other = socket) := by
  by_cases same : topic = sessionId
  · subst same
    simp [members, subscribe]
  · simp [members, subscribe, same]

@[simp] theorem mem_unsubscribe (registry : Registry) (sessionId topic : String)
    (socket other : SocketId) :
    other ∈ members (registry.unsubscribe sessionId socket).bySession topic ↔
      other ∈ members registry.bySession topic ∧ ¬ (topic = sessionId ∧ other = socket) :=
  mem_discard _ _ _ _ _

theorem mem_discards (topics : List String) (bySession : String → Option (List SocketId))
    (topic : String) (socket other : SocketId) :
    other ∈ members (topics.foldl (fun bySession sessionId => discard bySession sessionId socket)
        bySession) topic ↔
      other ∈ members bySession topic ∧ ¬ (topic ∈ topics ∧ other = socket) := by
  induction topics generalizing bySession with
  | nil => simp
  | cons first rest ih =>
      rw [List.foldl_cons, ih, mem_discard]
      simp only [List.mem_cons]
      tauto

@[simp] theorem mem_remove (registry : Registry) (topic : String) (socket other : SocketId) :
    other ∈ members (registry.remove socket).bySession topic ↔
      other ∈ members registry.bySession topic ∧
        ¬ (topic ∈ registry.subscriptions socket ∧ other = socket) :=
  mem_discards _ _ _ _ _

section Nodup

theorem nodup_add {α : Type} [DecidableEq α] (set : List α) (value : α) (distinct : set.Nodup) :
    (add set value).Nodup := by
  unfold add
  split
  · exact distinct
  · next absent =>
      refine List.nodup_append.mpr ⟨distinct, List.pairwise_singleton _ _, ?_⟩
      intro old member new single
      rw [List.mem_singleton.mp single]
      rintro rfl
      exact absent member

theorem members_discard (bySession : String → Option (List SocketId)) (sessionId topic : String)
    (socket : SocketId) :
    (members (discard bySession sessionId socket) topic).Sublist (members bySession topic) := by
  unfold discard
  cases found : bySession sessionId with
  | none => exact List.Sublist.refl _
  | some set =>
      by_cases same : topic = sessionId
      · subst same
        simp only [members, Function.update_self, found]
        split
        · exact List.nil_sublist _
        · exact List.filter_sublist
      · simp [members, same]

theorem members_discards (topics : List String) (bySession : String → Option (List SocketId))
    (topic : String) (socket : SocketId) :
    (members (topics.foldl (fun bySession sessionId => discard bySession sessionId socket) bySession)
      topic).Sublist (members bySession topic) := by
  induction topics generalizing bySession with
  | nil => exact List.Sublist.refl _
  | cons first rest ih => exact (ih _).trans (members_discard bySession first topic socket)

variable (registry : Registry) (socket : SocketId) (topic : String)
  (distinct : (members registry.bySession topic).Nodup)

include distinct

theorem nodup_subscribe (sessionId : String) :
    (members (registry.subscribe sessionId socket).bySession topic).Nodup := by
  by_cases same : topic = sessionId
  · subst same
    simpa [members, subscribe] using nodup_add _ socket distinct
  · simpa [members, subscribe, same] using distinct

theorem nodup_unsubscribe (sessionId : String) :
    (members (registry.unsubscribe sessionId socket).bySession topic).Nodup :=
  distinct.sublist (members_discard _ _ _ _)

theorem nodup_remove : (members (registry.remove socket).bySession topic).Nodup :=
  distinct.sublist (members_discards _ _ _ _)

end Nodup

section Agreement

/-- The two maps list the same subscriptions. -/
def Agrees (registry : Registry) : Prop :=
  ∀ topic socket, socket ∈ members registry.bySession topic ↔ topic ∈ registry.subscriptions socket

theorem empty_agrees : empty.Agrees := fun _ _ => by simp [empty, members]

variable (registry : Registry)

theorem mem_subscriptions_subscribe (sessionId topic : String) (socket other : SocketId) :
    topic ∈ (registry.subscribe sessionId socket).subscriptions other ↔
      topic ∈ registry.subscriptions other ∨ (topic = sessionId ∧ other = socket) := by
  by_cases same : other = socket
  · subst same
    simp [subscribe]
  · simp [subscribe, same]

theorem mem_subscriptions_unsubscribe (sessionId topic : String) (socket other : SocketId) :
    topic ∈ (registry.unsubscribe sessionId socket).subscriptions other ↔
      topic ∈ registry.subscriptions other ∧ ¬ (topic = sessionId ∧ other = socket) := by
  by_cases same : other = socket
  · subst same
    simp [unsubscribe]
  · simp [unsubscribe, same]

theorem mem_subscriptions_remove (topic : String) (socket other : SocketId) :
    topic ∈ (registry.remove socket).subscriptions other ↔
      topic ∈ registry.subscriptions other ∧ other ≠ socket := by
  by_cases same : other = socket
  · subst same
    simp [remove]
  · simp [remove, same]

variable (agrees : registry.Agrees) (socket : SocketId)

include agrees

theorem subscribe_agrees (sessionId : String) : (registry.subscribe sessionId socket).Agrees := by
  intro topic other
  rw [mem_subscribe, mem_subscriptions_subscribe, agrees topic other]

theorem unsubscribe_agrees (sessionId : String) : (registry.unsubscribe sessionId socket).Agrees := by
  intro topic other
  rw [mem_unsubscribe, mem_subscriptions_unsubscribe, agrees topic other]

theorem remove_agrees : (registry.remove socket).Agrees := by
  intro topic other
  rw [mem_remove, mem_subscriptions_remove, agrees topic other]
  refine and_congr_right fun member => not_congr ⟨And.right, ?_⟩
  rintro rfl
  exact ⟨member, rfl⟩

end Agreement

theorem mem_broadcast (registry : Registry) (sessionId : String) (isOpen : SocketId → Bool)
    (socket : SocketId) : socket ∈ registry.broadcast sessionId isOpen ↔
      socket ∈ members registry.bySession sessionId ∧ isOpen socket = true :=
  List.mem_filter

end Registry

end FaceVec.Ws
