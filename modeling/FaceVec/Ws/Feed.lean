import Mathlib.Data.List.Nodup
import FaceVec.Ws.Membership

/-!
How often a socket hears what is published. A socket is in registries of its
own replica only, and in no set twice, so it hears an event at most once for
each time the event is published: at once, or out of the inbox of its replica.
-/

namespace FaceVec.Ws

open Interleaving Attendance Auth Courses

variable {E K Payload : Type} {ids : IdText}

/-- The registries list sockets of their own replica, and none twice. -/
structure Homed (store : Store ids E K Payload) : Prop where
  distinct : ∀ replica topic, (Registry.members (store.registries replica).bySession topic).Nodup
  home : ∀ replica topic socket,
    socket ∈ Registry.members (store.registries replica).bySession topic →
      ∃ state : Socket, store.sockets[socket]? = some state ∧ state.replica = replica

/-- The socket is on the replica, if it is there at all. -/
def At (store : Store ids E K Payload) (socket : SocketId) (replica : Nat) : Prop :=
  ∀ state : Socket, store.sockets[socket]? = some state → state.replica = replica

/-- How many of the frames sent to a socket are of a kind. -/
def heard (of : LiveEvent ids Payload → Bool) (trail : List (Mark ids E K Payload))
    (socket : SocketId) : Nat :=
  (sentFrames trail).countP fun frame => frame.1 == socket && of frame.2

/-- No socket hears more than `bound` events of a kind, those in the inbox included. -/
def Within (of : LiveEvent ids Payload → Bool) (bound : Nat) (store : Store ids E K Payload) : Prop :=
  ∀ socket replica, At store socket replica →
    heard of store.trail socket + (store.inboxes replica).countP of ≤ bound

def publishes : Event Input (Change ids E K Payload) → Option (LiveEvent ids Payload)
  | .env (.publish _ live _) => some live
  | _ => none

def counted (of : LiveEvent ids Payload → Bool) (live : Option (LiveEvent ids Payload)) : Nat :=
  if live.any of then 1 else 0

/-- What the step broadcasts on one replica. -/
def utters (store : Store ids E K Payload) (event : Event Input (Change ids E K Payload))
    (replica : Nat) : Option (LiveEvent ids Payload) :=
  match broadcasts store event with
  | some (speaker, live) => if speaker = replica then some live else none
  | none => none

section Steps

variable (store after : Store ids E K Payload) (event : Event Input (Change ids E K Payload))

theorem homed_update (homed : Homed store) (settled : Settled store after) (speaker : Nat)
    (registry : Registry) (registries : after.registries =
      Function.update store.registries speaker registry)
    (distinct : ∀ topic, (Registry.members registry.bySession topic).Nodup)
    (home : ∀ topic socket, socket ∈ Registry.members registry.bySession topic →
      socket ∈ Registry.members (store.registries speaker).bySession topic ∨
        ∃ state : Socket, store.sockets[socket]? = some state ∧ state.replica = speaker) :
    Homed after := by
  constructor
  · intro replica topic
    rw [registries]
    by_cases same : replica = speaker
    · subst same
      rw [Function.update_self]
      exact distinct topic
    · rw [Function.update_of_ne same]
      exact homed.distinct replica topic
  · intro replica topic socket member
    rw [registries] at member
    have before : ∃ state : Socket, store.sockets[socket]? = some state ∧ state.replica = replica := by
      by_cases same : replica = speaker
      · subst same
        rw [Function.update_self] at member
        rcases home topic socket member with old | joins
        · exact homed.home replica topic socket old
        · exact joins
      · rw [Function.update_of_ne same] at member
        exact homed.home replica topic socket member
    obtain ⟨state, found, there⟩ := before
    obtain ⟨later, still, stays⟩ := settled socket state found
    exact ⟨later, still, stays.trans there⟩

theorem moved_homed (homed : Homed store) (moved : Moved store after event) : Homed after := by
  obtain ⟨registered, settled, _⟩ := moved
  generalize same : after.registries = registries at registered
  cases registered with
  | kept =>
      apply homed_update store after homed settled 0 (store.registries 0)
      · rw [same, Function.update_eq_self]
      · exact homed.distinct 0
      · exact fun topic socket member => Or.inl member
  | joined socket state topic found =>
      apply homed_update store after homed settled state.replica _ same
      · exact fun other => Registry.nodup_subscribe _ _ _ (homed.distinct _ other) topic
      · intro other listener member
        rcases (Registry.mem_subscribe _ _ _ _ _).mp member with old | ⟨_, rfl⟩
        · exact Or.inl old
        · exact Or.inr ⟨state, found, rfl⟩
  | left socket state subscription found =>
      apply homed_update store after homed settled state.replica _ same
      · exact fun other => Registry.nodup_unsubscribe _ _ _ (homed.distinct _ other) _
      · exact fun other listener member =>
          Or.inl ((Registry.mem_unsubscribe _ _ _ _ _).mp member).1
  | removed socket state found =>
      apply homed_update store after homed settled state.replica _ same
      · exact fun other => Registry.nodup_remove _ _ _ (homed.distinct _ other)
      · exact fun other listener member => Or.inl ((Registry.mem_remove _ _ _ _).mp member).1

theorem settled_at (settled : Settled store after) (socket : SocketId) (replica : Nat)
    (there : At after socket replica) : At store socket replica := by
  intro state found
  obtain ⟨later, still, same⟩ := settled socket state found
  exact same.symm.trans (there later still)

variable (of : LiveEvent ids Payload → Bool)

/-- A broadcast sends a socket one frame, and only on the replica that it is on. -/
theorem frames_count (homed : Homed store) (socket : SocketId) (replica : Nat)
    (there : At store socket replica) :
    (frames store event).countP (fun frame => frame.1 == socket && of frame.2) ≤
      counted of (utters store event replica) := by
  unfold frames utters
  cases spoken : broadcasts store event with
  | none => exact Nat.zero_le _
  | some spoke =>
      obtain ⟨speaker, live⟩ := spoke
      have hearers := (homed.distinct speaker live.topic).filter store.isOpen
      dsimp only
      rw [List.countP_map]
      by_cases wanted : of live = true
      · simp only [Function.comp_def, wanted, Bool.and_true]
        by_cases local_ : speaker = replica
        · simp only [local_, if_true, counted, Option.any_some, wanted]
          rw [local_] at hearers
          exact List.nodup_iff_count_le_one.mp hearers socket
        · refine (List.countP_eq_zero.mpr ?_).le.trans (Nat.zero_le _)
          intro hearer member same
          obtain rfl : hearer = socket := by simpa using same
          obtain ⟨state, found, home⟩ := homed.home speaker live.topic hearer (List.mem_of_mem_filter member)
          exact local_ (home.symm.trans (there state found))
      · have unheard : (fun frame : SocketId => frame == socket && of live) = fun _ => false := by
          funext frame
          simp [wanted]
        simp [Function.comp_def, unheard]

variable [Field K] [LinearOrder K] [FloorRing K]

/-- What a step utters on a replica was waiting there, or is published. -/
theorem inbox_count (system : System (Store ids E K Payload) (Handler E K)) (replica : Nat) :
    (((server ids).step system event).store.inboxes replica).countP of +
        counted of (utters system.store event replica) ≤
      (system.store.inboxes replica).countP of + counted of (publishes event) := by
  cases event with
  | act index input =>
      rw [step_store]
      simp only [server]
      rw [exec_inboxes]
      exact Nat.le_refl _
  | env change =>
      have idle : ∀ quiet : broadcasts system.store (.env change) = none,
          ((ambient ids change system.store).inboxes replica).countP of ≤
            (system.store.inboxes replica).countP of + counted of (publishes (.env change)) →
          ((ambient ids change system.store).inboxes replica).countP of +
              counted of (utters system.store (.env change) replica) ≤
            (system.store.inboxes replica).countP of + counted of (publishes (.env change)) := by
        intro quiet bound
        simpa [utters, quiet, counted] using bound
      cases change with
      | publish speaker live redisReady =>
          cases redisReady with
          | true =>
              apply idle rfl
              simp only [ambient, List.countP_append, List.countP_singleton]
              exact Nat.le_refl _
          -- Without Redis the replica that publishes utters the event itself.
          | false =>
              apply Nat.add_le_add_left
              simp only [utters, broadcasts]
              split
              · exact Nat.le_refl _
              · exact Nat.zero_le _
      | receive speaker =>
          cases waiting : system.store.inboxes speaker with
          | nil => exact idle (by simp [broadcasts, waiting]) (by simp [ambient, waiting])
          | cons live rest =>
              by_cases same : speaker = replica
              · subst same
                simp [Machine.step, server, ambient, broadcast, Store.record, utters, broadcasts,
                  waiting, counted, publishes, List.countP_cons]
              · simp [Machine.step, server, ambient, broadcast, Store.record, utters, broadcasts,
                  waiting, counted, publishes, same, Ne.symm same]
      | lose speaker =>
          apply idle rfl
          by_cases same : replica = speaker
          · subst same
            simp [ambient]
          · simp [ambient, same, publishes, counted]
      | closed socket =>
          apply idle rfl
          simp only [ambient, registering_inboxes]
          exact Nat.le_add_right _ _
      | _ => exact idle rfl (Nat.le_add_right _ _)

theorem step_within (system : System (Store ids E K Payload) (Handler E K)) (bound : Nat)
    (homed : Homed system.store) (within : Within of bound system.store) :
    Within of (bound + counted of (publishes event)) ((server ids).step system event).store := by
  intro socket replica there
  have moved := step_moved system event
  have before := settled_at _ _ moved.settled socket replica there
  have sent := frames_count system.store event of homed socket replica before
  have inboxes := inbox_count event of system replica
  have held := within socket replica before
  unfold heard at held ⊢
  rw [moved.sent, List.countP_append]
  omega

end Steps

end FaceVec.Ws
