import FaceVec.Broker

/-!
`messaging/topology.ts`: the queues, the bindings of the topic exchange, and
the way an expired message takes from the retry queue back to the main one.
Patterns and routing keys are lists of their words.
-/

namespace FaceVec

inductive Queue where
  | FACE_TASKS | FACE_TASKS_RETRY | FACE_TASKS_DEAD | NOTIFICATIONS | BULK_IMPORTS
  deriving DecidableEq, Repr

structure Binding where
  queue : Queue
  pattern : List String

def bindings : List Binding :=
  [⟨.FACE_TASKS, ["face", "#"]⟩, ⟨.NOTIFICATIONS, ["attendance", "#"]⟩,
    ⟨.NOTIFICATIONS, ["course", "#"]⟩, ⟨.BULK_IMPORTS, ["import", "#"]⟩]

/-- A `*` stands for one word, a `#` for any number of them. -/
def topicMatches : List String → List String → Bool
  | [], key => key.isEmpty
  | word :: rest, key =>
      if word = "#" then key.tails.any (topicMatches rest)
      else
        match key with
        | [] => false
        | head :: tail => (word == "*" || word == head) && topicMatches rest tail

def routes (routingKey : List String) : List Queue :=
  (bindings.filter fun binding => topicMatches binding.pattern routingKey).map (·.queue)

variable {Message : Type}

/-- The exchange stores the message in every queue that is bound to its key. -/
def publish (routingKey : List String) (message : Message) (broker : Broker Queue Message) :
    Broker Queue Message :=
  (routes routingKey).foldl (fun broker queue => broker.push queue message) broker

theorem publish_unacked (routingKey : List String) (message : Message)
    (broker : Broker Queue Message) : (publish routingKey message broker).unacked = broker.unacked := by
  unfold publish
  induction routes routingKey generalizing broker with
  | nil => rfl
  | cons queue rest ih => exact ih _

theorem live_publish (of : Message → Bool) (routingKey : List String) (message : Message)
    (broker : Broker Queue Message) : (publish routingKey message broker).live of =
      broker.live of + (routes routingKey).length * if of message then 1 else 0 := by
  unfold publish
  induction routes routingKey generalizing broker with
  | nil => simp
  | cons queue rest ih =>
      rw [List.foldl_cons, ih, Broker.live_push, List.length_cons, Nat.add_one_mul]
      omega

/-- The `x-message-ttl` of the retry queue, which dead-letters to the main queue. -/
def expireRetry (position : Nat) (broker : Broker Queue Message) : Broker Queue Message :=
  broker.expire .FACE_TASKS_RETRY .FACE_TASKS position

end FaceVec
