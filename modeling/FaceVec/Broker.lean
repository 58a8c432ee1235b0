import Mathlib.Data.List.Pairwise
import Mathlib.Data.List.Basic

/-!
A broker with acknowledgements. A message is ready in a queue, or delivered
and not yet acknowledged. A consumer sends frames for a delivery, and the
broker handles the frames of a delivery in the order they were sent. When a
channel is lost, its deliveries are requeued and its unhandled frames are
gone. `live` counts the copies of a message; a delivery that only waits for
its acknowledgement is superseded and does not count.
-/

namespace FaceVec

variable {Queue Message : Type}

inductive Command (Queue Message : Type) where
  | sendToQueue (queue : Queue) (message : Message)
  | ack
  deriving DecidableEq, Repr

structure Delivery (Queue Message : Type) where
  tag : Nat
  channel : Nat
  queue : Queue
  message : Message
  /-- The frames sent for the delivery that the broker has not handled. -/
  sent : List (Command Queue Message)
  deriving DecidableEq, Repr

def Delivery.superseded (delivery : Delivery Queue Message) : Bool :=
  match delivery.sent with
  | [.ack] => true
  | _ => false

@[ext] structure Broker (Queue Message : Type) where
  /-- The queued messages, in order of arrival. -/
  ready : List (Queue × Message)
  unacked : List (Delivery Queue Message)
  nextTag : Nat
  /-- Every message ever delivered. -/
  delivered : List Message
  distinct : unacked.Pairwise fun earlier later => earlier.tag ≠ later.tag
  bounded : ∀ delivery ∈ unacked, delivery.tag < nextTag

namespace Broker

def empty : Broker Queue Message := ⟨[], [], 0, [], .nil, fun _ member => by contradiction⟩

def push (queue : Queue) (message : Message) (broker : Broker Queue Message) :
    Broker Queue Message :=
  { broker with ready := broker.ready ++ [(queue, message)] }

def messages [DecidableEq Queue] (broker : Broker Queue Message) (queue : Queue) : List Message :=
  (broker.ready.filter fun entry => decide (entry.1 = queue)).map (·.2)

/-- Move a message of `source` to another queue. -/
def expire [DecidableEq Queue] (source target : Queue) (position : Nat)
    (broker : Broker Queue Message) : Broker Queue Message :=
  match broker.ready[position]? with
  | none => broker
  | some (queue, message) =>
      if queue = source then
        { broker with ready := broker.ready.eraseIdx position ++ [(target, message)] }
      else broker

/-- Deliver a message of `source` on a channel. -/
def deliver [DecidableEq Queue] (source : Queue) (position channel : Nat)
    (broker : Broker Queue Message) : Option (Delivery Queue Message × Broker Queue Message) :=
  match broker.ready[position]? with
  | none => none
  | some (queue, message) =>
      if queue = source then
        let delivery := ⟨broker.nextTag, channel, queue, message, []⟩
        some (delivery,
          { ready := broker.ready.eraseIdx position
            unacked := broker.unacked ++ [delivery]
            nextTag := broker.nextTag + 1
            delivered := broker.delivered ++ [message]
            distinct := by
              refine List.pairwise_append.mpr ⟨broker.distinct, List.pairwise_singleton _ _, ?_⟩
              intro old member added last
              rw [List.mem_singleton.mp last]
              exact Nat.ne_of_lt (broker.bounded old member)
            bounded := by
              intro other member
              rcases List.mem_append.mp member with old | last
              · exact Nat.lt_succ_of_lt (broker.bounded other old)
              · rw [List.mem_singleton.mp last]
                exact Nat.lt_succ_self _ })
      else none

def amendSent (tag : Nat) (change : List (Command Queue Message) → List (Command Queue Message))
    (delivery : Delivery Queue Message) : Delivery Queue Message :=
  if delivery.tag = tag then { delivery with sent := change delivery.sent } else delivery

theorem amendSent_tag (tag : Nat)
    (change : List (Command Queue Message) → List (Command Queue Message))
    (delivery : Delivery Queue Message) : (amendSent tag change delivery).tag = delivery.tag := by
  unfold amendSent
  split <;> rfl

def amend (tag : Nat) (change : List (Command Queue Message) → List (Command Queue Message))
    (broker : Broker Queue Message) : Broker Queue Message :=
  { broker with
    unacked := broker.unacked.map (amendSent tag change)
    distinct := by
      simpa [List.pairwise_map, amendSent_tag] using broker.distinct
    bounded := by
      intro delivery member
      obtain ⟨old, stored, rfl⟩ := List.mem_map.mp member
      rw [amendSent_tag]
      exact broker.bounded old stored }

/-- The consumer sends frames for a delivery; on a lost channel they go nowhere. -/
def send (tag : Nat) (commands : List (Command Queue Message)) (broker : Broker Queue Message) :
    Broker Queue Message :=
  broker.amend tag (· ++ commands)

def remove (tag : Nat) (broker : Broker Queue Message) : Broker Queue Message :=
  { broker with
    unacked := broker.unacked.filter fun delivery => decide (delivery.tag ≠ tag)
    distinct := broker.distinct.filter _
    bounded := fun delivery member => broker.bounded delivery (List.mem_of_mem_filter member) }

def find (tag : Nat) (broker : Broker Queue Message) : Option (Delivery Queue Message) :=
  broker.unacked.find? fun delivery => delivery.tag == tag

/-- The broker handles the next frame that was sent for a delivery. -/
def handleFrame (tag : Nat) (broker : Broker Queue Message) : Broker Queue Message :=
  match broker.find tag with
  | none => broker
  | some delivery =>
      match delivery.sent with
      | [] => broker
      | .sendToQueue queue message :: _ => (broker.amend tag List.tail).push queue message
      | .ack :: _ => broker.remove tag

/-- A channel is gone: its deliveries are requeued as they were delivered. -/
def lose (channel : Nat) (broker : Broker Queue Message) : Broker Queue Message :=
  { broker with
    ready := (broker.unacked.filter fun delivery => decide (delivery.channel = channel)).map
      (fun delivery => (delivery.queue, delivery.message)) ++ broker.ready
    unacked := broker.unacked.filter fun delivery => !decide (delivery.channel = channel)
    distinct := broker.distinct.filter _
    bounded := fun delivery member => broker.bounded delivery (List.mem_of_mem_filter member) }

/-- The copies of a message that are queued or not yet acknowledged. -/
def copies (of : Message → Bool) (broker : Broker Queue Message) : Nat :=
  broker.ready.countP (fun entry => of entry.2) +
    broker.unacked.countP fun delivery => of delivery.message

def live (of : Message → Bool) (broker : Broker Queue Message) : Nat :=
  broker.ready.countP (fun entry => of entry.2) +
    broker.unacked.countP fun delivery => of delivery.message && !delivery.superseded

end Broker

theorem countP_eraseIdx {α : Type} (holds : α → Bool) (items : List α) (position : Nat) (item : α)
    (found : items[position]? = some item) :
    (items.eraseIdx position).countP holds + (if holds item then 1 else 0) = items.countP holds := by
  induction items generalizing position with
  | nil => simp at found
  | cons head rest ih =>
      cases position with
      | zero =>
          obtain rfl : head = item := by simpa using found
          simp [List.countP_cons]
      | succ position =>
          have counted := ih position (by simpa using found)
          simp only [List.eraseIdx_cons_succ, List.countP_cons]
          omega

theorem countP_partition {α : Type} (holds moved : α → Bool) (items : List α) :
    items.countP holds =
      (items.filter moved).countP holds + (items.filter fun item => !moved item).countP holds := by
  induction items with
  | nil => rfl
  | cons head rest ih =>
      cases moves : moved head <;> simp [moves, List.countP_cons, ih] <;> omega

namespace Broker

section Count

variable (of : Message → Bool) (broker : Broker Queue Message)

theorem live_push (queue : Queue) (message : Message) :
    (broker.push queue message).live of = broker.live of + if of message then 1 else 0 := by
  simp only [live, push, List.countP_append, List.countP_singleton]
  omega

theorem live_expire [DecidableEq Queue] (source target : Queue) (position : Nat) :
    (broker.expire source target position).live of = broker.live of := by
  unfold expire
  split
  · rfl
  · next queue message found =>
      split
      · have counted := countP_eraseIdx (fun entry => of entry.2) broker.ready position
          (queue, message) found
        simp only [live, List.countP_append, List.countP_singleton] at counted ⊢
        omega
      · rfl

/-- Losing a channel loses no message: superseded deliveries even come back. -/
theorem live_lose (channel : Nat) : broker.live of ≤ (broker.lose channel).live of := by
  have parts := countP_partition (fun delivery => of delivery.message && !delivery.superseded)
    (fun delivery => decide (delivery.channel = channel)) broker.unacked
  have back : (broker.unacked.filter fun delivery => decide (delivery.channel = channel)).countP
        (fun delivery => of delivery.message && !delivery.superseded) ≤
      (broker.unacked.filter fun delivery => decide (delivery.channel = channel)).countP
        fun delivery => of delivery.message := by
    apply List.countP_mono_left
    intro delivery member counted
    simp only [Bool.and_eq_true] at counted
    exact counted.1
  simp only [live, lose, List.countP_append, List.countP_map, Function.comp_def]
  omega

/-- A lost channel without superseded deliveries brings no message back to life. -/
theorem live_lose_held (channel : Nat) (held : ∀ delivery ∈ broker.unacked,
    delivery.channel = channel → of delivery.message = true → delivery.superseded = false) :
    (broker.lose channel).live of = broker.live of := by
  have parts := countP_partition (fun delivery => of delivery.message && !delivery.superseded)
    (fun delivery => decide (delivery.channel = channel)) broker.unacked
  have back : (broker.unacked.filter fun delivery => decide (delivery.channel = channel)).countP
        (fun delivery => of delivery.message && !delivery.superseded) =
      (broker.unacked.filter fun delivery => decide (delivery.channel = channel)).countP
        fun delivery => of delivery.message := by
    apply List.countP_congr
    intro delivery member
    obtain ⟨unacked, same⟩ := List.mem_filter.mp member
    have waits := held delivery unacked (of_decide_eq_true same)
    cases wanted : of delivery.message with
    | false => simp
    | true => simp [waits wanted]
  simp only [live, lose, List.countP_append, List.countP_map, Function.comp_def]
  omega

theorem deliver_some [DecidableEq Queue] (source : Queue) (position channel : Nat)
    (delivery : Delivery Queue Message) (after : Broker Queue Message)
    (delivers : broker.deliver source position channel = some (delivery, after)) :
    ∃ message, broker.ready[position]? = some (source, message) ∧
      delivery = ⟨broker.nextTag, channel, source, message, []⟩ ∧
      after.ready = broker.ready.eraseIdx position ∧ after.unacked = broker.unacked ++ [delivery] ∧
      after.nextTag = broker.nextTag + 1 ∧ after.delivered = broker.delivered ++ [message] := by
  unfold deliver at delivers
  split at delivers
  · contradiction
  · next queue message found =>
      split at delivers
      · next same =>
          obtain ⟨rfl, rfl⟩ := Prod.mk.inj (Option.some.inj delivers)
          subst same
          exact ⟨message, found, rfl, rfl, rfl, rfl, rfl⟩
      · contradiction

theorem live_deliver [DecidableEq Queue] (source : Queue) (position channel : Nat)
    (delivery : Delivery Queue Message) (after : Broker Queue Message)
    (delivers : broker.deliver source position channel = some (delivery, after)) :
    after.live of = broker.live of := by
  obtain ⟨message, found, rfl, ready, unacked, _⟩ :=
    deliver_some broker source position channel delivery after delivers
  have counted := countP_eraseIdx (fun entry => of entry.2) broker.ready position _ found
  simp only [live, ready, unacked, List.countP_append, List.countP_singleton, Delivery.superseded,
    Bool.not_false, Bool.and_true] at counted ⊢
  omega

end Count

section Tags

variable (broker : Broker Queue Message) (delivery : Delivery Queue Message)
  (change : List (Command Queue Message) → List (Command Queue Message))

theorem unacked_eq_of_tag (other : Delivery Queue Message) (member : delivery ∈ broker.unacked)
    (memberOther : other ∈ broker.unacked) (same : other.tag = delivery.tag) : other = delivery := by
  by_contra different
  have symmetric : Std.Symm fun a b : Delivery Queue Message => a.tag ≠ b.tag := ⟨fun _ _ => Ne.symm⟩
  exact broker.distinct.forall memberOther member different same

theorem find_iff (tag : Nat) :
    broker.find tag = some delivery ↔ delivery ∈ broker.unacked ∧ delivery.tag = tag := by
  constructor
  · intro found
    exact ⟨List.mem_of_find?_eq_some found, by simpa using List.find?_some found⟩
  · rintro ⟨member, rfl⟩
    cases found : broker.find delivery.tag with
    | none =>
        rw [find, List.find?_eq_none] at found
        simpa using found delivery member
    | some other =>
        have same : other.tag = delivery.tag := by simpa using List.find?_some found
        rw [unacked_eq_of_tag broker delivery other member (List.mem_of_find?_eq_some found) same]

/-- A delivery among the others, none of which has its tag. -/
theorem unacked_split (member : delivery ∈ broker.unacked) :
    ∃ before after, broker.unacked = before ++ delivery :: after ∧
      ∀ other ∈ before ++ after, other.tag ≠ delivery.tag := by
  obtain ⟨before, after, split⟩ := List.append_of_mem member
  refine ⟨before, after, split, ?_⟩
  have distinct := broker.distinct
  rw [split, List.pairwise_append, List.pairwise_cons] at distinct
  intro other inside
  rcases List.mem_append.mp inside with earlier | later
  · exact distinct.2.2 other earlier delivery List.mem_cons_self
  · exact (distinct.2.1.1 other later).symm

theorem amendSent_others (tag : Nat) (others : List (Delivery Queue Message))
    (apart : ∀ other ∈ others, other.tag ≠ tag) : others.map (amendSent tag change) = others := by
  induction others with
  | nil => rfl
  | cons head rest ih =>
      rw [List.map_cons, amendSent, if_neg (apart head List.mem_cons_self),
        ih fun other member => apart other (List.mem_cons_of_mem _ member)]

theorem amend_absent (tag : Nat) (absent : ∀ other ∈ broker.unacked, other.tag ≠ tag) :
    broker.amend tag change = broker :=
  Broker.ext rfl (amendSent_others change tag broker.unacked absent) rfl rfl

variable (of : Message → Bool) (member : delivery ∈ broker.unacked)

/-- Whether a delivery counts as a live copy. -/
def counts (of : Message → Bool) (delivery : Delivery Queue Message) : Nat :=
  if of delivery.message && !delivery.superseded then 1 else 0

include member in
theorem live_amend : (broker.amend delivery.tag change).live of + counts of delivery =
    broker.live of + counts of { delivery with sent := change delivery.sent } := by
  obtain ⟨before, after, split, apart⟩ := unacked_split broker delivery member
  have amended : (broker.amend delivery.tag change).unacked =
      before ++ { delivery with sent := change delivery.sent } :: after := by
    have others := fun part inside => amendSent_others change delivery.tag part inside
    simp only [amend, split, List.map_append, List.map_cons,
      others before fun other inside => apart other (List.mem_append_left _ inside),
      others after fun other inside => apart other (List.mem_append_right _ inside)]
    simp [amendSent]
  simp only [live, amended, split, List.countP_append, List.countP_cons, counts]
  simp only [amend]
  omega

include member in
theorem live_remove : (broker.remove delivery.tag).live of + counts of delivery = broker.live of := by
  obtain ⟨before, after, split, apart⟩ := unacked_split broker delivery member
  have removed : (broker.remove delivery.tag).unacked = before ++ after := by
    have others : (before ++ after).filter (fun other => decide (other.tag ≠ delivery.tag)) =
        before ++ after := by
      apply List.filter_eq_self.mpr
      intro other inside
      simpa using apart other inside
    rw [List.filter_append] at others
    simp [remove, split, List.filter_append, ← others]
  simp only [live, removed, split, List.countP_append, List.countP_cons, counts]
  simp only [remove]
  omega

include member in
theorem live_acknowledge (held : delivery.sent = []) :
    (broker.send delivery.tag [.ack]).live of + (if of delivery.message then 1 else 0) =
      broker.live of := by
  have amended := live_amend broker delivery (· ++ [.ack]) of member
  simp only [counts, Delivery.superseded, held, List.nil_append, Bool.not_false, Bool.and_true,
    Bool.not_true, Bool.and_false] at amended
  simpa [send] using amended

include member in
/-- A held delivery that is sent back still counts, until the broker has its successor. -/
theorem live_sendBack (held : delivery.sent = []) (queue : Queue) (message : Message) :
    (broker.send delivery.tag [.sendToQueue queue message, .ack]).live of = broker.live of := by
  have amended := live_amend broker delivery (· ++ [.sendToQueue queue message, .ack]) of member
  simp only [counts, Delivery.superseded, held, List.nil_append] at amended
  exact Nat.add_right_cancel amended

end Tags

/-- What a consumer has sent for a delivery: nothing yet, the acknowledgement,
or a successor before the acknowledgement. -/
inductive Sequenced (successor : Message → Queue → Message → Prop)
    (delivery : Delivery Queue Message) : Prop where
  | held : delivery.sent = [] → Sequenced successor delivery
  | acked : delivery.sent = [.ack] → Sequenced successor delivery
  | sentBack (queue : Queue) (message : Message) : delivery.sent = [.sendToQueue queue message, .ack] →
      successor delivery.message queue message → Sequenced successor delivery

section Frames

variable (of : Message → Bool) (successor : Message → Queue → Message → Prop)
  (broker : Broker Queue Message)
  (sequenced : ∀ delivery ∈ broker.unacked, Sequenced successor delivery) (tag : Nat)

include sequenced in
/-- Handling a frame stores the successor of a delivery, or ends the delivery. -/
theorem handleFrame_cases :
    broker.handleFrame tag = broker ∨
      ∃ delivery ∈ broker.unacked, delivery.tag = tag ∧
        ((delivery.sent = [.ack] ∧ broker.handleFrame tag = broker.remove tag) ∨
          ∃ queue message, delivery.sent = [.sendToQueue queue message, .ack] ∧
            successor delivery.message queue message ∧
            broker.handleFrame tag = (broker.amend tag List.tail).push queue message) := by
  unfold handleFrame
  cases found : broker.find tag with
  | none => exact Or.inl rfl
  | some delivery =>
      obtain ⟨member, same⟩ := (find_iff broker delivery tag).mp found
      dsimp only
      cases sequenced delivery member with
      | held nothing =>
          left
          rw [nothing]
      | acked alone =>
          right
          refine ⟨delivery, member, same, Or.inl ⟨alone, ?_⟩⟩
          rw [alone]
      | sentBack queue message order follows =>
          right
          refine ⟨delivery, member, same, Or.inr ⟨queue, message, order, follows, ?_⟩⟩
          rw [order]

include sequenced in
theorem live_handleFrame (same : ∀ message queue next, successor message queue next →
    of next = of message) : (broker.handleFrame tag).live of = broker.live of := by
  rcases handleFrame_cases successor broker sequenced tag with
    kept | ⟨delivery, member, rfl, ⟨alone, removed⟩ | ⟨queue, message, order, follows, stored⟩⟩
  · rw [kept]
  · have less := live_remove broker delivery of member
    simp only [counts, Delivery.superseded, alone, Bool.not_true, Bool.and_false] at less
    rw [removed]
    simpa using less
  · have amended := live_amend broker delivery List.tail of member
    simp only [counts, Delivery.superseded, order, List.tail_cons, Bool.not_true,
      Bool.and_false] at amended
    rw [stored, live_push, same _ _ _ follows]
    simpa using amended

theorem mem_amend (change : List (Command Queue Message) → List (Command Queue Message))
    (delivery : Delivery Queue Message) (member : delivery ∈ (broker.amend tag change).unacked) :
    ∃ old ∈ broker.unacked, (old.tag ≠ tag ∧ delivery = old) ∨
      (old.tag = tag ∧ delivery = { old with sent := change old.sent }) := by
  obtain ⟨old, stored, rfl⟩ := List.mem_map.mp member
  by_cases same : old.tag = tag
  · exact ⟨old, stored, Or.inr ⟨same, if_pos same⟩⟩
  · exact ⟨old, stored, Or.inl ⟨same, if_neg same⟩⟩

end Frames

end Broker

end FaceVec
