import FaceVec.Faces.Tasks

/-!
What holds of the broker and the workers in every run: the attempts of a
message fit its queue, a worker's delivery is held or requeued, and no step
lowers the count of the live copies of a task together with its outcomes.
-/

namespace FaceVec.Faces

open Interleaving

variable {K : Type} (config : Config)

def ofTask (task : EnrollmentTask) (message : TaskMessage) : Bool := decide (message.task = task)

/-- What a consumer may send back for a message. -/
structure Successor (message : TaskMessage) (queue : Queue) (next : TaskMessage) : Prop where
  task : next.task = message.task
  attempts : next.attempts = message.attempts + 1
  bounds : InQueue config queue next

structure Bounded (broker : Broker Queue TaskMessage) : Prop where
  sequenced : ∀ delivery ∈ broker.unacked, Broker.Sequenced (Successor config) delivery
  ready : ∀ entry ∈ broker.ready, InQueue config entry.1 entry.2
  unacked : ∀ delivery ∈ broker.unacked, InQueue config delivery.queue delivery.message ∧
    delivery.message.attempts < config.FACE_TASK_MAX_ATTEMPTS

section Bounds

variable (broker : Broker Queue TaskMessage) (bounded : Bounded config broker)

include bounded in
theorem bounded_push (queue : Queue) (message : TaskMessage) (bounds : InQueue config queue message) :
    Bounded config (broker.push queue message) := by
  refine ⟨bounded.sequenced, fun entry member => ?_, bounded.unacked⟩
  rcases List.mem_append.mp member with old | new
  · exact bounded.ready entry old
  · rw [List.mem_singleton.mp new]
    exact bounds

include bounded in
theorem bounded_deliver (position channel : Nat) (delivery : Delivery Queue TaskMessage)
    (after : Broker Queue TaskMessage)
    (delivers : broker.deliver .FACE_TASKS position channel = some (delivery, after)) :
    Bounded config after := by
  obtain ⟨message, found, rfl, ready, unacked, _⟩ :=
    Broker.deliver_some broker _ position channel delivery after delivers
  constructor
  · intro other member
    rw [unacked] at member
    rcases List.mem_append.mp member with old | new
    · exact bounded.sequenced other old
    · rw [List.mem_singleton.mp new]
      exact .held rfl
  · intro entry member
    rw [ready] at member
    exact bounded.ready entry (List.mem_of_mem_eraseIdx member)
  · intro other member
    rw [unacked] at member
    rcases List.mem_append.mp member with old | new
    · exact bounded.unacked other old
    · rw [List.mem_singleton.mp new]
      have bounds := bounded.ready _ (List.mem_of_getElem? found)
      exact ⟨bounds, bounds⟩

include bounded in
theorem bounded_amend (tag : Nat)
    (change : List (Command Queue TaskMessage) → List (Command Queue TaskMessage))
    (amended : ∀ delivery ∈ broker.unacked, delivery.tag = tag →
      Broker.Sequenced (Successor config) { delivery with sent := change delivery.sent }) :
    Bounded config (broker.amend tag change) := by
  refine ⟨fun delivery member => ?_, bounded.ready, fun delivery member => ?_⟩
  all_goals
    obtain ⟨old, stored, ⟨other, rfl⟩ | ⟨same, rfl⟩⟩ :=
      Broker.mem_amend broker tag change delivery member
  · exact bounded.sequenced delivery stored
  · exact amended old stored same
  · exact bounded.unacked delivery stored
  · exact bounded.unacked old stored

include bounded in
theorem bounded_handleFrame (tag : Nat) : Bounded config (broker.handleFrame tag) := by
  rcases Broker.handleFrame_cases (Successor config) broker bounded.sequenced tag with
    kept | ⟨delivery, member, rfl, ⟨alone, removed⟩ | ⟨queue, message, order, follows, stored⟩⟩
  · rw [kept]
    exact bounded
  · rw [removed]
    exact ⟨fun other inside => bounded.sequenced other (List.mem_of_mem_filter inside), bounded.ready,
      fun other inside => bounded.unacked other (List.mem_of_mem_filter inside)⟩
  · rw [stored]
    apply bounded_push config _ ?_ queue message follows.bounds
    apply bounded_amend config broker bounded
    intro other inside same
    rw [Broker.unacked_eq_of_tag broker delivery other member inside same]
    exact .acked (by rw [order]; rfl)

include bounded in
theorem bounded_expire (position : Nat) : Bounded config (expireRetry position broker) := by
  unfold expireRetry Broker.expire
  split
  · exact bounded
  · next queue message found =>
      split
      · next same =>
          refine ⟨bounded.sequenced, fun entry member => ?_, bounded.unacked⟩
          rcases List.mem_append.mp member with old | new
          · exact bounded.ready entry (List.mem_of_mem_eraseIdx old)
          · rw [List.mem_singleton.mp new]
            have bounds := bounded.ready _ (List.mem_of_getElem? found)
            rw [same] at bounds
            exact bounds
      · exact bounded

include bounded in
theorem bounded_lose (channel : Nat) : Bounded config (broker.lose channel) := by
  constructor
  · exact fun delivery member => bounded.sequenced delivery (List.mem_of_mem_filter member)
  · intro entry member
    rcases List.mem_append.mp member with requeued | old
    · obtain ⟨delivery, inside, rfl⟩ := List.mem_map.mp requeued
      exact (bounded.unacked delivery (List.mem_of_mem_filter inside)).1
    · exact bounded.ready entry old
  · exact fun delivery member => bounded.unacked delivery (List.mem_of_mem_filter member)

end Bounds

/-- A worker's delivery is still held, or requeued. -/
structure Busy (broker : Broker Queue TaskMessage) (tag : Nat) (message : TaskMessage) : Prop where
  known : tag < broker.nextTag
  held : ∀ delivery ∈ broker.unacked, delivery.tag = tag →
    delivery.message = message ∧ delivery.sent = []

section Business

variable (broker : Broker Queue TaskMessage) (tag : Nat) (message : TaskMessage)
  (busy : Busy broker tag message)

include busy in
theorem busy_push (queue : Queue) (next : TaskMessage) : Busy (broker.push queue next) tag message :=
  ⟨busy.known, busy.held⟩

include busy in
theorem busy_deliver (position channel : Nat) (delivery : Delivery Queue TaskMessage)
    (after : Broker Queue TaskMessage)
    (delivers : broker.deliver .FACE_TASKS position channel = some (delivery, after)) :
    Busy after tag message := by
  obtain ⟨_, _, rfl, _, unacked, nextTag, _⟩ :=
    Broker.deliver_some broker _ position channel delivery after delivers
  refine ⟨nextTag ▸ Nat.lt_succ_of_lt busy.known, fun other member same => ?_⟩
  rw [unacked] at member
  rcases List.mem_append.mp member with old | new
  · exact busy.held other old same
  · rw [List.mem_singleton.mp new] at same
    exact absurd same (Nat.ne_of_gt busy.known)

include busy in
theorem busy_amend (other : Nat) (apart : other ≠ tag)
    (change : List (Command Queue TaskMessage) → List (Command Queue TaskMessage)) :
    Busy (broker.amend other change) tag message := by
  refine ⟨busy.known, fun delivery member same => ?_⟩
  obtain ⟨old, stored, ⟨_, rfl⟩ | ⟨changed, rfl⟩⟩ :=
    Broker.mem_amend broker other change delivery member
  · exact busy.held delivery stored same
  · exact absurd (changed.symm.trans same) apart

include busy in
theorem busy_handleFrame (other : Nat)
    (sequenced : ∀ delivery ∈ broker.unacked, Broker.Sequenced (Successor config) delivery) :
    Busy (broker.handleFrame other) tag message := by
  rcases Broker.handleFrame_cases (Successor config) broker sequenced other with
    kept | ⟨delivery, member, rfl, ⟨alone, removed⟩ | ⟨queue, next, order, follows, stored⟩⟩
  · rw [kept]
    exact busy
  · rw [removed]
    exact ⟨busy.known, fun old inside => busy.held old (List.mem_of_mem_filter inside)⟩
  · rw [stored]
    apply busy_push
    apply busy_amend broker tag message busy
    intro same
    have nothing := (busy.held delivery member same).2
    rw [order] at nothing
    contradiction

theorem busy_expire (position : Nat) (busy : Busy broker tag message) :
    Busy (expireRetry position broker) tag message := by
  unfold expireRetry Broker.expire
  split
  · exact busy
  · split
    · exact ⟨busy.known, busy.held⟩
    · exact busy

include busy in
theorem busy_lose (channel : Nat) : Busy (broker.lose channel) tag message :=
  ⟨busy.known, fun delivery member => busy.held delivery (List.mem_of_mem_filter member)⟩

end Business

/-- The live copies of a task, and its outcomes. -/
def remaining (task : EnrollmentTask) (store : Store K) : Nat :=
  store.broker.live (ofTask task) + store.outcomes.countP fun entry => decide (entry.1 = task)

structure Sound (system : State K) : Prop where
  bounded : Bounded config system.store.broker
  busy : ∀ index tag message, working (system.procs index) = some (tag, message) →
    Busy system.store.broker tag message
  apart : ∀ index other tag message messageOther,
    working (system.procs index) = some (tag, message) →
    working (system.procs other) = some (tag, messageOther) → index = other
  kept : ∀ index task, accepted (system.procs index) = some task → 1 ≤ remaining task system.store

section Acting

variable (system : State K) (after : Store K) (next : Worker K) (index : Nat)
  (sound : Sound config system) (effect : Effect config system.store (system.procs index) after next)

include effect sound in
theorem acting_bounded : Bounded config after.broker := by
  have bounded := sound.bounded
  cases effect with
  | quiet after next broker =>
      rw [broker]
      exact bounded
  | drew task after fresh broker =>
      rw [broker]
      exact bounded
  | published task after waits broker =>
      rw [broker]
      exact bounded_push config _ bounded _ _ config.FACE_TASK_MAX_ATTEMPTS.pos
  | delivered position channel delivery after delivers =>
      exact bounded_deliver config _ bounded position channel delivery _ delivers
  | finished tag message outcome after waits broker =>
      rw [broker]
      apply bounded_amend config _ bounded
      intro delivery member same
      obtain ⟨_, nothing⟩ := (sound.busy index tag message waits).held delivery member same
      exact .acked (by rw [nothing]; rfl)
  | sentBack tag message failure after waits broker =>
      rw [broker]
      apply bounded_amend config _ bounded
      intro delivery member same
      obtain ⟨rfl, nothing⟩ := (sound.busy index tag message waits).held delivery member same
      obtain ⟨task, attempts, bounds⟩ := retried_spec config delivery.message failure
        (bounded.unacked delivery member).2
      exact .sentBack _ _ (by rw [nothing]; rfl) ⟨task, attempts, bounds⟩

include effect sound in
theorem acting_busy_other (other : Nat) (elsewhere : other ≠ index) (tag : Nat)
    (message : TaskMessage) (waits : working (system.procs other) = some (tag, message)) :
    Busy after.broker tag message := by
  have busy := sound.busy other tag message waits
  have apart : ∀ acting messageActing, working (system.procs index) = some (acting, messageActing) →
      acting ≠ tag := by
    rintro acting messageActing acts rfl
    exact elsewhere (sound.apart other index acting message messageActing waits acts)
  cases effect with
  | quiet after next broker =>
      rw [broker]
      exact busy
  | drew task after fresh broker =>
      rw [broker]
      exact busy
  | published task after waits broker =>
      rw [broker]
      exact busy_push _ tag message busy _ _
  | delivered position channel delivery after delivers =>
      exact busy_deliver _ tag message busy position channel delivery _ delivers
  | finished acting messageActing outcome after acts broker =>
      rw [broker]
      exact busy_amend _ tag message busy acting (apart acting messageActing acts) _
  | sentBack acting messageActing failure after acts broker =>
      rw [broker]
      exact busy_amend _ tag message busy acting (apart acting messageActing acts) _

include effect sound in
theorem acting_busy (tag : Nat) (message : TaskMessage) (waits : working next = some (tag, message)) :
    Busy after.broker tag message ∧
      (working (system.procs index) = some (tag, message) ∨ tag = system.store.broker.nextTag) := by
  cases effect with
  | quiet after next broker jobIds outcomes busy =>
      rcases busy with none_ | same
      · rw [none_] at waits
        contradiction
      · rw [same] at waits
        rw [broker]
        exact ⟨sound.busy index tag message waits, Or.inl waits⟩
  | delivered position channel delivery after delivers =>
      obtain ⟨rfl, rfl⟩ := Prod.mk.inj (Option.some.inj waits)
      obtain ⟨stored, _, rfl, _, unacked, nextTag, _⟩ :=
        Broker.deliver_some _ _ position channel delivery _ delivers
      refine ⟨⟨nextTag ▸ Nat.lt_succ_self _, fun other member same => ?_⟩, Or.inr rfl⟩
      rw [unacked] at member
      rcases List.mem_append.mp member with old | new
      · exact absurd same (Nat.ne_of_lt (system.store.broker.bounded other old))
      · rw [List.mem_singleton.mp new]
        exact ⟨rfl, rfl⟩
  | _ => contradiction

end Acting

section Counting

variable (task : EnrollmentTask) (store after : Store K) (tag : Nat) (message : TaskMessage)
  (busy : Busy store.broker tag message)

include busy in
/-- A delivery that ends is traded for its outcome, unless it was requeued. -/
theorem finished_remaining (outcome : Outcome) (broker : after.broker = store.broker.send tag [.ack])
    (outcomes : after.outcomes = store.outcomes ++ [(message.task, outcome)]) :
    remaining task store ≤ remaining task after ∧
      ((∃ delivery ∈ store.broker.unacked, delivery.tag = tag) →
        remaining task after = remaining task store) := by
  have counted : after.outcomes.countP (fun entry => decide (entry.1 = task)) =
      store.outcomes.countP (fun entry => decide (entry.1 = task)) +
        if ofTask task message then 1 else 0 := by
    rw [outcomes, List.countP_append, List.countP_singleton]
    rfl
  by_cases present : ∃ delivery ∈ store.broker.unacked, delivery.tag = tag
  · obtain ⟨delivery, member, rfl⟩ := present
    obtain ⟨rfl, nothing⟩ := busy.held delivery member rfl
    have less := Broker.live_acknowledge store.broker delivery (ofTask task) member nothing
    have same : remaining task after = remaining task store := by
      simp only [remaining, broker, counted]
      omega
    exact ⟨Nat.le_of_eq same.symm, fun _ => same⟩
  · have kept : store.broker.send tag [.ack] = store.broker := by
      apply Broker.amend_absent
      exact fun other member same => present ⟨other, member, same⟩
    refine ⟨?_, fun held => absurd held present⟩
    simp only [remaining, broker, kept, counted]
    omega

include busy in
theorem sentBack_remaining (queue : Queue) (next : TaskMessage)
    (broker : after.broker = store.broker.send tag [.sendToQueue queue next, .ack])
    (outcomes : after.outcomes = store.outcomes) : remaining task after = remaining task store := by
  by_cases present : ∃ delivery ∈ store.broker.unacked, delivery.tag = tag
  · obtain ⟨delivery, member, rfl⟩ := present
    have held := busy.held delivery member rfl
    simp only [remaining, broker, outcomes,
      Broker.live_sendBack store.broker delivery (ofTask task) member held.2 queue next]
  · have kept : store.broker.send tag [.sendToQueue queue next, .ack] = store.broker := by
      apply Broker.amend_absent
      exact fun other member same => present ⟨other, member, same⟩
    simp only [remaining, broker, kept, outcomes]

end Counting

def publication (task : EnrollmentTask) (worker next : Worker K) : Nat :=
  if announced worker = some task ∧ accepted next = some task then 1 else 0

theorem announced_unaccepted (worker : Worker K) (task : EnrollmentTask)
    (publishes : announced worker = some task) : accepted worker = none := by
  cases worker with
  | publishing => rfl
  | _ => contradiction

section Remaining

variable (system : State K) (after : Store K) (next : Worker K) (index : Nat)
  (sound : Sound config system) (effect : Effect config system.store (system.procs index) after next)
  (task : EnrollmentTask)

include effect sound in
/-- Only a publication, or the end of a requeued delivery, raises the count. -/
theorem acting_remaining :
    remaining task system.store + publication task (system.procs index) next ≤ remaining task after ∧
      ((∀ tag message, working (system.procs index) = some (tag, message) →
          ∃ delivery ∈ system.store.broker.unacked, delivery.tag = tag) →
        remaining task after =
          remaining task system.store + publication task (system.procs index) next) := by
  -- Most steps keep the count and publish nothing, so both halves are the same.
  have unchanged : ∀ (store : Store K) (next : Worker K),
      remaining task store = remaining task system.store →
      publication task (system.procs index) next = 0 →
      remaining task system.store + publication task (system.procs index) next ≤
          remaining task store ∧
        remaining task store = remaining task system.store +
          publication task (system.procs index) next := by
    intro store next same nothing
    omega
  have silent : ∀ next : Worker K, accepted next = none →
      publication task (system.procs index) next = 0 := by
    intro next none_
    simp [publication, none_]
  cases effect with
  | quiet after next broker jobIds outcomes busy publishes stored =>
      have nothing : publication task (system.procs index) next = 0 := by
        rcases stored with none_ | same
        · exact silent next none_
        · apply if_neg
          rintro ⟨publishing, stored⟩
          -- What is still to be published is not accepted yet.
          rw [same, announced_unaccepted _ task publishing] at stored
          contradiction
      have same := unchanged after next (by simp only [remaining, broker, outcomes]) nothing
      exact ⟨same.1, fun _ => same.2⟩
  | drew drawn after fresh broker jobIds outcomes =>
      have same := unchanged after (.publishing drawn) (by simp only [remaining, broker, outcomes])
        (silent _ rfl)
      exact ⟨same.1, fun _ => same.2⟩
  | published stored after waits broker jobIds outcomes =>
      have counted : remaining task after = remaining task system.store +
          publication task (system.procs index) (.confirming stored) := by
        simp only [remaining, broker, outcomes, Broker.live_push, publication, waits, announced,
          accepted, ofTask, and_self, Option.some.injEq, decide_eq_true_eq]
        omega
      exact ⟨Nat.le_of_eq counted.symm, fun _ => counted⟩
  | delivered position channel delivery after delivers jobIds outcomes =>
      have kept := Broker.live_deliver (ofTask task) system.store.broker _ position channel delivery _
        delivers
      have same := unchanged after (.inferring delivery.tag delivery.message)
        (by simp only [remaining, kept, outcomes]) (silent _ rfl)
      exact ⟨same.1, fun _ => same.2⟩
  | finished tag message outcome after waits broker jobIds outcomes =>
      obtain ⟨more, exact_⟩ := finished_remaining task system.store after tag message
        (sound.busy index tag message waits) outcome broker outcomes
      rw [silent _ rfl]
      exact ⟨more, fun present => exact_ (present tag message waits)⟩
  | sentBack tag message failure after waits broker jobIds outcomes =>
      have same := unchanged after .done (sentBack_remaining task system.store after tag message
        (sound.busy index tag message waits) _ _ broker outcomes) (silent _ rfl)
      exact ⟨same.1, fun _ => same.2⟩

omit sound in
include effect in
theorem acting_accepted (stored : accepted next = some task) :
    accepted (system.procs index) = some task ∨
      publication task (system.procs index) next = 1 := by
  cases effect with
  | quiet after next broker jobIds outcomes busy publishes same =>
      rcases same with none_ | same
      · rw [none_] at stored
        contradiction
      · exact Or.inl (same ▸ stored)
  | published taken after waits =>
      right
      obtain rfl := Option.some.inj stored
      exact if_pos ⟨by rw [waits]; rfl, rfl⟩
  | _ => contradiction

end Remaining

section Ambient

variable (store : Store K) (change : Change K) (bounded : Bounded config store.broker)

include bounded in
theorem ambient_bounded : Bounded config (ambient change store).broker := by
  cases change with
  | frame tag => exact bounded_handleFrame config _ bounded tag
  | expire position => exact bounded_expire config _ bounded position
  | lose channel => exact bounded_lose config _ bounded channel
  | write db => exact bounded

include bounded in
theorem ambient_busy (tag : Nat) (message : TaskMessage) (busy : Busy store.broker tag message) :
    Busy (ambient change store).broker tag message := by
  cases change with
  | frame other => exact busy_handleFrame config _ tag message busy other bounded.sequenced
  | expire position => exact busy_expire _ tag message position busy
  | lose channel => exact busy_lose _ tag message busy channel
  | write db => exact busy

include bounded in
/-- The broker only makes copies when it requeues the deliveries of a lost channel. -/
theorem ambient_remaining (task : EnrollmentTask) :
    remaining task store ≤ remaining task (ambient change store) ∧
      ((∀ channel, change ≠ .lose channel) →
        remaining task (ambient change store) = remaining task store) := by
  cases change with
  | frame tag =>
      have kept := Broker.live_handleFrame (ofTask task) (Successor config) store.broker
        bounded.sequenced tag fun message queue next follows => by
          simp only [ofTask, follows.task]
      have same : remaining task (ambient (.frame tag) store) = remaining task store := by
        simp only [remaining, ambient, kept]
      exact ⟨Nat.le_of_eq same.symm, fun _ => same⟩
  | expire position =>
      have same : remaining task (ambient (.expire position) store) = remaining task store := by
        simp only [remaining, ambient, expireRetry, Broker.live_expire]
      exact ⟨Nat.le_of_eq same.symm, fun _ => same⟩
  | lose channel =>
      exact ⟨Nat.add_le_add_right (Broker.live_lose (ofTask task) store.broker channel) _,
        fun kept => absurd rfl (kept channel)⟩
  | write db => exact ⟨Nat.le_refl _, fun _ => rfl⟩

end Ambient

section Steps

variable (uuids : UuidSource) (codec : Codec) (system : State K)

theorem step_sound (event : Event (Input K) (Change K)) (sound : Sound config system) :
    Sound config ((machine config uuids codec).step system event) := by
  cases event with
  | env change =>
      exact ⟨ambient_bounded config system.store change sound.bounded,
        fun index tag message waits => ambient_busy config system.store change sound.bounded tag
          message (sound.busy index tag message waits),
        sound.apart,
        fun index task stored => (sound.kept index task stored).trans
          (ambient_remaining config system.store change sound.bounded task).1⟩
  | act index input =>
      have effect := exec_effect config uuids codec system.store input (system.procs index)
      have busy := fun tag message =>
        acting_busy config system _ _ index sound effect tag message
      have counted := fun task => (acting_remaining config system _ _ index sound effect task).1
      have acting : ((machine config uuids codec).step system (.act index input)).procs index =
          (exec config uuids codec input system.store (system.procs index)).2 :=
        step_self _ _ _ _
      have others : ∀ other, other ≠ index →
          ((machine config uuids codec).step system (.act index input)).procs other =
            system.procs other :=
        fun other elsewhere => step_other _ _ _ _ _ elsewhere
      constructor
      · exact acting_bounded config system _ _ index sound effect
      · intro other tag message waits
        by_cases same : other = index
        · subst other
          rw [acting] at waits
          exact (busy tag message waits).1
        · rw [others other same] at waits
          exact acting_busy_other config system _ _ index sound effect other same tag message waits
      · intro first second tag message messageOther waits waitsOther
        -- a delivered tag is new, so the worker that got it shares it with nobody
        have fresh : ∀ other messageOther, working (system.procs other) = some (tag, messageOther) →
            tag ≠ system.store.broker.nextTag := fun other messageOther busyOther =>
          Nat.ne_of_lt (sound.busy other tag messageOther busyOther).known
        by_cases isFirst : first = index <;> by_cases isSecond : second = index
        · exact isFirst.trans isSecond.symm
        · subst first
          rw [acting] at waits
          rw [others second isSecond] at waitsOther
          rcases (busy tag message waits).2 with kept | new
          · exact sound.apart index second tag message messageOther kept waitsOther
          · exact absurd new (fresh second messageOther waitsOther)
        · subst second
          rw [acting] at waitsOther
          rw [others first isFirst] at waits
          rcases (busy tag messageOther waitsOther).2 with kept | new
          · exact sound.apart first index tag message messageOther waits kept
          · exact absurd new (fresh first message waits)
        · rw [others first isFirst] at waits
          rw [others second isSecond] at waitsOther
          exact sound.apart first second tag message messageOther waits waitsOther
      · intro other task stored
        by_cases same : other = index
        · subst other
          rw [acting] at stored
          have more := counted task
          rcases acting_accepted config system _ _ index effect task stored with before | published
          · have least := sound.kept index task before
            exact least.trans ((Nat.le_add_right _ _).trans more)
          · rw [published] at more
            exact (Nat.le_add_left 1 _).trans more
        · rw [others other same] at stored
          have before := sound.kept other task stored
          exact before.trans ((Nat.le_add_right _ _).trans (counted task))

end Steps

def Reached (task : EnrollmentTask) (store : Store K) : Prop :=
  ∃ outcome, (task, outcome) ∈ store.outcomes

/-- A copy of the task is in a face-task queue or not yet acknowledged. -/
def HasCopy (task : EnrollmentTask) (broker : Broker Queue TaskMessage) : Prop :=
  (∃ queue ∈ [Queue.FACE_TASKS, .FACE_TASKS_RETRY, .FACE_TASKS_DEAD],
      ∃ message ∈ broker.messages queue, message.task = task) ∨
    ∃ delivery ∈ broker.unacked, delivery.message.task = task

theorem mem_messages (broker : Broker Queue TaskMessage) (queue : Queue) (message : TaskMessage) :
    message ∈ broker.messages queue ↔ (queue, message) ∈ broker.ready := by
  simp only [Broker.messages, List.mem_map, List.mem_filter, decide_eq_true_eq]
  constructor
  · rintro ⟨⟨_, _⟩, ⟨member, rfl⟩, rfl⟩
    exact member
  · intro member
    exact ⟨(queue, message), ⟨member, rfl⟩, rfl⟩

/-- What still counts for a task is an outcome or a copy. -/
theorem remaining_pos (task : EnrollmentTask) (store : Store K)
    (bounded : Bounded config store.broker) (counts : 1 ≤ remaining task store) :
    Reached task store ∨ HasCopy task store.broker := by
  have parts : 0 < store.outcomes.countP (fun entry => decide (entry.1 = task)) ∨
      0 < store.broker.ready.countP (fun entry => ofTask task entry.2) ∨
      0 < store.broker.unacked.countP
        fun delivery => ofTask task delivery.message && !delivery.superseded := by
    simp only [remaining, Broker.live] at counts
    omega
  rcases parts with ended | ready | held
  · left
    obtain ⟨⟨_, outcome⟩, member, same⟩ := List.countP_pos_iff.mp ended
    obtain rfl : _ = task := by simpa using same
    exact ⟨outcome, member⟩
  · right
    left
    obtain ⟨⟨queue, message⟩, member, same⟩ := List.countP_pos_iff.mp ready
    have bounds := bounded.ready (queue, message) member
    refine ⟨queue, ?_, message, (mem_messages _ _ _).mpr member, by simpa [ofTask] using same⟩
    cases queue with
    | NOTIFICATIONS => exact bounds.elim
    | BULK_IMPORTS => exact bounds.elim
    | _ => simp
  · right
    right
    obtain ⟨delivery, member, same⟩ := List.countP_pos_iff.mp held
    simp only [ofTask, Bool.and_eq_true, decide_eq_true_eq] at same
    exact ⟨delivery, member, same.1⟩

end FaceVec.Faces
