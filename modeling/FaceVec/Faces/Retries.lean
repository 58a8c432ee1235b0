import FaceVec.Faces.Outcomes

/-!
No accepted task is lost, and its retries are bounded. While no channel is
lost, only the publication of a task raises its count, so there is one copy
or one outcome, and the attempts of the copy tell how often it was delivered.
-/

namespace FaceVec.Faces

open Interleaving

variable {K : Type} (config : Config)

def deliveries (task : EnrollmentTask) (broker : Broker Queue TaskMessage) : Nat :=
  broker.delivered.countP (ofTask task)

/-- The attempts of a live copy tell how often its task was delivered. -/
structure Counted (broker : Broker Queue TaskMessage) : Prop where
  ready : ∀ entry ∈ broker.ready, deliveries entry.2.task broker = entry.2.attempts
  unacked : ∀ delivery ∈ broker.unacked, delivery.superseded = false →
    deliveries delivery.message.task broker = delivery.message.attempts + 1
  bound : ∀ task, deliveries task broker ≤ config.FACE_TASK_MAX_ATTEMPTS

/-- What holds in addition while no channel is lost. -/
structure Exact (system : State K) : Prop where
  present : ∀ index tag message, working (system.procs index) = some (tag, message) →
    ∃ delivery ∈ system.store.broker.unacked, delivery.tag = tag
  fresh : ∀ index task, announced (system.procs index) = some task →
    task.jobId ∈ system.store.jobIds ∧ remaining task system.store = 0 ∧
      deliveries task system.store.broker = 0
  distinct : ∀ index other task, announced (system.procs index) = some task →
    announced (system.procs other) = some task → index = other
  unknown : ∀ task : EnrollmentTask, task.jobId ∉ system.store.jobIds →
    remaining task system.store = 0 ∧ deliveries task system.store.broker = 0
  single : ∀ task, remaining task system.store ≤ 1
  counted : Counted config system.store.broker

section Counted

variable (broker : Broker Queue TaskMessage) (counted : Counted config broker)

include counted in
theorem counted_push (queue : Queue) (message : TaskMessage)
    (tried : deliveries message.task broker = message.attempts) :
    Counted config (broker.push queue message) := by
  refine ⟨fun entry member => ?_, counted.unacked, counted.bound⟩
  rcases List.mem_append.mp member with old | new
  · exact counted.ready entry old
  · rw [List.mem_singleton.mp new]
    exact tried

include counted in
theorem counted_amend (tag : Nat)
    (change : List (Command Queue TaskMessage) → List (Command Queue TaskMessage))
    (kept : ∀ delivery ∈ broker.unacked, delivery.tag = tag →
      { delivery with sent := change delivery.sent }.superseded = false →
      delivery.superseded = false) : Counted config (broker.amend tag change) := by
  refine ⟨counted.ready, fun delivery member live => ?_, counted.bound⟩
  obtain ⟨old, stored, ⟨_, rfl⟩ | ⟨same, rfl⟩⟩ := Broker.mem_amend broker tag change delivery member
  · exact counted.unacked delivery stored live
  · exact counted.unacked old stored (kept old stored same live)

/-- The delivered message was the only live copy of its task. -/
theorem deliver_alone (position channel : Nat) (delivery : Delivery Queue TaskMessage)
    (after : Broker Queue TaskMessage)
    (delivers : broker.deliver .FACE_TASKS position channel = some (delivery, after))
    (single : broker.live (ofTask delivery.message.task) ≤ 1) :
    (∀ entry ∈ after.ready, entry.2.task ≠ delivery.message.task) ∧
      ∀ other ∈ broker.unacked, other.superseded = false →
        other.message.task ≠ delivery.message.task := by
  obtain ⟨message, found, rfl, ready, _⟩ :=
    Broker.deliver_some broker _ position channel delivery after delivers
  have without := countP_eraseIdx (fun entry : Queue × TaskMessage => ofTask message.task entry.2)
    broker.ready position _ found
  simp only [ofTask, decide_true, if_true] at without
  simp only [Broker.live, ofTask] at single
  constructor
  · intro entry member same
    rw [ready] at member
    have least : 0 < (broker.ready.eraseIdx position).countP
        fun entry => decide (entry.2.task = message.task) :=
      List.countP_pos_iff.mpr ⟨entry, member, by simpa using same⟩
    omega
  · intro other member live same
    have least : 0 < broker.unacked.countP fun delivery =>
        decide (delivery.message.task = message.task) && !delivery.superseded :=
      List.countP_pos_iff.mpr ⟨other, member, by simp [live]; simpa using same⟩
    omega

include counted in
theorem counted_deliver (bounded : Bounded config broker) (position channel : Nat)
    (delivery : Delivery Queue TaskMessage) (after : Broker Queue TaskMessage)
    (delivers : broker.deliver .FACE_TASKS position channel = some (delivery, after))
    (single : broker.live (ofTask delivery.message.task) ≤ 1) : Counted config after := by
  obtain ⟨aloneReady, aloneUnacked⟩ :=
    deliver_alone broker position channel delivery after delivers single
  obtain ⟨message, found, rfl, ready, unacked, _, delivered⟩ :=
    Broker.deliver_some broker _ position channel delivery after delivers
  have stored := List.mem_of_getElem? found
  have tried : deliveries message.task broker = message.attempts := counted.ready _ stored
  have below : message.attempts < config.FACE_TASK_MAX_ATTEMPTS := bounded.ready _ stored
  have more : ∀ task, deliveries task after =
      deliveries task broker + if message.task = task then 1 else 0 := by
    intro task
    simp [deliveries, delivered, ofTask, List.countP_append, List.countP_singleton]
  constructor
  · intro entry member
    have other := aloneReady entry member
    rw [ready] at member
    rw [more, if_neg (Ne.symm other), Nat.add_zero]
    exact counted.ready entry (List.mem_of_mem_eraseIdx member)
  · intro other member live
    rw [unacked] at member
    rcases List.mem_append.mp member with old | new
    · rw [more, if_neg (Ne.symm (aloneUnacked other old live)), Nat.add_zero]
      exact counted.unacked other old live
    · rw [List.mem_singleton.mp new, more, if_pos rfl, tried]
  · intro task
    rw [more]
    split
    · next same =>
        subst same
        rw [tried]
        exact below
    · exact counted.bound task

include counted in
theorem counted_handleFrame (bounded : Bounded config broker) (tag : Nat) :
    Counted config (broker.handleFrame tag) := by
  rcases Broker.handleFrame_cases (Successor config) broker bounded.sequenced tag with
    kept | ⟨delivery, member, rfl, ⟨alone, removed⟩ | ⟨queue, message, order, follows, stored⟩⟩
  · rw [kept]
    exact counted
  · rw [removed]
    exact ⟨counted.ready,
      fun other inside => counted.unacked other (List.mem_of_mem_filter inside), counted.bound⟩
  · rw [stored]
    apply counted_push
    · apply counted_amend config broker counted
      intro other inside same live
      rw [Broker.unacked_eq_of_tag broker delivery other member inside same]
      simp [Delivery.superseded, order]
    · have tried := counted.unacked delivery member (by simp [Delivery.superseded, order])
      rw [follows.task, follows.attempts]
      exact tried

include counted in
theorem counted_expire (position : Nat) : Counted config (expireRetry position broker) := by
  unfold expireRetry Broker.expire
  split
  · exact counted
  · next queue message found =>
      split
      · refine ⟨fun entry member => ?_, counted.unacked, counted.bound⟩
        rcases List.mem_append.mp member with old | new
        · exact counted.ready entry (List.mem_of_mem_eraseIdx old)
        · rw [List.mem_singleton.mp new]
          exact counted.ready (queue, message) (List.mem_of_getElem? found)
      · exact counted

end Counted

section Presence

variable (broker : Broker Queue TaskMessage) (tag : Nat)
  (present : ∃ delivery ∈ broker.unacked, delivery.tag = tag)

include present in
theorem present_amend (other : Nat)
    (change : List (Command Queue TaskMessage) → List (Command Queue TaskMessage)) :
    ∃ delivery ∈ (broker.amend other change).unacked, delivery.tag = tag := by
  obtain ⟨delivery, member, same⟩ := present
  exact ⟨Broker.amendSent other change delivery, List.mem_map_of_mem member,
    (Broker.amendSent_tag other change delivery).trans same⟩

include present in
theorem present_handleFrame (message : TaskMessage) (busy : Busy broker tag message)
    (bounded : Bounded config broker) (other : Nat) :
    ∃ delivery ∈ (broker.handleFrame other).unacked, delivery.tag = tag := by
  rcases Broker.handleFrame_cases (Successor config) broker bounded.sequenced other with
    kept | ⟨delivery, member, rfl, ⟨alone, removed⟩ | ⟨queue, next, order, follows, stored⟩⟩
  · rw [kept]
    exact present
  · obtain ⟨mine, inside, same⟩ := present
    rw [removed]
    refine ⟨mine, List.mem_filter.mpr ⟨inside, ?_⟩, same⟩
    have apart : tag ≠ delivery.tag := by
      intro shared
      have nothing := (busy.held delivery member shared.symm).2
      rw [alone] at nothing
      contradiction
    simpa [same] using apart
  · rw [stored]
    exact present_amend broker tag present delivery.tag List.tail

end Presence

theorem deliveries_handleFrame (task : EnrollmentTask) (broker : Broker Queue TaskMessage) (tag : Nat) :
    deliveries task (broker.handleFrame tag) = deliveries task broker := by
  unfold Broker.handleFrame
  cases broker.find tag with
  | none => rfl
  | some delivery =>
      dsimp only
      split <;> rfl

theorem deliveries_expire (task : EnrollmentTask) (broker : Broker Queue TaskMessage)
    (position : Nat) : deliveries task (expireRetry position broker) = deliveries task broker := by
  unfold expireRetry Broker.expire
  split
  · rfl
  · split <;> rfl

section ExactActing

variable (system : State K) (after : Store K) (next : Worker K) (index : Nat)
  (sound : Sound config system) (exact_ : Exact config system)
  (effect : Effect config system.store (system.procs index) after next)

omit exact_ in
include effect in
theorem acting_deliveries (task : EnrollmentTask) (none_ : remaining task system.store = 0) :
    deliveries task after.broker = deliveries task system.store.broker := by
  cases effect with
  | quiet after next broker => rw [broker]
  | drew drawn after fresh broker => rw [broker]
  | published taken after waits broker =>
      rw [broker]
      rfl
  | delivered position channel delivery after delivers =>
      obtain ⟨message, found, rfl, ready, unacked, _, delivered⟩ :=
        Broker.deliver_some _ _ position channel delivery _ delivers
      have other : message.task ≠ task := by
        rintro rfl
        have least : 0 < system.store.broker.ready.countP fun entry => ofTask message.task entry.2 :=
          List.countP_pos_iff.mpr ⟨_, List.mem_of_getElem? found, by simp [ofTask]⟩
        simp only [remaining, Broker.live] at none_
        omega
      simp [deliveries, delivered, ofTask, other]
  | finished tag message outcome after waits broker =>
      rw [broker]
      rfl
  | sentBack tag message failure after waits broker =>
      rw [broker]
      rfl

include effect exact_ in
theorem acting_present (tag : Nat) (message : TaskMessage)
    (waits : working next = some (tag, message)) :
    ∃ delivery ∈ after.broker.unacked, delivery.tag = tag := by
  cases effect with
  | quiet after next broker jobIds outcomes busy =>
      rcases busy with none_ | same
      · rw [none_] at waits
        contradiction
      · rw [broker]
        exact exact_.present index tag message (same ▸ waits)
  | delivered position channel delivery after delivers =>
      obtain ⟨rfl, rfl⟩ := Prod.mk.inj (Option.some.inj waits)
      obtain ⟨_, _, _, _, unacked, _⟩ := Broker.deliver_some _ _ position channel delivery _ delivers
      rw [unacked]
      exact ⟨delivery, List.mem_append_right _ (List.mem_singleton.mpr rfl), rfl⟩
  | _ => contradiction

include effect exact_ in
theorem acting_present_other (other : Nat) (tag : Nat) (message : TaskMessage)
    (waits : working (system.procs other) = some (tag, message)) :
    ∃ delivery ∈ after.broker.unacked, delivery.tag = tag := by
  have present := exact_.present other tag message waits
  cases effect with
  | quiet after next broker =>
      rw [broker]
      exact present
  | drew drawn after fresh broker =>
      rw [broker]
      exact present
  | published taken after waits broker =>
      rw [broker]
      exact present
  | delivered position channel delivery after delivers =>
      obtain ⟨_, _, _, _, unacked, _⟩ := Broker.deliver_some _ _ position channel delivery _ delivers
      obtain ⟨mine, member, same⟩ := present
      rw [unacked]
      exact ⟨mine, List.mem_append_left _ member, same⟩
  | finished acting message outcome after acts broker =>
      rw [broker]
      exact present_amend _ tag present acting _
  | sentBack acting message failure after acts broker =>
      rw [broker]
      exact present_amend _ tag present acting _

include effect sound exact_ in
theorem acting_counted : Counted config after.broker := by
  have counted := exact_.counted
  have held : ∀ tag message, working (system.procs index) = some (tag, message) →
      ∀ delivery ∈ system.store.broker.unacked, delivery.tag = tag → delivery.superseded = false := by
    intro tag message waits delivery member same
    have nothing := ((sound.busy index tag message waits).held delivery member same).2
    simp [Delivery.superseded, nothing]
  cases effect with
  | quiet after next broker =>
      rw [broker]
      exact counted
  | drew drawn after fresh broker =>
      rw [broker]
      exact counted
  | published task after waits broker =>
      rw [broker]
      apply counted_push config _ counted
      exact (exact_.fresh index task (by rw [waits]; rfl)).2.2
  | delivered position channel delivery after delivers =>
      apply counted_deliver config _ counted sound.bounded position channel delivery _ delivers
      exact (Nat.le_add_right _ _).trans (exact_.single delivery.message.task)
  | finished tag message outcome after waits broker =>
      rw [broker]
      exact counted_amend config _ counted tag _
        fun delivery member same _ => held tag message waits delivery member same
  | sentBack tag message failure after waits broker =>
      rw [broker]
      exact counted_amend config _ counted tag _
        fun delivery member same _ => held tag message waits delivery member same

omit exact_ in
include effect in
theorem acting_jobIds : (∀ jobId ∈ system.store.jobIds, jobId ∈ after.jobIds) ∧
    ∀ task, announced next = some task → announced (system.procs index) = some task ∨
      (task.jobId ∉ system.store.jobIds ∧ task.jobId ∈ after.jobIds) := by
  cases effect with
  | quiet after next broker jobIds outcomes busy publishes =>
      refine ⟨fun jobId member => jobIds ▸ member, fun task publishing => ?_⟩
      rcases publishes with none_ | same
      · rw [none_] at publishing
        contradiction
      · exact Or.inl (same ▸ publishing)
  | drew drawn after fresh broker jobIds =>
      refine ⟨fun jobId member => jobIds ▸ List.mem_append_left _ member, fun task publishing => ?_⟩
      obtain rfl := Option.some.inj publishing
      exact Or.inr ⟨fresh, jobIds ▸ List.mem_append_right _ (List.mem_singleton.mpr rfl)⟩
  | published taken after waits broker jobIds =>
      exact ⟨fun jobId member => jobIds ▸ member, fun task publishing => by contradiction⟩
  | delivered position channel delivery after delivers jobIds =>
      exact ⟨fun jobId member => jobIds ▸ member, fun task publishing => by contradiction⟩
  | finished tag message outcome after waits broker jobIds =>
      exact ⟨fun jobId member => jobIds ▸ member, fun task publishing => by contradiction⟩
  | sentBack tag message failure after waits broker jobIds =>
      exact ⟨fun jobId member => jobIds ▸ member, fun task publishing => by contradiction⟩

include effect sound exact_ in
/-- A task that is not published by this step keeps its count. -/
theorem acting_zero (task : EnrollmentTask) (none_ : remaining task system.store = 0)
    (quiet : publication task (system.procs index) next = 0) :
    remaining task after = 0 ∧
      deliveries task after.broker = deliveries task system.store.broker := by
  have counted := (acting_remaining config system after next index sound effect task).2
    (exact_.present index)
  refine ⟨?_, acting_deliveries config system after next index effect task none_⟩
  omega

include effect sound exact_ in
theorem acting_fresh (task : EnrollmentTask) (publishing : announced next = some task) :
    task.jobId ∈ after.jobIds ∧ remaining task after = 0 ∧ deliveries task after.broker = 0 := by
  obtain ⟨more, drawn⟩ := acting_jobIds config system after next index effect
  have quiet : publication task (system.procs index) next = 0 := by
    apply if_neg
    rintro ⟨_, stored⟩
    rw [announced_unaccepted next task publishing] at stored
    contradiction
  rcases drawn task publishing with before | ⟨unknown, known⟩
  · obtain ⟨known, none_, never⟩ := exact_.fresh index task before
    obtain ⟨still, same⟩ := acting_zero config system after next index sound exact_ effect task none_
      quiet
    exact ⟨more _ known, still, same.trans never⟩
  · obtain ⟨none_, never⟩ := exact_.unknown task unknown
    obtain ⟨still, same⟩ := acting_zero config system after next index sound exact_ effect task none_
      quiet
    exact ⟨known, still, same.trans never⟩

include effect sound exact_ in
theorem acting_fresh_other (other : Nat) (elsewhere : other ≠ index) (task : EnrollmentTask)
    (publishing : announced (system.procs other) = some task) :
    task.jobId ∈ after.jobIds ∧ remaining task after = 0 ∧ deliveries task after.broker = 0 := by
  obtain ⟨known, none_, never⟩ := exact_.fresh other task publishing
  have quiet : publication task (system.procs index) next = 0 := by
    apply if_neg
    rintro ⟨mine, _⟩
    exact elsewhere (exact_.distinct other index task publishing mine)
  obtain ⟨still, same⟩ := acting_zero config system after next index sound exact_ effect task none_ quiet
  exact ⟨(acting_jobIds config system after next index effect).1 _ known, still, same.trans never⟩

include effect sound exact_ in
theorem acting_unknown (task : EnrollmentTask) (unknown : task.jobId ∉ after.jobIds) :
    remaining task after = 0 ∧ deliveries task after.broker = 0 := by
  have before : task.jobId ∉ system.store.jobIds := fun known =>
    unknown ((acting_jobIds config system after next index effect).1 _ known)
  obtain ⟨none_, never⟩ := exact_.unknown task before
  have quiet : publication task (system.procs index) next = 0 := by
    apply if_neg
    rintro ⟨mine, _⟩
    exact before (exact_.fresh index task mine).1
  obtain ⟨still, same⟩ := acting_zero config system after next index sound exact_ effect task none_ quiet
  exact ⟨still, same.trans never⟩

include effect sound exact_ in
theorem acting_single (task : EnrollmentTask) : remaining task after ≤ 1 := by
  have counted := (acting_remaining config system after next index sound effect task).2
    (exact_.present index)
  have before := exact_.single task
  by_cases publishing : announced (system.procs index) = some task
  · have none_ := (exact_.fresh index task publishing).2.1
    have most : publication task (system.procs index) next ≤ 1 := by
      unfold publication
      split <;> omega
    omega
  · have quiet : publication task (system.procs index) next = 0 :=
      if_neg fun both => publishing both.1
    omega

end ExactActing

/-- No channel is lost, so nothing is redelivered. -/
def Lossless : Event (Input K) (Change K) → Prop
  | .env (.lose _) => False
  | _ => True

section Runs

variable (uuids : UuidSource) (codec : Codec)

theorem ambient_exact (system : State K) (change : Change K) (sound : Sound config system)
    (exact_ : Exact config system) (lossless : ∀ channel, change ≠ .lose channel) :
    Exact config ⟨ambient change system.store, system.procs⟩ := by
  have same := fun task =>
    (ambient_remaining config system.store change sound.bounded task).2 lossless
  -- Only a lost channel would put a delivered copy back into its queue.
  have tried : ∀ task, deliveries task (ambient change system.store).broker =
      deliveries task system.store.broker := by
    intro task
    cases change with
    | frame tag => exact deliveries_handleFrame task _ tag
    | expire position => exact deliveries_expire task _ position
    | lose channel => exact absurd rfl (lossless channel)
    | write db => rfl
  have jobIds : (ambient change system.store).jobIds = system.store.jobIds := by
    cases change <;> rfl
  constructor
  · intro index tag message waits
    have present := exact_.present index tag message waits
    cases change with
    | frame other =>
        exact present_handleFrame config _ tag present message (sound.busy index tag message waits)
          sound.bounded other
    | expire position =>
        simp only [ambient, expireRetry, Broker.expire]
        split
        · exact present
        · split <;> exact present
    | lose channel => exact absurd rfl (lossless channel)
    | write db => exact present
  · intro index task publishing
    rw [jobIds, same, tried]
    exact exact_.fresh index task publishing
  · exact exact_.distinct
  · intro task unknown
    rw [same, tried]
    exact exact_.unknown task (jobIds ▸ unknown)
  · intro task
    rw [same]
    exact exact_.single task
  · cases change with
    | frame tag => exact counted_handleFrame config _ exact_.counted sound.bounded tag
    | expire position => exact counted_expire config _ exact_.counted position
    | lose channel => exact absurd rfl (lossless channel)
    | write db => exact exact_.counted

theorem step_exact (system : State K) (event : Event (Input K) (Change K))
    (sound : Sound config system) (exact_ : Exact config system) (lossless : Lossless event) :
    Exact config ((machine config uuids codec).step system event) := by
  cases event with
  | env change =>
      apply ambient_exact config system change sound exact_
      rintro channel rfl
      exact lossless
  | act index input =>
      have effect := exec_effect config uuids codec system.store input (system.procs index)
      have acting : ((machine config uuids codec).step system (.act index input)).procs index =
          (exec config uuids codec input system.store (system.procs index)).2 :=
        step_self _ _ _ _
      have others : ∀ other, other ≠ index →
          ((machine config uuids codec).step system (.act index input)).procs other =
            system.procs other :=
        fun other elsewhere => step_other _ _ _ _ _ elsewhere
      -- A job id drawn now is new, and the ids drawn before are all different.
      have drawn : ∀ other task, other ≠ index → announced (system.procs other) = some task →
          announced (exec config uuids codec input system.store (system.procs index)).2 ≠ some task := by
        intro other task elsewhere publishing mine
        rcases (acting_jobIds config system _ _ index effect).2 task mine with before | ⟨unknown, _⟩
        · exact elsewhere (exact_.distinct other index task publishing before)
        · exact unknown (exact_.fresh other task publishing).1
      constructor
      · intro other tag message waits
        by_cases same : other = index
        · subst other
          rw [acting] at waits
          exact acting_present config system _ _ index exact_ effect tag message waits
        · rw [others other same] at waits
          exact acting_present_other config system _ _ index exact_ effect other tag message waits
      · intro other task publishing
        by_cases same : other = index
        · subst other
          rw [acting] at publishing
          exact acting_fresh config system _ _ index sound exact_ effect task publishing
        · rw [others other same] at publishing
          exact acting_fresh_other config system _ _ index sound exact_ effect other same task publishing
      · intro first second task one two
        by_cases isFirst : first = index <;> by_cases isSecond : second = index
        · exact isFirst.trans isSecond.symm
        · subst first
          rw [acting] at one
          rw [others second isSecond] at two
          exact absurd one (drawn second task isSecond two)
        · subst second
          rw [acting] at two
          rw [others first isFirst] at one
          exact absurd two (drawn first task isFirst one)
        · rw [others first isFirst] at one
          rw [others second isSecond] at two
          exact exact_.distinct first second task one two
      · exact fun task unknown =>
          acting_unknown config system _ _ index sound exact_ effect task unknown
      · exact fun task => acting_single config system _ _ index sound exact_ effect task
      · exact acting_counted config system _ _ index sound exact_ effect

theorem begin_sound (db : Database K) : Sound config (begin db) := by
  constructor
  · exact ⟨fun _ member => by contradiction, fun _ member => by contradiction,
      fun _ member => by contradiction⟩
  · exact fun index tag message waits => by contradiction
  · exact fun index other tag message messageOther waits => by contradiction
  · exact fun index task stored => by contradiction

theorem begin_exact (db : Database K) : Exact config (begin db) := by
  constructor
  · exact fun index tag message waits => by contradiction
  · exact fun index task publishing => by contradiction
  · exact fun index other task publishing => by contradiction
  · exact fun task unknown => ⟨rfl, rfl⟩
  · exact fun task => Nat.zero_le _
  · exact ⟨fun _ member => by contradiction, fun _ member => by contradiction,
      fun task => Nat.zero_le _⟩

theorem run_exact (system : State K) (events : List (Event (Input K) (Change K)))
    (sound : Sound config system) (exact_ : Exact config system)
    (lossless : ∀ event ∈ events, Lossless event) :
    Exact config ((machine config uuids codec).run system events) := by
  induction events generalizing system with
  | nil => exact exact_
  | cons event rest ih =>
      apply ih
      · exact step_sound config uuids codec system event sound
      · exact step_exact config uuids codec system event sound exact_
          (lossless event List.mem_cons_self)
      · exact fun later member => lossless later (List.mem_cons_of_mem _ member)

end Runs

/-- Every accepted task has been concluded or has a copy, and the attempts are bounded; whatever
counts as an outcome has happened. While no channel is lost a task has one outcome or one copy,
apart from the delivery that only waits for its acknowledgement, and bounded deliveries. -/
theorem no_task_lost (uuids : UuidSource) (codec : Codec) (db : Database K)
    (events : List (Event (Input K) (Change K))) :
    let final := (machine config uuids codec).run (begin db) events
    (∀ index task, final.procs index = .queued task →
      (∃ outcome, Concluded config uuids codec db events task outcome) ∨
        HasCopy task final.store.broker) ∧
    (∀ entry ∈ final.store.outcomes, Concluded config uuids codec db events entry.1 entry.2) ∧
    (∀ queue ∈ [Queue.FACE_TASKS, .FACE_TASKS_RETRY], ∀ message ∈ final.store.broker.messages queue,
      message.attempts < config.FACE_TASK_MAX_ATTEMPTS) ∧
    (∀ message ∈ final.store.broker.messages .FACE_TASKS_DEAD,
      message.attempts = config.FACE_TASK_MAX_ATTEMPTS) ∧
    ((∀ event ∈ events, Lossless event) → ∀ index task, final.procs index = .queued task →
      remaining task final.store = 1 ∧
        deliveries task final.store.broker ≤ config.FACE_TASK_MAX_ATTEMPTS) := by
  intro final
  have sound : Sound config final :=
    run_invariant (machine config uuids codec) (Sound config)
      (fun system event valid => step_sound config uuids codec system event valid) (begin db) events
      (begin_sound config db)
  have least : ∀ index task, final.procs index = .queued task → 1 ≤ remaining task final.store :=
    fun index task accepted_ => sound.kept index task (by rw [accepted_]; rfl)
  have told : Told config uuids codec db events := run_told config uuids codec db events
  refine ⟨?_, told.outcomes, ?_, ?_, ?_⟩
  · intro index task accepted_
    refine (remaining_pos config task final.store sound.bounded (least index task accepted_)).imp_left ?_
    rintro ⟨outcome, listed⟩
    exact ⟨outcome, told.outcomes (task, outcome) listed⟩
  · intro queue either message member
    have bounds := sound.bounded.ready _ ((mem_messages _ _ _).mp member)
    cases queue with
    | FACE_TASKS => exact bounds
    | FACE_TASKS_RETRY => exact bounds
    | _ => simp at either
  · intro message member
    exact sound.bounded.ready _ ((mem_messages _ _ _).mp member)
  · intro lossless index task accepted_
    have exact_ := run_exact config uuids codec (begin db) events (begin_sound config db)
      (begin_exact config db) lossless
    exact ⟨Nat.le_antisymm (exact_.single task) (least index task accepted_), exact_.counted.bound task⟩

def school : Database ℤ where
  students := .single ⟨1, "s1", "Ada", none, none⟩
  faceEmbeddings := Table.empty
  courses := Table.empty
  courseEnrollments := Table.empty
  importJobs := Table.empty
  attendanceSessions := Table.empty
  attendanceRecords := Table.empty
  outboxMessages := Table.empty

def emptyFileCodec : Codec where
  toBase64 _ := ""
  fromBase64 _ := []
  sha256 _ := "e3b0c44298fc1c149afbf4c8996fb92427ae41e4649b934ca495991b7852b855"

def refused : Except Failure (EmbeddingResult ℤ) := .error (.aiUnavailable "connection refused")

def queuedTask : EnrollmentTask := ⟨1, 1, "", "image/png", "face.png"⟩

/-- The AI service is down: the task is queued, delivered and sent back, and
the broker has stored its successor but not yet handled the acknowledgement. -/
def failedOnce : List (Event (Input ℤ) (Change ℤ)) :=
  [.act 0 (.enrollFace 1 ⟨[], "image/png", "face.png"⟩), .act 0 (.call {}), .act 0 (.call {}),
    .act 0 (.extract refused 0), .act 0 .brokerStores, .act 0 .brokerConfirms,
    .act 1 (.deliver 0 0), .act 1 (.extract refused 0), .env (.frame 0)]

def afterFailure : State ℤ :=
  (machine {} UuidSource.counting emptyFileCodec).run (begin school) failedOnce

/-- Without a crash, there are two copies of a task between the two frames. -/
theorem sent_back_twice_present :
    (∀ event ∈ failedOnce, Lossless event) ∧ afterFailure.procs 0 = .queued queuedTask ∧
      afterFailure.store.outcomes = [] ∧
      afterFailure.store.broker.copies (ofTask queuedTask) = 2 := by
  refine ⟨?_, rfl, rfl, by decide⟩
  simp [failedOnce, Lossless]

end FaceVec.Faces
