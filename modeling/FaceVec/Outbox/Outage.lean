import FaceVec.Outbox.Safety

/-!
The tick loop of the outbox relay under broker outages. Every gateway has one
poller; its channel appears and disappears at any time. A tick looks at the
channel once and then drains batch after batch. `failures` is a history: the
publish attempts that failed, and whether the gateway had a channel then.
-/

namespace FaceVec.Outbox

open Interleaving

variable {Payload : Type}

structure Site (Payload : Type) where
  store : Store Payload
  /-- `rabbit.isReady()` on each gateway. -/
  channels : Nat → Bool
  batches : Nat
  failures : List (Uuid × Bool)

/-- `draining` is the transaction of the tick that is under way; `orphans` are
callbacks whose transaction is gone. -/
structure Poller (Payload : Type) where
  gateway : Nat
  draining : Option (Drain Payload)
  orphans : List (Drain Payload)

inductive Action where
  | tick
  | drain (input : Input)
  | orphan (position : Nat) (input : Input)

inductive Outside (Payload : Type) where
  | change (change : Change Payload)
  | channel (gateway : Nat) (up : Bool)

/-- Whether the next thing the callback does is to call `rabbit.publish`. -/
def aboutToPublish : Phase Payload → Bool
  | .holding ⟨_, _ :: _, .ready⟩ | .abandoned (.unpublished _) => true
  | _ => false

/-- Without a channel `rabbit.publish` throws. -/
def attempt (channel : Bool) (phase : Phase Payload) (input : Input) : Input :=
  match input with
  | .publish | .refuse _ =>
      if aboutToPublish phase && !channel then .refuse "rabbitmq channel not available" else input
  | input => input

/-- The row whose publish attempt the step fails. -/
def failedAttempt (phase : Phase Payload) (input : Input) : Option Uuid :=
  match phase, input with
  | .holding ⟨_, row :: _, .ready⟩, .refuse _ | .holding ⟨_, row :: _, .publishing⟩, .refuse _
  | .abandoned (.unpublished row), .refuse _ | .abandoned (.publishing row), .refuse _ => some row.id
  | _, _ => none

def claimed : Phase Payload → Nat
  | .holding batch => batch.handled.length + batch.todo.length
  | _ => 0

section Exec

variable (batchSize maxAttempts : ℕ+)

/-- One step of a callback, with what it adds to the history of failures. -/
def callback (channel : Bool) (drain : Drain Payload) (input : Input) (site : Site Payload) :
    Site Payload × Drain Payload :=
  let asked := attempt channel drain.phase input
  let next := drainBatch batchSize maxAttempts drain.number drain.phase asked site.store
  ({ site with
      store := next.1
      failures := site.failures ++
        ((failedAttempt drain.phase asked).map fun id =>
          -- Where the callback waits for a confirm, it had a channel.
          (id, channel || !aboutToPublish drain.phase)).toList },
    { drain with phase := next.2 })

def beginBatch (site : Site Payload) (poller : Poller Payload) : Site Payload × Poller Payload :=
  ({ site with batches := site.batches + 1 }, { poller with draining := some ⟨site.batches, .idle⟩ })

def poll (action : Action) (site : Site Payload) (poller : Poller Payload) :
    Site Payload × Poller Payload :=
  match action with
  | .tick =>
      match poller.draining with
      | some _ => (site, poller)
      | none => if site.channels poller.gateway then beginBatch site poller else (site, poller)
  | .drain input =>
      match poller.draining with
      | none => (site, poller)
      | some drain =>
          let next := callback batchSize maxAttempts (site.channels poller.gateway) drain input site
          match next.2.phase with
          | .committed =>
              if claimed drain.phase < (batchSize : Nat) then
                (next.1, { poller with draining := none })
              -- The channel is not looked at again.
              else beginBatch next.1 poller
          | .abandoned _ =>
              (next.1, { poller with draining := none, orphans := poller.orphans ++ [next.2] })
          | _ => (next.1, { poller with draining := some next.2 })
  | .orphan position input =>
      match poller.orphans[position]? with
      | none => (site, poller)
      | some drain =>
          let next := callback batchSize maxAttempts (site.channels poller.gateway) drain input site
          (next.1, { poller with orphans := poller.orphans.set position next.2 })

def outside (change : Outside Payload) (site : Site Payload) : Site Payload :=
  match change with
  | .change change => { site with store := ambient change site.store }
  | .channel gateway up => { site with channels := Function.update site.channels gateway up }

def pollers : Machine (Site Payload) (Poller Payload) Action (Outside Payload) where
  exec := poll batchSize maxAttempts
  ambient := outside

end Exec

/-- An empty outbox, and gateways that have not reached the broker yet. -/
def boot : System (Site Payload) (Poller Payload) :=
  ⟨⟨⟨Table.empty, [], 0, [], [], []⟩, fun _ => false, 0, []⟩, fun gateway => ⟨gateway, none, []⟩⟩

/-- An attempt without a channel is not charged to a row as its last one,
unless an attempt with a channel has failed before. -/
def Spared (maxAttempts : ℕ+) (system : System (Site Payload) (Poller Payload)) :
    Event Action (Outside Payload) → Prop
  | .act index (.drain input) =>
      match (system.procs index).draining with
      | some ⟨_, .holding ⟨_, row :: _, .ready⟩⟩ =>
          (input = .publish ∨ ∃ message, input = .refuse message) →
            system.store.channels (system.procs index).gateway = false →
              row.attempts + 1 < (maxAttempts : Nat) ∨ (row.id, true) ∈ system.store.failures
      | _ => True
  | _ => True

/-- A failed row has failed with a channel, and no row waits longer than the
longest backoff. -/
structure Excused (failures : List (Uuid × Bool)) (clock : Instant) (row : OutboxMessage Payload) :
    Prop where
  charged : row.status = .FAILED → (row.id, true) ∈ failures
  soon : row.availableAt ≤ clock + 60000

/-- What a batch that is under way will leave. -/
def Sparing (maxAttempts : ℕ+) (failures : List (Uuid × Bool)) (clock : Instant) :
    Phase Payload → Prop
  | .holding ⟨handled, todo, step⟩ =>
      (∀ row ∈ handled, Excused failures clock row) ∧ (∀ row ∈ todo, Excused failures clock row) ∧
        ∀ row rest message, todo = row :: rest → step = .refused message →
          row.attempts + 1 < (maxAttempts : Nat) ∨ (row.id, true) ∈ failures
  | _ => True

theorem backoff_bound (attempts : Nat) : backoffMs attempts ≤ 60000 := Nat.min_le_left _ _

theorem excused_grows (failures more : List (Uuid × Bool)) (clock later : Instant)
    (row : OutboxMessage Payload) (time : clock ≤ later) (excused : Excused failures clock row) :
    Excused (failures ++ more) later row :=
  ⟨fun failed => List.mem_append_left _ (excused.charged failed),
    excused.soon.trans (Nat.add_le_add_right time _)⟩

theorem sparing_grows (maxAttempts : ℕ+) (failures more : List (Uuid × Bool))
    (clock later : Instant) (phase : Phase Payload) (time : clock ≤ later)
    (sparing : Sparing maxAttempts failures clock phase) :
    Sparing maxAttempts (failures ++ more) later phase := by
  cases phase with
  | holding batch =>
      obtain ⟨handled, todo, step⟩ := batch
      refine ⟨fun row member => excused_grows _ _ _ _ row time (sparing.1 row member),
        fun row member => excused_grows _ _ _ _ row time (sparing.2.1 row member),
        fun row rest message next refused => ?_⟩
      exact (sparing.2.2 row rest message next refused).imp_right (List.mem_append_left _)
  | _ => trivial

theorem markPublished_excused (failures : List (Uuid × Bool)) (clock : Instant)
    (row : OutboxMessage Payload) (excused : Excused failures clock row) :
    Excused failures clock (markPublished clock row) where
  charged failed := by cases failed
  soon := excused.soon

theorem recordFailure_excused (maxAttempts : ℕ+) (failures : List (Uuid × Bool)) (clock : Instant)
    (message : String) (row : OutboxMessage Payload)
    (charged : row.attempts + 1 < (maxAttempts : Nat) ∨ (row.id, true) ∈ failures) :
    Excused failures clock (recordFailure maxAttempts clock message row) := by
  constructor
  · intro failed
    rcases charged with left | known
    · have pending : ¬ (maxAttempts : Nat) ≤ row.attempts + 1 := by omega
      simp [recordFailure, pending] at failed
    · exact known
  · exact Nat.add_le_add_left (backoff_bound (row.attempts + 1)) clock

section Steps

variable (batchSize maxAttempts : ℕ+)

/-- The step of a row, where a refusal is entered in the history or charged to an
attempt that is not the last. -/
theorem handleRow_sparing (number : Nat) (handled : List (OutboxMessage Payload))
    (row : OutboxMessage Payload) (rest : List (OutboxMessage Payload)) (step : RowStep)
    (input : Input) (store : Store Payload) (failures : List (Uuid × Bool))
    (sparing : Sparing maxAttempts failures store.clock (.holding ⟨handled, row :: rest, step⟩))
    (charged : step = .ready ∨ step = .publishing → (∃ message, input = .refuse message) →
      row.attempts + 1 < (maxAttempts : Nat) ∨ (row.id, true) ∈ failures) :
    Sparing maxAttempts failures store.clock
      (.holding (handleRow maxAttempts number handled row rest step input store).2) := by
  obtain ⟨done, waiting, refused⟩ := sparing
  have head := waiting row List.mem_cons_self
  have tail := fun other member => waiting other (List.mem_cons_of_mem row member)
  have finished : ∀ version, Excused failures store.clock version →
      Sparing maxAttempts failures store.clock (.holding ⟨handled ++ [version], rest, .ready⟩) := by
    intro version excused
    refine ⟨fun other member => ?_, tail, fun _ _ _ _ ready => by cases ready⟩
    rcases List.mem_append.mp member with old | new
    · exact done other old
    · rw [List.mem_singleton.mp new]
      exact excused
  have stays : ∀ other, (∀ message, other = .refused message →
        row.attempts + 1 < (maxAttempts : Nat) ∨ (row.id, true) ∈ failures) →
      Sparing maxAttempts failures store.clock (.holding ⟨handled, row :: rest, other⟩) := by
    intro other known
    refine ⟨done, waiting, fun first others message same is => ?_⟩
    obtain ⟨rfl, _⟩ := List.cons.inj same
    exact known message is
  unfold handleRow
  split
  · exact stays _ fun _ impossible => by cases impossible
  · next message => exact stays _ fun _ _ => charged (Or.inl rfl) ⟨message, rfl⟩
  · next message => exact stays _ fun _ _ => charged (Or.inr rfl) ⟨message, rfl⟩
  · split <;> exact stays _ fun _ impossible => by cases impossible
  · exact finished _ (markPublished_excused failures _ row head)
  · next message =>
      exact finished _ (recordFailure_excused maxAttempts failures _ message row
        (refused row rest message rfl rfl))
  · exact stays _ fun message is => refused row rest message rfl is

/-- What a batch leaves in the table is excused, and what it claims was so. -/
theorem drainBatch_sparing (number : Nat) (phase : Phase Payload) (input : Input)
    (store : Store Payload) (failures : List (Uuid × Bool))
    (stored : ∀ row ∈ store.rows.rows, Excused failures store.clock row)
    (sparing : Sparing maxAttempts failures store.clock phase)
    (charged : ∀ handled row rest step, phase = .holding ⟨handled, row :: rest, step⟩ →
      step = .ready ∨ step = .publishing → (∃ message, input = .refuse message) →
      row.attempts + 1 < (maxAttempts : Nat) ∨ (row.id, true) ∈ failures) :
    (∀ row ∈ (drainBatch batchSize maxAttempts number phase input store).1.rows.rows,
        Excused failures store.clock row) ∧
      Sparing maxAttempts failures store.clock
        (drainBatch batchSize maxAttempts number phase input store).2 := by
  unfold drainBatch
  split
  · split
    · exact ⟨stored, sparing⟩
    · next rows selected =>
        obtain ⟨picked, _⟩ := select_rows batchSize store _ rows selected
        exact ⟨stored, by simp, fun row member => stored row (picked row member).1,
          fun _ _ _ _ ready => by cases ready⟩
  · exact ⟨stored, trivial⟩
  · next handled step =>
      refine ⟨fun row member => ?_, trivial⟩
      obtain ⟨old, before, rfl⟩ := List.mem_map.mp member
      unfold settle
      cases found : handled.find? (·.id == old.id) with
      | none => exact stored old before
      | some version => exact sparing.1 version (List.mem_of_find?_eq_some found)
  · next handled row rest step _ =>
      refine ⟨?_, handleRow_sparing maxAttempts number handled row rest step input store failures
        sparing (charged handled row rest step rfl)⟩
      have kept : (handleRow maxAttempts number handled row rest step input store).1.rows =
          store.rows := by
        unfold handleRow
        split <;> first | rfl | split <;> rfl
      rw [kept]
      exact stored
  · exact ⟨stored, trivial⟩
  · split <;> exact ⟨stored, trivial⟩
  · exact ⟨stored, trivial⟩
  · exact ⟨stored, sparing⟩

theorem effect_clock (store after : Store Payload) (number : Nat) (phase next : Phase Payload)
    (effect : Effect maxAttempts store number phase after next) : after.clock = store.clock := by
  cases effect <;> rfl

theorem drainBatch_abandoned (number : Nat) (orphan : Orphan Payload) (input : Input)
    (store : Store Payload) :
    ∃ after, (drainBatch batchSize maxAttempts number (.abandoned orphan) input store).2 =
      .abandoned after := by
  cases orphan <;> cases input <;> simp only [drainBatch] <;>
    first | exact ⟨_, rfl⟩ | split <;> exact ⟨_, rfl⟩

theorem attempt_refused (channel : Bool) (phase : Phase Payload) (input : Input) (message : String)
    (refused : attempt channel phase input = .refuse message) :
    input = .publish ∨ ∃ text, input = .refuse text := by
  cases input with
  | publish => exact Or.inl rfl
  | refuse text => exact Or.inr ⟨text, rfl⟩
  | _ => cases refused

/-- One step of a callback whose last attempts are spared. -/
theorem callback_sparing (channel : Bool) (drain : Drain Payload) (input : Input)
    (site : Site Payload)
    (stored : ∀ row ∈ site.store.rows.rows, Excused site.failures site.store.clock row)
    (sparing : Sparing maxAttempts site.failures site.store.clock drain.phase)
    (spared : ∀ handled row rest, drain.phase = .holding ⟨handled, row :: rest, .ready⟩ →
      (input = .publish ∨ ∃ message, input = .refuse message) → channel = false →
      row.attempts + 1 < (maxAttempts : Nat) ∨ (row.id, true) ∈ site.failures) :
    (∀ row ∈ (callback batchSize maxAttempts channel drain input site).1.store.rows.rows,
        Excused (callback batchSize maxAttempts channel drain input site).1.failures
          site.store.clock row) ∧
      Sparing maxAttempts (callback batchSize maxAttempts channel drain input site).1.failures
        site.store.clock (callback batchSize maxAttempts channel drain input site).2.phase := by
  apply drainBatch_sparing
  · exact fun row member => excused_grows _ _ _ _ row le_rfl (stored row member)
  · exact sparing_grows _ _ _ _ _ _ le_rfl sparing
  · rintro handled row rest step holding waits ⟨message, refused⟩
    have entered : failedAttempt drain.phase (attempt channel drain.phase input) = some row.id := by
      rcases waits with rfl | rfl <;> rw [refused, holding] <;> rfl
    simp only [callback, entered]
    by_cases reached : (channel || !aboutToPublish drain.phase) = true
    · exact Or.inr (List.mem_append_right _ (by simp [reached]))
    · simp only [Bool.or_eq_true, Bool.not_eq_true', not_or, Bool.not_eq_true,
        Bool.not_eq_false] at reached
      rcases waits with rfl | rfl
      · exact (spared handled row rest holding
          (attempt_refused channel drain.phase input message refused) reached.1).imp_right
          (List.mem_append_left _)
      · rw [holding] at reached
        cases reached.2

end Steps

/-- Nothing has been given up for want of a channel. -/
structure Costless (maxAttempts : ℕ+) (system : System (Site Payload) (Poller Payload)) :
    Prop where
  stored : ∀ row ∈ system.store.store.rows.rows,
    Excused system.store.failures system.store.store.clock row
  draining : ∀ index drain, (system.procs index).draining = some drain →
    Sparing maxAttempts system.store.failures system.store.store.clock drain.phase
  orphaned : ∀ index, ∀ drain ∈ (system.procs index).orphans,
    ∃ orphan, drain.phase = .abandoned orphan

/-- What a step of one poller keeps, and how its histories grow. -/
structure Polled (maxAttempts : ℕ+) (site after : Site Payload) (poller : Poller Payload) :
    Prop where
  clock : after.store.clock = site.store.clock
  failures : ∃ more, after.failures = site.failures ++ more
  stored : ∀ row ∈ after.store.rows.rows, Excused after.failures site.store.clock row
  draining : ∀ drain, poller.draining = some drain →
    Sparing maxAttempts after.failures site.store.clock drain.phase
  orphaned : ∀ drain ∈ poller.orphans, ∃ orphan, drain.phase = .abandoned orphan

section Runs

variable (batchSize maxAttempts : ℕ+)

theorem begin_polled (site after : Site Payload) (poller next : Poller Payload)
    (polled : Polled maxAttempts site after next) (orphans : next.orphans = poller.orphans) :
    Polled maxAttempts site (beginBatch after poller).1 (beginBatch after poller).2 where
  clock := polled.clock
  failures := polled.failures
  stored := polled.stored
  draining drain started := by
    obtain rfl := Option.some.inj started
    trivial
  orphaned := orphans ▸ polled.orphaned

theorem drain_polled (system : System (Site Payload) (Poller Payload)) (index : Nat) (input : Input)
    (drain : Drain Payload) (valid : Costless maxAttempts system)
    (current : (system.procs index).draining = some drain)
    (spared : Spared maxAttempts system (.act index (.drain input))) :
    Polled maxAttempts system.store
      (poll batchSize maxAttempts (.drain input) system.store (system.procs index)).1
      (poll batchSize maxAttempts (.drain input) system.store (system.procs index)).2 := by
  obtain ⟨stored, sparing⟩ := callback_sparing batchSize maxAttempts
    (system.store.channels (system.procs index).gateway) drain input system.store
    valid.stored (valid.draining index drain current) (by
      intro handled row rest holding asked down
      obtain ⟨number, phase⟩ := drain
      subst holding
      simp only [Spared, current] at spared
      exact spared asked down)
  have clock := effect_clock maxAttempts _ _ _ _ _ (drainBatch_effect batchSize maxAttempts
    drain.number drain.phase
    (attempt (system.store.channels (system.procs index).gateway) drain.phase input)
    system.store.store)
  have polled : Polled maxAttempts system.store
      (callback batchSize maxAttempts (system.store.channels (system.procs index).gateway) drain
        input system.store).1 { system.procs index with draining := none } :=
    ⟨clock, ⟨_, rfl⟩, stored, fun _ none_ => (by cases none_), valid.orphaned index⟩
  simp only [poll, current]
  split
  · split
    · exact polled
    · exact begin_polled maxAttempts _ _ _ _ polled rfl
  · next orphan abandoned =>
      refine ⟨clock, polled.failures, stored, fun _ none_ => (by cases none_), fun other member => ?_⟩
      rcases List.mem_append.mp member with old | new
      · exact valid.orphaned index other old
      · rw [List.mem_singleton.mp new]
        exact ⟨orphan, abandoned⟩
  · refine ⟨clock, polled.failures, stored, fun other next => ?_, valid.orphaned index⟩
    rw [← Option.some.inj next]
    exact sparing

theorem orphan_polled (system : System (Site Payload) (Poller Payload)) (index position : Nat)
    (input : Input) (drain : Drain Payload) (valid : Costless maxAttempts system)
    (current : (system.procs index).orphans[position]? = some drain) :
    Polled maxAttempts system.store
      (poll batchSize maxAttempts (.orphan position input) system.store (system.procs index)).1
      (poll batchSize maxAttempts (.orphan position input) system.store (system.procs index)).2 := by
  obtain ⟨orphan, abandoned⟩ := valid.orphaned index drain (List.mem_of_getElem? current)
  obtain ⟨stored, _⟩ := callback_sparing batchSize maxAttempts
    (system.store.channels (system.procs index).gateway) drain input system.store valid.stored
    (by rw [abandoned]; trivial) (fun _ _ _ holding => by rw [abandoned] at holding; cases holding)
  have clock := effect_clock maxAttempts _ _ _ _ _ (drainBatch_effect batchSize maxAttempts
    drain.number drain.phase
    (attempt (system.store.channels (system.procs index).gateway) drain.phase input)
    system.store.store)
  simp only [poll, current]
  refine ⟨clock, ⟨_, rfl⟩, stored, fun other next => ?_, fun other member => ?_⟩
  · exact sparing_grows maxAttempts _ _ _ _ _ le_rfl (valid.draining index other next)
  · rcases List.mem_or_eq_of_mem_set member with old | rfl
    · exact valid.orphaned index other old
    · simp only [callback, abandoned]
      exact drainBatch_abandoned batchSize maxAttempts _ orphan _ _

theorem act_polled (system : System (Site Payload) (Poller Payload)) (index : Nat)
    (action : Action) (valid : Costless maxAttempts system)
    (spared : Spared maxAttempts system (.act index action)) :
    Polled maxAttempts system.store
      (poll batchSize maxAttempts action system.store (system.procs index)).1
      (poll batchSize maxAttempts action system.store (system.procs index)).2 := by
  have still : Polled maxAttempts system.store system.store (system.procs index) :=
    ⟨rfl, ⟨[], by simp⟩, valid.stored, valid.draining index, valid.orphaned index⟩
  cases action with
  | tick =>
      simp only [poll]
      split
      · exact still
      · split
        · exact begin_polled maxAttempts _ _ _ _ still rfl
        · exact still
  | drain input =>
      cases current : (system.procs index).draining with
      | none =>
          simp only [poll, current]
          exact still
      | some drain =>
          exact drain_polled batchSize maxAttempts system index input drain valid current spared
  | orphan position input =>
      cases current : (system.procs index).orphans[position]? with
      | none =>
          simp only [poll, current]
          exact still
      | some drain =>
          exact orphan_polled batchSize maxAttempts system index position input drain valid current

theorem outside_costless (system : System (Site Payload) (Poller Payload))
    (change : Outside Payload) (valid : Costless maxAttempts system) :
    Costless maxAttempts ⟨outside change system.store, system.procs⟩ := by
  cases change with
  | channel gateway up => exact ⟨valid.stored, valid.draining, valid.orphaned⟩
  | change change =>
      cases change with
      | insert id aggregateType aggregateId eventType payload =>
          refine ⟨fun row member => ?_, valid.draining, valid.orphaned⟩
          rcases Table.mem_insert_getD _ _ row member with old | rfl
          · exact valid.stored row old
          · exact ⟨fun failed => (by cases failed), Nat.le_add_right _ _⟩
      | tick milliseconds =>
          have later := Nat.le_add_right system.store.store.clock milliseconds
          refine ⟨fun row member => ?_, fun index drain current => ?_, valid.orphaned⟩
          · exact ⟨(valid.stored row member).charged,
              (valid.stored row member).soon.trans (Nat.add_le_add_right later _)⟩
          · have grown := sparing_grows maxAttempts _ [] _ _ _ later
              (valid.draining index drain current)
            rwa [List.append_nil] at grown
      | brokerConfirms position => exact ⟨valid.stored, valid.draining, valid.orphaned⟩

theorem step_costless (system : System (Site Payload) (Poller Payload))
    (event : Event Action (Outside Payload)) (valid : Costless maxAttempts system)
    (spared : Spared maxAttempts system event) :
    Costless maxAttempts ((pollers batchSize maxAttempts).step system event) := by
  cases event with
  | env change => exact outside_costless maxAttempts system change valid
  | act index action =>
      have polled := act_polled batchSize maxAttempts system index action valid spared
      obtain ⟨more, grown⟩ := polled.failures
      constructor
      · simp only [step_store, pollers, polled.clock]
        exact polled.stored
      · intro other drain current
        simp only [step_store, pollers, polled.clock]
        by_cases same : other = index
        · subst same
          rw [step_self] at current
          exact polled.draining drain current
        · rw [step_other _ _ _ _ _ same] at current
          rw [grown]
          exact sparing_grows maxAttempts _ more _ _ _ le_rfl (valid.draining other drain current)
      · intro other drain member
        by_cases same : other = index
        · subst same
          rw [step_self] at member
          exact polled.orphaned drain member
        · rw [step_other _ _ _ _ _ same] at member
          exact valid.orphaned other drain member

/-- Where no last attempt of a row is made without a channel, a row that has only
failed without one is published, or pending and due within a minute. -/
theorem outage_costs_no_event (events : List (Event Action (Outside Payload)))
    (along : (pollers batchSize maxAttempts).Along (Spared maxAttempts) boot events)
    (row : OutboxMessage Payload)
    (stored : row ∈ ((pollers batchSize maxAttempts).run boot events).store.store.rows)
    (offline : ∀ failure ∈ ((pollers batchSize maxAttempts).run boot events).store.failures,
      failure.1 = row.id → failure.2 = false) :
    row.status = .PUBLISHED ∨ (row.status = .PENDING ∧
      row.availableAt ≤
        ((pollers batchSize maxAttempts).run boot events).store.store.clock + 60000) := by
  have initially : Costless maxAttempts (boot : System (Site Payload) (Poller Payload)) :=
    ⟨fun row member => absurd member (List.not_mem_nil),
      fun _ _ current => (by cases current), fun _ _ member => absurd member (List.not_mem_nil)⟩
  have valid := along_invariant (pollers batchSize maxAttempts) (Spared maxAttempts)
    (Costless maxAttempts) (step_costless batchSize maxAttempts) boot events initially along
  have excused := valid.stored row stored
  cases status : row.status with
  | PUBLISHED => exact Or.inl rfl
  | PENDING => exact Or.inr ⟨rfl, excused.soon⟩
  | FAILED => cases offline _ (excused.charged status) rfl

end Runs

/-- One event is stored; the channel is lost after the tick has claimed it. -/
def lostMidBatch : List (Event Action (Outside Unit)) :=
  [.env (.change (.insert 1 "AttendanceSession" 2 EventType.AttendanceRecorded ())),
    .env (.channel 0 true), .act 0 .tick, .act 0 (.drain (.claim [1])), .env (.channel 0 false),
    .act 0 (.drain .publish), .act 0 (.drain .update), .act 0 (.drain .commit)]

def chargedRow (status : OutboxStatus) : OutboxMessage Unit :=
  ⟨1, "AttendanceSession", 2, EventType.AttendanceRecorded, (), status, 1, 2000, none,
    some "rabbitmq channel not available", 0⟩

theorem outage_costs_no_event_twice :
    (chargedRow .PENDING).status = .PUBLISHED ∨ ((chargedRow .PENDING).status = .PENDING ∧
      (chargedRow .PENDING).availableAt ≤
        ((pollers 50 2).run boot lostMidBatch).store.store.clock + 60000) :=
  outage_costs_no_event 50 2 lostMidBatch
    ⟨trivial, trivial, trivial, trivial, trivial, fun _ _ => Or.inl (by decide), trivial, trivial,
      trivial⟩
    (chargedRow .PENDING) (by decide) (by decide)

/-- With one attempt the same outage gives the event up. -/
theorem outage_costs_event :
    chargedRow .FAILED ∈ ((pollers 50 1).run boot lostMidBatch).store.store.rows ∧
      ((pollers 50 1).run (boot : System (Site Unit) (Poller Unit)) lostMidBatch).store.failures =
        [(1, false)] := by
  decide

end FaceVec.Outbox
