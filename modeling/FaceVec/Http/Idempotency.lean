import FaceVec.Errors
import FaceVec.Interleaving

/-!
`http/middleware/idempotency.ts` as a machine: any number of requests, each
one running the middleware, its route handler and the patched `res.json`, over
one Redis. A request takes one step for each Redis command it has processed;
the write that `res.json` issues without awaiting is processed later, after
the answer has gone out. No key expires. `Cell` is the specification: one
holder at a time until an answer succeeds, and nothing after that.
-/

namespace FaceVec.Http

open Interleaving

/-- JSON bodies: what a route handler sends, and what the error handler sends. -/
inductive Body (Payload : Type) where
  | payload (value : Payload)
  | error (body : ErrorBody)
  deriving DecidableEq

inductive CachedResponse (Payload : Type) where
  | pending
  | done (code : Nat) (body : Body Payload)
  deriving DecidableEq

structure Request where
  actor : Option String
  method : String
  originalUrl : String
  idempotencyKey : Option String
  requestId : String
  deriving DecidableEq, Repr

/-- The Redis key that guards a request; an absent or empty header guards nothing. -/
def cacheKey (request : Request) : Option String :=
  match request.idempotencyKey with
  | none => none
  | some key =>
      if key = "" then none
      else some ("idem:" ++ request.actor.getD "anon" ++ ":" ++ request.method ++ ":" ++
        request.originalUrl ++ ":" ++ key)

inductive Phase (Payload : Type) where
  | arrived
  | unguarded
  | missed
  | handling
  | answered (code : Nat) (body : Body Payload)
  | settled (code : Nat) (body : Body Payload)
  | rejected (code : Nat) (body : Body Payload)
  | replayed (code : Nat) (body : Body Payload)
  deriving DecidableEq

structure Exchange (Payload : Type) where
  request : Request
  phase : Phase Payload

inductive Input (Payload : Type) where
  | get
  | setNx
  /-- The handler calls `res.status(code).json(value)`, or fails. -/
  | respond (outcome : Except Failure (Nat × Payload))
  /-- Redis processes the write that the answer issued. -/
  | settle

abbrev Redis (Payload : Type) := String → Option (CachedResponse Payload)

variable {Payload : Type}

def successful (code : Nat) : Bool := decide (200 ≤ code) && decide (code < 300)

def sendError (isProduction : Bool) (requestId : String) (failure : Failure) :
    Nat × Body Payload :=
  let answer := errorHandler isProduction requestId failure
  (answer.1, .error answer.2)

/-- The middleware's `ConflictError`, as the error handler answers it. -/
def alreadyProcessing (isProduction : Bool) (requestId : String) : Nat × Body Payload :=
  sendError isProduction requestId
    (.http (conflictError "A request with this Idempotency-Key is already being processed"))

def reject (isProduction : Bool) (requestId : String) : Phase Payload :=
  let answer := alreadyProcessing isProduction requestId
  .rejected answer.1 answer.2

def finish (isProduction : Bool) (requestId : String) :
    Except Failure (Nat × Payload) → Phase Payload
  | .ok (code, value) => .answered code (.payload value)
  | .error failure =>
      let answer := sendError isProduction requestId failure
      .answered answer.1 answer.2

/-- The write of `cacheOnSend`. -/
def cacheOnSend (code : Nat) (body : Body Payload) : Option (CachedResponse Payload) :=
  if successful code then some (.done code body) else none

/-- One step of a request guarded by `slot`. -/
def idempotency (isProduction : Bool) (slot requestId : String) (input : Input Payload)
    (redis : Redis Payload) (phase : Phase Payload) : Redis Payload × Phase Payload :=
  match phase, input with
  | .arrived, .get =>
      match redis slot with
      -- Another request holds the key, or its answer is not cached yet.
      | some .pending => (redis, reject isProduction requestId)
      | some (.done code body) => (redis, .replayed code body)
      | none => (redis, .missed)
  | .missed, .setNx =>
      match redis slot with
      -- Another request was faster since the `get`.
      | some _ => (redis, reject isProduction requestId)
      | none => (Function.update redis slot (some .pending), .handling)
  | .handling, .respond outcome => (redis, finish isProduction requestId outcome)
  -- The write was not awaited; a failed answer deletes the key.
  | .answered code body, .settle =>
      (Function.update redis slot (cacheOnSend code body), .settled code body)
  | phase, _ => (redis, phase)

def exec (isProduction : Bool) (input : Input Payload) (redis : Redis Payload)
    (exchange : Exchange Payload) : Redis Payload × Exchange Payload :=
  match cacheKey exchange.request with
  | none => (redis, { exchange with phase := .unguarded })
  | some slot =>
      let next := idempotency isProduction slot exchange.request.requestId input redis exchange.phase
      (next.1, { exchange with phase := next.2 })

def machine (isProduction : Bool) :
    Machine (Redis Payload) (Exchange Payload) (Input Payload) Empty where
  exec := exec isProduction
  ambient change := change.elim

abbrev State (Payload : Type) := System (Redis Payload) (Exchange Payload)

def start (redis : Redis Payload) (requests : Nat → Request) : State Payload :=
  ⟨redis, fun index => ⟨requests index, .arrived⟩⟩

inductive Cell (Payload : Type) where
  | free
  | held (index : Nat)
  | leaving (index : Nat)
  | won (index : Nat) (code : Nat) (body : Body Payload)

/-- What request `index` may do to the cell. -/
inductive Cell.Moves (index : Nat) : Cell Payload → Cell Payload → Prop where
  | acquire : Moves index .free (.held index)
  | fail : Moves index (.held index) (.leaving index)
  | release : Moves index (.leaving index) .free
  | win (code : Nat) (body : Body Payload) : successful code = true →
      Moves index (.held index) (.won index code body)

def Cell.Next (before after : Cell Payload) : Prop := ∃ index, Cell.Moves index before after

theorem won_final (index : Nat) (code : Nat) (body : Body Payload) (after : Cell Payload)
    (moves : Relation.ReflTransGen Cell.Next (.won index code body) after) :
    after = .won index code body := by
  induction moves with
  | refl => rfl
  | tail _ last ih =>
      subst ih
      obtain ⟨_, impossible⟩ := last
      cases impossible

/-- What the phase of request `index` says about the cell. -/
def Agrees (isProduction : Bool) (requestId : String) (cell : Cell Payload) (index : Nat) :
    Phase Payload → Prop
  | .arrived | .missed => True
  | .unguarded => False
  | .handling => cell = .held index
  | .answered code body =>
      if successful code then cell = .won index code body else cell = .leaving index
  | .settled code body => successful code = true → cell = .won index code body
  | .rejected code body => (code, body) = alreadyProcessing isProduction requestId
  | .replayed code body => ∃ winner, cell = .won winner code body

/-- What the cell says about the Redis entry and about its holder. -/
def Anchored (slot : String) (system : State Payload) : Cell Payload → Prop
  | .free => system.store slot = none
  | .held index =>
      system.store slot = some .pending ∧ cacheKey (system.procs index).request = some slot ∧
        (system.procs index).phase = .handling
  | .leaving index =>
      system.store slot = some .pending ∧ cacheKey (system.procs index).request = some slot ∧
        ∃ code body, (system.procs index).phase = .answered code body ∧ successful code = false
  | .won index code body =>
      successful code = true ∧ cacheKey (system.procs index).request = some slot ∧
        ((system.store slot = some .pending ∧ (system.procs index).phase = .answered code body) ∨
          (system.store slot = some (.done code body) ∧
            (system.procs index).phase = .settled code body))

structure Represents (isProduction : Bool) (slot : String) (system : State Payload)
    (cell : Cell Payload) : Prop where
  agrees : ∀ index, cacheKey (system.procs index).request = some slot →
    Agrees isProduction (system.procs index).request.requestId cell index
      (system.procs index).phase
  anchored : Anchored slot system cell

/-- The state after request `index` reached `phase` with Redis as `redis`. -/
def put (system : State Payload) (index : Nat) (redis : Redis Payload) (phase : Phase Payload) :
    State Payload :=
  ⟨redis, Function.update system.procs index { system.procs index with phase }⟩

section Put

variable (isProduction : Bool) (slot : String) (system : State Payload) (index : Nat)
  (redis : Redis Payload) (phase : Phase Payload)

@[simp] theorem put_store : (put system index redis phase).store = redis := rfl

@[simp] theorem put_request (other : Nat) :
    ((put system index redis phase).procs other).request = (system.procs other).request := by
  by_cases same : other = index
  · subst other
    simp [put]
  · simp [put, same]

@[simp] theorem put_phase : ((put system index redis phase).procs index).phase = phase := by
  simp [put]

theorem put_phase_other (other : Nat) (different : other ≠ index) :
    ((put system index redis phase).procs other).phase = (system.procs other).phase := by
  simp [put, different]

theorem put_self : put system index system.store (system.procs index).phase = system := by
  simp [put]

theorem step_guarded (input : Input Payload)
    (guarded : cacheKey (system.procs index).request = some slot) :
    (machine isProduction).step system (.act index input) =
      let next := idempotency isProduction slot (system.procs index).request.requestId input
        system.store (system.procs index).phase
      put system index next.1 next.2 := by
  simp [Machine.step, machine, exec, guarded, put]

theorem agrees_moves (requestId : String) (before after : Cell Payload) (other : Nat)
    (different : other ≠ index) (moves : Cell.Moves index before after)
    (agrees : Agrees isProduction requestId before other phase) :
    Agrees isProduction requestId after other phase := by
  cases phase with
  | handling => cases moves <;> simp_all [Agrees]
  | answered code body => cases moves <;> simp only [Agrees] at agrees <;> split at agrees <;> simp_all
  | settled code body => cases moves <;> simp_all [Agrees]
  | replayed code body => cases moves <;> simp_all [Agrees]
  | _ => exact agrees

/-- A phase the specification's holder is never in. -/
def Phase.light : Phase Payload → Bool
  | .arrived | .missed => true
  | _ => false

/-- A step that leaves the key alone, by a request that holds nothing. -/
theorem put_quiet (cell : Cell Payload) (valid : Represents isProduction slot system cell)
    (light : (system.procs index).phase.light = true) (same : redis slot = system.store slot)
    (agrees : Agrees isProduction (system.procs index).request.requestId cell index phase) :
    Represents isProduction slot (put system index redis phase) cell := by
  constructor
  · intro other guarded
    rw [put_request] at guarded ⊢
    by_cases acting : other = index
    · subst other
      rwa [put_phase]
    · rw [put_phase_other _ _ _ _ _ acting]
      exact valid.agrees other guarded
  · have apart : ∀ holder, (system.procs holder).phase.light = false → holder ≠ index := by
      rintro holder heavy rfl
      simp [light] at heavy
    have anchored := valid.anchored
    cases cell with
    | free => simpa [Anchored, same] using anchored
    | held holder =>
        obtain ⟨entry, guarded, phaseOf⟩ := anchored
        have different := apart holder (by simp [phaseOf, Phase.light])
        simp [Anchored, same, entry, guarded, phaseOf, put_phase_other, different]
    | leaving holder =>
        obtain ⟨entry, guarded, code, body, phaseOf, failed⟩ := anchored
        have different := apart holder (by simp [phaseOf, Phase.light])
        simp [Anchored, same, entry, guarded, phaseOf, put_phase_other, different, failed]
    | won holder code body =>
        obtain ⟨success, guarded, entry⟩ := anchored
        have different : holder ≠ index := by
          rcases entry with ⟨_, phaseOf⟩ | ⟨_, phaseOf⟩ <;>
            exact apart holder (by simp [phaseOf, Phase.light])
        refine ⟨success, by simpa using guarded, ?_⟩
        rw [put_phase_other _ _ _ _ _ different, put_store, same]
        exact entry

theorem put_moves (before after : Cell Payload)
    (valid : Represents isProduction slot system before) (moves : Cell.Moves index before after)
    (agrees : Agrees isProduction (system.procs index).request.requestId after index phase)
    (anchored : Anchored slot (put system index redis phase) after) :
    Represents isProduction slot (put system index redis phase) after := by
  refine ⟨fun other guarded => ?_, anchored⟩
  rw [put_request] at guarded ⊢
  by_cases acting : other = index
  · subst other
    rwa [put_phase]
  · rw [put_phase_other _ _ _ _ _ acting]
    exact agrees_moves isProduction index _ _ before after other acting moves
      (valid.agrees other guarded)

end Put

section Steps

variable (isProduction : Bool) (slot : String) (system : State Payload) (index : Nat)
  (cell : Cell Payload) (valid : Represents isProduction slot system cell)
  (guarded : cacheKey (system.procs index).request = some slot)

include valid

theorem reject_represents (light : (system.procs index).phase.light = true) :
    Represents isProduction slot
      (put system index system.store (reject isProduction (system.procs index).request.requestId))
      cell :=
  put_quiet isProduction slot system index _ _ cell valid light rfl rfl

theorem entry_done (code : Nat) (body : Body Payload)
    (entry : system.store slot = some (.done code body)) : ∃ winner, cell = .won winner code body := by
  have anchored := valid.anchored
  cases cell with
  | won winner code' body' =>
      obtain ⟨_, _, ⟨pending, _⟩ | ⟨done, _⟩⟩ := anchored <;> simp_all
  | _ => simp_all [Anchored]

theorem entry_none (entry : system.store slot = none) : cell = .free := by
  have anchored := valid.anchored
  cases cell with
  | free => rfl
  | won winner code body =>
      obtain ⟨_, _, ⟨pending, _⟩ | ⟨done, _⟩⟩ := anchored <;> simp_all
  | _ => simp_all [Anchored]

include guarded

theorem acquire_represents (entry : system.store slot = none) :
    Represents isProduction slot
      (put system index (Function.update system.store slot (some .pending)) .handling)
      (.held index) := by
  have free := entry_none isProduction slot system cell valid entry
  subst free
  apply put_moves isProduction slot system index _ _ _ _ valid .acquire
  · simp [Agrees]
  · simp [Anchored, guarded]

theorem respond_represents (handles : (system.procs index).phase = .handling)
    (code : Nat) (body : Body Payload) :
    ∃ after, Cell.Moves index cell after ∧
      Represents isProduction slot (put system index system.store (.answered code body)) after := by
  have holds : cell = .held index := by
    simpa [handles, Agrees] using valid.agrees index guarded
  subst holds
  obtain ⟨entry, _, _⟩ := valid.anchored
  by_cases success : successful code = true
  · refine ⟨_, .win code body success, ?_⟩
    apply put_moves isProduction slot system index _ _ _ _ valid (.win code body success)
    · simp [Agrees, success]
    · simp [Anchored, success, guarded, entry]
  · refine ⟨_, .fail, ?_⟩
    apply put_moves isProduction slot system index _ _ _ _ valid .fail
    · simp [Agrees, success]
    · simp [Anchored, success, guarded, entry]

theorem settle_represents (code : Nat) (body : Body Payload)
    (answered : (system.procs index).phase = .answered code body) :
    ∃ after, (after = cell ∨ Cell.Moves index cell after) ∧
      Represents isProduction slot
        (put system index (Function.update system.store slot (cacheOnSend code body))
          (.settled code body)) after := by
  have agrees := valid.agrees index guarded
  simp only [answered, Agrees] at agrees
  by_cases success : successful code = true
  · simp only [success, if_true] at agrees
    subst agrees
    refine ⟨_, Or.inl rfl, ?_, ?_⟩
    · intro other otherGuarded
      rw [put_request] at otherGuarded ⊢
      by_cases acting : other = index
      · subst other
        simp [Agrees]
      · rw [put_phase_other _ _ _ _ _ acting]
        exact valid.agrees other otherGuarded
    · simp [Anchored, success, guarded, cacheOnSend]
  · simp only [success] at agrees
    subst agrees
    refine ⟨_, Or.inr .release, ?_⟩
    apply put_moves isProduction slot system index _ _ _ _ valid .release
    · simp [Agrees, success]
    · simp [Anchored, success, cacheOnSend]

/-- One step of a request guarded by the key is at most one move of the cell. -/
theorem guarded_represents (input : Input Payload) :
    ∃ after, (after = cell ∨ Cell.Moves index cell after) ∧
      Represents isProduction slot ((machine isProduction).step system (.act index input))
        after := by
  rw [step_guarded isProduction slot system index input guarded]
  unfold idempotency
  split
  · next arrived =>
      have light : (system.procs index).phase.light = true := by rw [arrived]; rfl
      split
      · exact ⟨cell, Or.inl rfl, reject_represents isProduction slot system index cell valid light⟩
      -- A cached answer is that of the winner.
      · next code body entry =>
          refine ⟨cell, Or.inl rfl, ?_⟩
          exact put_quiet isProduction slot system index _ _ cell valid light rfl
            (entry_done isProduction slot system cell valid code body entry)
      · exact ⟨cell, Or.inl rfl,
          put_quiet isProduction slot system index _ _ cell valid light rfl trivial⟩
  · next missed =>
      have light : (system.procs index).phase.light = true := by rw [missed]; rfl
      split
      · exact ⟨cell, Or.inl rfl, reject_represents isProduction slot system index cell valid light⟩
      · next entry =>
          -- Without an entry nobody holds the key.
          have free := entry_none isProduction slot system cell valid entry
          refine ⟨.held index, Or.inr (free ▸ .acquire), ?_⟩
          exact acquire_represents isProduction slot system index cell valid guarded entry
  · next outcome handles =>
      have responds := respond_represents isProduction slot system index cell valid guarded handles
      unfold finish
      split
      · next code value =>
          obtain ⟨after, moves, represents⟩ := responds code (.payload value)
          exact ⟨after, Or.inr moves, represents⟩
      · next failure =>
          obtain ⟨after, moves, represents⟩ := responds
            (sendError isProduction _ failure).1 (sendError isProduction _ failure).2
          exact ⟨after, Or.inr moves, represents⟩
  · next code body answered =>
      exact settle_represents isProduction slot system index cell valid guarded code body answered
  · rw [put_self]
    exact ⟨cell, Or.inl rfl, valid⟩

omit guarded in
theorem foreign_represents (input : Input Payload)
    (foreign : cacheKey (system.procs index).request ≠ some slot) :
    Represents isProduction slot ((machine isProduction).step system (.act index input)) cell := by
  have kept : ∃ redis phase, (machine isProduction).step system (.act index input) =
      put system index redis phase ∧ redis slot = system.store slot := by
    cases key : cacheKey (system.procs index).request with
    | none =>
        exact ⟨system.store, .unguarded, by simp [Machine.step, machine, exec, key, put], rfl⟩
    | some other =>
        rw [key] at foreign
        -- It is guarded by another key, and only writes there.
        have different : slot ≠ other := fun same => foreign (by rw [same])
        refine ⟨_, _, step_guarded isProduction other system index input key, ?_⟩
        unfold idempotency
        split
        · split <;> rfl
        · split
          · rfl
          · simp [different]
        · rfl
        · simp [different]
        · rfl
  obtain ⟨redis, phase, step, same⟩ := kept
  rw [step]
  have others : ∀ holder, cacheKey (system.procs holder).request = some slot →
      ((put system index redis phase).procs holder).phase = (system.procs holder).phase := by
    rintro holder guarded
    apply put_phase_other
    rintro rfl
    exact foreign guarded
  constructor
  · intro holder guarded
    rw [put_request] at guarded ⊢
    rw [others holder guarded]
    exact valid.agrees holder guarded
  · have anchored := valid.anchored
    cases cell with
    | free => simpa [Anchored, same] using anchored
    | held holder => simpa [Anchored, same, others holder anchored.2.1] using anchored
    | leaving holder => simpa [Anchored, same, others holder anchored.2.1] using anchored
    | won holder code body => simpa [Anchored, same, others holder anchored.2.1] using anchored

end Steps

/-- The requests refine the specification of the key that guards them. -/
theorem run_represents (isProduction : Bool) (slot : String) (system : State Payload)
    (events : List (Event (Input Payload) Empty)) (cell : Cell Payload)
    (valid : Represents isProduction slot system cell) :
    ∃ after, Relation.ReflTransGen Cell.Next cell after ∧
      Represents isProduction slot ((machine isProduction).run system events) after := by
  apply run_simulates (machine isProduction) Cell.Next (Represents isProduction slot) _ system
    events cell valid
  intro current event before represents
  cases event with
  | act index input =>
      by_cases guarded : cacheKey (current.procs index).request = some slot
      · obtain ⟨after, moved, next⟩ :=
          guarded_represents isProduction slot current index before represents guarded input
        refine ⟨after, ?_, next⟩
        rcases moved with rfl | moves
        · exact .refl
        · exact .single ⟨index, moves⟩
      · exact ⟨before, .refl,
          foreign_represents isProduction slot current index before represents input guarded⟩
  | env change => cases change

/-- The phases of a request whose route handler was reached. -/
def Phase.entered : Phase Payload → Bool
  | .handling | .answered _ _ | .settled _ _ => true
  | _ => false

section Entered

variable (isProduction : Bool) (slot requestId : String) (input : Input Payload)
  (redis : Redis Payload) (phase : Phase Payload)

/-- Only a request that reaches its handler, or has reached it, writes to Redis. -/
theorem idempotency_writes
    (wrote : (idempotency isProduction slot requestId input redis phase).1 ≠ redis) :
    (idempotency isProduction slot requestId input redis phase).2.entered = true := by
  revert wrote
  unfold idempotency
  split
  · split <;> simp
  · split <;> simp [Phase.entered]
  · simp
  · simp [Phase.entered]
  · simp

theorem idempotency_entered (entered : phase.entered = true) :
    (idempotency isProduction slot requestId input redis phase).2.entered = true := by
  revert entered
  unfold idempotency
  split
  · simp [Phase.entered]
  · simp [Phase.entered]
  · intro _
    unfold finish
    split <;> rfl
  · simp [Phase.entered]
  · simp

end Entered

section Runs

variable (isProduction : Bool)

def Guarded (slot : String) (system : State Payload) (index : Nat) : Prop :=
  cacheKey (system.procs index).request = some slot

theorem step_request (system : State Payload) (event : Event (Input Payload) Empty) (index : Nat) :
    (((machine isProduction).step system event).procs index).request =
      (system.procs index).request := by
  cases event with
  | act acting input =>
      by_cases same : index = acting
      · subst acting
        simp only [step_self, machine, exec]
        split <;> rfl
      · simp [same]
  | env change => cases change

theorem run_request (system : State Payload) (events : List (Event (Input Payload) Empty))
    (index : Nat) :
    (((machine isProduction).run system events).procs index).request =
      (system.procs index).request := by
  apply run_invariant (machine isProduction)
    (fun current => (current.procs index).request = (system.procs index).request)
  · intro current event kept
    rw [step_request, kept]
  · rfl

theorem step_entered (slot : String) (system : State Payload)
    (event : Event (Input Payload) Empty) (index : Nat) (guarded : Guarded slot system index)
    (entered : (system.procs index).phase.entered = true) :
    (((machine isProduction).step system event).procs index).phase.entered = true := by
  cases event with
  | act acting input =>
      by_cases same : index = acting
      · subst acting
        rw [step_guarded isProduction slot system index input guarded, put_phase]
        exact idempotency_entered _ _ _ _ _ _ entered
      · simpa [same] using entered
  | env change => cases change

theorem run_entered (slot : String) (system : State Payload)
    (events : List (Event (Input Payload) Empty)) (index : Nat)
    (guarded : Guarded slot system index)
    (entered : (system.procs index).phase.entered = true) :
    (((machine isProduction).run system events).procs index).phase.entered = true := by
  refine (run_invariant (machine isProduction)
    (fun current => Guarded slot current index ∧ (current.procs index).phase.entered = true)
    ?_ system events ⟨guarded, entered⟩).2
  rintro current event ⟨key, inside⟩
  constructor
  · rw [Guarded, step_request]
    exact key
  · exact step_entered isProduction slot current event index key inside

/-- No step of request `index` changes Redis. -/
def Untouched (index : Nat) (system : State Payload) (event : Event (Input Payload) Empty) : Prop :=
  ∀ input, event = .act index input →
    ((machine isProduction).step system event).store = system.store

/-- A request that ends without reaching its handler has never written. -/
theorem run_untouched (slot : String) (system : State Payload)
    (events : List (Event (Input Payload) Empty)) (index : Nat)
    (guarded : Guarded slot system index)
    (outside : (((machine isProduction).run system events).procs index).phase.entered = false) :
    (machine isProduction).Along (Untouched isProduction index) system events := by
  induction events generalizing system with
  | nil => trivial
  | cons event rest ih =>
      have next : Guarded slot ((machine isProduction).step system event) index := by
        rw [Guarded, step_request]
        exact guarded
      refine ⟨?_, ih _ next outside⟩
      rintro input rfl
      by_contra wrote
      have entered : ((((machine isProduction).step system (.act index input)).procs
          index).phase).entered = true := by
        rw [step_guarded isProduction slot system index input guarded] at wrote ⊢
        rw [put_phase]
        exact idempotency_writes _ _ _ _ _ _ wrote
      have final := run_entered isProduction slot _ rest index next entered
      simp [Machine.run] at outside
      simp [outside] at final

end Runs

/-- Request `index` answered from its handler with `code` and `body`. -/
def Answered (system : State Payload) (index code : Nat) (body : Body Payload) : Prop :=
  (system.procs index).phase = .answered code body ∨
    (system.procs index).phase = .settled code body

/-- What one key guarantees after a run that ends in `final`. -/
structure Guarantees (isProduction : Bool) (slot : String) (initial : State Payload)
    (events : List (Event (Input Payload) Empty)) (final : State Payload) : Prop where
  exclusive : ∀ first second, Guarded slot final first → Guarded slot final second →
    (final.procs first).phase = .handling → (final.procs second).phase = .handling →
      first = second
  once : ∀ index code body, Guarded slot final index → Answered final index code body →
    successful code = true → ∀ more other, Guarded slot final other →
      (((machine isProduction).run final more).procs other).phase ≠ .handling
  winner : ∀ first second code body code' body', Guarded slot final first →
    Guarded slot final second → Answered final first code body →
      Answered final second code' body' → successful code = true → successful code' = true →
        first = second
  /-- A request is on its way to the handler, reached it, or got one of two answers. -/
  replies : ∀ index, Guarded slot final index →
    (final.procs index).phase.light = true ∨ (final.procs index).phase.entered = true ∨
      (∃ body, (final.procs index).phase = .rejected 409 body) ∨
      ∃ code body, (final.procs index).phase = .replayed code body ∧ successful code = true ∧
        ∃ other, Guarded slot final other ∧ Answered final other code body
  progress : ∀ index, Guarded slot final index →
    (((machine isProduction).run final [.act index .get, .act index .setNx]).procs
      index).phase.light = false
  untouched : ∀ index code body, Guarded slot final index →
    (final.procs index).phase = .rejected code body →
      (machine isProduction).Along (Untouched isProduction index) initial events
  released : ∀ index code body, Guarded slot final index →
    (final.procs index).phase = .answered code body → successful code = false →
      final.store slot = some .pending ∧
        ((machine isProduction).step final (.act index .settle)).store slot = none

theorem answered_won (isProduction : Bool) (slot : String) (system : State Payload)
    (cell : Cell Payload) (valid : Represents isProduction slot system cell) (index code : Nat)
    (body : Body Payload) (guarded : Guarded slot system index)
    (answered : Answered system index code body) (success : successful code = true) :
    cell = .won index code body := by
  have agrees := valid.agrees index guarded
  rcases answered with phase | phase
  · simpa [phase, Agrees, success] using agrees
  · simpa [phase, Agrees, success] using agrees

theorem won_answered (isProduction : Bool) (slot : String) (system : State Payload)
    (index code : Nat) (body : Body Payload)
    (valid : Represents isProduction slot system (.won index code body)) :
    Guarded slot system index ∧ Answered system index code body ∧ successful code = true := by
  obtain ⟨success, guarded, ⟨_, phase⟩ | ⟨_, phase⟩⟩ := valid.anchored
  · exact ⟨guarded, Or.inl phase, success⟩
  · exact ⟨guarded, Or.inr phase, success⟩

section Progress

variable (isProduction : Bool) (slot requestId : String) (redis : Redis Payload)
  (phase : Phase Payload)

theorem idempotency_get :
    (idempotency isProduction slot requestId .get redis phase).2 ≠ .arrived := by
  cases phase with
  | arrived =>
      simp only [idempotency]
      split <;> simp [reject]
  | _ => simp [idempotency]

theorem idempotency_setNx (asked : phase ≠ .arrived) :
    (idempotency isProduction slot requestId .setNx redis phase).2.light = false := by
  cases phase with
  | arrived => contradiction
  | missed =>
      simp only [idempotency]
      split <;> rfl
  | _ => rfl

end Progress

theorem represents_replies (isProduction : Bool) (slot : String) (system : State Payload)
    (cell : Cell Payload) (valid : Represents isProduction slot system cell) (index : Nat)
    (guarded : Guarded slot system index) :
    (system.procs index).phase.light = true ∨ (system.procs index).phase.entered = true ∨
      (∃ body, (system.procs index).phase = .rejected 409 body) ∨
      ∃ code body, (system.procs index).phase = .replayed code body ∧ successful code = true ∧
        ∃ other, Guarded slot system other ∧ Answered system other code body := by
  have agrees := valid.agrees index guarded
  cases phase : (system.procs index).phase with
  | arrived | missed => exact Or.inl rfl
  | unguarded => simp [phase, Agrees] at agrees
  | handling | answered | settled => exact Or.inr (Or.inl rfl)
  | rejected code body =>
      rw [phase] at agrees
      obtain ⟨rfl, rfl⟩ := Prod.mk.inj agrees
      exact Or.inr (Or.inr (Or.inl ⟨_, rfl⟩))
  | replayed code body =>
      rw [phase] at agrees
      obtain ⟨winner, rfl⟩ := agrees
      obtain ⟨key, answered, success⟩ := won_answered isProduction slot system winner code body valid
      exact Or.inr (Or.inr (Or.inr ⟨code, body, rfl, success, winner, key, answered⟩))

theorem start_represents (isProduction : Bool) (slot : String) (redis : Redis Payload)
    (requests : Nat → Request) (empty : redis slot = none) :
    Represents isProduction slot (start redis requests) .free where
  agrees _ _ := trivial
  anchored := empty

/-- For every interleaving of any number of requests: one handler at a time,
none after a success, and every other request is refused or replayed. -/
theorem idempotency_guarantees (isProduction : Bool) (slot : String) (redis : Redis Payload)
    (requests : Nat → Request) (empty : redis slot = none)
    (events : List (Event (Input Payload) Empty)) :
    Guarantees isProduction slot (start redis requests) events
      ((machine isProduction).run (start redis requests) events) := by
  obtain ⟨cell, _, valid⟩ := run_represents isProduction slot _ events .free
    (start_represents isProduction slot redis requests empty)
  constructor
  -- Two requests in their handlers would both be the holder.
  · intro first second firstKey secondKey firstHandles secondHandles
    have one := valid.agrees first firstKey
    have two := valid.agrees second secondKey
    rw [firstHandles] at one
    rw [secondHandles] at two
    exact Cell.held.inj (one.symm.trans two)
  -- A won cell stays won, so no other request holds the key later.
  · intro index code body key answered success more other otherKey handles
    have won := answered_won isProduction slot _ cell valid index code body key answered success
    subst won
    obtain ⟨after, moves, later⟩ := run_represents isProduction slot _ more _ valid
    have still := won_final index code body after moves
    subst still
    have agrees := later.agrees other (by rw [run_request]; exact otherKey)
    rw [handles] at agrees
    contradiction
  · intro first second code body code' body' firstKey secondKey one two success success'
    have wonOne := answered_won isProduction slot _ cell valid first code body firstKey one success
    have wonTwo := answered_won isProduction slot _ cell valid second code' body' secondKey two success'
    exact (Cell.won.inj (wonOne.symm.trans wonTwo)).1
  · exact represents_replies isProduction slot _ cell valid
  · intro index key
    simp only [Machine.run]
    rw [step_guarded isProduction slot _ index .setNx (by rw [step_request]; exact key), put_phase]
    apply idempotency_setNx
    rw [step_guarded isProduction slot _ index .get key, put_phase]
    exact idempotency_get _ _ _ _ _
  -- A rejected request never reached its handler, so it wrote nothing.
  · intro index code body key rejected
    apply run_untouched isProduction slot _ events index
    · simpa [Guarded, run_request] using key
    · rw [rejected]
      rfl
  · intro index code body key answered failed
    have agrees := valid.agrees index key
    simp only [answered, Agrees, failed] at agrees
    subst agrees
    refine ⟨valid.anchored.1, ?_⟩
    rw [step_guarded isProduction slot _ index .settle key]
    simp [idempotency, answered, cacheOnSend, failed]

/-- Two presses of one button: the second finds the lock, a third the answer. -/
def press (requestId : String) : Request :=
  ⟨some "u", "POST", "/sessions/1/attendance", some "k", requestId⟩

def presses : List (Event (Input String) Empty) :=
  [.act 0 .get, .act 1 .get, .act 0 .setNx, .act 1 .setNx, .act 0 (.respond (.ok (201, "r"))),
    .act 0 .settle, .act 2 .get]

theorem idempotency_presses :
    Guarantees false "idem:u:POST:/sessions/1/attendance:k"
      (start (fun _ => none) fun _ => press "q") presses
      ((machine false).run (start (fun _ => none) fun _ => press "q") presses) :=
  idempotency_guarantees false _ (fun _ => none) (fun _ => press "q") rfl presses

end FaceVec.Http
