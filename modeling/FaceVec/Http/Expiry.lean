import Mathlib.Algebra.Order.Ring.Nat
import Mathlib.Data.Nat.Cast.Order.Ring
import FaceVec.Config
import FaceVec.Http.Idempotency

/-!
`http/middleware/idempotency.ts` over a Redis whose keys expire. The lock and
the cached answer are both written with `EX config.IDEMPOTENCY_TTL_SECONDS`;
an entry is there until its instant, and the clock may be read at any later
instant between two commands. Nothing in an entry says which request put it
there, so the model keeps that beside it: no step reads it.
-/

namespace FaceVec.Http.Expiry

open Interleaving

variable {K Payload : Type}

structure Entry (K Payload : Type) where
  value : CachedResponse Payload
  vanishes : K
  /-- The request whose command put the entry there. -/
  owner : Nat
  deriving DecidableEq

structure Redis (K Payload : Type) where
  now : K
  entries : String → Option (Entry K Payload)

structure Caller (Payload : Type) where
  self : Nat
  exchange : Exchange Payload

abbrev State (K Payload : Type) := System (Redis K Payload) (Caller Payload)

section Commands

variable [LinearOrder K]

/-- The entry of `slot`, unless its time has elapsed. -/
def Redis.entry (redis : Redis K Payload) (slot : String) : Option (Entry K Payload) :=
  (redis.entries slot).filter fun entry => decide (redis.now < entry.vanishes)

/-- What `redis.get` answers for every key. -/
def Redis.visible (redis : Redis K Payload) : Http.Redis Payload :=
  fun slot => (redis.entry slot).map (·.value)

/-- Redis at a later reading of the clock. -/
def Redis.at (redis : Redis K Payload) (instant : K) : Redis K Payload :=
  { redis with now := max redis.now instant }

def Redis.del (redis : Redis K Payload) (slot : String) : Redis K Payload :=
  { redis with entries := Function.update redis.entries slot none }

variable [Semiring K]

/-- `SET slot value EX ttl`. -/
def Redis.set (redis : Redis K Payload) (slot : String) (value : CachedResponse Payload) (ttl : ℕ+)
    (owner : Nat) : Redis K Payload :=
  { redis with
    entries := Function.update redis.entries slot
      (some ⟨value, redis.now + ((ttl : ℕ) : K), owner⟩) }

/-- The write that `cacheOnSend` issues, whoever holds the key by then. -/
def Redis.write (redis : Redis K Payload) (slot : String) (ttl : ℕ+) (owner : Nat) (code : Nat)
    (body : Body Payload) : Redis K Payload :=
  match cacheOnSend code body with
  | some value => redis.set slot value ttl owner
  | none => redis.del slot

/-- What one step of a request guarded by `slot` does to Redis. -/
def commands (ttl : ℕ+) (slot : String) (owner : Nat) (input : Input Payload)
    (redis : Redis K Payload) (phase : Phase Payload) : Redis K Payload :=
  match phase, input with
  | .missed, .setNx =>
      match redis.entry slot with
      | some _ => redis
      | none => redis.set slot .pending ttl owner
  | .answered code body, .settle => redis.write slot ttl owner code body
  | _, _ => redis

def exec (config : Config) (input : Input Payload) (redis : Redis K Payload)
    (caller : Caller Payload) : Redis K Payload × Caller Payload :=
  (match cacheKey caller.exchange.request with
    | none => redis
    | some slot =>
        commands config.IDEMPOTENCY_TTL_SECONDS slot caller.self input redis caller.exchange.phase,
    { caller with
      exchange := (Http.exec config.isProduction input redis.visible caller.exchange).2 })

def machine (config : Config) : Machine (Redis K Payload) (Caller Payload) (Input Payload) K where
  exec := exec config
  ambient instant redis := redis.at instant

end Commands

def start (redis : Redis K Payload) (requests : Nat → Request) : State K Payload :=
  ⟨redis, fun index => ⟨index, requests index, .arrived⟩⟩

section Entries

variable [LinearOrder K] (redis : Redis K Payload) (slot other : String)

theorem entry_at (instant : K) (entry : Entry K Payload)
    (later : (redis.at instant).entry slot = some entry) : redis.entry slot = some entry := by
  obtain ⟨stored, alive⟩ := Option.filter_eq_some_iff.mp later
  have present : redis.now < entry.vanishes := (le_max_left _ _).trans_lt (of_decide_eq_true alive)
  exact Option.filter_eq_some_iff.mpr ⟨stored, decide_eq_true present⟩

@[simp] theorem entry_del : (redis.del slot).entry slot = none := by
  simp [Redis.entry, Redis.del]

@[simp] theorem entry_del_other (different : other ≠ slot) :
    (redis.del slot).entry other = redis.entry other := by
  exact congrArg (Option.filter _) (Function.update_of_ne different _ _)

variable [Semiring K] (value : CachedResponse Payload) (ttl : ℕ+) (owner : Nat)

@[simp] theorem entry_set [IsStrictOrderedRing K] :
    (redis.set slot value ttl owner).entry slot =
      some ⟨value, redis.now + ((ttl : ℕ) : K), owner⟩ := by
  have positive : (0 : K) < ((ttl : ℕ) : K) := Nat.cast_pos.mpr ttl.pos
  simp [Redis.entry, Redis.set, Option.filter, positive]

@[simp] theorem entry_set_other (different : other ≠ slot) :
    (redis.set slot value ttl owner).entry other = redis.entry other := by
  exact congrArg (Option.filter _) (Function.update_of_ne different _ _)

theorem entry_write_other (code : Nat) (body : Body Payload) (different : other ≠ slot) :
    (redis.write slot ttl owner code body).entry other = redis.entry other := by
  unfold Redis.write
  split
  · exact entry_set_other redis slot other _ ttl owner different
  · exact entry_del_other redis slot other different

/-- After the write of an answer no entry of another request is left. -/
theorem entry_write_owner [IsStrictOrderedRing K] (code : Nat) (body : Body Payload)
    (entry : Entry K Payload)
    (left : (redis.write slot ttl owner code body).entry slot = some entry) :
    entry.owner = owner := by
  unfold Redis.write at left
  split at left
  · rw [entry_set] at left
    cases left
    rfl
  · rw [entry_del] at left
    cases left

end Entries

section Requests

variable [LinearOrder K]

/-- The requests and the visible entries, as the module without expiry has them. -/
def view (system : State K Payload) : Http.State Payload :=
  ⟨system.store.visible, fun index => (system.procs index).exchange⟩

/-- Request `index` is past its lock, and its answer's write is not processed yet. -/
def Phase.inFlight : Phase Payload → Bool
  | .handling | .answered _ _ => true
  | _ => false

def InFlight (slot : String) (system : State K Payload) (index : Nat) : Prop :=
  Guarded slot (view system) index ∧
    Phase.inFlight (system.procs index).exchange.phase = true

theorem inFlight_slot (system : State K Payload) (index : Nat) (slot other : String) (one : InFlight slot system index)
    (two : InFlight other system index) : slot = other :=
  Option.some.inj (one.1.symm.trans two.1)

variable [Semiring K] (config : Config)

/-- What a step of a guarded request does to Redis and to its phase. -/
inductive Turn (ttl : ℕ+) (slot : String) (owner : Nat) (redis : Redis K Payload) :
    Input Payload → Phase Payload → Redis K Payload → Phase Payload → Prop where
  | quiet (input : Input Payload) (phase after : Phase Payload) :
      (Phase.inFlight after = true → Phase.inFlight phase = true) →
      Turn ttl slot owner redis input phase redis after
  | acquired : redis.entry slot = none →
      Turn ttl slot owner redis .setNx .missed (redis.set slot .pending ttl owner) .handling
  | released (code : Nat) (body : Body Payload) :
      Turn ttl slot owner redis .settle (.answered code body)
        (redis.write slot ttl owner code body) (.settled code body)

theorem idempotency_turn (isProduction : Bool) (requestId : String) (ttl : ℕ+) (slot : String)
    (owner : Nat) (input : Input Payload) (redis : Redis K Payload) (phase : Phase Payload) :
    Turn ttl slot owner redis input phase (commands ttl slot owner input redis phase)
      (idempotency isProduction slot requestId input redis.visible phase).2 := by
  unfold idempotency
  split
  · split <;> exact .quiet _ _ _ nofun
  · have read : redis.visible slot = (redis.entry slot).map (·.value) := rfl
    rw [read, commands]
    cases free : redis.entry slot with
    | none => exact .acquired free
    | some entry => exact .quiet _ _ _ nofun
  · exact .quiet _ _ _ fun _ => rfl
  · exact .released _ _
  · unfold commands
    split
    · simp_all
    · simp_all
    · exact .quiet _ _ _ id

/-- The same, as a step of the whole system. -/
inductive Acts (system : State K Payload) (index : Nat) :
    Input Payload → State K Payload → Prop where
  | quiet (input : Input Payload) (after : State K Payload) :
      after.store = system.store →
      (∀ slot, InFlight slot after index → InFlight slot system index) →
      Acts system index input after
  | acquired (slot : String) (after : State K Payload) :
      Guarded slot (view system) index →
      (system.procs index).exchange.phase = .missed →
      system.store.entry slot = none →
      after.store = system.store.set slot .pending config.IDEMPOTENCY_TTL_SECONDS
        (system.procs index).self →
      InFlight slot after index →
      Acts system index .setNx after
  | released (slot : String) (code : Nat) (body : Body Payload) (after : State K Payload) :
      InFlight slot system index →
      after.store = system.store.write slot config.IDEMPOTENCY_TTL_SECONDS
        (system.procs index).self code body →
      (∀ other, ¬ InFlight other after index) →
      Acts system index .settle after

theorem act_acts (system : State K Payload) (index : Nat) (input : Input Payload) :
    Acts config system index input ((machine config).step system (.act index input)) := by
  have key (slot : String) : Guarded slot (view ((machine config).step system (.act index input)))
      index ↔ Guarded slot (view system) index := by
    simp only [Guarded, view, step_self, machine, exec, Http.exec]
    split <;> rfl
  cases guarded : cacheKey (system.procs index).exchange.request with
  | none =>
      refine .quiet input _ ?_ ?_
      · simp [machine, exec, guarded]
      · rintro slot ⟨held, _⟩
        have absent := (key slot).mp held
        simp [Guarded, view, guarded] at absent
  | some slot =>
      have turn := idempotency_turn config.isProduction
        (system.procs index).exchange.request.requestId config.IDEMPOTENCY_TTL_SECONDS slot
        (system.procs index).self input system.store (system.procs index).exchange.phase
      have store : ((machine config).step system (.act index input)).store =
          commands config.IDEMPOTENCY_TTL_SECONDS slot (system.procs index).self input
            system.store (system.procs index).exchange.phase := by
        simp [machine, exec, guarded]
      have phase : (((machine config).step system (.act index input)).procs
          index).exchange.phase = (idempotency config.isProduction slot
            (system.procs index).exchange.request.requestId input system.store.visible
            (system.procs index).exchange.phase).2 := by
        simp [machine, exec, Http.exec, guarded]
      rw [← store, ← phase] at turn
      generalize before : (system.procs index).exchange.phase = was at turn
      generalize later : (((machine config).step system (.act index input)).procs
        index).exchange.phase = is at turn
      generalize stored : ((machine config).step system (.act index input)).store = left at turn
      cases turn with
      | quiet _ _ _ kept =>
          refine .quiet input _ stored fun other flying => ⟨(key other).mp flying.1, ?_⟩
          rw [before]
          apply kept
          rw [← later]
          exact flying.2
      | acquired free =>
          refine .acquired slot _ guarded before free stored ⟨(key slot).mpr guarded, ?_⟩
          rw [later]
          rfl
      | released code body =>
          refine .released slot code body _ ⟨guarded, ?_⟩ stored fun other flying => ?_
          · rw [before]
            rfl
          · have landed := flying.2
            rw [later] at landed
            cases landed

end Requests

section Runs

variable [LinearOrder K]

/-- A request takes the lock only while no other one of its key is in flight. -/
def Sole (system : State K Payload) : Event (Input Payload) K → Prop
  | .act index .setNx => ∀ slot, Guarded slot (view system) index →
      (system.procs index).exchange.phase = .missed → system.store.entry slot = none →
        ∀ other, ¬ InFlight slot system other
  | _ => True

/-- Whoever is in flight is the only one of its key, and the entry there is its own. -/
structure Held (system : State K Payload) : Prop where
  self : ∀ index, (system.procs index).self = index
  only : ∀ slot first second, InFlight slot system first → InFlight slot system second →
    first = second
  own : ∀ slot index entry, InFlight slot system index → system.store.entry slot = some entry →
    entry.owner = index

theorem start_held (redis : Redis K Payload) (requests : Nat → Request) :
    Held (start redis requests) where
  self _ := rfl
  only _ _ _ flying := nomatch flying.2
  own _ _ _ flying := nomatch flying.2

variable [Semiring K] (config : Config)

/-- The write that an answer issued leaves the entries of the other requests as they are. -/
def Spares (system : State K Payload) : Event (Input Payload) K → Prop
  | .act index .settle => ∀ slot entry, system.store.entry slot = some entry →
      entry.owner ≠ index →
        ((machine config).step system (.act index .settle)).store.entry slot = some entry
  | _ => True

variable (system : State K Payload)

theorem step_self_number (event : Event (Input Payload) K) (index : Nat) :
    (((machine config).step system event).procs index).self = (system.procs index).self := by
  cases event with
  | act acting input =>
      by_cases same : index = acting
      · subst acting
        rw [step_self]
        rfl
      · rw [step_other _ _ _ _ _ same]
  | env instant => rfl

theorem inFlight_other (slot : String) (index other : Nat) (input : Input Payload)
    (different : other ≠ index) :
    InFlight slot ((machine config).step system (.act index input)) other ↔
      InFlight slot system other := by
  simp only [InFlight, Guarded, view]
  rw [step_other _ _ _ _ _ different]

/-- A request in flight after a step was there before, with its entry, or has
just taken the lock and is alone with it. -/
theorem act_inFlight [IsStrictOrderedRing K] (held : Held system) (index : Nat)
    (input : Input Payload) (sole : Sole system (.act index input)) (slot : String) (other : Nat)
    (flying : InFlight slot ((machine config).step system (.act index input)) other) :
    (InFlight slot system other ∧
        ((machine config).step system (.act index input)).store.entry slot =
          system.store.entry slot) ∨
      ((∀ third, InFlight slot ((machine config).step system (.act index input)) third →
          third = index) ∧
        ∃ entry, ((machine config).step system (.act index input)).store.entry slot = some entry ∧
          entry.owner = index) := by
  have others (third : Nat) (different : third ≠ index) :=
    inFlight_other config system slot index third input different
  have acts := act_acts config system index input
  generalize (machine config).step system (.act index input) = after at others acts flying ⊢
  cases acts with
  | quiet _ _ store kept =>
      left
      rw [store]
      by_cases acting : other = index
      · subst other
        exact ⟨kept slot flying, rfl⟩
      · exact ⟨(others other acting).mp flying, rfl⟩
  | acquired name _ guarded missed free store flies =>
      by_cases same : slot = name
      · subst name
        right
        refine ⟨fun third flying => ?_, ?_⟩
        -- Nobody was in flight at this key, so whoever is now is the one that took it.
        · by_contra different
          exact sole slot guarded missed free third ((others third different).mp flying)
        · rw [store, entry_set]
          exact ⟨_, rfl, held.self index⟩
      · left
        have different : other ≠ index := by
          rintro rfl
          exact same (inFlight_slot after other slot name flying flies)
        rw [store, entry_set_other _ _ _ _ _ _ same]
        exact ⟨(others other different).mp flying, rfl⟩
  | released name code body _ flew store landed =>
      left
      have different : other ≠ index := by
        rintro rfl
        exact landed slot flying
      have before := (others other different).mp flying
      have apart : slot ≠ name := by
        rintro rfl
        exact different (held.only slot other index before flew)
      rw [store, entry_write_other _ _ _ _ _ _ _ apart]
      exact ⟨before, rfl⟩

theorem act_held [IsStrictOrderedRing K] (held : Held system) (index : Nat)
    (input : Input Payload) (sole : Sole system (.act index input)) :
    Held ((machine config).step system (.act index input)) where
  self other := by
    rw [step_self_number]
    exact held.self other
  only slot first second one two := by
    rcases act_inFlight config system held index input sole slot first one with
      ⟨before, _⟩ | ⟨alone, _⟩
    · rcases act_inFlight config system held index input sole slot second two with
        ⟨before', _⟩ | ⟨alone, _⟩
      · exact held.only slot first second before before'
      · exact (alone first one).trans (alone second two).symm
    · exact (alone first one).trans (alone second two).symm
  own slot other entry flying present := by
    rcases act_inFlight config system held index input sole slot other flying with
      ⟨before, same⟩ | ⟨alone, taken, stored, owner⟩
    · rw [same] at present
      exact held.own slot other entry before present
    · rw [stored] at present
      cases present
      rw [alone other flying]
      exact owner

theorem step_held [IsStrictOrderedRing K] (event : Event (Input Payload) K) (held : Held system)
    (sole : Sole system event) : Held ((machine config).step system event) := by
  cases event with
  | act index input => exact act_held config system held index input sole
  | env instant =>
      refine ⟨held.self, held.only, fun slot index entry flying present => ?_⟩
      exact held.own slot index entry flying (entry_at system.store slot instant entry present)

/-- While nobody else is in flight, a write finds its own entry or none. -/
theorem held_spares (event : Event (Input Payload) K) (held : Held system) :
    Spares config system event := by
  match event with
  | .env _ | .act _ .get | .act _ .setNx | .act _ (.respond _) => trivial
  | .act index .settle =>
      intro slot entry present foreign
      have acts := act_acts config system index .settle
      generalize (machine config).step system (.act index .settle) = after at acts ⊢
      cases acts with
      | quiet _ _ store _ => rwa [store]
      | released name code body _ flew store _ =>
          have different : slot ≠ name := by
            rintro rfl
            exact foreign (held.own slot index entry flew present)
          rwa [store, entry_write_other _ _ _ _ _ _ _ different]

theorem step_commands (index : Nat) (slot : String) (input : Input Payload)
    (guarded : Guarded slot (view system) index) :
    ((machine config).step system (.act index input)).store =
      commands config.IDEMPOTENCY_TTL_SECONDS slot (system.procs index).self input system.store
        (system.procs index).exchange.phase := by
  have key : cacheKey (system.procs index).exchange.request = some slot := guarded
  simp [machine, exec, key]

theorem respond_answered (index : Nat) (slot : String)
    (outcome : Except Failure (Nat × Payload)) (flying : InFlight slot system index) :
    ((machine config).step system (.act index (.respond outcome))).store = system.store ∧
      Guarded slot (view ((machine config).step system (.act index (.respond outcome)))) index ∧
      ∃ code body, (((machine config).step system (.act index (.respond outcome))).procs
        index).exchange.phase = .answered code body := by
  obtain ⟨guarded, past⟩ := flying
  have key : cacheKey (system.procs index).exchange.request = some slot := guarded
  rw [step_commands config system index slot _ guarded]
  simp only [Guarded, view, step_self, machine, exec, Http.exec, key]
  cases phase : (system.procs index).exchange.phase with
  | handling => cases outcome <;> exact ⟨rfl, trivial, _, _, rfl⟩
  | answered code body => exact ⟨rfl, trivial, code, body, rfl⟩
  | _ => simp [phase, Phase.inFlight] at past

/-- A request that takes the lock over the head of one in flight loses it again
as soon as that one answers, whatever it answers. -/
theorem taken_lost [IsStrictOrderedRing K] (held : Held system)
    (event : Event (Input Payload) K) (taken : ¬ Sole system event) :
    ∃ other, ∀ outcome, ¬ (machine config).Along (Spares config) system
      [event, .act other (.respond outcome), .act other .settle] := by
  match event with
  | .env _ | .act _ .get | .act _ .settle | .act _ (.respond _) => exact absurd trivial taken
  | .act index .setNx =>
      simp only [Sole, not_forall, not_not] at taken
      obtain ⟨slot, guarded, missed, free, other, flying⟩ := taken
      refine ⟨other, fun outcome along => ?_⟩
      have different : other ≠ index := by
        rintro rfl
        simp [InFlight, missed, Phase.inFlight] at flying
      have present : ((machine config).step system (.act index .setNx)).store.entry slot =
          some ⟨.pending, system.store.now + ((config.IDEMPOTENCY_TTL_SECONDS : ℕ) : K), index⟩ := by
        rw [step_commands config system index slot .setNx guarded, missed]
        simp [commands, free, held.self]
      have still := (inFlight_other config system slot index other .setNx different).mpr flying
      obtain ⟨kept, key, code, body, answered⟩ := respond_answered config _ other slot outcome still
      have spared := along.2.2.1 slot _ (kept ▸ present) different.symm
      rw [step_commands config _ other slot .settle key, answered] at spared
      have mine := entry_write_owner _ slot _ _ code body _ spared
      rw [step_self_number, step_self_number, held.self] at mine
      exact different mine.symm

end Runs

/-- Along every run in which the lock is only taken while no request of its key
is in flight, each answer's write leaves the entries of the others alone. A run
that takes it at another moment can be continued, from there, by the answer of
the request in flight, and then it does not. -/
theorem idempotency_lock_owned [LinearOrder K] [Semiring K] [IsStrictOrderedRing K]
    (config : Config) (redis : Redis K Payload) (requests : Nat → Request)
    (events : List (Event (Input Payload) K)) :
    ((machine config).Along Sole (start redis requests) events →
        (machine config).Along (Spares config) (start redis requests) events) ∧
      (¬ (machine config).Along Sole (start redis requests) events →
        ∃ first, first <+: events ∧ ∃ other, ∀ outcome,
          ¬ (machine config).Along (Spares config) (start redis requests)
            (first ++ [.act other (.respond outcome), .act other .settle])) := by
  have kept (current : State K Payload) (event : Event (Input Payload) K) (held : Held current)
      (sole : Sole current event) : Held ((machine config).step current event) :=
    step_held config current event held sole
  constructor
  · exact along_of_invariant (machine config) Sole Held kept (Spares config)
      (fun current event held _ => held_spares config current event held) _ _
      (start_held redis requests)
  · intro taken
    obtain ⟨before, event, rest, rfl, sole, fails⟩ := first_failure (machine config) Sole _ _ taken
    have held := along_invariant (machine config) Sole Held kept _ _
      (start_held redis requests) sole
    obtain ⟨other, lost⟩ := taken_lost config _ held event fails
    refine ⟨before ++ [event], ⟨rest, by simp⟩, other, fun outcome along => ?_⟩
    rw [List.append_assoc, along_append] at along
    exact lost outcome along.2

/-- The handler outlives its lock, and the only retry came before that. -/
def unhurried : List (Event (Input String) ℕ) :=
  [.act 0 .get, .act 0 .setNx, .act 1 .get, .env 1, .act 0 (.respond (.ok (201, "r"))),
    .act 0 .settle]

theorem idempotency_lock_owned_unhurried :
    (machine Config.least).Along (Spares Config.least)
      (start ⟨0, fun _ => none⟩ fun _ => press "q") unhurried := by
  apply (idempotency_lock_owned Config.least ⟨0, fun _ => none⟩ (fun _ => press "q") unhurried).1
  refine ⟨trivial, ?_, trivial, trivial, trivial, trivial, trivial⟩
  rintro slot _ _ _ other ⟨_, past⟩
  by_cases same : other = 0
  · subst other
    revert past
    decide
  · rw [step_other _ _ _ _ _ same] at past
    cases past

/-- One request whose handler takes longer than the lock lives, and two retries. -/
def overtaken : List (Event (Input String) ℕ) :=
  [.act 0 .get, .act 0 .setNx, .env 1, .act 1 .get, .act 1 .setNx,
    .act 0 (.respond (.error (.other "write timed out"))), .act 0 .settle,
    .act 2 .get, .act 2 .setNx]

theorem idempotency_lock_stolen :
    ¬ (machine Config.least).Along (Spares Config.least)
        (start ⟨0, fun _ => none⟩ fun _ => press "q") overtaken ∧
      ∀ index ∈ [1, 2], (((machine Config.least).run
        (start ⟨0, fun _ => none⟩ fun _ => press "q") overtaken).procs index).exchange.phase =
          .handling := by
  constructor
  · intro along
    have spared := along.2.2.2.2.2.2.1 "idem:u:POST:/sessions/1/attendance:k"
      ⟨.pending, 2, 1⟩ (by decide) (by decide)
    revert spared
    decide
  · decide

end FaceVec.Http.Expiry