import FaceVec.Outbox.Budget
import FaceVec.Outbox.Ticking

/-!
The drain loop of `OutboxRelay.tick` comes to an end. `Turn` says once what a
wake can do to a relay. The loop goes on after a full batch only, a full batch
is paid from the budget, and the budget runs out.
-/

namespace FaceVec.Outbox

open Interleaving

variable {Payload : Type}

def phaseOf (relay : OutboxRelay Payload) : Phase Payload :=
  match relay.awaits with
  | none => .idle
  | some drain => drain.phase

def settledRows (wake : Wake) (relay : OutboxRelay Payload) : Nat :=
  match wake, relay.awaits with
  | .answer .commit, some ⟨_, .holding ⟨handled, [], _⟩⟩
  | .lost, some ⟨_, .holding ⟨handled, [], _⟩⟩ => handled.length
  | _, _ => 0

/-- Everything a wake can do to a relay, with the rows it settles. -/
inductive Turn (queue : Queue Payload) (relay : OutboxRelay Payload) :
    Nat → Queue Payload × OutboxRelay Payload → Prop where
  | still : Turn queue relay 0 (queue, relay)
  | began : relay.draining = false →
      Turn queue relay 0 (callDrainBatch queue { relay with draining := true, processed := 0 })
  | unread (drain : Drain Payload) : relay.awaits = some drain →
      Turn queue relay 0 (queue, relay.finish)
  | went (number : Nat) (phase next : Phase Payload) (input : Input) (store : Store Payload) :
      relay.awaits = some ⟨number, phase⟩ → next ≠ .committed →
      drainBatch relay.batchSize relay.maxAttempts number phase input queue.store = (store, next) →
      Turn queue relay 0 ({ queue with store }, { relay with awaits := some ⟨number, next⟩ })
  | failed (number : Nat) (phase : Phase Payload) (input : Input) (store : Store Payload) :
      relay.awaits = some ⟨number, phase⟩ →
      drainBatch relay.batchSize relay.maxAttempts number phase input queue.store =
        (store, .abandoned .over) →
      Turn queue relay 0 ({ queue with store }, relay.finish)
  | settled (number : Nat) (handled : List (OutboxMessage Payload)) (step : RowStep)
      (store : Store Payload) (processed : Nat) (next : Queue Payload × OutboxRelay Payload) :
      relay.awaits = some ⟨number, .holding ⟨handled, [], step⟩⟩ →
      drainBatch relay.batchSize relay.maxAttempts number (.holding ⟨handled, [], step⟩) .commit
        queue.store = (store, .committed) →
      processed ≤ relay.processed + handled.length →
      next = ({ queue with store }, OutboxRelay.finish { relay with processed }) ∨
        ((relay.batchSize : Nat) ≤ handled.length ∧
          next = callDrainBatch { queue with store } { relay with processed }) →
      Turn queue relay handled.length next

section Turns

theorem tick_timer (queue : Queue Payload) (relay : OutboxRelay Payload)
    (asleep : relay.draining = false) : tick (.timer true) queue relay =
      callDrainBatch queue { relay with draining := true, processed := 0 } := by
  rw [tick, if_neg (by simp [asleep])]

theorem drainBatch_committed (batchSize maxAttempts : ℕ+) (number : Nat) (phase : Phase Payload)
    (input : Input) (store : Store Payload) (opened : phase ≠ .committed)
    (commits : (drainBatch batchSize maxAttempts number phase input store).2 = .committed) :
    ∃ handled step, phase = .holding ⟨handled, [], step⟩ ∧ input = .commit := by
  unfold drainBatch at commits
  split at commits
  · split at commits <;> cases commits
  · cases commits
  · next handled step => exact ⟨handled, step, rfl, rfl⟩
  · cases commits
  · cases commits
  · split at commits <;> cases commits
  · cases commits
  · exact absurd commits opened

theorem answer_turn (input : Input) (queue : Queue Payload) (relay : OutboxRelay Payload)
    (number : Nat) (phase : Phase Payload) (awaits : relay.awaits = some ⟨number, phase⟩)
    (opened : phase ≠ .committed) :
    Turn queue relay (settledRows (.answer input) relay) (tick (.answer input) queue relay) := by
  by_cases unread : phase = .idle ∧ input = .abort
  · obtain ⟨rfl, rfl⟩ := unread
    simp only [tick, settledRows, awaits]
    exact .unread _ awaits
  have called : tick (.answer input) queue relay =
      loop { queue with store := (drainBatch relay.batchSize relay.maxAttempts number phase input
          queue.store).1 } relay phase
        ⟨number, (drainBatch relay.batchSize relay.maxAttempts number phase input queue.store).2⟩ := by
    simp only [tick, awaits]
    split
    · exact absurd ⟨rfl, rfl⟩ unread
    · rfl
  rw [called]
  by_cases commits : ∃ handled step, phase = .holding ⟨handled, [], step⟩ ∧ input = .commit
  · obtain ⟨handled, step, rfl, rfl⟩ := commits
    simp only [settledRows, awaits]
    refine .settled number handled step _ _ _ awaits rfl le_rfl ?_
    by_cases short : handled.length < (relay.batchSize : Nat)
    · exact Or.inl (if_pos short)
    · exact Or.inr ⟨Nat.le_of_not_lt short, if_neg short⟩
  · have none_ : settledRows (.answer input) relay = 0 := by
      unfold settledRows
      split
      · next asked same =>
          cases asked
          cases awaits.symm.trans same
          exact absurd ⟨_, _, rfl, rfl⟩ commits
      · next impossible _ => cases impossible
      · rfl
    rw [none_]
    cases next : (drainBatch relay.batchSize relay.maxAttempts number phase input queue.store).2 with
    | committed =>
        exact absurd (drainBatch_committed _ _ number phase input _ opened next) commits
    | idle => exact .went number phase .idle input _ awaits (by simp) (Prod.ext rfl next)
    | holding batch =>
        exact .went number phase (.holding batch) input _ awaits (by simp) (Prod.ext rfl next)
    | abandoned orphan =>
        cases orphan with
        | unpublished row =>
            exact .went number phase (.abandoned (.unpublished row)) input _ awaits (by simp)
              (Prod.ext rfl next)
        | publishing row =>
            exact .went number phase (.abandoned (.publishing row)) input _ awaits (by simp)
              (Prod.ext rfl next)
        | _ => exact .failed number phase input _ awaits (Prod.ext rfl next)

theorem tick_turn (wake : Wake) (queue : Queue Payload) (relay : OutboxRelay Payload)
    (opened : phaseOf relay ≠ .committed) :
    Turn queue relay (settledRows wake relay) (tick wake queue relay) := by
  cases wake with
  | timer ready =>
      simp only [tick, settledRows]
      split
      · exact .still
      · next awake =>
          simp only [Bool.or_eq_true, Bool.not_eq_true', not_or, Bool.not_eq_true] at awake
          exact .began awake.1
  | answer input =>
      cases awaits : relay.awaits with
      | none =>
          simp only [tick, settledRows, awaits]
          exact .still
      | some drain =>
          simp only [phaseOf, awaits] at opened
          exact answer_turn input queue relay drain.number drain.phase awaits opened
  | lost =>
      by_cases commits : ∃ number handled step,
          relay.awaits = some ⟨number, .holding ⟨handled, [], step⟩⟩
      · obtain ⟨number, handled, step, awaits⟩ := commits
        simp only [tick, settledRows, awaits]
        exact .settled number handled step _ _ _ awaits rfl (Nat.le_add_right _ _) (Or.inl rfl)
      · have idle : tick .lost queue relay = (queue, relay) := by
          simp only [tick]
          split
          · next awaits => exact absurd ⟨_, _, _, awaits⟩ commits
          · rfl
        have none_ : settledRows .lost relay = 0 := by
          unfold settledRows
          split
          · next impossible _ => cases impossible
          · next awaits => exact absurd ⟨_, _, _, awaits⟩ commits
          · rfl
        rw [idle, none_]
        exact .still

variable (queue : Queue Payload) (relay : OutboxRelay Payload) (settled : Nat)
  (next : Queue Payload × OutboxRelay Payload) (turn : Turn queue relay settled next)

include turn

/-- To the table a turn is a step of the batch that the relay awaits. -/
theorem turn_effect : ∃ number following,
    Effect relay.maxAttempts queue.store number (phaseOf relay) next.1.store following ∧
      (phaseOf next.2 = following ∨ phaseOf next.2 = .idle) := by
  have stepped : ∀ number phase input store following,
      relay.awaits = some ⟨number, phase⟩ →
      drainBatch relay.batchSize relay.maxAttempts number phase input queue.store =
        (store, following) →
      Effect relay.maxAttempts queue.store number (phaseOf relay) store following := by
    intro number phase input store following awaits called
    have effect := drainBatch_effect relay.batchSize relay.maxAttempts number phase input queue.store
    rw [called] at effect
    rwa [phaseOf, awaits]
  cases turn with
  | still => exact ⟨0, _, .stays, Or.inl rfl⟩
  | began => exact ⟨0, _, .stays, Or.inr rfl⟩
  | unread => exact ⟨0, _, .stays, Or.inr rfl⟩
  | went number phase following input store awaits _ called =>
      exact ⟨number, following, stepped number phase input store following awaits called, Or.inl rfl⟩
  | failed number phase input store awaits called =>
      exact ⟨number, _, stepped number phase input store _ awaits called, Or.inr rfl⟩
  | settled number handled step store processed next awaits called _ result =>
      have effect := stepped number _ .commit store .committed awaits called
      rcases result with rfl | ⟨_, rfl⟩ <;> exact ⟨number, .committed, effect, Or.inr rfl⟩

theorem turn_reserves (reserves : Reserves relay.maxAttempts queue.store (phaseOf relay)) :
    Reserves relay.maxAttempts next.1.store (phaseOf next.2) := by
  obtain ⟨number, following, effect, leads⟩ := turn_effect queue relay settled next turn
  rcases leads with same | idle
  · rw [same]
    exact effect_reserves _ _ _ number _ following effect reserves
  · rw [idle]
    trivial

theorem turn_held (id : Uuid) (member : id ∈ held (phaseOf next.2)) :
    id ∈ held (phaseOf relay) ∨ id ∉ queue.store.locks := by
  obtain ⟨number, following, effect, leads⟩ := turn_effect queue relay settled next turn
  rcases leads with same | idle
  · exact effect_held _ _ number _ _ effect id (same ▸ member)
  · rw [idle] at member
    cases member

theorem turn_settings :
    next.2.batchSize = relay.batchSize ∧ next.2.maxAttempts = relay.maxAttempts := by
  cases turn with
  | settled number handled step store processed next awaits called counted result =>
      rcases result with rfl | ⟨_, rfl⟩ <;> exact ⟨rfl, rfl⟩
  | _ => exact ⟨rfl, rfl⟩

theorem turn_flagged (flagged : relay.draining = relay.awaits.isSome) :
    next.2.draining = next.2.awaits.isSome := by
  cases turn with
  | still => exact flagged
  | went number phase following input store awaits =>
      rw [awaits] at flagged
      exact flagged
  | settled number handled step store processed next awaits called counted result =>
      rw [awaits] at flagged
      rcases result with rfl | ⟨_, rfl⟩
      · rfl
      · exact flagged
  | _ => rfl

theorem turn_opened (opened : phaseOf relay ≠ .committed) : phaseOf next.2 ≠ .committed := by
  cases turn with
  | still => exact opened
  | went number phase following input store awaits open_ => exact open_
  | settled number handled step store processed next awaits called counted result =>
      rcases result with rfl | ⟨_, rfl⟩ <;> exact fun impossible => by cases impossible
  | _ => exact fun impossible => by cases impossible

theorem turn_processed : next.2.processed ≤ relay.processed + settled := by
  cases turn with
  | began => exact Nat.zero_le _
  | settled number handled step store processed next awaits called counted result =>
      rcases result with rfl | ⟨_, rfl⟩ <;> exact counted
  | _ => exact Nat.le_refl _

/-- The rows that a turn settles are paid from the budget. -/
theorem turn_paid (reserves : Reserves relay.maxAttempts queue.store (phaseOf relay)) :
    settled + budget relay.maxAttempts next.1.store.rows.rows ≤
      budget relay.maxAttempts queue.store.rows.rows := by
  have unspent : settled = 0 → settled + budget relay.maxAttempts next.1.store.rows.rows ≤
      budget relay.maxAttempts queue.store.rows.rows := by
    intro none_
    obtain ⟨number, following, effect, _⟩ := turn_effect queue relay settled next turn
    rw [none_, Nat.zero_add]
    exact effect_budget relay.maxAttempts relay.maxAttempts _ _ number _ following effect reserves
  cases turn with
  | settled number handled step store processed next awaits called counted result =>
      have effect := drainBatch_effect relay.batchSize relay.maxAttempts number
        (.holding ⟨handled, [], step⟩) .commit queue.store
      rw [called] at effect
      rw [phaseOf, awaits] at reserves
      have paid := commit_budget relay.maxAttempts queue.store store number handled step effect
        reserves
      rcases result with rfl | ⟨_, rfl⟩ <;> exact paid
  | _ => exact unspent rfl

end Turns

/-- How far the row at the head of a batch has come. -/
def stepsDone : RowStep → Nat
  | .ready => 0
  | .publishing => 1
  | .confirmed | .refused _ => 2

/-- How much the loop may still have to wait for, from a phase of a batch on, where
`left` rows may still be handled. -/
def phaseRank (left : Nat) : Phase Payload → Nat
  | .idle => 5 * left + 3
  | .holding batch =>
      5 * left - 3 * claimed (.holding batch) + (3 * batch.todo.length - stepsDone batch.step) + 2
  | .committed | .abandoned .over => 1
  | .abandoned (.publishing _) => 2
  | .abandoned (.unpublished _) => 3

section Ranks

theorem phaseRank_pos (left : Nat) (phase : Phase Payload) : 0 < phaseRank left phase := by
  unfold phaseRank
  split <;> omega

theorem phaseRank_mono (less left : Nat) (fewer : less ≤ left) (phase : Phase Payload) :
    phaseRank less phase ≤ phaseRank left phase := by
  unfold phaseRank
  split <;> omega

variable (batchSize maxAttempts : ℕ+) (left number : Nat) (input : Input) (store : Store Payload)

theorem batch_falls (batch before : Batch Payload)
    (same : claimed (.holding batch) = claimed (.holding before))
    (less : 3 * batch.todo.length - stepsDone batch.step <
      3 * before.todo.length - stepsDone before.step) :
    phaseRank left (.holding batch) < phaseRank left (.holding before) := by
  rw [phaseRank, phaseRank, same]
  omega

theorem handleRow_falls (handled : List (OutboxMessage Payload)) (row : OutboxMessage Payload)
    (rest : List (OutboxMessage Payload)) (step : RowStep) :
    (handleRow maxAttempts number handled row rest step input store).2 =
        ⟨handled, row :: rest, step⟩ ∨
      phaseRank left
          (.holding (handleRow maxAttempts number handled row rest step input store).2) <
        phaseRank left (.holding ⟨handled, row :: rest, step⟩) := by
  -- A row takes three steps, the last of which moves it to the handled ones.
  have updated : ∀ version, claimed (.holding ⟨handled ++ [version], rest, .ready⟩) =
      claimed (.holding ⟨handled, row :: rest, step⟩) := by
    intro version
    simp only [claimed, List.length_append, List.length_cons, List.length_nil]
    omega
  unfold handleRow
  split
  · exact Or.inr (batch_falls left _ _ rfl (by simp only [stepsDone, List.length_cons]; omega))
  · exact Or.inr (batch_falls left _ _ rfl (by simp only [stepsDone, List.length_cons]; omega))
  · exact Or.inr (batch_falls left _ _ rfl (by simp only [stepsDone, List.length_cons]; omega))
  · split
    · exact Or.inr (batch_falls left _ _ rfl (by simp only [stepsDone, List.length_cons]; omega))
    · exact Or.inl rfl
  · exact Or.inr (batch_falls left _ _ (updated _)
      (by simp only [stepsDone, List.length_cons]; omega))
  · exact Or.inr (batch_falls left _ _ (updated _)
      (by simp only [stepsDone, List.length_cons]; omega))
  · exact Or.inl rfl

theorem abort_falls (batch : Batch Payload) :
    phaseRank left (.abandoned (orphan batch)) < phaseRank left (.holding batch) := by
  obtain ⟨handled, todo, step⟩ := batch
  cases todo with
  | nil =>
      have noticed : orphan (⟨handled, [], step⟩ : Batch Payload) = .over := by cases step <;> rfl
      rw [noticed]
      exact Nat.le_add_left _ _
  | cons row rest =>
      cases step <;> simp only [orphan, phaseRank, stepsDone, List.length_cons] <;> omega

/-- A step of `drainBatch` that does anything leaves less to wait for, until it commits. -/
theorem drainBatch_falls (phase following : Phase Payload) (after : Store Payload)
    (called : drainBatch batchSize maxAttempts number phase input store = (after, following))
    (opened : following ≠ .committed) (fits : claimed following ≤ left) :
    following = phase ∨ phaseRank left following < phaseRank left phase := by
  obtain rfl : following = (drainBatch batchSize maxAttempts number phase input store).2 :=
    (congrArg Prod.snd called).symm
  clear called
  unfold drainBatch at *
  split
  · split
    · exact Or.inl rfl
    · next rows selected =>
        right
        simp only [selected, claimed] at fits
        simp only [phaseRank, claimed, stepsDone, List.length_nil] at *
        omega
  · exact Or.inr (abort_falls left _)
  · exact absurd rfl opened
  · exact (handleRow_falls maxAttempts left number input store _ _ _ _).imp_left (congrArg _)
  · exact Or.inr (Nat.lt_succ_self _)
  · split
    · exact Or.inr (Nat.lt_succ_self _)
    · exact Or.inl rfl
  · next other _ =>
      cases other with
      | unpublished row => exact Or.inr (Nat.le_succ _)
      | publishing row => exact Or.inr (Nat.le_refl _)
      | _ => exact Or.inl rfl
  · exact Or.inl rfl

end Ranks

def relayRank (left : Nat) (relay : OutboxRelay Payload) : Nat :=
  match relay.awaits with
  | none => 0
  | some drain => phaseRank left drain.phase

/-- A turn that moves the loop on leaves it less to wait for. -/
theorem turn_falls (queue : Queue Payload) (relay : OutboxRelay Payload) (settled : Nat)
    (next : Queue Payload × OutboxRelay Payload) (turn : Turn queue relay settled next)
    (awake : relay.draining = true)
    (reserves : Reserves relay.maxAttempts queue.store (phaseOf relay))
    (reserved : Reserves relay.maxAttempts next.1.store (phaseOf next.2)) :
    next.2.awaits = relay.awaits ∨
      relayRank (budget relay.maxAttempts next.1.store.rows.rows) next.2 <
        relayRank (budget relay.maxAttempts queue.store.rows.rows) relay := by
  have paid := turn_paid queue relay settled next turn reserves
  have finished : ∀ drain left, relay.awaits = some drain → 0 < relayRank left relay := by
    intro drain left awaits
    rw [relayRank, awaits]
    exact phaseRank_pos left drain.phase
  cases turn with
  | still => exact Or.inl rfl
  | began asleep => rw [awake] at asleep; cases asleep
  | unread drain awaits => exact Or.inr (finished drain _ awaits)
  | failed number phase input store awaits => exact Or.inr (finished _ _ awaits)
  | went number phase following input store awaits opened called =>
      -- A claim takes pending rows only, so its batch is no larger than the budget.
      have fits := claimed_le_budget relay.maxAttempts relay.maxAttempts store following reserved
      rcases drainBatch_falls relay.batchSize relay.maxAttempts
        (budget relay.maxAttempts queue.store.rows.rows) number input queue.store phase following
        store called opened (fits.trans (by simpa using paid)) with rfl | falls
      · exact Or.inl awaits.symm
      · right
        simp only [relayRank, awaits]
        exact Nat.lt_of_le_of_lt (phaseRank_mono _ _ (by simpa using paid) following) falls
  | settled number handled step store processed next awaits called counted result =>
      right
      rcases result with rfl | ⟨full, rfl⟩
      · exact finished _ _ awaits
      · -- A full batch is not empty.
        have some_ := relay.batchSize.pos
        simp only [callDrainBatch] at paid
        simp only [callDrainBatch, relayRank, awaits, phaseRank, claimed, List.length_nil]
        omega

/-- What holds wherever relays share a table. -/
structure Sharing (system : System (Queue Payload) (OutboxRelay Payload)) : Prop where
  flagged : ∀ index, (system.procs index).draining = (system.procs index).awaits.isSome
  opened : ∀ index, phaseOf (system.procs index) ≠ .committed
  reserves : ∀ index, Reserves (system.procs index).maxAttempts system.store.store
    (phaseOf (system.procs index))
  disjoint : ∀ first second id, id ∈ held (phaseOf (system.procs first)) →
    id ∈ held (phaseOf (system.procs second)) → first = second

section Runs

theorem installed_sharing (rows : Table (@OutboxMessage.clash Payload)) (clock : Instant)
    (settings : Nat → ℕ+ × ℕ+) : Sharing (installed rows clock settings) where
  flagged _ := rfl
  opened _ impossible := by cases impossible
  reserves _ := trivial
  disjoint _ _ _ member := by cases member

theorem act_turn (system : System (Queue Payload) (OutboxRelay Payload)) (index : Nat)
    (wake : Wake) (valid : Sharing system) :
    Turn system.store (system.procs index) (settledRows wake (system.procs index))
      (relays.exec wake system.store (system.procs index)) :=
  tick_turn wake system.store (system.procs index) (valid.opened index)

theorem act_sharing (system : System (Queue Payload) (OutboxRelay Payload)) (index : Nat)
    (wake : Wake) (valid : Sharing system) : Sharing (relays.step system (.act index wake)) := by
  have turn := act_turn system index wake valid
  have own := valid.reserves index
  constructor
  · exact (Function.forall_update_iff system.procs
      fun _ relay => relay.draining = relay.awaits.isSome).mpr
      ⟨turn_flagged _ _ _ _ turn (valid.flagged index), fun other _ => valid.flagged other⟩
  · exact (Function.forall_update_iff system.procs fun _ relay => phaseOf relay ≠ .committed).mpr
      ⟨turn_opened _ _ _ _ turn (valid.opened index), fun other _ => valid.opened other⟩
  · refine (Function.forall_update_iff system.procs fun _ relay => Reserves relay.maxAttempts
      (relays.step system (.act index wake)).store.store (phaseOf relay)).mpr
      ⟨?_, fun other different => ?_⟩
    · rw [(turn_settings _ _ _ _ turn).2]
      exact turn_reserves _ _ _ _ turn own
    · -- What the step may write to are rows of its own batch.
      obtain ⟨number, following, effect, _⟩ := turn_effect _ _ _ _ turn
      have frame := effect_frame _ _ number _ _ effect (reserves_unsettled _ _ _ own)
      exact reserves_frame _ _ _ _ _ frame
        (fun id member inside => different (valid.disjoint other index id member inside))
        (valid.reserves other)
  · apply held_disjoint (fun other => phaseOf (system.procs other)) _ index system.store.store.locks
    · exact fun other => reserves_locked _ _ _ (valid.reserves other)
    · exact valid.disjoint
    · intro id member
      rw [step_self] at member
      exact turn_held _ _ _ _ turn id member
    · exact fun other different => by rw [step_other _ _ _ _ _ different]

theorem step_sharing (system : System (Queue Payload) (OutboxRelay Payload))
    (event : Event Wake (Change Payload)) (valid : Sharing system) :
    Sharing (relays.step system event) := by
  cases event with
  | act index wake => exact act_sharing system index wake valid
  | env change =>
      refine ⟨valid.flagged, valid.opened, fun index => ?_, valid.disjoint⟩
      exact reserves_frame _ _ _ _ [] (ambient_frame change system.store.store) (by simp)
        (valid.reserves index)

end Runs

def Quiet : Event Wake (Change Payload) → Prop
  | .env (.insert _ _ _ _ _) => False
  | _ => True

/-- The rows of the batch that a step commits for the relay. -/
def handledBy (index : Nat) (system : System (Queue Payload) (OutboxRelay Payload)) :
    Event Wake (Change Payload) → Nat
  | .act acting wake => if acting = index then settledRows wake (system.procs index) else 0
  | .env _ => 0

/-- What the relay may still handle. -/
def attemptsLeft (index : Nat) (system : System (Queue Payload) (OutboxRelay Payload)) : Nat :=
  budget (system.procs index).maxAttempts system.store.store.rows.rows

section Steps

variable (system : System (Queue Payload) (OutboxRelay Payload))
  (event : Event Wake (Change Payload)) (valid : Sharing system) (quiet : Quiet event)
  (index : Nat)

include valid

/-- A step leaves the relay as it is, or it is a turn of it. -/
theorem step_relay :
    ((relays.step system event).procs index = system.procs index ∧
        handledBy index system event = 0) ∨
      ∃ next, Turn system.store (system.procs index) (handledBy index system event) next ∧
        (relays.step system event).store = next.1 ∧
        (relays.step system event).procs index = next.2 := by
  cases event with
  | env change => exact Or.inl ⟨rfl, rfl⟩
  | act acting wake =>
      by_cases same : acting = index
      · subst same
        rw [handledBy, if_pos rfl, step_self, step_store]
        exact Or.inr ⟨_, act_turn system acting wake valid, rfl, rfl⟩
      · exact Or.inl ⟨step_other _ _ _ _ _ (Ne.symm same), if_neg same⟩

theorem step_maxAttempts : ((relays.step system event).procs index).maxAttempts =
    (system.procs index).maxAttempts := by
  rcases step_relay system event valid index with ⟨same, _⟩ | ⟨next, turn, _, moved⟩
  · rw [same]
  · rw [moved]
    exact (turn_settings _ _ _ _ turn).2

include quiet in
theorem step_budget (maxAttempts : ℕ+) :
    budget maxAttempts (relays.step system event).store.store.rows.rows ≤
      budget maxAttempts system.store.store.rows.rows := by
  cases event with
  | env change =>
      cases change with
      | insert => exact quiet.elim
      | _ => exact Nat.le_refl _
  | act acting wake =>
      obtain ⟨number, following, effect, _⟩ :=
        turn_effect _ _ _ _ (act_turn system acting wake valid)
      exact effect_budget _ maxAttempts _ _ number _ following effect (valid.reserves acting)

include quiet in
theorem step_paid : handledBy index system event + attemptsLeft index (relays.step system event) ≤
    attemptsLeft index system := by
  have fewer := step_budget system event valid quiet (system.procs index).maxAttempts
  unfold attemptsLeft
  rw [step_maxAttempts system event valid index]
  rcases step_relay system event valid index with ⟨_, none_⟩ | ⟨next, turn, stored, _⟩
  · rw [none_, Nat.zero_add]
    exact fewer
  · rw [stored]
    exact turn_paid _ _ _ _ turn (valid.reserves index)

theorem step_processed : ((relays.step system event).procs index).processed ≤
    (system.procs index).processed + handledBy index system event := by
  rcases step_relay system event valid index with ⟨same, _⟩ | ⟨next, turn, _, moved⟩
  · rw [same]
    exact Nat.le_add_right _ _
  · rw [moved]
    exact turn_processed _ _ _ _ turn

/-- The rank of the loop falls with each step that moves it on. -/
theorem step_falls (awake : (system.procs index).draining = true) :
    ((relays.step system event).procs index).awaits = (system.procs index).awaits ∨
      relayRank (attemptsLeft index (relays.step system event))
          ((relays.step system event).procs index) <
        relayRank (attemptsLeft index system) (system.procs index) := by
  rcases step_relay system event valid index with ⟨same, _⟩ | ⟨next, turn, stored, moved⟩
  · rw [same]
    exact Or.inl rfl
  · unfold attemptsLeft
    rw [step_maxAttempts system event valid index, stored, moved]
    exact turn_falls _ _ _ _ turn awake (valid.reserves index)
      (turn_reserves _ _ _ _ turn (valid.reserves index))

include quiet in
theorem step_rank (awake : (system.procs index).draining = true) :
    relayRank (attemptsLeft index (relays.step system event))
        ((relays.step system event).procs index) ≤
      relayRank (attemptsLeft index system) (system.procs index) := by
  rcases step_falls system event valid index awake with same | falls
  · have paid := step_paid system event valid quiet index
    unfold relayRank
    rw [same]
    cases (system.procs index).awaits with
    | none => exact Nat.le_refl _
    | some drain => exact phaseRank_mono _ _ (le_of_add_le_right paid) drain.phase
  · exact falls.le

end Steps

/-- The relays after `before`, where the timer of one of them has just fired. -/
def ticked (rows : Table (@OutboxMessage.clash Payload)) (clock : Instant)
    (settings : Nat → ℕ+ × ℕ+) (before : List (Event Wake (Change Payload))) (index : Nat) :
    System (Queue Payload) (OutboxRelay Payload) :=
  relays.run (installed rows clock settings) (before ++ [.act index (.timer true)])

section Schedules

variable (index : Nat) (begun : System (Queue Payload) (OutboxRelay Payload))
  (schedule : Nat → Event Wake (Change Payload))

/-- As long as the loop runs, what it waits for comes at some time: every promise settles,
and every batch commits or aborts. -/
def Settles : Prop :=
  ∀ time, ((relays.run begun (upTo schedule time)).procs index).draining = true →
    ∃ later, time ≤ later ∧
      ((relays.run begun (upTo schedule (later + 1))).procs index).awaits ≠
        ((relays.run begun (upTo schedule later)).procs index).awaits

/-- At `time` the loop has just stopped. -/
structure Drained (time : Nat) : Prop where
  stopped : ((relays.run begun (upTo schedule time)).procs index).draining = false
  working : ∀ earlier < time,
    ((relays.run begun (upTo schedule earlier)).procs index).draining = true
  handled : relays.total (handledBy index) begun (upTo schedule time) ≤ attemptsLeft index begun
  processed : ((relays.run begun (upTo schedule time)).procs index).processed ≤
    relays.total (handledBy index) begun (upTo schedule time)

variable (valid : Sharing begun) (quiet : ∀ time, Quiet (schedule time))

include valid quiet

/-- However the batches end, they do not commit more rows than the budget pays for. -/
theorem handled_le (time : Nat) :
    relays.total (handledBy index) begun (upTo schedule time) ≤ attemptsLeft index begun := by
  have along := along_of_forall relays Quiet begun (upTo schedule time) fun event member => by
    obtain ⟨early, _, rfl⟩ := (mem_upTo schedule time event).mp member
    exact quiet early
  have paid := total_add_potential relays (handledBy index) (fun _ => Quiet) Sharing
    (fun system event valid _ => step_sharing system event valid) begun (upTo schedule time) valid
    along (attemptsLeft index)
    (fun system event valid quiet => step_paid system event valid quiet index)
  exact (Nat.le_add_right _ _).trans paid

theorem exists_stop (settles : Settles index begun schedule) :
    ∃ time, ((relays.run begun (upTo schedule time)).procs index).draining = false ∧
      ∀ earlier < time, ((relays.run begun (upTo schedule earlier)).procs index).draining = true := by
  have sharing : ∀ time, Sharing (relays.run begun (upTo schedule time)) := fun time =>
    run_invariant relays Sharing step_sharing begun (upTo schedule time) valid
  obtain ⟨time, stopped, working⟩ := exists_first_goal relays begun schedule
    (fun system => (system.procs index).draining = false)
    (fun system => relayRank (attemptsLeft index system) (system.procs index))
    (fun system event =>
      ((relays.step system event).procs index).awaits ≠ (system.procs index).awaits)
    (by
      intro time awake
      rw [run_upTo_succ]
      exact step_rank _ _ (sharing time) (quiet time) index (Bool.eq_true_of_not_eq_false awake))
    (by
      intro time awake goesOn
      rw [run_upTo_succ]
      exact (step_falls _ _ (sharing time) index
        (Bool.eq_true_of_not_eq_false awake)).resolve_left goesOn)
    (by
      intro time awake
      obtain ⟨later, after, moved⟩ := settles time (Bool.eq_true_of_not_eq_false awake)
      rw [run_upTo_succ] at moved
      exact ⟨later, after, moved⟩)
  exact ⟨time, stopped, fun earlier before => Bool.eq_true_of_not_eq_false (working earlier before)⟩

end Schedules

/-- The drain loop terminates: a tick that starts in any state of any table, while other
relays work, stops within the attempts that are left to its pending rows. -/
theorem drain_loop_ends (rows : Table (@OutboxMessage.clash Payload)) (clock : Instant)
    (settings : Nat → ℕ+ × ℕ+) (before : List (Event Wake (Change Payload))) (index : Nat)
    (schedule : Nat → Event Wake (Change Payload))
    (asleep : ((relays.run (installed rows clock settings) before).procs index).draining = false)
    (quiet : ∀ time, Quiet (schedule time))
    (settles : Settles index (ticked rows clock settings before index) schedule) :
    ∃ time, Drained index (ticked rows clock settings before index) schedule time := by
  have valid : Sharing (ticked rows clock settings before index) :=
    run_invariant relays Sharing step_sharing _ _ (installed_sharing rows clock settings)
  have fresh : ((ticked rows clock settings before index).procs index).processed = 0 := by
    rw [ticked, run_append, Machine.run, Machine.run, step_self]
    exact congrArg (fun next => next.2.processed) (tick_timer _ _ asleep)
  obtain ⟨time, stopped, working⟩ := exists_stop index _ schedule valid quiet settles
  have counted := measure_le_total relays (handledBy index) (fun _ _ => True) Sharing
    (fun system event valid _ => step_sharing system event valid) _ (upTo schedule time) valid
    (along_of_forall relays (fun _ => True) _ _ fun _ _ => trivial)
    (fun system => (system.procs index).processed)
    (fun system event valid _ => step_processed system event valid index)
  rw [fresh, Nat.zero_add] at counted
  exact ⟨time, stopped, working, handled_le index _ schedule valid quiet time, counted⟩

deriving instance DecidableEq for RowStep, Batch, Orphan, Phase, Drain

/-- A row that has had more attempts than the cap allows by now. -/
def overdrawn : Table (@OutboxMessage.clash Unit) :=
  .single ⟨1, "AttendanceSession", 2, EventType.AttendanceRecorded, (), .PENDING, 9, 0, none, none, 0⟩

/-- Its batch is full, so that a second one is claimed, which is empty. -/
def overdrawnDrain : List (Event Wake (Change Unit)) :=
  [.act 0 (.answer (.claim [1])), .act 0 (.answer (.refuse "down")), .act 0 (.answer .update),
    .act 0 (.answer .commit), .act 0 (.answer (.claim [])), .act 0 (.answer .commit)]

/-- The drain, and then time goes by. -/
def overdrawnSchedule (time : Nat) : Event Wake (Change Unit) :=
  (overdrawnDrain[time]?).getD (.env (.tick 1))

theorem overdrawn_settles :
    Settles 0 (ticked overdrawn 0 (fun _ => (1, 5)) [] 0) overdrawnSchedule := by
  have moves : ∀ time < 6,
      ((relays.run (ticked overdrawn 0 (fun _ => (1, 5)) [] 0)
          (upTo overdrawnSchedule (time + 1))).procs 0).awaits ≠
        ((relays.run (ticked overdrawn 0 (fun _ => (1, 5)) [] 0)
          (upTo overdrawnSchedule time)).procs 0).awaits := by
    decide
  have stopped : ((relays.run (ticked overdrawn 0 (fun _ => (1, 5)) [] 0)
      (upTo overdrawnSchedule 6)).procs 0).draining = false := by
    decide
  intro time awake
  by_cases early : time < 6
  · exact ⟨time, le_rfl, moves time early⟩
  · obtain ⟨more, rfl⟩ := Nat.exists_eq_add_of_le (Nat.le_of_not_lt early)
    rw [upTo_add, run_append, run_absent, stopped] at awake
    · cases awake
    · intro input member
      obtain ⟨step, _, same⟩ := (mem_upTo _ _ _).mp member
      have later : overdrawnDrain[6 + step]? = none := List.getElem?_eq_none (Nat.le_add_right 6 step)
      rw [overdrawnSchedule, later] at same
      cases same

theorem drain_loop_ends_overdrawn :
    ∃ time, Drained 0 (ticked overdrawn 0 (fun _ => (1, 5)) [] 0) overdrawnSchedule time := by
  refine drain_loop_ends overdrawn 0 (fun _ => (1, 5)) [] 0 overdrawnSchedule rfl (fun time => ?_)
    overdrawn_settles
  unfold overdrawnSchedule
  cases found : overdrawnDrain[time]? with
  | none => trivial
  | some event =>
      have member := List.mem_of_getElem? found
      simp only [overdrawnDrain, List.mem_cons, List.not_mem_nil, or_false] at member
      rcases member with rfl | rfl | rfl | rfl | rfl | rfl <;> trivial

end FaceVec.Outbox
