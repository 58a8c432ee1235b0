import FaceVec.Outbox.Outage
import FaceVec.Progress

/-!
`OutboxRelay` of `messaging/outbox-relay.ts`: the timer, the `draining` flag and
the loop of `tick`, on any number of replicas with settings of their own. A call
of `drainBatch` is the one of `Relay.lean`; the tick waits for its promise, also
while a callback goes on whose transaction is gone.
-/

namespace FaceVec.Outbox

open Interleaving

variable {Payload : Type}

/-- The table with what the relays share; `batches` counts the calls of `drainBatch`. -/
structure Queue (Payload : Type) where
  store : Store Payload
  batches : Nat

/-- `processed` belongs to the last tick, `awaits` to the call of `drainBatch` under way. -/
structure OutboxRelay (Payload : Type) where
  batchSize : ℕ+
  maxAttempts : ℕ+
  draining : Bool := false
  processed : Nat := 0
  awaits : Option (Drain Payload) := none

inductive Wake where
  /-- The timer fires; `ready` is `rabbit.isReady()`. -/
  | timer (ready : Bool)
  /-- Something that `drainBatch` waits for. -/
  | answer (input : Input)
  /-- The commit is done, but its answer is lost. -/
  | lost

/-- `finally`. -/
def OutboxRelay.finish (relay : OutboxRelay Payload) : OutboxRelay Payload :=
  { relay with draining := false, awaits := none }

def callDrainBatch (queue : Queue Payload) (relay : OutboxRelay Payload) :
    Queue Payload × OutboxRelay Payload :=
  ({ queue with batches := queue.batches + 1 }, { relay with awaits := some ⟨queue.batches, .idle⟩ })

/-- What the loop does where a step has left `drainBatch`; `before` it claimed its rows. -/
def loop (queue : Queue Payload) (relay : OutboxRelay Payload) (before : Phase Payload)
    (drain : Drain Payload) : Queue Payload × OutboxRelay Payload :=
  match drain.phase with
  | .committed =>
      let handled := claimed before
      let relay := { relay with processed := relay.processed + handled }
      if handled < (relay.batchSize : Nat) then (queue, relay.finish) else callDrainBatch queue relay
  -- The promise is rejected, and the error is logged.
  | .abandoned .over => (queue, relay.finish)
  | _ => (queue, { relay with awaits := some drain })

def tick (wake : Wake) (queue : Queue Payload) (relay : OutboxRelay Payload) :
    Queue Payload × OutboxRelay Payload :=
  match wake with
  | .timer ready =>
      if relay.draining || !ready then (queue, relay)
      else callDrainBatch queue { relay with draining := true, processed := 0 }
  | .answer input =>
      match relay.awaits with
      | none => (queue, relay)
      | some ⟨number, phase⟩ =>
          match phase, input with
          -- The `SELECT` fails.
          | .idle, .abort => (queue, relay.finish)
          | phase, input =>
              let next := drainBatch relay.batchSize relay.maxAttempts number phase input queue.store
              loop { queue with store := next.1 } relay phase ⟨number, next.2⟩
  | .lost =>
      match relay.awaits with
      | some ⟨number, .holding ⟨handled, [], step⟩⟩ =>
          let next := drainBatch relay.batchSize relay.maxAttempts number
            (.holding ⟨handled, [], step⟩) .commit queue.store
          ({ queue with store := next.1 }, relay.finish)
      | _ => (queue, relay)

def relays : Machine (Queue Payload) (OutboxRelay Payload) Wake (Change Payload) where
  exec := tick
  ambient change queue := { queue with store := ambient change queue.store }

/-- Relays that have just been started over any table. -/
def installed (rows : Table (@OutboxMessage.clash Payload)) (clock : Instant)
    (settings : Nat → ℕ+ × ℕ+) : System (Queue Payload) (OutboxRelay Payload) :=
  ⟨⟨⟨rows, [], clock, [], [], []⟩, 0⟩, fun index =>
    ⟨(settings index).1, (settings index).2, false, 0, none⟩⟩

end FaceVec.Outbox
