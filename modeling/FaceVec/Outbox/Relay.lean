import FaceVec.Interleaving
import FaceVec.Schema

/-!
`messaging/outbox-relay.ts` as a machine: any number of `drainBatch` runs, on
any number of replicas, over one `outbox_messages` table and one broker. A run
is one database transaction: it locks the rows it claims, writes to its own
copies of them, and its writes become visible when it commits. Publishing is
outside the transaction: `published` is what reached the broker, `confirmed`
what the broker acknowledged, and `reached` which acknowledgements came back.
-/

namespace FaceVec.Outbox

open Interleaving

variable {Payload : Type}

/-- One call of `rabbit.publish`; the message id is the row id. -/
structure Publication (Payload : Type) where
  batch : Nat
  messageId : Uuid
  routingKey : String
  payload : Payload

structure Store (Payload : Type) where
  rows : Table (@OutboxMessage.clash Payload)
  locks : List Uuid
  clock : Instant
  published : List (Publication Payload)
  confirmed : List (Publication Payload)
  reached : List (Uuid × Nat)

inductive RowStep where
  | ready
  | publishing
  | confirmed
  | refused (message : String)

/-- The rows of a transaction: `handled` as it has rewritten them, `todo` as
it selected them. -/
structure Batch (Payload : Type) where
  handled : List (OutboxMessage Payload)
  todo : List (OutboxMessage Payload)
  step : RowStep

/-- What a callback still does after its transaction is gone: it fails at its
next statement. -/
inductive Orphan (Payload : Type) where
  | over
  | unpublished (row : OutboxMessage Payload)
  | publishing (row : OutboxMessage Payload)

inductive Phase (Payload : Type) where
  | idle
  | holding (batch : Batch Payload)
  | committed
  | abandoned (orphan : Orphan Payload)

structure Drain (Payload : Type) where
  number : Nat
  phase : Phase Payload

inductive Input where
  | claim (chosen : List Uuid)
  | publish
  | confirm
  | refuse (message : String)
  | update
  | commit
  /-- A crash, a timeout or an SQL error. -/
  | abort

inductive Change (Payload : Type) where
  | insert (id : Uuid) (aggregateType : String) (aggregateId : Uuid) (eventType : String)
      (payload : Payload)
  | tick (milliseconds : Nat)
  | brokerConfirms (position : Nat)

def rowIds (rows : List (OutboxMessage Payload)) : List Uuid := rows.map (·.id)

def Batch.ids (batch : Batch Payload) : List Uuid := rowIds (batch.handled ++ batch.todo)

def publishable (now : Instant) (row : OutboxMessage Payload) : Bool :=
  row.status == .PENDING && decide (row.availableAt ≤ now)

def candidates (store : Store Payload) : List (OutboxMessage Payload) :=
  store.rows.rows.filter fun row => publishable store.clock row && !store.locks.contains row.id

/-- `picked` comes first in the order of creation, ties in any order. -/
def oldestFirst (picked rest : List (OutboxMessage Payload)) : Bool :=
  decide (picked.Pairwise fun earlier later => earlier.createdAt ≤ later.createdAt) &&
    picked.all fun row => rest.all fun other => decide (row.createdAt ≤ other.createdAt)

/-- The `SELECT … ORDER BY created_at LIMIT … FOR UPDATE SKIP LOCKED`:
`chosen` is one of its possible results, in order. -/
def select (batchSize : ℕ+) (store : Store Payload) (chosen : List Uuid) :
    Option (List (OutboxMessage Payload)) :=
  let picked := chosen.filterMap fun id => (candidates store).find? (·.id == id)
  let rest := (candidates store).filter fun row => !chosen.contains row.id
  if decide (rowIds picked).Nodup && picked.length == chosen.length &&
      picked.length == min (batchSize : ℕ) (candidates store).length && oldestFirst picked rest then
    some picked
  else none

def markPublished (now : Instant) (row : OutboxMessage Payload) : OutboxMessage Payload :=
  { row with status := .PUBLISHED, publishedAt := some now }

def backoffMs (attempts : Nat) : Nat := min 60000 (2 ^ attempts * 1000)

def recordFailure (maxAttempts : ℕ+) (now : Instant) (message : String)
    (row : OutboxMessage Payload) : OutboxMessage Payload :=
  let attempts := row.attempts + 1
  let failed := decide ((maxAttempts : Nat) ≤ attempts)
  { row with
    attempts
    status := if failed then .FAILED else .PENDING
    lastError := some message
    availableAt := now + backoffMs attempts }

/-- What the commit leaves of a row. -/
def settle (handled : List (OutboxMessage Payload)) (row : OutboxMessage Payload) :
    OutboxMessage Payload :=
  (handled.find? (·.id == row.id)).getD row

theorem settle_id (handled : List (OutboxMessage Payload)) (row : OutboxMessage Payload) :
    (settle handled row).id = row.id := by
  unfold settle
  cases found : handled.find? (·.id == row.id) with
  | none => rfl
  | some version => simpa using List.find?_some found

def release (ids locks : List Uuid) : List Uuid := locks.filter fun id => !ids.contains id

def acknowledged (store : Store Payload) (batch : Nat) (messageId : Uuid) : Bool :=
  store.confirmed.any fun publication =>
    publication.batch == batch && publication.messageId == messageId

def publicationOf (number : Nat) (row : OutboxMessage Payload) : Publication Payload :=
  ⟨number, row.id, row.eventType, row.payload⟩

def orphan (batch : Batch Payload) : Orphan Payload :=
  match batch.step, batch.todo with
  | .ready, row :: _ => .unpublished row
  | .publishing, row :: _ => .publishing row
  | _, _ => .over

section Exec

variable (batchSize maxAttempts : ℕ+)

/-- A step on the row at the head of `todo`. -/
def handleRow (number : Nat) (handled : List (OutboxMessage Payload))
    (row : OutboxMessage Payload) (rest : List (OutboxMessage Payload)) (step : RowStep)
    (input : Input) (store : Store Payload) : Store Payload × Batch Payload :=
  match step, input with
  | .ready, .publish =>
      ({ store with published := store.published ++ [publicationOf number row] },
        ⟨handled, row :: rest, .publishing⟩)
  -- `publish` throws before it sends: there is no channel.
  | .ready, .refuse message => (store, ⟨handled, row :: rest, .refused message⟩)
  -- A negative confirm, or none: the broker may have the message all the same.
  | .publishing, .refuse message => (store, ⟨handled, row :: rest, .refused message⟩)
  | .publishing, .confirm =>
      if acknowledged store number row.id then
        ({ store with reached := store.reached ++ [(row.id, number)] },
          ⟨handled, row :: rest, .confirmed⟩)
      else (store, ⟨handled, row :: rest, .publishing⟩)
  | .confirmed, .update =>
      (store, ⟨handled ++ [markPublished store.clock row], rest, .ready⟩)
  | .refused message, .update =>
      (store, ⟨handled ++ [recordFailure maxAttempts store.clock message row], rest, .ready⟩)
  | step, _ => (store, ⟨handled, row :: rest, step⟩)

def drainBatch (number : Nat) (phase : Phase Payload) (input : Input) (store : Store Payload) :
    Store Payload × Phase Payload :=
  match phase, input with
  | .idle, .claim chosen =>
      match select batchSize store chosen with
      | none => (store, .idle)
      | some rows =>
          ({ store with locks := store.locks ++ rowIds rows }, .holding ⟨[], rows, .ready⟩)
  -- The rows keep what they were before the claim, and their locks are gone.
  | .holding batch, .abort =>
      ({ store with locks := release batch.ids store.locks }, .abandoned (orphan batch))
  | .holding ⟨handled, [], step⟩, .commit =>
      ({ store with
          rows := store.rows.modify (settle handled) (by simp [OutboxMessage.clash, settle_id])
          locks := release (rowIds handled) store.locks },
        .committed)
  | .holding ⟨handled, row :: rest, step⟩, input =>
      let next := handleRow maxAttempts number handled row rest step input store
      (next.1, .holding next.2)
  -- The callback has not noticed yet, and publishes once more.
  | .abandoned (.unpublished row), .publish =>
      ({ store with published := store.published ++ [publicationOf number row] },
        .abandoned (.publishing row))
  | .abandoned (.publishing row), .confirm =>
      if acknowledged store number row.id then
        ({ store with reached := store.reached ++ [(row.id, number)] }, .abandoned .over)
      else (store, .abandoned (.publishing row))
  | .abandoned _, .refuse _ => (store, .abandoned .over)
  | phase, _ => (store, phase)

def ambient (change : Change Payload) (store : Store Payload) : Store Payload :=
  match change with
  | .insert id aggregateType aggregateId eventType payload =>
      let row : OutboxMessage Payload :=
        { id, aggregateType, aggregateId, eventType, payload
          availableAt := store.clock
          createdAt := store.clock }
      { store with rows := (store.rows.insert row).getD store.rows }
  | .tick milliseconds => { store with clock := store.clock + milliseconds }
  | .brokerConfirms position =>
      { store with confirmed := store.confirmed ++ store.published[position]?.toList }

def machine : Machine (Store Payload) (Drain Payload) Input (Change Payload) where
  exec input store drain :=
    let next := drainBatch batchSize maxAttempts drain.number drain.phase input store
    (next.1, { drain with phase := next.2 })
  ambient := ambient

end Exec

abbrev State (Payload : Type) := System (Store Payload) (Drain Payload)

def start : State Payload :=
  ⟨⟨Table.empty, [], 0, [], [], []⟩, fun index => ⟨index, .idle⟩⟩

end FaceVec.Outbox
