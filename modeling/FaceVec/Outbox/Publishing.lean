import FaceVec.Outbox.Safety

/-!
When the relay publishes a row once. A row that is published again belongs to
a transaction that did not commit, or was not told of the publishing; without
such faults a row that was published is settled, or its batch will settle it.
-/

namespace FaceVec.Outbox

open Interleaving

variable {Payload : Type}

/-- No fault that makes the relay publish a row of this kind again: a
transaction that has published one commits, and is told of its publishing
unless that was the last attempt; and no callback publishes one after its
transaction. -/
def Undisturbed (maxAttempts : ℕ+) (key : String) (published : List (Publication Payload))
    (drain : Drain Payload) (input : Input) : Prop :=
  match drain.phase, input with
  | .holding _, .abort =>
      ∀ publication ∈ published, publication.batch = drain.number → publication.routingKey ≠ key
  | .holding ⟨_, row :: _, .publishing⟩, .refuse _ =>
      row.eventType = key → (maxAttempts : Nat) ≤ row.attempts + 1
  | .abandoned (.unpublished row), .publish => row.eventType ≠ key
  | _, _ => True

def announces (key : String) (id : Uuid) (publication : Publication Payload) : Bool :=
  publication.routingKey == key && publication.messageId == id

/-- The row at the head was published, and its update will settle it. -/
def Taken (maxAttempts : ℕ+) (row : OutboxMessage Payload) : RowStep → Prop
  | .ready => False
  | .publishing | .confirmed => True
  | .refused _ => (maxAttempts : Nat) ≤ row.attempts + 1

/-- The commit of the batch will settle the row. -/
def Spent (maxAttempts : ℕ+) (key : String) (id : Uuid) : Phase Payload → Prop
  | .holding batch =>
      (∃ version ∈ batch.handled, version.id = id ∧ version.status ≠ .PENDING) ∨
        ∃ row ∈ batch.todo.head?, row.id = id ∧ row.eventType = key ∧
          Taken maxAttempts row batch.step
  | _ => False

def Closed (store : Store Payload) (id : Uuid) : Prop :=
  ∃ row ∈ store.rows, row.id = id ∧ row.status ≠ .PENDING

section Steps

variable (batchSize maxAttempts : ℕ+) (key : String) (number : Nat) (phase : Phase Payload)
  (input : Input) (store : Store Payload)

theorem drainBatch_published :
    (drainBatch batchSize maxAttempts number phase input store).1.published = store.published ∨
      ∃ row, (drainBatch batchSize maxAttempts number phase input store).1.published =
          store.published ++ [publicationOf number row] ∧
        ((∃ handled rest, phase = .holding ⟨handled, row :: rest, .ready⟩ ∧
            (drainBatch batchSize maxAttempts number phase input store).2 =
              .holding ⟨handled, row :: rest, .publishing⟩) ∨
          phase = .abandoned (.unpublished row) ∧ input = .publish) := by
  unfold drainBatch
  split
  · split <;> exact Or.inl rfl
  · exact Or.inl rfl
  · exact Or.inl rfl
  · next handled row rest step other =>
      unfold handleRow
      split
      · exact Or.inr ⟨row, rfl, Or.inl ⟨handled, rest, rfl, rfl⟩⟩
      · exact Or.inl rfl
      · exact Or.inl rfl
      · split <;> exact Or.inl rfl
      · exact Or.inl rfl
      · exact Or.inl rfl
      · exact Or.inl rfl
  · next row => exact Or.inr ⟨row, rfl, Or.inr ⟨rfl, rfl⟩⟩
  · split <;> exact Or.inl rfl
  · exact Or.inl rfl
  · exact Or.inl rfl

variable {maxAttempts key}

theorem handleRow_spent (handled : List (OutboxMessage Payload)) (row : OutboxMessage Payload)
    (rest : List (OutboxMessage Payload)) (step : RowStep) (id : Uuid)
    (calm : Undisturbed maxAttempts key store.published
      ⟨number, .holding ⟨handled, row :: rest, step⟩⟩ input)
    (spent : Spent maxAttempts key id (.holding ⟨handled, row :: rest, step⟩)) :
    Spent maxAttempts key id
      (.holding (handleRow maxAttempts number handled row rest step input store).2) := by
  rcases spent with ⟨version, done, same, settled⟩ | ⟨other, head, same, kind, taken⟩
  · left
    unfold handleRow
    split
    · exact ⟨version, done, same, settled⟩
    · exact ⟨version, done, same, settled⟩
    · exact ⟨version, done, same, settled⟩
    · split <;> exact ⟨version, done, same, settled⟩
    · exact ⟨version, List.mem_append_left _ done, same, settled⟩
    · exact ⟨version, List.mem_append_left _ done, same, settled⟩
    · exact ⟨version, done, same, settled⟩
  · obtain rfl : row = other := by simpa using head
    unfold handleRow
    split
    · exact taken.elim
    · exact taken.elim
    · exact Or.inr ⟨row, rfl, same, kind, calm kind⟩
    · split
      · exact Or.inr ⟨row, rfl, same, kind, trivial⟩
      · exact Or.inr ⟨row, rfl, same, kind, trivial⟩
    · exact Or.inl ⟨markPublished store.clock row, by simp, same, by simp [markPublished]⟩
    · next message =>
        refine Or.inl ⟨recordFailure maxAttempts store.clock message row, by simp, same, ?_⟩
        have last : (maxAttempts : Nat) ≤ row.attempts + 1 := taken
        simp [recordFailure, last]
    · exact Or.inr ⟨row, rfl, same, kind, taken⟩

/-- A batch keeps what it has published, and settles it by its commit. -/
theorem drainBatch_spent (own : Own maxAttempts store phase)
    (publication : Publication Payload) (member : publication ∈ store.published)
    (mine : publication.batch = number) (kind : publication.routingKey = key)
    (calm : Undisturbed maxAttempts key store.published ⟨number, phase⟩ input)
    (spent : Spent maxAttempts key publication.messageId phase) :
    Closed (drainBatch batchSize maxAttempts number phase input store).1 publication.messageId ∨
      Spent maxAttempts key publication.messageId
        (drainBatch batchSize maxAttempts number phase input store).2 := by
  unfold drainBatch
  split
  · exact spent.elim
  · exact absurd kind (calm publication member mine)
  · next handled step =>
      left
      rcases spent with ⟨version, done, same, settled⟩ | ⟨_, head, _⟩
      · obtain ⟨_, stored, inRows, _, event⟩ := own.handled version done
        have distinct : (rowIds handled).Nodup := by simpa [Batch.ids] using own.distinct
        refine ⟨version, ?_, same, settled⟩
        rw [Table.mem_rows]
        exact List.mem_map.mpr ⟨stored, inRows,
          settle_handled handled stored version distinct done event.id.symm⟩
      · simp at head
  · exact Or.inr (handleRow_spent number input store _ _ _ _ _ calm spent)
  · exact spent.elim
  · exact spent.elim
  · exact spent.elim
  · exact Or.inr spent

end Steps

/-- Every row of the kind was published once at most, and is settled or about to be. -/
structure Unrepeated (maxAttempts : ℕ+) (key : String) (system : State Payload) : Prop where
  spent : ∀ publication ∈ system.store.published, publication.routingKey = key →
    Closed system.store publication.messageId ∨
      Spent maxAttempts key publication.messageId (system.procs publication.batch).phase
  single : ∀ id, system.store.published.countP (announces key id) ≤ 1

section Runs

variable {batchSize maxAttempts : ℕ+} {key : String} (system : State Payload)
  (valid : Safe maxAttempts system) (unrepeated : Unrepeated maxAttempts key system)

include valid in
theorem step_closed (event : Event Input (Change Payload)) (id : Uuid)
    (closed : Closed system.store id) :
    Closed ((machine batchSize maxAttempts).step system event).store id := by
  obtain ⟨row, member, same, settled⟩ := closed
  exact ⟨row, step_settled batchSize maxAttempts system event valid row member settled, same, settled⟩

include valid unrepeated

/-- The row at the head of a batch has not been published. -/
theorem ready_unpublished (index : Nat) (handled rest : List (OutboxMessage Payload))
    (row : OutboxMessage Payload)
    (waits : (system.procs index).phase = .holding ⟨handled, row :: rest, .ready⟩) :
    system.store.published.countP (announces key row.id) = 0 := by
  have inside : row.id ∈ held (system.procs index).phase := by
    simp [waits, held, Batch.ids, rowIds]
  have own := valid.own index
  rw [waits] at own
  rw [List.countP_eq_zero]
  intro publication member announced
  simp only [announces, Bool.and_eq_true, beq_iff_eq] at announced
  obtain ⟨kind, same⟩ := announced
  rcases unrepeated.spent publication member kind with ⟨stored, inRows, sameId, settled⟩ | spent
  · rw [← same, ← sameId] at inside
    exact safe_settled system valid index stored inRows settled inside
  · rw [same] at spent
    have holds : row.id ∈ held (system.procs publication.batch).phase := by
      cases phase : (system.procs publication.batch).phase with
      | holding batch =>
          rw [phase] at spent
          rcases spent with ⟨version, done, sameId, _⟩ | ⟨other, head, sameId, _⟩
          · exact sameId ▸ List.mem_map_of_mem (List.mem_append_left _ done)
          · exact sameId ▸ List.mem_map_of_mem
              (List.mem_append_right _ (List.mem_of_mem_head? head))
      | _ => simp [phase, Spent] at spent
    rw [valid.disjoint _ _ _ holds inside, waits] at spent
    rcases spent with ⟨version, done, sameId, _⟩ | ⟨_, _, _, _, impossible⟩
    · have distinct : (rowIds handled ++ rowIds (row :: rest)).Nodup := by
        simpa [Batch.ids, rowIds] using own.distinct
      exact List.disjoint_of_nodup_append distinct
        (List.mem_map.mpr ⟨version, done, sameId⟩) (by simp [rowIds])
    · exact impossible

/-- What was published of the kind is settled or about to be, whichever relay steps. -/
theorem act_spent (index : Nat) (input : Input)
    (calm : Undisturbed maxAttempts key system.store.published (system.procs index) input)
    (publication : Publication Payload) (member : publication ∈ system.store.published)
    (kind : publication.routingKey = key) :
    Closed ((machine batchSize maxAttempts).step system (.act index input)).store
        publication.messageId ∨
      Spent maxAttempts key publication.messageId
        (((machine batchSize maxAttempts).step system (.act index input)).procs
          publication.batch).phase := by
  obtain ⟨_, others⟩ := step_acting batchSize maxAttempts system index input valid
  have number := valid.numbers index
  rcases unrepeated.spent publication member kind with done | spent
  · exact Or.inl (step_closed system valid (.act index input) _ done)
  · by_cases mine : publication.batch = index
    · rw [mine] at spent ⊢
      have kept := drainBatch_spent batchSize (system.procs index).number
        (system.procs index).phase input system.store (valid.own index) publication member
        (mine.trans number.symm) kind calm spent
      simpa [machine] using kept
    · rw [others _ mine]
      exact Or.inr spent

omit valid in
/-- One more publication keeps this, if its row was not published before and
will be settled. -/
theorem published_unrepeated (after : State Payload) (publication : Publication Payload)
    (published : after.store.published = system.store.published ++ [publication])
    (old : ∀ earlier ∈ system.store.published, earlier.routingKey = key →
      Closed after.store earlier.messageId ∨
        Spent maxAttempts key earlier.messageId (after.procs earlier.batch).phase)
    (new : publication.routingKey = key →
      Spent maxAttempts key publication.messageId (after.procs publication.batch).phase ∧
        system.store.published.countP (announces key publication.messageId) = 0) :
    Unrepeated maxAttempts key after := by
  constructor
  · rw [published]
    intro earlier member kind
    rcases List.mem_append.mp member with before | last
    · exact old earlier before kind
    · obtain rfl := List.mem_singleton.mp last
      exact Or.inr (new kind).1
  · intro id
    rw [published, List.countP_append, List.countP_singleton]
    split
    · next announced =>
        simp only [announces, Bool.and_eq_true, beq_iff_eq] at announced
        rw [← announced.2, (new announced.1).2]
    · exact unrepeated.single id

theorem act_unrepeated (index : Nat) (input : Input)
    (calm : Undisturbed maxAttempts key system.store.published (system.procs index) input) :
    Unrepeated maxAttempts key ((machine batchSize maxAttempts).step system (.act index input)) := by
  have number := valid.numbers index
  rcases drainBatch_published batchSize maxAttempts (system.procs index).number
    (system.procs index).phase input system.store with same | ⟨row, more, whence⟩
  · have published : ((machine batchSize maxAttempts).step system (.act index input)).store.published =
        system.store.published := same
    constructor
    · rw [published]
      exact act_spent system valid unrepeated index input calm
    · rw [published]
      exact unrepeated.single
  · have published : ((machine batchSize maxAttempts).step system (.act index input)).store.published =
        system.store.published ++ [publicationOf index row] := by
      rw [number] at more
      simpa [machine, number] using more
    refine published_unrepeated system unrepeated _ _ published
      (act_spent system valid unrepeated index input calm) fun kind => ?_
    rcases whence with ⟨handled, rest, waits, next⟩ | ⟨orphaned, asks⟩
    · have phase : (((machine batchSize maxAttempts).step system (.act index input)).procs
          index).phase = .holding ⟨handled, row :: rest, .publishing⟩ := by
        simpa [machine] using next
      exact ⟨phase ▸ Or.inr ⟨row, rfl, rfl, kind, trivial⟩,
        ready_unpublished system valid unrepeated index handled rest row waits⟩
    -- A late publication of a row of this kind is what the condition rules out.
    · unfold Undisturbed at calm
      rw [orphaned, asks] at calm
      exact absurd kind calm

theorem ambient_unrepeated (change : Change Payload) :
    Unrepeated maxAttempts key ((machine batchSize maxAttempts).step system (.env change)) := by
  have published : ((machine batchSize maxAttempts).step system (.env change)).store.published =
      system.store.published := by
    cases change <;> rfl
  constructor
  · rw [published]
    exact fun publication member kind => (unrepeated.spent publication member kind).imp_left
      (step_closed system valid (.env change) _)
  · rw [published]
    exact unrepeated.single

end Runs

theorem start_unrepeated (maxAttempts : ℕ+) (key : String) :
    Unrepeated maxAttempts key (start : State Payload) where
  spent := by simp [start]
  single := by simp [start]

end FaceVec.Outbox
