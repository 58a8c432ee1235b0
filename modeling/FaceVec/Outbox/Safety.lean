import Mathlib.Data.List.Nodup
import FaceVec.Outbox.Relay

/-!
Safety of the outbox relay. `Effect` says once what a step of a batch can do;
every invariant is derived from it. A batch that commits publishes what it
marked, so an acknowledgement that comes back twice belongs to a batch that
was rolled back.
-/

namespace FaceVec.Outbox

open Interleaving

variable {Payload : Type}

def Confirmed (store : Store Payload) (id : Uuid) : Prop :=
  ∃ publication ∈ store.confirmed, publication.messageId = id

theorem acknowledged_confirmed (store : Store Payload) (number : Nat) (id : Uuid)
    (acked : acknowledged store number id = true) : Confirmed store id := by
  obtain ⟨publication, member, hit⟩ := List.any_eq_true.mp acked
  simp only [Bool.and_eq_true, beq_iff_eq] at hit
  exact ⟨publication, member, hit.2⟩

/-- Two versions of one row announce the same event. -/
structure SameEvent (a b : OutboxMessage Payload) : Prop where
  id : a.id = b.id
  aggregateType : a.aggregateType = b.aggregateType
  aggregateId : a.aggregateId = b.aggregateId
  eventType : a.eventType = b.eventType
  payload : a.payload = b.payload
  createdAt : a.createdAt = b.createdAt

theorem sameEvent_refl (row : OutboxMessage Payload) : SameEvent row row :=
  ⟨rfl, rfl, rfl, rfl, rfl, rfl⟩

theorem sameEvent_trans (a b c : OutboxMessage Payload) (first : SameEvent a b)
    (second : SameEvent b c) : SameEvent a c :=
  ⟨first.id.trans second.id, first.aggregateType.trans second.aggregateType,
    first.aggregateId.trans second.aggregateId, first.eventType.trans second.eventType,
    first.payload.trans second.payload, first.createdAt.trans second.createdAt⟩

variable (batchSize maxAttempts : ℕ+)

/-- Everything one step of batch `number` can do. -/
inductive Effect (store : Store Payload) (number : Nat) (phase : Phase Payload) :
    Store Payload → Phase Payload → Prop where
  | stays : Effect store number phase store phase
  | claimed (rows : List (OutboxMessage Payload)) : phase = .idle →
      (∀ row ∈ rows, row ∈ store.rows ∧ row.status = .PENDING ∧ row.id ∉ store.locks) →
      (rowIds rows).Nodup →
      Effect store number phase { store with locks := store.locks ++ rowIds rows }
        (.holding ⟨[], rows, .ready⟩)
  | advanced (batch : Batch Payload) (step : RowStep) (published : List (Publication Payload)) :
      phase = .holding batch → batch.step ≠ .confirmed → step ≠ .confirmed →
      Effect store number phase { store with published } (.holding { batch with step })
  | acked (handled : List (OutboxMessage Payload)) (row : OutboxMessage Payload)
      (rest : List (OutboxMessage Payload)) :
      phase = .holding ⟨handled, row :: rest, .publishing⟩ → Confirmed store row.id →
      Effect store number phase { store with reached := store.reached ++ [(row.id, number)] }
        (.holding ⟨handled, row :: rest, .confirmed⟩)
  | updated (handled : List (OutboxMessage Payload)) (row version : OutboxMessage Payload)
      (rest : List (OutboxMessage Payload)) (step : RowStep) :
      phase = .holding ⟨handled, row :: rest, step⟩ →
      (step = .confirmed ∧ version = markPublished store.clock row) ∨
        (step ≠ .confirmed ∧ ∃ message,
          version = recordFailure maxAttempts store.clock message row) →
      Effect store number phase store (.holding ⟨handled ++ [version], rest, .ready⟩)
  | aborted (batch : Batch Payload) : phase = .holding batch →
      Effect store number phase { store with locks := release batch.ids store.locks }
        (.abandoned (orphan batch))
  | committed (handled : List (OutboxMessage Payload)) (step : RowStep)
      (rows : Table (@OutboxMessage.clash Payload)) :
      phase = .holding ⟨handled, [], step⟩ → rows.rows = store.rows.rows.map (settle handled) →
      Effect store number phase
        { store with rows, locks := release (rowIds handled) store.locks } .committed
  | orphaned (before after : Orphan Payload) (published : List (Publication Payload))
      (reached : List (Uuid × Nat)) : phase = .abandoned before →
      reached = store.reached ∨ (∃ id, reached = store.reached ++ [(id, number)]) →
      Effect store number phase { store with published, reached } (.abandoned after)

theorem select_rows (store : Store Payload) (chosen : List Uuid)
    (rows : List (OutboxMessage Payload)) (selected : select batchSize store chosen = some rows) :
    (∀ row ∈ rows, row ∈ store.rows ∧ row.status = .PENDING ∧ row.id ∉ store.locks) ∧
      (rowIds rows).Nodup := by
  simp only [select] at selected
  split at selected
  · next sound =>
      obtain rfl := Option.some.inj selected
      simp only [Bool.and_eq_true, decide_eq_true_eq] at sound
      refine ⟨fun row member => ?_, sound.1.1.1⟩
      obtain ⟨id, _, found⟩ := List.mem_filterMap.mp member
      obtain ⟨stored, free⟩ := List.mem_filter.mp (List.mem_of_find?_eq_some found)
      simp only [publishable, Bool.and_eq_true, beq_iff_eq, decide_eq_true_eq,
        Bool.not_eq_true', List.contains_eq_mem, decide_eq_false_iff_not] at free
      exact ⟨stored, free.1.1, free.2⟩
  · contradiction

theorem handleRow_effect (number : Nat) (handled : List (OutboxMessage Payload))
    (row : OutboxMessage Payload) (rest : List (OutboxMessage Payload)) (step : RowStep)
    (input : Input) (store : Store Payload) :
    Effect maxAttempts store number (.holding ⟨handled, row :: rest, step⟩)
      (handleRow maxAttempts number handled row rest step input store).1
      (.holding (handleRow maxAttempts number handled row rest step input store).2) := by
  unfold handleRow
  split
  · exact .advanced _ .publishing _ rfl (by simp) (by simp)
  · next message => exact .advanced _ (.refused message) store.published rfl (by simp) (by simp)
  · next message => exact .advanced _ (.refused message) store.published rfl (by simp) (by simp)
  · split
    · next acked => exact .acked handled row rest rfl (acknowledged_confirmed store number _ acked)
    · exact .stays
  · exact .updated handled row _ rest _ rfl (Or.inl ⟨rfl, rfl⟩)
  · next message => exact .updated handled row _ rest _ rfl (Or.inr ⟨by simp, message, rfl⟩)
  · exact .stays

theorem drainBatch_effect (number : Nat) (phase : Phase Payload) (input : Input)
    (store : Store Payload) :
    Effect maxAttempts store number phase
      (drainBatch batchSize maxAttempts number phase input store).1
      (drainBatch batchSize maxAttempts number phase input store).2 := by
  unfold drainBatch
  split
  · split
    · exact .stays
    · next rows selected =>
        obtain ⟨picked, distinct⟩ := select_rows batchSize store _ rows selected
        exact .claimed rows rfl picked distinct
  · next batch => exact .aborted batch rfl
  · next handled step => exact .committed handled step _ rfl rfl
  · exact handleRow_effect maxAttempts number _ _ _ _ _ store
  · next row => exact .orphaned _ _ _ _ rfl (Or.inl rfl)
  · next row =>
      split
      · exact .orphaned _ _ store.published _ rfl (Or.inr ⟨row.id, rfl⟩)
      · exact .stays
  · exact .orphaned _ _ store.published store.reached rfl (Or.inl rfl)
  · exact .stays

/-- The counters and the status of a row fit together. -/
structure Sound (store : Store Payload) (row : OutboxMessage Payload) : Prop where
  pending : row.status = .PENDING → row.attempts < maxAttempts
  failed : row.status = .FAILED → row.attempts = maxAttempts
  published : row.status = .PUBLISHED → Confirmed store row.id

structure Holding (store : Store Payload) (batch : Batch Payload) : Prop where
  distinct : batch.ids.Nodup
  locked : ∀ id ∈ batch.ids, id ∈ store.locks
  todo : ∀ row ∈ batch.todo, row ∈ store.rows ∧ row.status = .PENDING
  handled : ∀ row ∈ batch.handled, Sound maxAttempts store row ∧
    ∃ stored ∈ store.rows, stored.status = .PENDING ∧ SameEvent stored row
  step : batch.step = .confirmed → ∀ row ∈ batch.todo.head?, Confirmed store row.id

def Own (store : Store Payload) : Phase Payload → Prop
  | .holding batch => Holding maxAttempts store batch
  | _ => True

def held : Phase Payload → List Uuid
  | .holding batch => batch.ids
  | _ => []

def Gone : Phase Payload → Prop
  | .abandoned _ => True
  | _ => False

/-- What an acknowledgement that came back to a batch says about its row. -/
def Backed (store : Store Payload) (id : Uuid) : Phase Payload → Prop
  | .idle => False
  | .holding batch =>
      (∃ row ∈ batch.handled, row.id = id ∧ row.status = .PUBLISHED) ∨
        (batch.step = .confirmed ∧ ∃ row ∈ batch.todo.head?, row.id = id)
  | .committed => ∃ row ∈ store.rows, row.id = id ∧ row.status = .PUBLISHED
  | .abandoned _ => True

/-- What a step that may write to the rows in `touched` leaves to the others. -/
structure Frame (touched : List Uuid) (store after : Store Payload) : Prop where
  confirmed : ∀ id, Confirmed store id → Confirmed after id
  rows : ∀ row ∈ store.rows, row.id ∉ touched ∨ row.status ≠ .PENDING → row ∈ after.rows
  locks : ∀ id ∈ store.locks, id ∉ touched → id ∈ after.locks

theorem row_eq_of_id (rows : Table (@OutboxMessage.clash Payload))
    (a b : OutboxMessage Payload) (inA : a ∈ rows) (inB : b ∈ rows) (same : a.id = b.id) : a = b :=
  rows.eq_of_clash a b inA inB (by simp [OutboxMessage.clash, same])
    (by simp [OutboxMessage.clash, same])

/-- The rows that a batch holds are in the table, and not settled. -/
def Unsettled (store : Store Payload) (phase : Phase Payload) : Prop :=
  ∀ id ∈ held phase, ∃ stored ∈ store.rows, stored.id = id ∧ stored.status = .PENDING

theorem own_unsettled (store : Store Payload) (phase : Phase Payload)
    (own : Own maxAttempts store phase) : Unsettled store phase := by
  intro id member
  cases phase with
  | holding batch =>
      obtain ⟨row, inside, rfl⟩ := List.mem_map.mp member
      rcases List.mem_append.mp inside with done | waiting
      · obtain ⟨_, stored, inRows, pending, same⟩ := own.handled row done
        exact ⟨stored, inRows, same.id, pending⟩
      · obtain ⟨inRows, pending⟩ := own.todo row waiting
        exact ⟨row, inRows, rfl, pending⟩
  | _ => simp [held] at member

theorem unsettled_row (store : Store Payload) (phase : Phase Payload)
    (unsettled : Unsettled store phase) (row : OutboxMessage Payload) (member : row ∈ store.rows)
    (inside : row.id ∈ held phase) : row.status = .PENDING := by
  obtain ⟨stored, inRows, same, pending⟩ := unsettled row.id inside
  rwa [row_eq_of_id store.rows stored row inRows member same] at pending

theorem settle_other (handled : List (OutboxMessage Payload)) (row : OutboxMessage Payload)
    (other : row.id ∉ rowIds handled) : settle handled row = row := by
  have absent : handled.find? (·.id == row.id) = none := by
    rw [List.find?_eq_none]
    intro version member same
    exact other (List.mem_map.mpr ⟨version, member, by simpa using same⟩)
  simp [settle, absent]

theorem settle_handled (handled : List (OutboxMessage Payload)) (row version : OutboxMessage Payload)
    (distinct : (rowIds handled).Nodup) (member : version ∈ handled) (same : version.id = row.id) :
    settle handled row = version := by
  cases found : handled.find? (·.id == row.id) with
  | none =>
      rw [List.find?_eq_none] at found
      exact absurd (by simpa using same) (found version member)
  | some hit =>
      have hitId : hit.id = row.id := by simpa using List.find?_some found
      have unique := List.inj_on_of_nodup_map distinct (List.mem_of_find?_eq_some found) member
        (hitId.trans same.symm)
      simp [settle, found, unique]

theorem settle_cases (handled : List (OutboxMessage Payload)) (row : OutboxMessage Payload) :
    settle handled row = row ∨
      ∃ version ∈ handled, version.id = row.id ∧ settle handled row = version := by
  cases found : handled.find? (·.id == row.id) with
  | none => exact Or.inl (by simp [settle, found])
  | some hit =>
      exact Or.inr ⟨hit, List.mem_of_find?_eq_some found, by simpa using List.find?_some found,
        by simp [settle, found]⟩

theorem mem_release (ids locks : List Uuid) (id : Uuid) :
    id ∈ release ids locks ↔ id ∈ locks ∧ id ∉ ids := by
  simp [release]

variable {batchSize maxAttempts}

theorem effect_frame (store after : Store Payload) (number : Nat) (phase next : Phase Payload)
    (effect : Effect maxAttempts store number phase after next)
    (unsettled : Unsettled store phase) : Frame (held phase) store after := by
  cases effect with
  | stays => exact ⟨fun _ => id, fun _ member _ => member, fun _ member _ => member⟩
  | claimed rows =>
      exact ⟨fun _ => id, fun _ member _ => member,
        fun _ member _ => List.mem_append_left _ member⟩
  | advanced => exact ⟨fun _ => id, fun _ member _ => member, fun _ member _ => member⟩
  | acked => exact ⟨fun _ => id, fun _ member _ => member, fun _ member _ => member⟩
  | updated => exact ⟨fun _ => id, fun _ member _ => member, fun _ member _ => member⟩
  | orphaned => exact ⟨fun _ => id, fun _ member _ => member, fun _ member _ => member⟩
  | aborted batch waits =>
      subst waits
      exact ⟨fun _ => id, fun _ member _ => member,
        fun id member free => (mem_release _ _ id).mpr ⟨member, free⟩⟩
  | committed handled step rows waits written =>
      subst waits
      have ids : held (.holding ⟨handled, [], step⟩) = rowIds handled := by
        simp [held, Batch.ids]
      rw [ids]
      refine ⟨fun _ => id, fun row member free => ?_,
        fun id member free => (mem_release _ _ id).mpr ⟨member, free⟩⟩
      rw [Table.mem_rows, written]
      refine List.mem_map.mpr ⟨row, member, settle_other handled row fun inside => ?_⟩
      rcases free with outside | settled
      · exact outside inside
      · exact settled (unsettled_row store _ unsettled row member (ids ▸ inside))

theorem sound_frame (touched : List Uuid) (store after : Store Payload)
    (frame : Frame touched store after) (row : OutboxMessage Payload)
    (sound : Sound maxAttempts store row) : Sound maxAttempts after row :=
  ⟨sound.pending, sound.failed, fun published => frame.confirmed _ (sound.published published)⟩

theorem own_frame (touched : List Uuid) (store after : Store Payload)
    (frame : Frame touched store after) (phase : Phase Payload)
    (apart : ∀ id ∈ held phase, id ∉ touched) (own : Own maxAttempts store phase) :
    Own maxAttempts after phase := by
  cases phase with
  | holding batch =>
      have inIds : ∀ row, row ∈ batch.handled ∨ row ∈ batch.todo → row.id ∈ batch.ids := by
        intro row member
        exact List.mem_map.mpr ⟨row, List.mem_append.mpr member, rfl⟩
      constructor
      · exact own.distinct
      · exact fun id member => frame.locks id (own.locked id member) (apart id member)
      · intro row member
        obtain ⟨inRows, pending⟩ := own.todo row member
        exact ⟨frame.rows row inRows (Or.inl (apart _ (inIds row (Or.inr member)))), pending⟩
      · intro row member
        obtain ⟨sound, stored, inRows, pending, same⟩ := own.handled row member
        refine ⟨sound_frame touched store after frame row sound, stored, ?_, pending, same⟩
        refine frame.rows stored inRows (Or.inl ?_)
        rw [same.id]
        exact apart _ (inIds row (Or.inl member))
      · exact fun confirmed row member => frame.confirmed _ (own.step confirmed row member)
  | _ => trivial

theorem backed_frame (touched : List Uuid) (store after : Store Payload)
    (frame : Frame touched store after) (phase : Phase Payload) (id : Uuid)
    (backed : Backed store id phase) : Backed after id phase := by
  cases phase with
  | committed =>
      obtain ⟨row, member, same, published⟩ := backed
      exact ⟨row, frame.rows row member (Or.inr (by simp [published])), same, published⟩
  | _ => exact backed

theorem markPublished_sound (store : Store Payload) (row : OutboxMessage Payload) (now : Instant)
    (confirmed : Confirmed store row.id) : Sound maxAttempts store (markPublished now row) :=
  ⟨by simp [markPublished], by simp [markPublished], fun _ => confirmed⟩

theorem recordFailure_sound (store : Store Payload) (row : OutboxMessage Payload) (now : Instant)
    (message : String) (below : row.attempts < maxAttempts) :
    Sound maxAttempts store (recordFailure maxAttempts now message row) := by
  by_cases exhausted : (maxAttempts : ℕ) ≤ row.attempts + 1
  · constructor
    · simp [recordFailure, exhausted]
    · intro _
      have reached : row.attempts + 1 = maxAttempts := by omega
      simpa [recordFailure] using reached
    · simp [recordFailure, exhausted]
  · constructor
    · intro _
      have open_ : row.attempts + 1 < maxAttempts := by omega
      simpa [recordFailure] using open_
    · simp [recordFailure, exhausted]
    · simp [recordFailure, exhausted]

theorem version_sound (store : Store Payload) (row version : OutboxMessage Payload)
    (step : RowStep) (pending : row.status = .PENDING) (sound : Sound maxAttempts store row)
    (confirmed : step = .confirmed → Confirmed store row.id)
    (written : (step = .confirmed ∧ version = markPublished store.clock row) ∨
      (step ≠ .confirmed ∧ ∃ message,
        version = recordFailure maxAttempts store.clock message row)) :
    Sound maxAttempts store version ∧ SameEvent row version := by
  rcases written with ⟨marked, rfl⟩ | ⟨_, message, rfl⟩
  · exact ⟨markPublished_sound store row _ (confirmed marked), ⟨rfl, rfl, rfl, rfl, rfl, rfl⟩⟩
  · exact ⟨recordFailure_sound store row _ message (sound.pending pending),
      ⟨rfl, rfl, rfl, rfl, rfl, rfl⟩⟩

theorem effect_own (store after : Store Payload) (number : Nat) (phase next : Phase Payload)
    (effect : Effect maxAttempts store number phase after next)
    (sounds : ∀ row ∈ store.rows, Sound maxAttempts store row)
    (own : Own maxAttempts store phase) : Own maxAttempts after next := by
  have frame := effect_frame store after number phase next effect (own_unsettled _ _ _ own)
  cases effect with
  | stays => exact own
  | claimed rows waits picked distinct =>
      constructor
      · simpa [Batch.ids] using distinct
      · intro id member
        exact List.mem_append_right _ (by simpa [Batch.ids] using member)
      · exact fun row member => ⟨(picked row member).1, (picked row member).2.1⟩
      · simp
      · simp
  | advanced batch step published waits calm calm' =>
      subst waits
      exact ⟨own.distinct, own.locked, own.todo,
        fun row member => (own.handled row member).imp_left (sound_frame _ _ _ frame row),
        fun marked => absurd marked calm'⟩
  | acked handled row rest waits confirmed =>
      subst waits
      refine ⟨own.distinct, own.locked, own.todo,
        fun row member => (own.handled row member).imp_left (sound_frame _ _ _ frame row),
        fun _ other member => ?_⟩
      obtain rfl : row = other := by simpa using member
      exact confirmed
  | updated handled row version rest step waits written =>
      subst waits
      obtain ⟨inRows, pending⟩ := own.todo row (by simp)
      obtain ⟨sound, same⟩ := version_sound store row version step pending
        (sounds row inRows) (fun marked => own.step marked row (by simp)) written
      -- The rewritten row moves from one half of the batch to the other.
      have ids : Batch.ids ⟨handled ++ [version], rest, .ready⟩ =
          Batch.ids ⟨handled, row :: rest, step⟩ := by
        simp [Batch.ids, rowIds, same.id]
      constructor
      · rw [ids]
        exact own.distinct
      · rw [ids]
        exact own.locked
      · exact fun other member => own.todo other (List.mem_cons_of_mem _ member)
      · intro other member
        rcases List.mem_append.mp member with old | new
        · exact own.handled other old
        · obtain rfl : other = version := by simpa using new
          exact ⟨sound, row, inRows, pending, same⟩
      · simp
  | _ => trivial

/-- Every row of the table stays sound, and is still there. -/
theorem effect_rows (store after : Store Payload) (number : Nat) (phase next : Phase Payload)
    (effect : Effect maxAttempts store number phase after next)
    (sounds : ∀ row ∈ store.rows, Sound maxAttempts store row)
    (own : Own maxAttempts store phase) :
    (∀ row ∈ after.rows, Sound maxAttempts after row) ∧
      ∀ row ∈ store.rows, ∃ version ∈ after.rows, SameEvent row version := by
  have frame := effect_frame store after number phase next effect (own_unsettled _ _ _ own)
  cases effect with
  | committed handled step rows waits written =>
      subst waits
      constructor
      · intro row member
        rw [Table.mem_rows, written] at member
        obtain ⟨old, inRows, rfl⟩ := List.mem_map.mp member
        rcases settle_cases handled old with same | ⟨version, done, _, same⟩
        · rw [same]
          exact sound_frame _ _ _ frame old (sounds old inRows)
        · rw [same]
          exact sound_frame _ _ _ frame version (own.handled version done).1
      · intro row member
        refine ⟨settle handled row, ?_, ?_⟩
        · rw [Table.mem_rows, written]
          exact List.mem_map.mpr ⟨row, member, rfl⟩
        · rcases settle_cases handled row with same | ⟨version, done, sameId, same⟩
          · rw [same]
            exact sameEvent_refl row
          · obtain ⟨_, stored, inRows, _, event⟩ := own.handled version done
            rw [same, ← row_eq_of_id store.rows stored row inRows member (event.id.trans sameId)]
            exact event
  | _ =>
      exact ⟨fun row member => sound_frame _ _ _ frame row (sounds row member),
        fun row member => ⟨row, member, sameEvent_refl row⟩⟩

theorem effect_held (store after : Store Payload) (number : Nat) (phase next : Phase Payload)
    (effect : Effect maxAttempts store number phase after next) (id : Uuid)
    (member : id ∈ held next) : id ∈ held phase ∨ id ∉ store.locks := by
  cases effect with
  | stays => exact Or.inl member
  | claimed rows waits picked =>
      obtain ⟨row, inside, rfl⟩ := List.mem_map.mp member
      exact Or.inr (picked row (by simpa using inside)).2.2
  | advanced batch step published waits => exact Or.inl (by rw [waits]; exact member)
  | acked handled row rest waits => exact Or.inl (by rw [waits]; exact member)
  | updated handled row version rest step waits written =>
      left
      have same : version.id = row.id := by
        rcases written with ⟨_, rfl⟩ | ⟨_, _, rfl⟩ <;> rfl
      rw [waits]
      simpa [held, Batch.ids, rowIds, same] using member
  | _ => simp [held] at member

theorem own_locked (store : Store Payload) (phase : Phase Payload)
    (own : Own maxAttempts store phase) (id : Uuid) (member : id ∈ held phase) :
    id ∈ store.locks := by
  cases phase with
  | holding batch => exact own.locked id member
  | _ => simp [held] at member

/-- Locks taken by a step are new, so no two batches come to hold one row. -/
theorem held_disjoint (phases after : Nat → Phase Payload) (index : Nat) (locks : List Uuid)
    (locked : ∀ other, ∀ id ∈ held (phases other), id ∈ locks)
    (disjoint : ∀ first second id, id ∈ held (phases first) → id ∈ held (phases second) →
      first = second)
    (taken : ∀ id ∈ held (after index), id ∈ held (phases index) ∨ id ∉ locks)
    (others : ∀ other, other ≠ index → after other = phases other) (first second : Nat) (id : Uuid)
    (inFirst : id ∈ held (after first)) (inSecond : id ∈ held (after second)) :
    first = second := by
  have fresh : ∀ other, id ∈ held (after index) → id ∈ held (phases other) → other = index := by
    intro other member inside
    rcases taken id member with old | unlocked
    · exact disjoint other index id inside old
    · exact absurd (locked other id inside) unlocked
  by_cases firstActs : first = index
  · by_cases secondActs : second = index
    · rw [firstActs, secondActs]
    · rw [others second secondActs] at inSecond
      subst first
      exact absurd (fresh second inFirst inSecond) secondActs
  · rw [others first firstActs] at inFirst
    by_cases secondActs : second = index
    · subst second
      exact absurd (fresh first inSecond inFirst) firstActs
    · rw [others second secondActs] at inSecond
      exact disjoint first second id inFirst inSecond

theorem effect_gone (store after : Store Payload) (number : Nat) (phase next : Phase Payload)
    (effect : Effect maxAttempts store number phase after next) (gone : Gone phase) :
    Gone next := by
  cases effect with
  | stays => exact gone
  | orphaned => trivial
  | aborted => trivial
  | claimed rows waits => simp [waits, Gone] at gone
  | advanced batch step published waits => simp [waits, Gone] at gone
  | acked handled row rest waits => simp [waits, Gone] at gone
  | updated handled row version rest step waits => simp [waits, Gone] at gone
  | committed handled step rows waits => simp [waits, Gone] at gone

theorem effect_backed (store after : Store Payload) (number : Nat) (phase next : Phase Payload)
    (effect : Effect maxAttempts store number phase after next) (own : Own maxAttempts store phase)
    (id : Uuid) (backed : Backed store id phase) : Backed after id next := by
  cases effect with
  | stays => exact backed
  | claimed rows waits => simp [waits, Backed] at backed
  | advanced batch step published waits calm =>
      subst waits
      rcases backed with done | ⟨marked, _⟩
      · exact Or.inl done
      · exact absurd marked calm
  | acked handled row rest waits =>
      subst waits
      rcases backed with done | ⟨impossible, _⟩
      · exact Or.inl done
      · cases impossible
  | updated handled row version rest step waits written =>
      subst waits
      rcases backed with ⟨other, member, same, published⟩ | ⟨marked, other, member, same⟩
      · exact Or.inl ⟨other, List.mem_append_left _ member, same, published⟩
      · obtain rfl : row = other := by simpa using member
        rcases written with ⟨_, rfl⟩ | ⟨unmarked, _⟩
        · exact Or.inl ⟨markPublished store.clock row, by simp, same, rfl⟩
        · exact absurd marked unmarked
  | committed handled step rows waits written =>
      subst waits
      rcases backed with ⟨row, member, same, published⟩ | ⟨_, other, member, _⟩
      -- The commit puts the rewritten row into the table.
      · obtain ⟨_, stored, inRows, _, event⟩ := own.handled row member
        refine ⟨row, ?_, same, published⟩
        rw [Table.mem_rows, written]
        have distinct : (rowIds handled).Nodup := by simpa [Batch.ids] using own.distinct
        exact List.mem_map.mpr ⟨stored, inRows,
          settle_handled handled stored row distinct member event.id.symm⟩
      · simp at member
  | aborted => trivial
  | orphaned => trivial

/-- A new acknowledgement is the first one of the transaction that gets it,
unless the transaction is gone. -/
theorem effect_reached (store after : Store Payload) (number : Nat) (phase next : Phase Payload)
    (effect : Effect maxAttempts store number phase after next)
    (own : Own maxAttempts store phase) :
    after.reached = store.reached ∨
      ∃ id, after.reached = store.reached ++ [(id, number)] ∧ Backed after id next ∧
        (Gone next ∨ id ∈ held phase ∧ ¬ Backed store id phase) := by
  cases effect with
  | acked handled row rest waits confirmed =>
      subst waits
      refine Or.inr ⟨row.id, rfl, Or.inr ⟨rfl, row, by simp, rfl⟩,
        Or.inr ⟨by simp [held, Batch.ids, rowIds], ?_⟩⟩
      rintro (⟨other, member, same, _⟩ | ⟨impossible, _⟩)
      · have distinct : (rowIds handled ++ rowIds (row :: rest)).Nodup := by
          simpa [Batch.ids, rowIds] using own.distinct
        have apart := List.disjoint_of_nodup_append distinct
        exact apart (List.mem_map.mpr ⟨other, member, same⟩) (by simp [rowIds])
      · cases impossible
  | orphaned before orphan published reached waits grown =>
      rcases grown with same | ⟨id, added⟩
      · exact Or.inl same
      · exact Or.inr ⟨id, added, trivial, Or.inl trivial⟩
  | _ => exact Or.inl rfl

theorem backed_cases (store : Store Payload) (phase : Phase Payload) (id : Uuid)
    (backed : Backed store id phase) :
    Gone phase ∨ id ∈ held phase ∨ ∃ row ∈ store.rows, row.id = id ∧ row.status = .PUBLISHED := by
  cases phase with
  | idle => exact backed.elim
  | holding batch =>
      right
      left
      rcases backed with ⟨row, member, rfl, _⟩ | ⟨_, row, member, rfl⟩
      · exact List.mem_map.mpr ⟨row, List.mem_append_left _ member, rfl⟩
      · exact List.mem_map.mpr
          ⟨row, List.mem_append_right _ (List.mem_of_mem_head? member), rfl⟩
  | committed => exact Or.inr (Or.inr backed)
  | abandoned => exact Or.inl trivial

variable (maxAttempts) in
structure Safe (system : State Payload) : Prop where
  numbers : ∀ index, (system.procs index).number = index
  sound : ∀ row ∈ system.store.rows, Sound maxAttempts system.store row
  own : ∀ index, Own maxAttempts system.store (system.procs index).phase
  disjoint : ∀ first second id, id ∈ held (system.procs first).phase →
    id ∈ held (system.procs second).phase → first = second
  backed : ∀ entry ∈ system.store.reached,
    Backed system.store entry.1 (system.procs entry.2).phase
  single : system.store.reached.Pairwise fun earlier later => earlier.1 = later.1 →
    Gone (system.procs earlier.2).phase ∨ Gone (system.procs later.2).phase

theorem safe_settled (system : State Payload) (valid : Safe maxAttempts system) (index : Nat)
    (row : OutboxMessage Payload) (member : row ∈ system.store.rows)
    (settled : row.status ≠ .PENDING) : row.id ∉ held (system.procs index).phase :=
  fun inside => settled
    (unsettled_row _ _ (own_unsettled _ _ _ (valid.own index)) row member inside)

section Acting

variable (system after : State Payload) (index : Nat) (valid : Safe maxAttempts system)
  (effect : Effect maxAttempts system.store index (system.procs index).phase after.store
    (after.procs index).phase)
  (others : ∀ other, other ≠ index → after.procs other = system.procs other)

include valid in
theorem acting_apart (other : Nat) (different : other ≠ index) (id : Uuid)
    (member : id ∈ held (system.procs other).phase) : id ∉ held (system.procs index).phase :=
  fun inside => different (valid.disjoint other index id member inside)

include effect others

theorem acting_gone (other : Nat) (gone : Gone (system.procs other).phase) :
    Gone (after.procs other).phase := by
  by_cases same : other = index
  · subst other
    exact effect_gone _ _ _ _ _ effect gone
  · rw [others other same]
    exact gone

include valid

theorem acting_own (other : Nat) : Own maxAttempts after.store (after.procs other).phase := by
  by_cases same : other = index
  · subst other
    exact effect_own _ _ _ _ _ effect valid.sound (valid.own _)
  · rw [others other same]
    exact own_frame _ _ _ (effect_frame _ _ _ _ _ effect (own_unsettled _ _ _ (valid.own index))) _
      (acting_apart system index valid other same) (valid.own other)

theorem acting_backed (other : Nat) (id : Uuid)
    (backed : Backed system.store id (system.procs other).phase) :
    Backed after.store id (after.procs other).phase := by
  by_cases same : other = index
  · subst other
    exact effect_backed _ _ _ _ _ effect (valid.own _) id backed
  · rw [others other same]
    exact backed_frame _ _ _ (effect_frame _ _ _ _ _ effect (own_unsettled _ _ _ (valid.own index))) _ id backed

theorem acting_disjoint (first second : Nat) (id : Uuid)
    (inFirst : id ∈ held (after.procs first).phase)
    (inSecond : id ∈ held (after.procs second).phase) : first = second :=
  held_disjoint (fun other => (system.procs other).phase) (fun other => (after.procs other).phase)
    index system.store.locks (fun other => own_locked _ _ (valid.own other)) valid.disjoint
    (effect_held _ _ _ _ _ effect)
    (fun other different => congrArg Drain.phase (others other different)) first second id inFirst
    inSecond

theorem acting_reached (entry : Uuid × Nat) (member : entry ∈ after.store.reached) :
    Backed after.store entry.1 (after.procs entry.2).phase := by
  have backed := acting_backed system after index valid effect others
  rcases effect_reached _ _ _ _ _ effect (valid.own index) with same | ⟨id, added, holds, _⟩
  · rw [same] at member
    exact backed _ _ (valid.backed entry member)
  · rw [added] at member
    rcases List.mem_append.mp member with old | new
    · exact backed _ _ (valid.backed entry old)
    · obtain rfl : entry = (id, index) := by simpa using new
      exact holds

theorem acting_single :
    after.store.reached.Pairwise fun earlier later => earlier.1 = later.1 →
      Gone (after.procs earlier.2).phase ∨ Gone (after.procs later.2).phase := by
  have gone := acting_gone system after index effect others
  have carried := valid.single.imp fun {earlier later} either same =>
    (either same).imp (gone earlier.2) (gone later.2)
  rcases effect_reached _ _ _ _ _ effect (valid.own index) with same | ⟨id, added, _, first⟩
  · rw [same]
    exact carried
  · rw [added, List.pairwise_append]
    refine ⟨carried, by simp, fun earlier member later new same => ?_⟩
    obtain rfl : later = (id, index) := by simpa using new
    obtain rfl : earlier.1 = id := same
    rcases first with lost | ⟨holds, unbacked⟩
    · exact Or.inr lost
    · left
      have before := valid.backed earlier member
      rcases backed_cases _ _ _ before with lost | inside | ⟨row, inRows, same, published⟩
      · exact gone earlier.2 lost
      · have acts := valid.disjoint earlier.2 index earlier.1 inside holds
        rw [acts] at before
        exact absurd before unbacked
      · rw [← same] at holds
        exact absurd holds (safe_settled system valid index row inRows (by simp [published]))

end Acting

section Runs

variable (batchSize maxAttempts)

theorem step_acting (system : State Payload) (index : Nat) (input : Input)
    (valid : Safe maxAttempts system) :
    let after := (machine batchSize maxAttempts).step system (.act index input)
    Effect maxAttempts system.store index (system.procs index).phase after.store
        (after.procs index).phase ∧
      ∀ other, other ≠ index → after.procs other = system.procs other := by
  have effect := drainBatch_effect batchSize maxAttempts (system.procs index).number
    (system.procs index).phase input system.store
  rw [valid.numbers index] at effect
  constructor
  · simpa [machine, valid.numbers index] using effect
  · exact fun other different => step_other _ _ _ _ _ different

theorem step_number (system : State Payload) (event : Event Input (Change Payload)) (index : Nat) :
    (((machine batchSize maxAttempts).step system event).procs index).number =
      (system.procs index).number := by
  cases event with
  | act acting input =>
      by_cases same : index = acting
      · subst acting
        simp [machine]
      · simp [same]
  | env change => rfl

theorem ambient_frame (change : Change Payload) (store : Store Payload) :
    Frame [] store (ambient change store) := by
  cases change with
  | insert id aggregateType aggregateId eventType payload =>
      refine ⟨fun _ confirmed => confirmed, fun row member _ => ?_, fun _ member _ => member⟩
      dsimp only [ambient]
      cases inserted : store.rows.insert _ with
      | none => exact member
      | some rows => exact (Table.mem_insert _ _ _ inserted row).mpr (Or.inl member)
  | tick milliseconds => exact ⟨fun _ => id, fun _ member _ => member, fun _ member _ => member⟩
  | brokerConfirms position =>
      refine ⟨?_, fun _ member _ => member, fun _ member _ => member⟩
      rintro id ⟨publication, member, same⟩
      exact ⟨publication, List.mem_append_left _ member, same⟩

theorem ambient_sound (change : Change Payload) (store : Store Payload)
    (sounds : ∀ row ∈ store.rows, Sound maxAttempts store row) (row : OutboxMessage Payload)
    (member : row ∈ (ambient change store).rows) :
    Sound maxAttempts (ambient change store) row := by
  have frame := ambient_frame change store
  have old : row ∈ store.rows → Sound maxAttempts (ambient change store) row :=
    fun stored => sound_frame _ _ _ frame row (sounds row stored)
  cases change with
  | insert id aggregateType aggregateId eventType payload =>
      dsimp only [ambient] at member
      cases inserted : store.rows.insert _ with
      | none =>
          rw [inserted] at member
          exact old member
      | some rows =>
          rw [inserted] at member
          rcases (Table.mem_insert _ _ _ inserted row).mp member with stored | rfl
          · exact old stored
          · exact ⟨fun _ => maxAttempts.pos, by simp, by simp⟩
  | tick milliseconds => exact old member
  | brokerConfirms position => exact old member

theorem ambient_reached (change : Change Payload) (store : Store Payload) :
    (ambient change store).reached = store.reached := by
  cases change <;> rfl

theorem step_safe (system : State Payload) (event : Event Input (Change Payload))
    (valid : Safe maxAttempts system) :
    Safe maxAttempts ((machine batchSize maxAttempts).step system event) := by
  have numbers : ∀ index, (((machine batchSize maxAttempts).step system event).procs index).number =
      index := fun index => by rw [step_number, valid.numbers]
  cases event with
  | act index input =>
      obtain ⟨effect, others⟩ := step_acting batchSize maxAttempts system index input valid
      exact ⟨numbers, (effect_rows _ _ _ _ _ effect valid.sound (valid.own index)).1,
        acting_own _ _ index valid effect others, acting_disjoint _ _ index valid effect others,
        acting_reached _ _ index valid effect others, acting_single _ _ index valid effect others⟩
  | env change =>
      have frame := ambient_frame change system.store
      have reached := ambient_reached change system.store
      refine ⟨numbers, ambient_sound maxAttempts change system.store valid.sound, ?_,
        valid.disjoint, ?_, ?_⟩
      · exact fun index => own_frame _ _ _ frame _ (by simp) (valid.own index)
      · intro entry member
        exact backed_frame _ _ _ frame _ _ (valid.backed entry (reached ▸ member))
      · simpa [Machine.step, machine, reached] using valid.single

theorem start_safe : Safe maxAttempts (start : State Payload) where
  numbers _ := rfl
  sound := by simp [start, Table.mem_rows]
  own _ := trivial
  disjoint := by simp [start, held]
  backed := by simp [start]
  single := by simp [start]

theorem run_safe (events : List (Event Input (Change Payload))) :
    Safe maxAttempts ((machine batchSize maxAttempts).run start events) :=
  run_invariant _ (Safe maxAttempts) (step_safe batchSize maxAttempts) start events
    (start_safe maxAttempts)

theorem step_settled (system : State Payload) (event : Event Input (Change Payload))
    (valid : Safe maxAttempts system) (row : OutboxMessage Payload)
    (member : row ∈ system.store.rows) (settled : row.status ≠ .PENDING) :
    row ∈ ((machine batchSize maxAttempts).step system event).store.rows := by
  cases event with
  | act index input =>
      obtain ⟨effect, _⟩ := step_acting batchSize maxAttempts system index input valid
      exact (effect_frame _ _ _ _ _ effect (own_unsettled _ _ _ (valid.own index))).rows row member (Or.inr settled)
  | env change => exact (ambient_frame change system.store).rows row member (Or.inr settled)

theorem step_present (system : State Payload) (event : Event Input (Change Payload))
    (valid : Safe maxAttempts system) (row : OutboxMessage Payload)
    (member : row ∈ system.store.rows) :
    ∃ version ∈ ((machine batchSize maxAttempts).step system event).store.rows,
      SameEvent row version := by
  cases event with
  | act index input =>
      obtain ⟨effect, _⟩ := step_acting batchSize maxAttempts system index input valid
      exact (effect_rows _ _ _ _ _ effect valid.sound (valid.own index)).2 row member
  | env change =>
      exact ⟨row, (ambient_frame change system.store).rows row member (Or.inl (by simp)),
        sameEvent_refl row⟩

theorem run_settled (system : State Payload) (events : List (Event Input (Change Payload)))
    (valid : Safe maxAttempts system) (row : OutboxMessage Payload)
    (member : row ∈ system.store.rows) (settled : row.status ≠ .PENDING) :
    Safe maxAttempts ((machine batchSize maxAttempts).run system events) ∧
      row ∈ ((machine batchSize maxAttempts).run system events).store.rows := by
  apply run_invariant _ (fun current => Safe maxAttempts current ∧ row ∈ current.store.rows)
  · rintro current event ⟨safe, inside⟩
    exact ⟨step_safe batchSize maxAttempts current event safe,
      step_settled batchSize maxAttempts current event safe row inside settled⟩
  · exact ⟨valid, member⟩

theorem run_present (system : State Payload) (events : List (Event Input (Change Payload)))
    (valid : Safe maxAttempts system) (row : OutboxMessage Payload)
    (member : row ∈ system.store.rows) :
    ∃ version ∈ ((machine batchSize maxAttempts).run system events).store.rows,
      SameEvent row version := by
  refine (run_invariant _ (fun current => Safe maxAttempts current ∧
    ∃ version ∈ current.store.rows, SameEvent row version) ?_ system events
    ⟨valid, row, member, sameEvent_refl row⟩).2
  rintro current event ⟨safe, version, inside, same⟩
  refine ⟨step_safe batchSize maxAttempts current event safe, ?_⟩
  obtain ⟨newer, stored, follows⟩ :=
    step_present batchSize maxAttempts current event safe version inside
  exact ⟨newer, stored, sameEvent_trans row version newer same follows⟩

end Runs

/-- What holds of the table, the open batches and the broker's log after a run. -/
structure RelaySafety (batchSize maxAttempts : ℕ+) (final : State Payload) : Prop where
  published : ∀ row ∈ final.store.rows, row.status = .PUBLISHED → Confirmed final.store row.id
  exclusive : ∀ first second id, id ∈ held (final.procs first).phase →
    id ∈ held (final.procs second).phase → first = second
  settled : ∀ row ∈ final.store.rows, row.status ≠ .PENDING → ∀ later,
    row ∈ ((machine batchSize maxAttempts).run final later).store.rows ∧
      ∀ batch, row.id ∉ held (((machine batchSize maxAttempts).run final later).procs batch).phase
  attempts : ∀ row ∈ final.store.rows,
    (row.status = .PENDING → row.attempts < maxAttempts) ∧
      (row.status = .FAILED → row.attempts = maxAttempts)
  present : ∀ row ∈ final.store.rows, ∀ later,
    ∃ version ∈ ((machine batchSize maxAttempts).run final later).store.rows, SameEvent row version
  /-- Of two acknowledgements for one row, one came back to a rolled-back batch. -/
  reached : final.store.reached.Pairwise fun earlier later => earlier.1 = later.1 →
    Gone (final.procs earlier.2).phase ∨ Gone (final.procs later.2).phase

theorem outbox_relay_safe (batchSize maxAttempts : ℕ+)
    (events : List (Event Input (Change Payload))) :
    RelaySafety batchSize maxAttempts ((machine batchSize maxAttempts).run start events) := by
  have valid : Safe maxAttempts ((machine batchSize maxAttempts).run start events) :=
    run_safe batchSize maxAttempts events
  constructor
  · exact fun row member => (valid.sound row member).published
  · exact valid.disjoint
  · intro row member settled later
    obtain ⟨safe, inside⟩ :=
      run_settled batchSize maxAttempts _ later valid row member settled
    exact ⟨inside, fun batch => safe_settled _ safe batch row inside settled⟩
  · exact fun row member => ⟨(valid.sound row member).pending, (valid.sound row member).failed⟩
  · exact fun row member later => run_present batchSize maxAttempts _ later valid row member
  · exact valid.single

end FaceVec.Outbox
