import Mathlib.Algebra.Order.BigOperators.Group.List
import Mathlib.Data.List.Perm.Subperm
import FaceVec.Outbox.Outage

/-!
The budget of the attempts that are left to the pending rows. Nothing is assumed
of the counters in the table: a row may have had more attempts than the cap
allows. A batch that commits takes something from the budget for each of its
rows, and no step of any batch gives anything back.
-/

namespace FaceVec.Outbox

open Interleaving

variable {Payload : Type}

/-- How often a relay may still handle the row. -/
def allowance (maxAttempts : ℕ+) (row : OutboxMessage Payload) : Nat :=
  if row.status = .PENDING then max 1 (maxAttempts - row.attempts) else 0

def budget (maxAttempts : ℕ+) (rows : List (OutboxMessage Payload)) : Nat :=
  (rows.map (allowance maxAttempts)).sum

/-- `version` is what a batch that claimed `stored` leaves of it. -/
structure Spends (maxAttempts : ℕ+) (stored version : OutboxMessage Payload) : Prop where
  id : stored.id = version.id
  claimed : stored.status = .PENDING
  attempts : version.status = .PENDING →
    version.attempts = stored.attempts + 1 ∧ version.attempts < (maxAttempts : Nat)

structure Reserving (maxAttempts : ℕ+) (store : Store Payload) (batch : Batch Payload) : Prop where
  distinct : batch.ids.Nodup
  locked : ∀ id ∈ batch.ids, id ∈ store.locks
  todo : ∀ row ∈ batch.todo, row ∈ store.rows ∧ row.status = .PENDING
  handled : ∀ version ∈ batch.handled, ∃ stored ∈ store.rows, Spends maxAttempts stored version

/-- The rows of a batch are its own, whatever their counters say. -/
def Reserves (maxAttempts : ℕ+) (store : Store Payload) : Phase Payload → Prop
  | .holding batch => Reserving maxAttempts store batch
  | _ => True

section Budgets

theorem sum_map_add_countP {α : Type} (after before : α → Nat) (counts : α → Bool)
    (items : List α)
    (paid : ∀ item ∈ items, after item + (if counts item then 1 else 0) ≤ before item) :
    (items.map after).sum + items.countP counts ≤ (items.map before).sum := by
  induction items with
  | nil => exact Nat.le_refl _
  | cons item rest ih =>
      have first := paid item List.mem_cons_self
      have later := ih fun other member => paid other (List.mem_cons_of_mem _ member)
      rw [List.map_cons, List.map_cons, List.sum_cons, List.sum_cons, List.countP_cons]
      omega

theorem length_le_countP (ids : List Uuid) (rows : List (OutboxMessage Payload))
    (counts : OutboxMessage Payload → Bool) (distinct : ids.Nodup)
    (found : ∀ id ∈ ids, ∃ row ∈ rows, row.id = id ∧ counts row = true) :
    ids.length ≤ rows.countP counts := by
  have inside : ids ⊆ rowIds (rows.filter counts) := by
    intro id member
    obtain ⟨row, stored, same, counted⟩ := found id member
    exact List.mem_map.mpr ⟨row, List.mem_filter.mpr ⟨stored, counted⟩, same⟩
  have shorter := (List.subperm_of_subset distinct inside).length_le
  rwa [rowIds, List.length_map, ← List.countP_eq_length_filter] at shorter

variable (maxAttempts other : ℕ+)

theorem allowance_pos (row : OutboxMessage Payload) (pending : row.status = .PENDING) :
    1 ≤ allowance maxAttempts row := by
  rw [allowance, if_pos pending]
  exact Nat.le_max_left _ _

theorem spends_allowance (stored version : OutboxMessage Payload)
    (spends : Spends maxAttempts stored version) :
    allowance other version ≤ allowance other stored := by
  unfold allowance
  rw [if_pos spends.claimed]
  split
  · next pending =>
      obtain ⟨counted, _⟩ := spends.attempts pending
      omega
  · exact Nat.zero_le _

theorem spends_attempt (stored version : OutboxMessage Payload)
    (spends : Spends maxAttempts stored version) :
    allowance maxAttempts version + 1 ≤ allowance maxAttempts stored := by
  unfold allowance
  rw [if_pos spends.claimed]
  split
  · next pending =>
      obtain ⟨counted, left⟩ := spends.attempts pending
      omega
  · omega

theorem markPublished_spends (now : Instant) (row : OutboxMessage Payload)
    (pending : row.status = .PENDING) : Spends maxAttempts row (markPublished now row) :=
  ⟨rfl, pending, fun impossible => by cases impossible⟩

theorem recordFailure_spends (now : Instant) (message : String) (row : OutboxMessage Payload)
    (pending : row.status = .PENDING) :
    Spends maxAttempts row (recordFailure maxAttempts now message row) := by
  refine ⟨rfl, pending, fun retried => ⟨rfl, ?_⟩⟩
  by_contra exhausted
  have last : (maxAttempts : Nat) ≤ row.attempts + 1 := Nat.le_of_not_lt exhausted
  simp [recordFailure, last] at retried

end Budgets

section Effects

variable (maxAttempts other : ℕ+) (store after : Store Payload) (number : Nat)
  (phase next : Phase Payload)

theorem reserves_unsettled (reserves : Reserves maxAttempts store phase) :
    Unsettled store phase := by
  intro id member
  cases phase with
  | holding batch =>
      obtain ⟨row, inside, rfl⟩ := List.mem_map.mp member
      rcases List.mem_append.mp inside with done | waiting
      · obtain ⟨stored, inRows, spends⟩ := reserves.handled row done
        exact ⟨stored, inRows, spends.id, spends.claimed⟩
      · obtain ⟨inRows, pending⟩ := reserves.todo row waiting
        exact ⟨row, inRows, rfl, pending⟩
  | _ => simp [held] at member

theorem reserves_locked (reserves : Reserves maxAttempts store phase) (id : Uuid)
    (member : id ∈ held phase) : id ∈ store.locks := by
  cases phase with
  | holding batch => exact reserves.locked id member
  | _ => simp [held] at member

theorem reserves_frame (touched : List Uuid) (frame : Frame touched store after)
    (apart : ∀ id ∈ held phase, id ∉ touched) (reserves : Reserves maxAttempts store phase) :
    Reserves maxAttempts after phase := by
  cases phase with
  | holding batch =>
      have kept : ∀ row ∈ store.rows, row.id ∈ batch.ids → row ∈ after.rows :=
        fun row member inside => frame.rows row member (Or.inl (apart row.id inside))
      constructor
      · exact reserves.distinct
      · exact fun id member => frame.locks id (reserves.locked id member) (apart id member)
      · intro row member
        obtain ⟨inRows, pending⟩ := reserves.todo row member
        exact ⟨kept row inRows
          (List.mem_map.mpr ⟨row, List.mem_append_right _ member, rfl⟩), pending⟩
      · intro version member
        obtain ⟨stored, inRows, spends⟩ := reserves.handled version member
        refine ⟨stored, kept stored inRows ?_, spends⟩
        exact List.mem_map.mpr ⟨version, List.mem_append_left _ member, spends.id.symm⟩
  | _ => trivial

theorem effect_reserves (effect : Effect maxAttempts store number phase after next)
    (reserves : Reserves maxAttempts store phase) : Reserves maxAttempts after next := by
  cases effect with
  | stays => exact reserves
  | claimed rows waits picked distinct =>
      constructor
      · simpa [Batch.ids] using distinct
      · exact fun id member => List.mem_append_right _ (by simpa [Batch.ids] using member)
      · exact fun row member => ⟨(picked row member).1, (picked row member).2.1⟩
      · simp
  | advanced batch step published waits =>
      subst waits
      exact ⟨reserves.distinct, reserves.locked, reserves.todo, reserves.handled⟩
  | acked handled row rest waits =>
      subst waits
      exact ⟨reserves.distinct, reserves.locked, reserves.todo, reserves.handled⟩
  | updated handled row version rest step waits written =>
      subst waits
      obtain ⟨inRows, pending⟩ := reserves.todo row List.mem_cons_self
      have spends : Spends maxAttempts row version := by
        rcases written with ⟨_, rfl⟩ | ⟨_, message, rfl⟩
        · exact markPublished_spends maxAttempts store.clock row pending
        · exact recordFailure_spends maxAttempts store.clock message row pending
      -- The row moves from one half of the batch to the other, under its id.
      have ids : Batch.ids ⟨handled ++ [version], rest, .ready⟩ =
          Batch.ids ⟨handled, row :: rest, step⟩ := by
        simp [Batch.ids, rowIds, spends.id]
      constructor
      · rw [ids]
        exact reserves.distinct
      · rw [ids]
        exact reserves.locked
      · exact fun later member => reserves.todo later (List.mem_cons_of_mem row member)
      · intro old member
        rcases List.mem_append.mp member with done | new
        · exact reserves.handled old done
        · rw [List.mem_singleton.mp new]
          exact ⟨row, inRows, spends⟩
  | _ => trivial

/-- What a commit makes of a row that the batch has handled. -/
theorem settle_spends (handled : List (OutboxMessage Payload)) (step : RowStep)
    (reserves : Reserves maxAttempts store (.holding ⟨handled, [], step⟩))
    (row : OutboxMessage Payload) (member : row ∈ store.rows) :
    (settle handled row = row ∧ row.id ∉ rowIds handled) ∨
      Spends maxAttempts row (settle handled row) := by
  by_cases inside : row.id ∈ rowIds handled
  · obtain ⟨version, done, same⟩ := List.mem_map.mp inside
    have distinct : (rowIds handled).Nodup := by simpa [Batch.ids] using reserves.distinct
    obtain ⟨stored, inRows, spends⟩ := reserves.handled version done
    rw [settle_handled handled row version distinct done same,
      ← row_eq_of_id store.rows stored row inRows member (spends.id.trans same)]
    exact Or.inr spends
  · exact Or.inl ⟨settle_other handled row inside, inside⟩

theorem effect_budget (effect : Effect maxAttempts store number phase after next)
    (reserves : Reserves maxAttempts store phase) :
    budget other after.rows.rows ≤ budget other store.rows.rows := by
  cases effect with
  | committed handled step rows waits written =>
      subst waits
      dsimp only
      rw [budget, budget, written, List.map_map]
      apply List.sum_le_sum
      intro row member
      rcases settle_spends maxAttempts store handled step reserves row member with
        ⟨same, _⟩ | spends
      · exact Nat.le_of_eq (congrArg _ same)
      · exact spends_allowance maxAttempts other row _ spends
  | _ => exact Nat.le_refl _

/-- A commit takes one attempt from the budget for each of its rows. -/
theorem commit_budget (handled : List (OutboxMessage Payload)) (step : RowStep)
    (effect : Effect maxAttempts store number (.holding ⟨handled, [], step⟩) after .committed)
    (reserves : Reserves maxAttempts store (.holding ⟨handled, [], step⟩)) :
    handled.length + budget maxAttempts after.rows.rows ≤ budget maxAttempts store.rows.rows := by
  cases effect with
  | committed handled step rows waits written =>
      cases waits
      have paid := sum_map_add_countP (fun row => allowance maxAttempts (settle handled row))
        (allowance maxAttempts) (fun row => decide (row.id ∈ rowIds handled)) store.rows.rows (by
          intro row member
          rcases settle_spends maxAttempts store handled step reserves row member with
            ⟨same, outside⟩ | spends
          · simp [same, outside]
          · have spent := spends_attempt maxAttempts row _ spends
            split <;> omega)
      have distinct : (rowIds handled).Nodup := by simpa [Batch.ids] using reserves.distinct
      -- No row is handled twice, so as many rows have paid as the batch has handled.
      have counted := length_le_countP (rowIds handled) store.rows.rows
        (fun row => decide (row.id ∈ rowIds handled)) distinct (by
          intro id member
          obtain ⟨stored, inRows, same, _⟩ := reserves_unsettled maxAttempts store _ reserves id
            (by simpa [held, Batch.ids] using member)
          exact ⟨stored, inRows, same, by simpa [same] using member⟩)
      have length : (rowIds handled).length = handled.length := List.length_map _
      dsimp only
      rw [budget, budget, written, List.map_map]
      simp only [Function.comp_def]
      omega

theorem claimed_le_budget (reserves : Reserves maxAttempts store phase) :
    claimed phase ≤ budget other store.rows.rows := by
  cases phase with
  | holding batch =>
      have counted := length_le_countP batch.ids store.rows.rows
        (fun row => row.status == .PENDING) reserves.distinct (by
          intro id member
          obtain ⟨stored, inRows, same, pending⟩ :=
            reserves_unsettled maxAttempts store _ reserves id member
          exact ⟨stored, inRows, same, by simp [pending]⟩)
      have paid := sum_map_add_countP (fun _ => 0) (allowance other)
        (fun row => row.status == .PENDING) store.rows.rows (by
          intro row _
          split
          · next pending => exact allowance_pos other row (by simpa using pending)
          · exact Nat.zero_le _)
      rw [Batch.ids, rowIds, List.length_map, List.length_append] at counted
      rw [claimed, budget]
      omega
  | _ => exact Nat.zero_le _

end Effects

end FaceVec.Outbox
