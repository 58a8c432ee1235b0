import Mathlib.Order.Monotone.Basic
import Mathlib.Data.Nat.Find
import FaceVec.Interleaving

/-!
What runs of interleaved processes cost, and when they come to rest. A run
costs no more than it takes from a potential; an infinite schedule that goes on
again and again lowers a rank until its goal is met.
-/

namespace FaceVec.Interleaving

universe u v w x

variable {Store : Type u} {Proc : Type v} {Input : Type w} {Env : Type x}

section Costs

/-- What the steps of a run cost together. -/
def Machine.total (machine : Machine Store Proc Input Env)
    (cost : System Store Proc → Event Input Env → Nat) :
    System Store Proc → List (Event Input Env) → Nat
  | _, [] => 0
  | system, event :: rest => cost system event + machine.total cost (machine.step system event) rest

variable (machine : Machine Store Proc Input Env)
  (cost : System Store Proc → Event Input Env → Nat)
  (meets : System Store Proc → Event Input Env → Prop) (holds : System Store Proc → Prop)
  (preserved : ∀ system event, holds system → meets system event →
    holds (machine.step system event))
  (system : System Store Proc) (events : List (Event Input Env))
  (initially : holds system) (along : machine.Along meets system events)

include preserved initially along

/-- The potential rule: what each step costs, the potential pays. -/
theorem total_add_potential (potential : System Store Proc → Nat)
    (paid : ∀ system event, holds system → meets system event →
      cost system event + potential (machine.step system event) ≤ potential system) :
    machine.total cost system events + potential (machine.run system events) ≤
      potential system := by
  induction events generalizing system with
  | nil => exact Nat.le_of_eq (Nat.zero_add _)
  | cons event rest ih =>
      have first := paid system event initially along.1
      have later := ih _ (preserved system event initially along.1) along.2
      rw [Machine.total, Machine.run]
      omega

theorem measure_le_total (measure : System Store Proc → Nat)
    (covered : ∀ system event, holds system → meets system event →
      measure (machine.step system event) ≤ measure system + cost system event) :
    measure (machine.run system events) ≤ measure system + machine.total cost system events := by
  induction events generalizing system with
  | nil => exact Nat.le_refl _
  | cons event rest ih =>
      have first := covered system event initially along.1
      have later := ih _ (preserved system event initially along.1) along.2
      rw [Machine.total, Machine.run]
      omega

end Costs

section Schedules

/-- The events of an infinite schedule before a time. -/
def upTo (schedule : Nat → Event Input Env) (time : Nat) : List (Event Input Env) :=
  (List.range time).map schedule

theorem upTo_add (schedule : Nat → Event Input Env) (time more : Nat) :
    upTo schedule (time + more) =
      upTo schedule time ++ upTo (fun step => schedule (time + step)) more := by
  rw [upTo, List.range_add, List.map_append, List.map_map]
  rfl

theorem mem_upTo (schedule : Nat → Event Input Env) (time : Nat) (event : Event Input Env) :
    event ∈ upTo schedule time ↔ ∃ early < time, schedule early = event := by
  simp [upTo]

variable (machine : Machine Store Proc Input Env) (system : System Store Proc)
  (schedule : Nat → Event Input Env)

theorem run_upTo_succ (time : Nat) : machine.run system (upTo schedule (time + 1)) =
    machine.step (machine.run system (upTo schedule time)) (schedule time) := by
  rw [upTo_add, run_append]
  rfl

/-- The rank rule: no step raises the rank before the goal is met, and a step that
goes on lowers it. A schedule that goes on as long as the goal is not met meets it,
at a first time. -/
theorem exists_first_goal (goal : System Store Proc → Prop) (rank : System Store Proc → Nat)
    (goesOn : System Store Proc → Event Input Env → Prop)
    (stays : ∀ time, ¬ goal (machine.run system (upTo schedule time)) →
      rank (machine.run system (upTo schedule (time + 1))) ≤
        rank (machine.run system (upTo schedule time)))
    (falls : ∀ time, ¬ goal (machine.run system (upTo schedule time)) →
      goesOn (machine.run system (upTo schedule time)) (schedule time) →
        rank (machine.run system (upTo schedule (time + 1))) <
          rank (machine.run system (upTo schedule time)))
    (fair : ∀ time, ¬ goal (machine.run system (upTo schedule time)) → ∃ later, time ≤ later ∧
      goesOn (machine.run system (upTo schedule later)) (schedule later)) :
    ∃ time, goal (machine.run system (upTo schedule time)) ∧
      ∀ earlier < time, ¬ goal (machine.run system (upTo schedule earlier)) := by
  classical
  suffices met : ∃ time, goal (machine.run system (upTo schedule time)) from
    ⟨Nat.find met, Nat.find_spec met, fun earlier => Nat.find_min met⟩
  by_contra never
  rw [not_exists] at never
  have lower : Antitone fun time => rank (machine.run system (upTo schedule time)) :=
    antitone_nat_of_succ_le fun time => stays time (never time)
  -- Each time has a later one of a smaller rank.
  have endless : ∀ bound time, rank (machine.run system (upTo schedule time)) < bound → False := by
    intro bound
    induction bound with
    | zero => exact fun time below => absurd below (Nat.not_lt_zero _)
    | succ bound ih =>
        intro time below
        obtain ⟨later, after, on⟩ := fair time (never time)
        have before := lower after
        have fallen := falls later (never later) on
        dsimp only at before
        exact ih (later + 1) (by omega)
  exact endless _ 0 (Nat.lt_succ_self _)

end Schedules

end FaceVec.Interleaving
