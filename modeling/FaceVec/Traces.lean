import Mathlib.Data.List.Infix
import FaceVec.Interleaving

/-!
Runs read from their last event on, and the states a run passes: what holds at
the end of every prefix holds of each of them.
-/

namespace FaceVec.Interleaving

universe u v w x

variable {Store : Type u} {Proc : Type v} {Input : Type w} {Env : Type x}
  (machine : Machine Store Proc Input Env)

theorem run_snoc (system : System Store Proc) (events : List (Event Input Env))
    (event : Event Input Env) :
    machine.run system (events ++ [event]) = machine.step (machine.run system events) event := by
  rw [run_append]
  rfl

theorem along_snoc (meets : System Store Proc → Event Input Env → Prop)
    (system : System Store Proc) (events : List (Event Input Env)) (event : Event Input Env) :
    machine.Along meets system (events ++ [event]) ↔
      machine.Along meets system events ∧ meets (machine.run system events) event := by
  rw [along_append]
  exact and_congr_right fun _ => and_iff_left trivial

/-- `state` is one of those the run goes through, its first and last included. -/
def Machine.Passes (start : System Store Proc) (events : List (Event Input Env))
    (state : System Store Proc) : Prop :=
  ∃ before, before <+: events ∧ machine.run start before = state

theorem passes_end (start : System Store Proc) (events : List (Event Input Env)) :
    machine.Passes start events (machine.run start events) :=
  ⟨events, List.prefix_rfl, rfl⟩

theorem passes_append (start : System Store Proc) (events later : List (Event Input Env))
    (state : System Store Proc) (passes : machine.Passes start events state) :
    machine.Passes start (events ++ later) state := by
  obtain ⟨before, front, same⟩ := passes
  exact ⟨before, front.trans (List.prefix_append _ _), same⟩

/-- What holds of the end of every prefix holds of every state the run goes through. -/
theorem passes_inits (start : System Store Proc) (events : List (Event Input Env))
    (holds : System Store Proc → Prop)
    (ends : ∀ before ∈ events.inits, holds (machine.run start before)) (state : System Store Proc)
    (passes : machine.Passes start events state) : holds state := by
  obtain ⟨before, front, rfl⟩ := passes
  exact ends before ((List.mem_inits _ _).mpr front)

end FaceVec.Interleaving
