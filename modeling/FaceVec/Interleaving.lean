import Mathlib.Logic.Function.Basic
import Mathlib.Logic.Relation

/-!
Interleaved execution of any number of sequential processes over one shared
store. A run is a list of events: one process takes its next atomic step, or
the environment changes the store. An event a process is not ready for is
expected to leave everything as it is, so every list of events is a run and
every finite interleaving is such a list. The rules below are all the later
modules use about runs.
-/

namespace FaceVec.Interleaving

universe u v w x y

structure System (Store : Type u) (Proc : Type v) where
  store : Store
  procs : Nat → Proc

inductive Event (Input : Type w) (Env : Type x) where
  | act (index : Nat) (input : Input)
  | env (change : Env)

structure Machine (Store : Type u) (Proc : Type v) (Input : Type w) (Env : Type x) where
  exec : Input → Store → Proc → Store × Proc
  ambient : Env → Store → Store

variable {Store : Type u} {Proc : Type v} {Input : Type w} {Env : Type x}

def Machine.step (machine : Machine Store Proc Input Env) (system : System Store Proc) :
    Event Input Env → System Store Proc
  | .act index input =>
      let next := machine.exec input system.store (system.procs index)
      ⟨next.1, Function.update system.procs index next.2⟩
  | .env change => ⟨machine.ambient change system.store, system.procs⟩

def Machine.run (machine : Machine Store Proc Input Env) :
    System Store Proc → List (Event Input Env) → System Store Proc
  | system, [] => system
  | system, event :: rest => machine.run (machine.step system event) rest

/-- Every step of the run is taken from a state that meets `meets`. -/
def Machine.Along (machine : Machine Store Proc Input Env)
    (meets : System Store Proc → Event Input Env → Prop) :
    System Store Proc → List (Event Input Env) → Prop
  | _, [] => True
  | system, event :: rest =>
      meets system event ∧ machine.Along meets (machine.step system event) rest

/-- What an observer notes along the run, in order. -/
def Machine.observed {Note : Type y} (machine : Machine Store Proc Input Env)
    (observe : System Store Proc → Event Input Env → Option Note) :
    System Store Proc → List (Event Input Env) → List Note
  | _, [] => []
  | system, event :: rest =>
      (observe system event).toList ++ machine.observed observe (machine.step system event) rest

instance instDecidableAlong (machine : Machine Store Proc Input Env)
    (meets : System Store Proc → Event Input Env → Prop)
    [∀ system event, Decidable (meets system event)] :
    (system : System Store Proc) → (events : List (Event Input Env)) →
      Decidable (machine.Along meets system events)
  | _, [] => inferInstanceAs (Decidable True)
  | system, event :: rest =>
      have := instDecidableAlong machine meets (machine.step system event) rest
      inferInstanceAs (Decidable (_ ∧ _))

variable (machine : Machine Store Proc Input Env)

@[simp] theorem step_store (system : System Store Proc) (index : Nat) (input : Input) :
    (machine.step system (.act index input)).store =
      (machine.exec input system.store (system.procs index)).1 := rfl

@[simp] theorem step_self (system : System Store Proc) (index : Nat) (input : Input) :
    (machine.step system (.act index input)).procs index =
      (machine.exec input system.store (system.procs index)).2 :=
  Function.update_self _ _ _

@[simp] theorem step_other (system : System Store Proc) (index other : Nat) (input : Input)
    (different : other ≠ index) :
    (machine.step system (.act index input)).procs other = system.procs other :=
  Function.update_of_ne different _ _

/-- What holds of a process after a step of one of them: it is the one that has
moved on, or it held before. -/
theorem update_cases (procs : Nat → Proc) (index : Nat) (next : Proc) (holds : Proc → Prop)
    (other : Nat) (after : holds (Function.update procs index next other)) :
    (other = index ∧ holds next) ∨ (other ≠ index ∧ holds (procs other)) := by
  by_cases same : other = index
  · subst same
    rw [Function.update_self] at after
    exact Or.inl ⟨rfl, after⟩
  · rw [Function.update_of_ne same] at after
    exact Or.inr ⟨same, after⟩

theorem run_append (system : System Store Proc) (first second : List (Event Input Env)) :
    machine.run system (first ++ second) = machine.run (machine.run system first) second := by
  induction first generalizing system with
  | nil => rfl
  | cons event rest ih => exact ih (machine.step system event)

/-- One process takes steps and nothing else happens. -/
def Machine.alone (machine : Machine Store Proc Input Env) :
    List Input → Store × Proc → Store × Proc
  | [], state => state
  | input :: rest, state => machine.alone rest (machine.exec input state.1 state.2)

theorem run_alone (index : Nat) (inputs : List Input) (system : System Store Proc) :
    ((machine.run system (inputs.map (.act index))).store,
        (machine.run system (inputs.map (.act index))).procs index) =
      machine.alone inputs (system.store, system.procs index) := by
  induction inputs generalizing system with
  | nil => rfl
  | cons input rest ih =>
      rw [List.map_cons, Machine.run, ih, step_store, step_self]
      rfl

theorem run_absent (system : System Store Proc) (events : List (Event Input Env)) (index : Nat)
    (absent : ∀ input, .act index input ∉ events) :
    (machine.run system events).procs index = system.procs index := by
  induction events generalizing system with
  | nil => rfl
  | cons event rest ih =>
      rw [Machine.run, ih _ fun input member => absent input (List.mem_cons_of_mem _ member)]
      cases event with
      | act acting input =>
          apply step_other
          rintro rfl
          exact absent input List.mem_cons_self
      | env change => rfl

/-- Finitely many steps leave a process that takes none of them. -/
theorem exists_absent (events : List (Event Input Env)) :
    ∃ index, ∀ input, Event.act index input ∉ events := by
  have above : ∃ bound, ∀ index input, Event.act index input ∈ events → index < bound := by
    induction events with
    | nil => exact ⟨0, fun _ _ member => absurd member List.not_mem_nil⟩
    | cons event rest ih =>
        obtain ⟨bound, below⟩ := ih
        cases event with
        | act acting first =>
            refine ⟨max bound (acting + 1), fun index input member => ?_⟩
            rcases List.mem_cons.mp member with same | later
            · cases same
              omega
            · have := below index input later
              omega
        | env change =>
            refine ⟨bound, fun index input member => ?_⟩
            rcases List.mem_cons.mp member with same | later
            · cases same
            · exact below index input later
  obtain ⟨bound, below⟩ := above
  exact ⟨bound, fun input member => absurd (below bound input member) (Nat.lt_irrefl _)⟩

/-- A condition on events alone holds along every run of events that meet it. -/
theorem along_of_forall (meets : Event Input Env → Prop) (system : System Store Proc)
    (events : List (Event Input Env)) (met : ∀ event ∈ events, meets event) :
    machine.Along (fun _ event => meets event) system events := by
  induction events generalizing system with
  | nil => trivial
  | cons event rest ih =>
      exact ⟨met event List.mem_cons_self,
        ih _ fun later member => met later (List.mem_cons_of_mem _ member)⟩

theorem along_append (meets : System Store Proc → Event Input Env → Prop)
    (system : System Store Proc) (first second : List (Event Input Env)) :
    machine.Along meets system (first ++ second) ↔
      machine.Along meets system first ∧ machine.Along meets (machine.run system first) second := by
  induction first generalizing system with
  | nil => exact (iff_of_eq (true_and _)).symm
  | cons event rest ih => exact (and_congr_right fun _ => ih _).trans and_assoc.symm

theorem observed_append {Note : Type y}
    (observe : System Store Proc → Event Input Env → Option Note)
    (system : System Store Proc) (first second : List (Event Input Env)) :
    machine.observed observe system (first ++ second) =
      machine.observed observe system first ++
        machine.observed observe (machine.run system first) second := by
  induction first generalizing system with
  | nil => rfl
  | cons event rest ih =>
      simp only [List.cons_append, Machine.observed, Machine.run, ih, List.append_assoc]

/-- What an observer notes, it notes at some step of the run. -/
theorem mem_observed {Note : Type y} (observe : System Store Proc → Event Input Env → Option Note)
    (system : System Store Proc) (events : List (Event Input Env)) (note : Note)
    (noted : note ∈ machine.observed observe system events) :
    ∃ before event rest, events = before ++ event :: rest ∧
      observe (machine.run system before) event = some note := by
  induction events generalizing system with
  | nil => exact absurd noted List.not_mem_nil
  | cons event rest ih =>
      rcases List.mem_append.mp noted with now | later
      · exact ⟨[], event, rest, rfl, Option.mem_toList.mp now⟩
      · obtain ⟨before, noting, after, same, seen⟩ := ih (machine.step system event) later
        exact ⟨event :: before, noting, after, by rw [same]; rfl, seen⟩

/-- A run that does not meet a condition throughout has a first step that does not. -/
theorem first_failure (meets : System Store Proc → Event Input Env → Prop)
    (system : System Store Proc) (events : List (Event Input Env))
    (fails : ¬ machine.Along meets system events) :
    ∃ before event rest, events = before ++ event :: rest ∧ machine.Along meets system before ∧
      ¬ meets (machine.run system before) event := by
  induction events generalizing system with
  | nil => exact absurd trivial fails
  | cons event rest ih =>
      by_cases met : meets system event
      · obtain ⟨before, failing, after, same, along, unmet⟩ :=
          ih (machine.step system event) fun later => fails ⟨met, later⟩
        exact ⟨event :: before, failing, after, by rw [same]; rfl, ⟨met, along⟩, unmet⟩
      · exact ⟨[], event, rest, rfl, trivial, met⟩

/-- The invariant rule for runs whose steps all meet a condition. -/
theorem along_invariant (meets : System Store Proc → Event Input Env → Prop)
    (holds : System Store Proc → Prop)
    (preserved : ∀ system event, holds system → meets system event →
      holds (machine.step system event))
    (system : System Store Proc) (events : List (Event Input Env))
    (initially : holds system) (along : machine.Along meets system events) :
    holds (machine.run system events) := by
  induction events generalizing system with
  | nil => exact initially
  | cons event rest ih =>
      exact ih (machine.step system event) (preserved system event initially along.1) along.2

/-- The invariant rule with what an observer has noted so far. -/
theorem observed_invariant {Note : Type y}
    (observe : System Store Proc → Event Input Env → Option Note)
    (meets : System Store Proc → Event Input Env → Prop)
    (holds : System Store Proc → List Note → Prop)
    (preserved : ∀ system event notes, holds system notes → meets system event →
      holds (machine.step system event) (notes ++ (observe system event).toList))
    (system : System Store Proc) (events : List (Event Input Env)) (notes : List Note)
    (initially : holds system notes) (along : machine.Along meets system events) :
    holds (machine.run system events) (notes ++ machine.observed observe system events) := by
  induction events generalizing system notes with
  | nil => simpa [Machine.observed, Machine.run] using initially
  | cons event rest ih =>
      rw [Machine.observed, ← List.append_assoc]
      exact ih (machine.step system event) _ (preserved system event notes initially along.1) along.2

/-- The invariant rule for unrestricted runs. -/
theorem run_invariant (holds : System Store Proc → Prop)
    (preserved : ∀ system event, holds system → holds (machine.step system event))
    (system : System Store Proc) (events : List (Event Input Env))
    (initially : holds system) : holds (machine.run system events) := by
  induction events generalizing system with
  | nil => exact initially
  | cons event rest ih =>
      exact ih (machine.step system event) (preserved system event initially)

/-- An invariant of all runs turns a fact about single steps into one about
every step of a run. -/
theorem along_of_invariant (meets : System Store Proc → Event Input Env → Prop)
    (holds : System Store Proc → Prop)
    (preserved : ∀ system event, holds system → meets system event →
      holds (machine.step system event))
    (wanted : System Store Proc → Event Input Env → Prop)
    (local_ : ∀ system event, holds system → meets system event → wanted system event)
    (system : System Store Proc) (events : List (Event Input Env))
    (initially : holds system) (along : machine.Along meets system events) :
    machine.Along wanted system events := by
  induction events generalizing system with
  | nil => trivial
  | cons event rest ih =>
      exact ⟨local_ system event initially along.1,
        ih (machine.step system event) (preserved system event initially along.1) along.2⟩

theorem along_and (one other : System Store Proc → Event Input Env → Prop)
    (system : System Store Proc) (events : List (Event Input Env)) :
    machine.Along (fun system event => one system event ∧ other system event) system events ↔
      machine.Along one system events ∧ machine.Along other system events := by
  induction events generalizing system with
  | nil => exact (iff_of_eq (true_and _)).symm
  | cons event rest ih =>
      simp only [Machine.Along, ih]
      exact and_and_and_comm

/-- Conditions that agree at every step of a run hold along it together. -/
theorem along_congr (one other : System Store Proc → Event Input Env → Prop)
    (system : System Store Proc) (events : List (Event Input Env))
    (agree : machine.Along (fun system event => one system event ↔ other system event)
      system events) :
    machine.Along one system events ↔ machine.Along other system events := by
  induction events generalizing system with
  | nil => exact Iff.rfl
  | cons event rest ih =>
      exact and_congr agree.1 (ih (machine.step system event) agree.2)

/-- Two conditions that agree wherever an invariant holds, which each step that
meets the second keeps, hold along the same runs. -/
theorem along_iff_of_invariant (one other : System Store Proc → Event Input Env → Prop)
    (holds : System Store Proc → Prop)
    (agree : ∀ system event, holds system → (one system event ↔ other system event))
    (preserved : ∀ system event, holds system → other system event →
      holds (machine.step system event))
    (system : System Store Proc) (events : List (Event Input Env)) (initially : holds system) :
    machine.Along one system events ↔ machine.Along other system events := by
  induction events generalizing system with
  | nil => exact Iff.rfl
  | cons event rest ih =>
      constructor
      · rintro ⟨first, later⟩
        have met := (agree system event initially).mp first
        exact ⟨met, (ih _ (preserved system event initially met)).mp later⟩
      · rintro ⟨met, later⟩
        exact ⟨(agree system event initially).mpr met,
          (ih _ (preserved system event initially met)).mpr later⟩

/-- Forward simulation: every concrete step is matched by abstract steps. -/
theorem run_simulates {Abstract : Type y} (next : Abstract → Abstract → Prop)
    (represents : System Store Proc → Abstract → Prop)
    (matched : ∀ system event before, represents system before →
      ∃ after, Relation.ReflTransGen next before after ∧
        represents (machine.step system event) after)
    (system : System Store Proc) (events : List (Event Input Env)) (before : Abstract)
    (initially : represents system before) :
    ∃ after, Relation.ReflTransGen next before after ∧
      represents (machine.run system events) after := by
  induction events generalizing system before with
  | nil => exact ⟨before, .refl, initially⟩
  | cons event rest ih =>
      obtain ⟨middle, first, held⟩ := matched system event before initially
      obtain ⟨after, second, final⟩ := ih (machine.step system event) middle held
      exact ⟨after, first.trans second, final⟩

end FaceVec.Interleaving
