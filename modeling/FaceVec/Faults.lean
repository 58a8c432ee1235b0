import FaceVec.Transaction

/-!
Where a transaction body fails. A body that runs a known number of statements
from a state fails with the first fault that one of them meets; without one, it
ends or throws as the state says. Counts add up along a body.
-/

namespace FaceVec

universe u

variable {Db Error α β : Type u}

/-- The first fault that `count` statements meet. -/
def firstFault (count : Nat) (chances : List (Chance Error)) : Option Error :=
  (chances.take count).findSome? (·.fault)

@[simp] theorem firstFault_zero (chances : List (Chance Error)) : firstFault 0 chances = none := rfl

theorem firstFault_one (chances : List (Chance Error)) : firstFault 1 chances = faultOf chances := by
  cases chances with
  | nil => rfl
  | cons chance rest =>
      cases fault : chance.fault <;> simp [firstFault, faultOf, fault]

theorem firstFault_add (first second : Nat) (chances : List (Chance Error)) :
    firstFault (first + second) chances =
      (firstFault first chances).or (firstFault second (chances.drop first)) := by
  rw [firstFault, List.take_add, List.findSome?_append]
  rfl

theorem firstFault_eq_none (count : Nat) (chances : List (Chance Error)) :
    firstFault count chances = none ↔ ∀ chance ∈ chances.take count, chance.fault = none := by
  rw [firstFault, List.findSome?_eq_none_iff]

/-- Every fault is one that `may` allows. -/
def Only (may : Error → Prop) (chances : List (Chance Error)) : Prop :=
  ∀ chance ∈ chances, ∀ error, chance.fault = some error → may error

theorem only_drop (may : Error → Prop) (count : Nat) (chances : List (Chance Error))
    (only : Only may chances) : Only may (chances.drop count) :=
  fun chance member => only chance (List.mem_of_mem_drop member)

theorem firstFault_may (may : Error → Prop) (count : Nat) (chances : List (Chance Error))
    (only : Only may chances) (error : Error) (met : firstFault count chances = some error) :
    may error := by
  obtain ⟨chance, member, fault⟩ := List.exists_of_findSome?_eq_some met
  exact only chance (List.mem_of_mem_take member) error fault

/-- The body runs `count` statements from `db` and ends as `ends` says, unless
one of them meets a fault. -/
structure Proceeds (may : Error → Prop) (db : Db) (body : Tx Db Error α) (count : Nat)
    (ends : Except Error (α × Db) → Prop) : Prop where
  faulty : ∀ chances error, Only may chances → firstFault count chances = some error →
    body (db, chances) = .error error
  clear : ∀ chances, Only may chances → firstFault count chances = none → ∃ out, ends out ∧
    body (db, chances) = out.map fun done => (done.1, done.2, chances.drop count)

/-- Without a fault the body ends where `post` holds. -/
def Finishes (may : Error → Prop) (db : Db) (body : Tx Db Error α) (count : Nat)
    (post : α → Db → Prop) : Prop :=
  Proceeds may db body count fun out => ∃ result after, out = .ok (result, after) ∧ post result after

/-- Without a fault the body throws `error`. -/
def Raises (may : Error → Prop) (db : Db) (body : Tx Db Error α) (count : Nat) (error : Error) :
    Prop :=
  Proceeds may db body count (· = .error error)

section Rules

variable {may : Error → Prop} {db : Db} {post : α → Db → Prop}

theorem finishes_pure (result : α) (holds : post result db) :
    Finishes may db (pure result : Tx Db Error α) 0 post :=
  ⟨fun _ _ _ met => (by cases met), fun _ _ _ => ⟨.ok (result, db), ⟨result, db, rfl, holds⟩, rfl⟩⟩

theorem raises_throw (error : Error) : Raises may db (throw error : Tx Db Error α) 0 error :=
  ⟨fun _ _ _ met => (by cases met), fun _ _ _ => ⟨.error error, rfl, rfl⟩⟩

theorem proceeds_statement (run : Nat → Db → Except Error (α × Db))
    (ends : Except Error (α × Db) → Prop) (holds : ∀ draw, ends (run draw db)) :
    Proceeds may db (statement run) 1 ends := by
  constructor
  · intro chances error _ met
    rw [firstFault_one] at met
    simp only [statement, met]
  · intro chances _ met
    rw [firstFault_one] at met
    refine ⟨run (drawOf chances) db, holds _, ?_⟩
    simp only [statement, met, List.drop_one]
    cases run (drawOf chances) db <;> rfl

theorem finishes_statement (run : Nat → Db → Except Error (α × Db)) (why : Prop)
    (fails : FailsOnly (· = db) (statement run) why) (fine : ¬ why) :
    Finishes may db (statement run) 1 fun _ _ => True := by
  apply proceeds_statement
  intro draw
  have calm : Calm [(⟨none, draw⟩ : Chance Error)] :=
    fun chance member => by rw [List.mem_singleton.mp member]
  have ended := fails db _ calm rfl
  simp only [statement, faultOf, drawOf, List.head?_cons, Option.bind_some, Option.map_some,
    Option.getD_some] at ended
  cases ran : run draw db with
  | error error =>
      rw [ran] at ended
      exact absurd ended fine
  | ok done => exact ⟨done.1, done.2, rfl, trivial⟩

theorem finishes_query (read : Db → α) (holds : post (read db) db) :
    Finishes may db (query read : Tx Db Error α) 1 post :=
  proceeds_statement _ _ fun _ => ⟨_, _, rfl, holds⟩

theorem proceeds_bind (first : Tx Db Error α) (next : α → Tx Db Error β) (before after : Nat)
    (middle : α → Db → Prop) (ends : Except Error (β × Db) → Prop)
    (begins : Finishes may db first before middle)
    (continues : ∀ value between, middle value between →
      Proceeds may between (next value) after ends) :
    Proceeds may db (first >>= next) (before + after) ends := by
  constructor
  · intro chances error only met
    rw [firstFault_add] at met
    cases early : firstFault before chances with
    | some fault =>
        rw [early, Option.some_or] at met
        obtain rfl := Option.some.inj met
        simp only [bind, StateT.bind, Except.bind, begins.faulty chances fault only early]
    | none =>
        rw [early, Option.none_or] at met
        obtain ⟨_, ⟨value, between, rfl, holds⟩, ran⟩ := begins.clear chances only early
        rw [bind_of_ok _ _ _ _ ran]
        exact (continues value between holds).faulty _ error (only_drop may before chances only) met
  · intro chances only met
    rw [firstFault_add, Option.or_eq_none_iff] at met
    obtain ⟨_, ⟨value, between, rfl, holds⟩, ran⟩ := begins.clear chances only met.1
    rw [bind_of_ok _ _ _ _ ran, ← List.drop_drop]
    exact (continues value between holds).clear _ (only_drop may before chances only) met.2

theorem raises_bind (first : Tx Db Error α) (next : α → Tx Db Error β) (count : Nat) (error : Error)
    (raises : Raises may db first count error) : Raises may db (first >>= next) count error := by
  constructor
  · intro chances fault only met
    simp only [bind, StateT.bind, Except.bind, raises.faulty chances fault only met]
  · intro chances only met
    obtain ⟨_, rfl, ran⟩ := raises.clear chances only met
    refine ⟨.error error, rfl, ?_⟩
    simp only [bind, StateT.bind, Except.bind, ran, Except.map]

/-- A handler that renames errors, and leaves faults as they are. -/
theorem proceeds_rename (body : Tx Db Error α) (rename : Error → Error) (count : Nat)
    (ends renamed : Except Error (α × Db) → Prop) (proceeds : Proceeds may db body count ends)
    (keeps : ∀ error, may error → rename error = error)
    (renames : ∀ out, ends out → renamed (out.mapError rename)) :
    Proceeds may db (tryCatch body fun error => throw (rename error)) count renamed := by
  constructor
  · intro chances error only met
    have failed := proceeds.faulty chances error only met
    have kept := keeps error (firstFault_may may count chances only error met)
    simp [tryCatch, tryCatchThe, MonadExceptOf.tryCatch, Except.tryCatch, failed, kept]
    rfl
  · intro chances only met
    obtain ⟨out, holds, ran⟩ := proceeds.clear chances only met
    refine ⟨out.mapError rename, renames out holds, ?_⟩
    cases out with
    | error error =>
        simp [tryCatch, tryCatchThe, MonadExceptOf.tryCatch, Except.tryCatch, ran, Except.map,
          Except.mapError]
        rfl
    | ok done =>
        simp [tryCatch, tryCatchThe, MonadExceptOf.tryCatch, Except.tryCatch, ran, Except.map,
          Except.mapError]

theorem finishes_and (body : Tx Db Error α) (count : Nat) (other : α → Db → Prop)
    (finishes : Finishes may db body count post) (triple : Triple (· = db) body other) :
    Finishes may db body count fun result after => post result after ∧ other result after := by
  refine ⟨finishes.faulty, fun chances only met => ?_⟩
  obtain ⟨_, ⟨result, after, rfl, holds⟩, ran⟩ := finishes.clear chances only met
  exact ⟨_, ⟨result, after, rfl, holds, triple db chances rfl result after _ ran⟩, ran⟩

end Rules

section Transactions

variable {may : Error → Prop} {db : Db} (body : Tx Db Error α) (count : Nat)
  (chances : List (Chance Error)) (ending : Ending Error) (only : Only may chances)

include only in
theorem transaction_faulty (ends : Except Error (α × Db) → Prop) (error : Error)
    (proceeds : Proceeds may db body count ends) (met : firstFault count chances = some error) :
    (transaction body chances ending db).1 = .error error := by
  simp only [transaction, proceeds.faulty chances error only met]

include only in
theorem transaction_raised (error : Error) (raises : Raises may db body count error)
    (met : firstFault count chances = none) :
    (transaction body chances ending db).1 = .error error := by
  obtain ⟨_, rfl, ran⟩ := raises.clear chances only met
  simp only [transaction, ran, Except.map]

include only in
theorem transaction_finished (post : α → Db → Prop) (finishes : Finishes may db body count post)
    (met : firstFault count chances = none) :
    (∃ result, (transaction body chances ending db).1 = .ok result) ↔ ending = .commits := by
  obtain ⟨_, ⟨result, after, rfl, _⟩, ran⟩ := finishes.clear chances only met
  simp only [transaction, ran, Except.map]
  cases ending <;> simp

end Transactions

end FaceVec
