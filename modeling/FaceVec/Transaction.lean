import Mathlib.Data.Option.Basic

/-!
Database transactions. A transaction body runs statements one after the other;
each one may meet a fault, and draws one random value. A body that fails
leaves the database as it was; one that ends may still be rolled back, or
commit without its caller hearing of it. `Triple` is the logic of bodies:
what a body that ends has done, whatever faults it could have met.
-/

namespace FaceVec

universe u

structure Chance (Error : Type u) where
  fault : Option Error
  draw : Nat

abbrev Tx (Db Error : Type u) := StateT (Db × List (Chance Error)) (Except Error)

variable {Db Error α β : Type u}

def faultOf (chances : List (Chance Error)) : Option Error := chances.head?.bind (·.fault)

def drawOf (chances : List (Chance Error)) : Nat := (chances.head?.map (·.draw)).getD 0

def statement (run : Nat → Db → Except Error (α × Db)) : Tx Db Error α := fun state =>
  match faultOf state.2 with
  | some error => .error error
  | none =>
      match run (drawOf state.2) state.1 with
      | .error error => .error error
      | .ok (result, after) => .ok (result, after, state.2.tail)

def query (read : Db → α) : Tx Db Error α := statement fun _ db => .ok (read db, db)

inductive Ending (Error : Type u) where
  | commits
  | rollsBack (error : Error)
  | unheard (error : Error)

def transaction (body : Tx Db Error α) (chances : List (Chance Error)) (ending : Ending Error)
    (db : Db) : Except Error α × Db :=
  match body (db, chances) with
  | .error error => (.error error, db)
  | .ok (result, after, _) =>
      match ending with
      | .commits => (.ok result, after)
      -- The commit fails.
      | .rollsBack error => (.error error, db)
      -- The commit is done, and its answer is lost.
      | .unheard error => (.error error, after)

/-- A body that starts where `pre` holds and ends, ends where `post` holds. -/
def Triple (pre : Db → Prop) (body : Tx Db Error α) (post : α → Db → Prop) : Prop :=
  ∀ db chances, pre db → ∀ result after rest,
    body (db, chances) = .ok (result, after, rest) → post result after

section Rules

variable {pre : Db → Prop} {post : α → Db → Prop}

theorem pure_ok (result value : α) (db after : Db) (chances rest : List (Chance Error))
    (ends : (pure result : Tx Db Error α) (db, chances) = .ok (value, after, rest)) :
    result = value ∧ db = after ∧ chances = rest := by
  have pairs := Prod.mk.inj (Except.ok.inj ends)
  exact ⟨pairs.1, Prod.mk.inj pairs.2⟩

theorem triple_pure (result : α) (holds : ∀ db, pre db → post result db) :
    Triple pre (pure result : Tx Db Error α) post := by
  intro db chances started value after rest ends
  obtain ⟨rfl, rfl, rfl⟩ := pure_ok _ _ _ _ _ _ ends
  exact holds db started

theorem triple_throw (error : Error) : Triple pre (throw error : Tx Db Error α) post := by
  intro db chances started value after rest ends
  cases ends

theorem bind_ok (first : Tx Db Error α) (next : α → Tx Db Error β)
    (state : Db × List (Chance Error)) (result : β × Db × List (Chance Error))
    (ends : (first >>= next) state = .ok result) :
    ∃ middle, first state = .ok middle ∧ next middle.1 middle.2 = .ok result := by
  cases ran : first state with
  | error error =>
      simp only [bind, StateT.bind, Except.bind, ran] at ends
      cases ends
  | ok middle =>
      simp only [bind, StateT.bind, Except.bind, ran] at ends
      exact ⟨middle, rfl, ends⟩

theorem bind_of_ok (first : Tx Db Error α) (next : α → Tx Db Error β)
    (state : Db × List (Chance Error)) (middle : α × Db × List (Chance Error))
    (ran : first state = .ok middle) : (first >>= next) state = next middle.1 middle.2 := by
  simp only [bind, StateT.bind, Except.bind, ran]

theorem triple_bind (first : Tx Db Error α) (next : α → Tx Db Error β)
    (middle : α → Db → Prop) (final : β → Db → Prop) (begins : Triple pre first middle)
    (continues : ∀ value, Triple (middle value) (next value) final) :
    Triple pre (first >>= next) final := by
  intro db chances started result after rest ends
  obtain ⟨⟨value, between, left⟩, ran, ends⟩ := bind_ok first next _ _ ends
  exact continues value between left (begins db chances started value between left ran)
    result after rest ends

theorem triple_statement (run : Nat → Db → Except Error (α × Db))
    (holds : ∀ draw db result after, pre db → run draw db = .ok (result, after) →
      post result after) : Triple pre (statement run) post := by
  intro db chances started result after rest ends
  unfold statement at ends
  split at ends
  · cases ends
  · split at ends
    · cases ends
    · next value between ran =>
        obtain ⟨rfl, rfl, rfl⟩ : value = result ∧ between = after ∧ chances.tail = rest := by
          simpa using ends
        exact holds _ db value between started ran

theorem triple_query (read : Db → α) (holds : ∀ db, pre db → post (read db) db) :
    Triple pre (query read : Tx Db Error α) post := by
  apply triple_statement
  rintro _ db result after started ⟨rfl, rfl⟩
  exact holds db started

/-- A handler that can only fail again changes nothing about a body that ends. -/
theorem triple_tryCatch (body : Tx Db Error α) (handler : Error → Tx Db Error α)
    (holds : Triple pre body post) (rethrows : ∀ error, Triple pre (handler error) post) :
    Triple pre (tryCatch body handler) post := by
  intro db chances started result after rest ends
  cases ran : body (db, chances) with
  | error error =>
      have handled : handler error (db, chances) = .ok (result, after, rest) := by
        simpa [tryCatch, tryCatchThe, MonadExceptOf.tryCatch, Except.tryCatch,
          ran] using ends
      exact rethrows error db chances started result after rest handled
  | ok value =>
      have same : value = (result, after, rest) := by
        simpa [tryCatch, tryCatchThe, MonadExceptOf.tryCatch, Except.tryCatch,
          ran] using ends
      exact holds db chances started result after rest (same ▸ ran)

/-- A body that fails under a handler fails with what the handler makes of its error. -/
theorem tryCatch_error (body : Tx Db Error α) (handler : Error → Tx Db Error α)
    (state : Db × List (Chance Error)) (error : Error)
    (failed : (tryCatch body handler) state = .error error) :
    ∃ caught, body state = .error caught ∧ handler caught state = .error error := by
  cases ran : body state with
  | error caught =>
      refine ⟨caught, rfl, ?_⟩
      simpa [tryCatch, tryCatchThe, MonadExceptOf.tryCatch, Except.tryCatch, ran] using failed
  | ok value =>
      simp [tryCatch, tryCatchThe, MonadExceptOf.tryCatch, Except.tryCatch, ran] at failed

theorem triple_weaken (stronger : Db → Prop) (body : Tx Db Error α)
    (implies : ∀ db, pre db → stronger db) (holds : Triple stronger body post) :
    Triple pre body post :=
  fun db chances started => holds db chances (implies db started)

theorem triple_imp (stronger : α → Db → Prop) (body : Tx Db Error α)
    (holds : Triple pre body stronger)
    (implies : ∀ result after, stronger result after → post result after) :
    Triple pre body post :=
  fun db chances started result after rest ends =>
    implies result after (holds db chances started result after rest ends)

end Rules

/-- No statement meets a fault. -/
def Calm (chances : List (Chance Error)) : Prop := ∀ chance ∈ chances, chance.fault = none

theorem calm_faultOf (chances : List (Chance Error)) (calm : Calm chances) :
    faultOf chances = none := by
  cases chances with
  | nil => rfl
  | cons chance rest => exact calm chance (List.mem_cons_self)

theorem calm_tail (chances : List (Chance Error)) (calm : Calm chances) : Calm chances.tail :=
  fun chance member => calm chance (List.mem_of_mem_tail member)

theorem query_calm (read : Db → α) (db : Db) (chances : List (Chance Error))
    (calm : Calm chances) :
    (query read : Tx Db Error α) (db, chances) = .ok (read db, db, chances.tail) := by
  simp only [query, statement, calm_faultOf chances calm]

/-- Where it meets no fault, a body that starts where `pre` holds fails only if `why`. -/
def FailsOnly (pre : Db → Prop) (body : Tx Db Error α) (why : Prop) : Prop :=
  ∀ db chances, Calm chances → pre db →
    match body (db, chances) with
    | .error _ => why
    | .ok (_, _, rest) => Calm rest

section Failures

variable {pre : Db → Prop} {why : Prop}

theorem failsOnly_pure (result : α) : FailsOnly pre (pure result : Tx Db Error α) why :=
  fun _ _ calm _ => calm

theorem failsOnly_throw (error : Error) (holds : ∀ db, pre db → why) :
    FailsOnly pre (throw error : Tx Db Error α) why :=
  fun db _ _ started => holds db started

theorem failsOnly_statement (run : Nat → Db → Except Error (α × Db))
    (holds : ∀ draw db error, pre db → run draw db = .error error → why) :
    FailsOnly pre (statement run) why := by
  intro db chances calm started
  unfold statement
  rw [calm_faultOf chances calm]
  cases ran : run (drawOf chances) db with
  | error error => exact holds (drawOf chances) db error started ran
  | ok value => exact calm_tail chances calm

theorem failsOnly_query (read : Db → α) : FailsOnly pre (query read : Tx Db Error α) why := by
  apply failsOnly_statement
  intro draw db error started failed
  cases failed

theorem failsOnly_bind (first : Tx Db Error α) (next : α → Tx Db Error β)
    (middle : α → Db → Prop) (starts : FailsOnly pre first why) (begins : Triple pre first middle)
    (continues : ∀ value, FailsOnly (middle value) (next value) why) :
    FailsOnly pre (first >>= next) why := by
  intro db chances calm started
  have beginning := starts db chances calm started
  cases ran : first (db, chances) with
  | error error =>
      simp only [ran] at beginning
      simpa [bind, StateT.bind, Except.bind, ran] using beginning
  | ok value =>
      obtain ⟨result, between, rest⟩ := value
      simp only [ran] at beginning
      have ending := continues result between rest beginning
        (begins db chances started result between rest ran)
      simpa [bind, StateT.bind, Except.bind, ran] using ending

theorem failsOnly_error (body : Tx Db Error α) (fails : FailsOnly pre body why) (db : Db)
    (chances : List (Chance Error)) (error : Error) (calm : Calm chances) (started : pre db)
    (failed : body (db, chances) = .error error) : why := by
  have reason := fails db chances calm started
  rwa [failed] at reason

theorem failsOnly_tryCatch (body : Tx Db Error α) (handler : Error → Tx Db Error α)
    (fails : FailsOnly pre body why) (rethrows : why → ∀ error, FailsOnly pre (handler error) why) :
    FailsOnly pre (tryCatch body handler) why := by
  intro db chances calm started
  have failing := fails db chances calm started
  cases ran : body (db, chances) with
  | error error =>
      simp only [ran] at failing
      have handled := rethrows failing error db chances calm started
      simpa [tryCatch, tryCatchThe, MonadExceptOf.tryCatch, Except.tryCatch, ran] using handled
  | ok value =>
      simp only [ran] at failing
      simpa [tryCatch, tryCatchThe, MonadExceptOf.tryCatch, Except.tryCatch, ran] using failing

theorem failsOnly_weaken (body : Tx Db Error α) (reason : Prop) (implies : reason → why)
    (fails : FailsOnly pre body reason) : FailsOnly pre body why := by
  intro db chances calm started
  have failing := fails db chances calm started
  cases ran : body (db, chances) with
  | error error =>
      rw [ran] at failing
      exact implies failing
  | ok value =>
      rw [ran] at failing
      exact failing

theorem failsOnly_start (body : Tx Db Error α)
    (fails : ∀ db, pre db → FailsOnly (· = db) body why) : FailsOnly pre body why :=
  fun db chances calm started => fails db started db chances calm rfl

end Failures

/-- The body neither reads nor writes what `change` overwrites. -/
def Blind (change : Db → Db) (body : Tx Db Error α) : Prop :=
  ∀ db chances, body (change db, chances) =
    (body (db, chances)).map fun out => (out.1, change out.2.1, out.2.2)

section Blindness

variable {change : Db → Db}

theorem blind_pure (result : α) : Blind change (pure result : Tx Db Error α) :=
  fun _ _ => rfl

theorem blind_throw (error : Error) : Blind change (throw error : Tx Db Error α) :=
  fun _ _ => rfl

theorem blind_statement (run : Nat → Db → Except Error (α × Db))
    (same : ∀ draw db, run draw (change db) = (run draw db).map fun out => (out.1, change out.2)) :
    Blind change (statement run) := by
  intro db chances
  unfold statement
  cases faultOf chances with
  | some error => rfl
  | none =>
      dsimp only
      rw [same]
      cases run (drawOf chances) db <;> rfl

theorem blind_query (read : Db → α) (same : ∀ db, read (change db) = read db) :
    Blind change (query read : Tx Db Error α) := by
  apply blind_statement
  intro draw db
  rw [same]
  rfl

theorem blind_bind (first : Tx Db Error α) (next : α → Tx Db Error β) (begins : Blind change first)
    (continues : ∀ value, Blind change (next value)) : Blind change (first >>= next) := by
  intro db chances
  simp only [bind, StateT.bind, begins db chances]
  cases first (db, chances) with
  | error error => rfl
  | ok value => exact continues value.1 value.2.1 value.2.2

theorem blind_tryCatch (body : Tx Db Error α) (handler : Error → Tx Db Error α)
    (begins : Blind change body) (rethrows : ∀ error, Blind change (handler error)) :
    Blind change (tryCatch body handler) := by
  intro db chances
  have start := begins db chances
  cases ran : body (db, chances) with
  | error error =>
      have handled := rethrows error db chances
      simpa [tryCatch, tryCatchThe, MonadExceptOf.tryCatch, Except.tryCatch, ran, start, Except.map]
        using handled
  | ok value =>
      simp [tryCatch, tryCatchThe, MonadExceptOf.tryCatch, Except.tryCatch, ran, start, Except.map]

theorem transaction_blind (body : Tx Db Error α) (chances : List (Chance Error))
    (ending : Ending Error) (db : Db) (blind : Blind change body) :
    transaction body chances ending (change db) =
      ((transaction body chances ending db).1, change (transaction body chances ending db).2) := by
  unfold transaction
  rw [blind db chances]
  cases body (db, chances) with
  | error error => rfl
  | ok value => cases ending <;> rfl

end Blindness

/-- Whether the transaction commits, heard of or not. -/
def commits (body : Tx Db Error α) (chances : List (Chance Error)) (ending : Ending Error)
    (db : Db) : Bool :=
  match body (db, chances), ending with
  | .error _, _ => false
  | .ok _, .rollsBack _ => false
  | .ok _, _ => true

theorem transaction_aborted (body : Tx Db Error α) (chances : List (Chance Error))
    (ending : Ending Error) (db : Db) (aborted : commits body chances ending db = false) :
    (transaction body chances ending db).2 = db := by
  unfold commits at aborted
  unfold transaction
  split at aborted
  · next ran => simp [ran]
  · next ran => simp [ran]
  · contradiction

theorem transaction_refused (body : Tx Db Error α) (chances : List (Chance Error))
    (ending : Ending Error) (db : Db) (aborted : commits body chances ending db = false) :
    ∃ error, (transaction body chances ending db).1 = .error error := by
  unfold commits at aborted
  unfold transaction
  split at aborted
  · next error ran => exact ⟨error, by simp [ran]⟩
  · next result error ran => exact ⟨error, by simp [ran]⟩
  · contradiction

/-- A transaction that commits leaves what its body leaves. -/
theorem transaction_committed (body : Tx Db Error α) (chances : List (Chance Error))
    (ending : Ending Error) (db : Db) (post : α → Db → Prop)
    (holds : Triple (· = db) body post) (committed : commits body chances ending db = true) :
    ∃ result, post result (transaction body chances ending db).2 := by
  unfold commits at committed
  unfold transaction
  cases ran : body (db, chances) with
  | error error => simp [ran] at committed
  | ok value =>
      obtain ⟨result, after, rest⟩ := value
      have done := holds db chances rfl result after rest ran
      cases ending with
      | commits => exact ⟨result, done⟩
      | rollsBack error => simp [ran] at committed
      | unheard error => exact ⟨result, done⟩

/-- A commit that fails its caller is one the caller does not hear of. -/
theorem transaction_unheard (body : Tx Db Error α) (chances : List (Chance Error))
    (ending : Ending Error) (db : Db) (error : Error)
    (committed : commits body chances ending db = true)
    (failed : (transaction body chances ending db).1 = .error error) : ending = .unheard error := by
  unfold commits at committed
  unfold transaction at failed
  cases ran : body (db, chances) with
  | error fault => simp [ran] at committed
  | ok value =>
      cases ending with
      | commits => simp [ran] at failed
      | rollsBack fault => simp [ran] at committed
      | unheard fault =>
          simp only [ran, Except.error.injEq] at failed
          rw [failed]

/-- A transaction that meets no fault and does not commit failed for a known reason. -/
theorem transaction_fails (body : Tx Db Error α) (chances : List (Chance Error)) (db : Db)
    (why : Prop) (fails : FailsOnly (· = db) body why) (calm : Calm chances)
    (aborted : commits body chances .commits db = false) : why := by
  have reason := fails db chances calm rfl
  unfold commits at aborted
  cases ran : body (db, chances) with
  | error error => simpa only [ran] using reason
  | ok value => simp [ran] at aborted

end FaceVec
