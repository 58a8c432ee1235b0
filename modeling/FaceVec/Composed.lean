import FaceVec.Transaction

/-!
Transaction bodies as programs over a set of elementary statements. What every
elementary statement keeps, every body composed of them keeps, and so does
every transaction that runs one, however it ends.
-/

namespace FaceVec

universe u

variable {Db Error α β : Type u}

/-- The invariant holds after the body where it held before. -/
def Keeps (inv : Db → Prop) (body : Tx Db Error α) : Prop := Triple inv body fun _ => inv

/-- The bodies built from elementary statements; a handler stands for a `catch`. -/
inductive Composed (elementary : (α : Type u) → Tx Db Error α → Prop) :
    (α : Type u) → Tx Db Error α → Prop where
  | elementary (α : Type u) (body : Tx Db Error α) (own : elementary α body) :
      Composed elementary α body
  | pure (α : Type u) (result : α) : Composed elementary α (Pure.pure result)
  | throw (α : Type u) (error : Error) : Composed elementary α (MonadExcept.throw error)
  | query (α : Type u) (read : Db → α) : Composed elementary α (FaceVec.query read)
  | bind (α β : Type u) (first : Tx Db Error α) (next : α → Tx Db Error β)
      (begins : Composed elementary α first)
      (continues : ∀ value, Composed elementary β (next value)) :
      Composed elementary β (first >>= next)
  | handled (α : Type u) (body : Tx Db Error α) (handler : Error → Tx Db Error α)
      (tried : Composed elementary α body) (caught : ∀ error, Composed elementary α (handler error)) :
      Composed elementary α (tryCatch body handler)

variable {elementary : (α : Type u) → Tx Db Error α → Prop} {inv : Db → Prop}

theorem Composed.keeps {body : Tx Db Error α}
    (each : ∀ (α : Type u) (own : Tx Db Error α), elementary α own → Keeps inv own)
    (composed : Composed elementary α body) : Keeps inv body := by
  induction composed with
  | elementary α body own => exact each α body own
  | pure α result => exact triple_pure result fun _ holds => holds
  | throw α error => exact triple_throw error
  | query α read => exact triple_query read fun _ holds => holds
  | bind α β first next _ _ begins continues =>
      exact triple_bind first next (fun _ => inv) _ begins continues
  | handled α body handler _ _ tried caught => exact triple_tryCatch body handler tried caught

/-- What a body leaves of one state, where that is enough for the invariant. -/
theorem keeps_of_spec {body : Tx Db Error α} {post : Db → α → Db → Prop}
    (spec : ∀ db, Triple (· = db) body (post db))
    (holds : ∀ db result after, inv db → post db result after → inv after) : Keeps inv body :=
  fun db chances started result after rest ends =>
    holds db result after started (spec db db chances rfl result after rest ends)

/-- A transaction leaves what its body leaves, or what was there. -/
theorem Keeps.transaction {body : Tx Db Error α} (keeps : Keeps inv body)
    (chances : List (Chance Error)) (ending : Ending Error) (db : Db) (holds : inv db) :
    inv (transaction body chances ending db).2 := by
  cases committed : commits body chances ending db with
  | false =>
      rw [transaction_aborted body chances ending db committed]
      exact holds
  | true =>
      have leaves : Triple (· = db) body fun _ => inv :=
        triple_weaken inv body (fun _ same => same ▸ holds) keeps
      obtain ⟨_, left⟩ := transaction_committed body chances ending db _ leaves committed
      exact left

end FaceVec
