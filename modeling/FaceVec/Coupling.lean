import FaceVec.Transaction

/-!
Two runs of transactions side by side. `Coupled` is the relational logic of
bodies: from related databases, with the same chances, both bodies fail with
one error, or both end with related results and databases. The draws of the
chances are bounded, so that the relation may rest on what they give.
-/

namespace FaceVec

universe u

variable {Db Error α β : Type u}

/-- Both outcomes are the same error, or related results. -/
inductive Matched {ρ : Type u} (post : ρ → ρ → Prop) : Except Error ρ → Except Error ρ → Prop where
  | fails (error : Error) : Matched post (.error error) (.error error)
  | ends (one other : ρ) : post one other → Matched post (.ok one) (.ok other)

/-- The chances draw `allowed` values only, also when they have run out. -/
structure Permitted (allowed : Nat → Prop) (chances : List (Chance Error)) : Prop where
  spent : allowed 0
  drawn : ∀ chance ∈ chances, allowed chance.draw

theorem permitted_drawOf {allowed : Nat → Prop} {chances : List (Chance Error)}
    (permitted : Permitted allowed chances) : allowed (drawOf chances) := by
  cases chances with
  | nil => exact permitted.spent
  | cons chance rest => exact permitted.drawn chance List.mem_cons_self

theorem permitted_tail {allowed : Nat → Prop} {chances : List (Chance Error)}
    (permitted : Permitted allowed chances) : Permitted allowed chances.tail :=
  ⟨permitted.spent, fun chance member => permitted.drawn chance (List.mem_of_mem_tail member)⟩

def Coupled (allowed : Nat → Prop) (pre : Db → Db → Prop) (one other : Tx Db Error α)
    (post : α → α → Db → Db → Prop) : Prop :=
  ∀ left right chances, Permitted allowed chances → pre left right →
    Matched (fun x y => x.2.2 = y.2.2 ∧ Permitted allowed x.2.2 ∧ post x.1 y.1 x.2.1 y.2.1)
      (one (left, chances)) (other (right, chances))

section Rules

variable {allowed : Nat → Prop} {pre : Db → Db → Prop} {post : α → α → Db → Db → Prop}

theorem coupled_pure (one other : α) (holds : ∀ left right, pre left right →
    post one other left right) :
    Coupled allowed pre (pure one : Tx Db Error α) (pure other) post :=
  fun left right _ permitted started => .ends _ _ ⟨rfl, permitted, holds left right started⟩

theorem coupled_throw (error : Error) :
    Coupled allowed pre (throw error : Tx Db Error α) (throw error) post :=
  fun _ _ _ _ _ => .fails error

theorem coupled_statement (one other : Nat → Db → Except Error (α × Db))
    (holds : ∀ draw left right, allowed draw → pre left right →
      Matched (fun x y => post x.1 y.1 x.2 y.2) (one draw left) (other draw right)) :
    Coupled allowed pre (statement one) (statement other) post := by
  intro left right chances permitted started
  unfold statement
  dsimp only
  cases faultOf chances with
  | some error => exact .fails error
  | none =>
      have matched := holds (drawOf chances) left right (permitted_drawOf permitted) started
      revert matched
      generalize one (drawOf chances) left = first
      generalize other (drawOf chances) right = second
      rintro (_ | ⟨x, y, related⟩)
      · exact .fails _
      · exact .ends _ _ ⟨rfl, permitted_tail permitted, related⟩

theorem coupled_query (read : Db → α) (holds : ∀ left right, pre left right →
    post (read left) (read right) left right) :
    Coupled allowed pre (query read : Tx Db Error α) (query read) post :=
  coupled_statement _ _ fun _ left right _ started => .ends _ _ (holds left right started)

theorem coupled_bind (first second : Tx Db Error α) (next later : α → Tx Db Error β)
    (middle : α → α → Db → Db → Prop) (final : β → β → Db → Db → Prop)
    (begins : Coupled allowed pre first second middle)
    (continues : ∀ one other,
      Coupled allowed (middle one other) (next one) (later other) final) :
    Coupled allowed pre (first >>= next) (second >>= later) final := by
  intro left right chances permitted started
  have beginning := begins left right chances permitted started
  simp only [bind, StateT.bind]
  revert beginning
  generalize first (left, chances) = one
  generalize second (right, chances) = other
  rintro (error | ⟨⟨one, leftNow, rest⟩, ⟨other, rightNow, _⟩, rfl, still, related⟩)
  · exact .fails error
  · exact continues one other leftNow rightNow rest still related

/-- One body goes on with one result, where both runs have it. -/
theorem coupled_then (first : Tx Db Error α) (next : α → Tx Db Error β)
    (middle : α → Db → Db → Prop) (final : β → β → Db → Db → Prop)
    (begins : Coupled allowed pre first first fun one other x y => one = other ∧ middle one x y)
    (continues : ∀ one, Coupled allowed (middle one) (next one) (next one) final) :
    Coupled allowed pre (first >>= next) (first >>= next) final := by
  refine coupled_bind first first next next _ final begins ?_
  rintro one _ x y chances permitted ⟨rfl, held⟩
  exact continues one x y chances permitted held

theorem coupled_tryCatch (one other : Tx Db Error α) (handler : Error → Tx Db Error α)
    (begins : Coupled allowed pre one other post)
    (handles : ∀ error, Coupled allowed pre (handler error) (handler error) post) :
    Coupled allowed pre (tryCatch one handler) (tryCatch other handler) post := by
  intro left right chances permitted started
  have beginning := begins left right chances permitted started
  simp only [tryCatch, tryCatchThe, MonadExceptOf.tryCatch, Except.tryCatch]
  revert beginning
  generalize one (left, chances) = first
  generalize other (right, chances) = second
  rintro (error | ⟨x, y, related⟩)
  · exact handles error left right chances permitted started
  · exact .ends x y related

theorem coupled_weaken (stronger : Db → Db → Prop) (one other : Tx Db Error α)
    (implies : ∀ left right, pre left right → stronger left right)
    (holds : Coupled allowed stronger one other post) : Coupled allowed pre one other post :=
  fun left right chances permitted started =>
    holds left right chances permitted (implies left right started)

/-- What coupled bodies are known to do one by one, they do side by side. -/
theorem coupled_and (one other : Tx Db Error α) (left right : Db)
    (holds : Coupled allowed (fun x y => x = left ∧ y = right) one other post)
    {alone aside : α → Db → Prop} (first : Triple (· = left) one alone)
    (second : Triple (· = right) other aside) :
    Coupled allowed (fun x y => x = left ∧ y = right) one other
      fun a b x y => post a b x y ∧ alone a x ∧ aside b y := by
  rintro _ _ chances permitted ⟨rfl, rfl⟩
  have both := holds _ _ chances permitted ⟨rfl, rfl⟩
  have firstEnds := first _ chances rfl
  have secondEnds := second _ chances rfl
  revert both firstEnds secondEnds
  generalize one (_, chances) = x
  generalize other (_, chances) = y
  rintro (error | ⟨x, y, related⟩) firstEnds secondEnds
  · exact .fails error
  · exact .ends x y ⟨related.1, related.2.1, related.2.2, firstEnds _ _ _ rfl, secondEnds _ _ _ rfl⟩

end Rules

/-- Coupled transactions abort together with one error, or commit together. -/
theorem transaction_coupled {allowed : Nat → Prop} {pre : Db → Db → Prop}
    {post : α → α → Db → Db → Prop} (one other : Tx Db Error α) (chances : List (Chance Error))
    (ending : Ending Error) (left right : Db) (holds : Coupled allowed pre one other post)
    (permitted : Permitted allowed chances) (started : pre left right) :
    (∃ error, transaction one chances ending left = (.error error, left) ∧
      transaction other chances ending right = (.error error, right) ∧
      commits one chances ending left = false ∧ commits other chances ending right = false) ∨
    (∃ a b leftNow rightNow, post a b leftNow rightNow ∧
      commits one chances ending left = true ∧ commits other chances ending right = true ∧
      ((transaction one chances ending left = (.ok a, leftNow) ∧
          transaction other chances ending right = (.ok b, rightNow)) ∨
        ∃ error, transaction one chances ending left = (.error error, leftNow) ∧
          transaction other chances ending right = (.error error, rightNow))) := by
  have matched := holds left right chances permitted started
  unfold transaction commits
  revert matched
  generalize one (left, chances) = first
  generalize other (right, chances) = second
  rintro (error | ⟨⟨a, leftNow, rest⟩, ⟨b, rightNow, _⟩, rfl, _, related⟩)
  · exact Or.inl ⟨error, rfl, rfl, rfl, rfl⟩
  · cases ending with
    | commits => exact Or.inr ⟨a, b, leftNow, rightNow, related, rfl, rfl, Or.inl ⟨rfl, rfl⟩⟩
    | rollsBack error => exact Or.inl ⟨error, rfl, rfl, rfl, rfl⟩
    | unheard error =>
        exact Or.inr ⟨a, b, leftNow, rightNow, related, rfl, rfl, Or.inr ⟨error, rfl, rfl⟩⟩

end FaceVec
