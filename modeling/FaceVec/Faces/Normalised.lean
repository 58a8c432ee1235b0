import Mathlib.Algebra.Order.BigOperators.Ring.Finset
import FaceVec.Faces.Similarity

/-!
`cosineSimilarity` as a normalised similarity. The bound is the Cauchy-Schwarz
inequality between the three accumulators of the loop; scaling a vector by a
number other than zero multiplies the result by the sign of that number.
-/

namespace FaceVec.Faces

def scale (factor : ℝ) (a : List ℝ) : List ℝ := a.map (factor * ·)

/-- What the last statement divides by, where it is reached. -/
noncomputable def divisor (a b : List ℝ) : Option ℝ :=
  let sums := accumulate a b ⟨0, 0, 0⟩
  if a.length ≠ b.length ∨ sums.normA = 0 ∨ sums.normB = 0 then none
  else some (√sums.normA * √sums.normB)

section Accumulators

variable (a b : List ℝ)

theorem dotOf_cons (first second : ℝ) : dotOf (first :: a) (second :: b) = first * second + dotOf a b := by
  simp [dotOf]

theorem squares_dot : squares a = dotOf a a := by
  simp [squares, dotOf]

theorem dotOf_comm : dotOf a b = dotOf b a := by
  unfold dotOf
  rw [List.zipWith_comm_of_comm mul_comm]

theorem dotOf_range (same : a.length = b.length) :
    dotOf a b = ∑ i ∈ Finset.range a.length, a.getD i 0 * b.getD i 0 := by
  induction a generalizing b with
  | nil => simp [dotOf]
  | cons first rest ih =>
      cases b with
      | nil => simp at same
      | cons second others =>
          have tails : rest.length = others.length := by simpa using same
          rw [dotOf_cons, ih others tails, List.length_cons, Finset.sum_range_succ']
          simp [add_comm]

theorem dotOf_sq_le (same : a.length = b.length) : dotOf a b ^ 2 ≤ squares a * squares b := by
  have bound := Finset.sum_mul_sq_le_sq_mul_sq (Finset.range a.length)
    (fun i => a.getD i 0) (fun i => b.getD i 0)
  rw [squares_dot, squares_dot, dotOf_range a b same, dotOf_range a a rfl, dotOf_range b b rfl, ← same]
  simpa [pow_two] using bound

theorem dotOf_scale (factor : ℝ) : dotOf (scale factor a) b = factor * dotOf a b := by
  induction a generalizing b with
  | nil => simp [dotOf, scale]
  | cons first rest ih =>
      cases b with
      | nil => simp [dotOf]
      | cons second others =>
          have tails : dotOf (scale factor rest) others = factor * dotOf rest others := ih others
          rw [scale, List.map_cons, dotOf_cons, dotOf_cons, ← scale, tails]
          ring

theorem squares_scale (factor : ℝ) : squares (scale factor a) = factor ^ 2 * squares a := by
  rw [squares_dot, squares_dot, dotOf_scale, dotOf_comm, dotOf_scale]
  ring

theorem isZero_scale (factor : ℝ) (nonzero : factor ≠ 0) : IsZero (scale factor a) ↔ IsZero a := by
  simp [IsZero, scale, nonzero]

@[simp] theorem length_scale (factor : ℝ) : (scale factor a).length = a.length := List.length_map _

end Accumulators

section Similarity

variable (a b : List ℝ)

theorem norms_pos (first : ¬ IsZero a) (second : ¬ IsZero b) : 0 < √(squares a) * √(squares b) := by
  have positive : ∀ c : List ℝ, ¬ IsZero c → 0 < √(squares c) := by
    intro c nonzero
    apply Real.sqrt_pos.mpr
    exact lt_of_le_of_ne (squares_nonneg c) fun zero => nonzero ((squares_eq_zero c).mp zero.symm)
  exact mul_pos (positive a first) (positive b second)

theorem divisor_regular (value : ℝ) (divides : divisor a b = some value) :
    a.length = b.length ∧ ¬ IsZero a ∧ ¬ IsZero b ∧ value = √(squares a) * √(squares b) := by
  simp only [divisor] at divides
  split at divides
  · cases divides
  · next reached =>
      obtain ⟨same, nonzero⟩ := not_or.mp reached
      have same : a.length = b.length := not_not.mp same
      simp only [accumulate_sums a b _ same, zero_add, squares_eq_zero] at nonzero divides
      exact ⟨same, fun zero => nonzero (.inl zero), fun zero => nonzero (.inr zero),
        (Option.some.inj divides).symm⟩

theorem divisor_ne_zero (value : ℝ) (divides : divisor a b = some value) : value ≠ 0 := by
  obtain ⟨_, first, second, rfl⟩ := divisor_regular a b value divides
  exact (norms_pos a b first second).ne'

theorem quotient_bounded (same : a.length = b.length) (first : ¬ IsZero a) (second : ¬ IsZero b) :
    |dotOf a b / (√(squares a) * √(squares b))| ≤ 1 := by
  have positive := norms_pos a b first second
  have bound : |dotOf a b| ≤ √(squares a) * √(squares b) := by
    rw [← Real.sqrt_mul (squares_nonneg a), ← Real.sqrt_sq_eq_abs]
    exact Real.sqrt_le_sqrt (dotOf_sq_le a b same)
  rw [abs_div, abs_of_pos positive]
  exact (div_le_one positive).mpr bound

theorem cosineSimilarity_bounded (same : a.length = b.length) :
    ∃ similarity, cosineSimilarity a b = .ok similarity ∧ -1 ≤ similarity ∧ similarity ≤ 1 := by
  by_cases degenerate : IsZero a ∨ IsZero b
  · exact ⟨0, cosineSimilarity_degenerate a b same degenerate, by norm_num, by norm_num⟩
  · rw [not_or] at degenerate
    exact ⟨_, cosineSimilarity_regular a b same degenerate.1 degenerate.2,
      abs_le.mp (quotient_bounded a b same degenerate.1 degenerate.2)⟩

theorem cosineSimilarity_symm (same : a.length = b.length) :
    cosineSimilarity b a = cosineSimilarity a b := by
  by_cases degenerate : IsZero a ∨ IsZero b
  · rw [cosineSimilarity_degenerate a b same degenerate,
      cosineSimilarity_degenerate b a same.symm degenerate.symm]
  · rw [not_or] at degenerate
    rw [cosineSimilarity_regular a b same degenerate.1 degenerate.2,
      cosineSimilarity_regular b a same.symm degenerate.2 degenerate.1, dotOf_comm,
      mul_comm (√(squares b))]

theorem cosineSimilarity_scale (same : a.length = b.length) (factor : ℝ) (nonzero : factor ≠ 0) :
    cosineSimilarity (scale factor a) b =
      (cosineSimilarity a b).map fun similarity => factor / |factor| * similarity := by
  have lengths : (scale factor a).length = b.length := by rw [length_scale, same]
  have zeros := isZero_scale a factor nonzero
  by_cases degenerate : IsZero a ∨ IsZero b
  · rw [cosineSimilarity_degenerate a b same degenerate, cosineSimilarity_degenerate _ b lengths
      (degenerate.imp_left zeros.mpr)]
    simp [Except.map]
  · rw [not_or] at degenerate
    rw [cosineSimilarity_regular a b same degenerate.1 degenerate.2, cosineSimilarity_regular _ b lengths
      (fun zero => degenerate.1 (zeros.mp zero)) degenerate.2, dotOf_scale, squares_scale,
      Real.sqrt_mul (sq_nonneg factor), Real.sqrt_sq_eq_abs, mul_assoc |factor|, mul_div_mul_comm]
    rfl

theorem cosineSimilarity_self (nonzero : ¬ IsZero a) : cosineSimilarity a a = .ok 1 := by
  rw [cosineSimilarity_regular a a rfl nonzero nonzero, ← squares_dot,
    Real.mul_self_sqrt (squares_nonneg a),
    div_self fun zero => nonzero ((squares_eq_zero a).mp zero)]

theorem cosineSimilarity_scale_pos (same : a.length = b.length) (factor : ℝ) (positive : 0 < factor) :
    cosineSimilarity (scale factor a) b = cosineSimilarity a b := by
  rw [cosineSimilarity_scale a b same factor positive.ne', abs_of_pos positive,
    div_self positive.ne']
  cases cosineSimilarity a b <;> simp [Except.map]

theorem cosineSimilarity_scale_neg (same : a.length = b.length) (factor : ℝ) (negative : factor < 0) :
    cosineSimilarity (scale factor a) b = (cosineSimilarity a b).map (- ·) := by
  rw [cosineSimilarity_scale a b same factor negative.ne, abs_of_neg negative, div_neg,
    div_self negative.ne]
  cases cosineSimilarity a b <;> simp [Except.map]

/-- The laws of `cosineSimilarity`, for any two vectors. -/
structure Normalised (a b : List ℝ) : Prop where
  defined : ∀ value, divisor a b = some value → value ≠ 0
  bounded : ∃ similarity, cosineSimilarity a b = .ok similarity ∧ -1 ≤ similarity ∧ similarity ≤ 1
  symmetric : cosineSimilarity b a = cosineSimilarity a b
  positive : ∀ factor, 0 < factor →
    cosineSimilarity (scale factor a) b = cosineSimilarity a b ∧
      cosineSimilarity a (scale factor b) = cosineSimilarity a b
  negative : ∀ factor, factor < 0 →
    cosineSimilarity (scale factor a) b = (cosineSimilarity a b).map (- ·) ∧
      cosineSimilarity a (scale factor b) = (cosineSimilarity a b).map (- ·)
  itself : ¬ IsZero a → cosineSimilarity a a = .ok 1
  zero : IsZero a ∨ IsZero b → cosineSimilarity a b = .ok 0

theorem cosineSimilarity_normalised :
    (a.length = b.length → Normalised a b) ∧
      (a.length ≠ b.length → cosineSimilarity a b = .error ⟨b.length, a.length⟩) := by
  refine ⟨fun same => ?_, cosineSimilarity_mismatch a b⟩
  have flipped := cosineSimilarity_symm a b same
  have scaled : ∀ factor, cosineSimilarity a (scale factor b) = cosineSimilarity (scale factor b) a :=
    fun factor => (cosineSimilarity_symm a _ (by simpa using same)).symm
  exact {
    defined := divisor_ne_zero a b
    bounded := cosineSimilarity_bounded a b same
    symmetric := flipped
    positive := fun factor positive =>
      ⟨cosineSimilarity_scale_pos a b same factor positive, by
        rw [scaled, cosineSimilarity_scale_pos b a same.symm factor positive, flipped]⟩
    negative := fun factor negative =>
      ⟨cosineSimilarity_scale_neg a b same factor negative, by
        rw [scaled, cosineSimilarity_scale_neg b a same.symm factor negative, flipped]⟩
    itself := cosineSimilarity_self a
    zero := cosineSimilarity_degenerate a b same }

end Similarity

end FaceVec.Faces
