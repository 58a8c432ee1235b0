import Mathlib.Analysis.Real.Sqrt
import FaceVec.Attendance.Recording

/-!
The matching rule of `domain/face-embedding.ts` in exact real arithmetic, and
what pgvector documents of its distance. The loop of `cosineSimilarity` is
`accumulate`; a vector of norm zero has similarity zero to every vector there,
and no distance at all in the database.
-/

namespace FaceVec.Faces

open Attendance

structure EmbeddingDimensionError where
  actual : Nat
  expected : Nat
  deriving DecidableEq, Repr

def EmbeddingDimensionError.message (error : EmbeddingDimensionError) : String :=
  s!"embedding must have {error.expected} dimensions, received {error.actual}"

structure Sums (K : Type) where
  dot : K
  normA : K
  normB : K

def accumulate {K : Type} [Add K] [Mul K] : List K → List K → Sums K → Sums K
  | a :: as, b :: bs, sums =>
      accumulate as bs ⟨sums.dot + a * b, sums.normA + a * a, sums.normB + b * b⟩
  | _, _, sums => sums

noncomputable def cosineSimilarity (a b : List ℝ) : Except EmbeddingDimensionError ℝ :=
  if a.length ≠ b.length then .error ⟨b.length, a.length⟩
  else
    let sums := accumulate a b ⟨0, 0, 0⟩
    if sums.normA = 0 ∨ sums.normB = 0 then .ok 0
    else .ok (sums.dot / (√sums.normA * √sums.normB))

def isMatch (similarity threshold : ℝ) : Prop := threshold ≤ similarity

/-- `FACE_MATCH_THRESHOLD`: `z.coerce.number().min(0).max(1)`. -/
structure MatchThreshold where
  value : ℝ
  atLeast : 0 ≤ value
  atMost : value ≤ 1

def dotOf (a b : List ℝ) : ℝ := (List.zipWith (· * ·) a b).sum

def squares (a : List ℝ) : ℝ := (a.map fun entry => entry * entry).sum

def IsZero (a : List ℝ) : Prop := ∀ entry ∈ a, entry = 0

theorem accumulate_sums (a b : List ℝ) (sums : Sums ℝ) (same : a.length = b.length) :
    accumulate a b sums =
      ⟨sums.dot + dotOf a b, sums.normA + squares a, sums.normB + squares b⟩ := by
  induction a generalizing b sums with
  | nil =>
      cases b with
      | nil => simp [accumulate, dotOf, squares]
      | cons head rest => simp at same
  | cons entry others ih =>
      cases b with
      | nil => simp at same
      | cons head rest =>
          simp only [List.length_cons, Nat.add_right_cancel_iff] at same
          simp [accumulate, ih rest _ same, dotOf, squares, add_assoc]

theorem squares_nonneg (a : List ℝ) : 0 ≤ squares a := by
  apply List.sum_nonneg
  simpa using fun entry _ => mul_self_nonneg entry

theorem squares_eq_zero (a : List ℝ) : squares a = 0 ↔ IsZero a := by
  induction a with
  | nil => simp [squares, IsZero]
  | cons entry rest ih =>
      have positive := mul_self_nonneg entry
      have others := squares_nonneg rest
      have split : squares (entry :: rest) = entry * entry + squares rest := by simp [squares]
      rw [split, add_eq_zero_iff_of_nonneg positive others, ih]
      simp [IsZero]

theorem cosineSimilarity_mismatch (a b : List ℝ) (different : a.length ≠ b.length) :
    cosineSimilarity a b = .error ⟨b.length, a.length⟩ := if_pos different

theorem cosineSimilarity_degenerate (a b : List ℝ) (same : a.length = b.length)
    (degenerate : IsZero a ∨ IsZero b) : cosineSimilarity a b = .ok 0 := by
  simp [cosineSimilarity, same, accumulate_sums a b _ same, squares_eq_zero, degenerate]

theorem cosineSimilarity_regular (a b : List ℝ) (same : a.length = b.length)
    (first : ¬ IsZero a) (second : ¬ IsZero b) :
    cosineSimilarity a b = .ok (dotOf a b / (√(squares a) * √(squares b))) := by
  simp [cosineSimilarity, same, accumulate_sums a b _ same, squares_eq_zero, first, second]

theorem cosineSimilarity_neg (a b : List ℝ) (s : ℝ) (same : a.length = b.length)
    (first : ¬ IsZero a) (second : ¬ IsZero b) (similar : cosineSimilarity a b = .ok s) :
    s < 0 ↔ dotOf a b < 0 := by
  rw [cosineSimilarity_regular a b same first second] at similar
  have positive : ∀ c : List ℝ, ¬ IsZero c → 0 < squares c := fun c nonzero =>
    lt_of_le_of_ne (squares_nonneg c) fun zero => nonzero ((squares_eq_zero c).mp zero.symm)
  have denominator : 0 < √(squares a) * √(squares b) :=
    mul_pos (Real.sqrt_pos.mpr (positive a first)) (Real.sqrt_pos.mpr (positive b second))
  rw [← Except.ok.inj similar, div_neg_iff]
  constructor
  · rintro (⟨_, negative⟩ | ⟨negative, _⟩)
    · exact absurd denominator negative.asymm
    · exact negative
  · exact fun negative => Or.inr ⟨negative, denominator⟩

/-- pgvector's `<=>` between vectors of one dimension. -/
structure Pgvector (vision : Vision ℝ) : Prop where
  regular : ∀ a b s, a.length = b.length → ¬ IsZero a → ¬ IsZero b →
    cosineSimilarity a b = .ok s → oneMinus (vision.cosineDistance a b) = .real s
  degenerate : ∀ a b, a.length = b.length → IsZero a ∨ IsZero b →
    oneMinus (vision.cosineDistance a b) = .nan

theorem Pgvector.distance {vision : Vision ℝ} (pgvector : Pgvector vision) (a b : List ℝ) (s : ℝ)
    (same : a.length = b.length) (first : ¬ IsZero a) (second : ¬ IsZero b)
    (similar : cosineSimilarity a b = .ok s) : vision.cosineDistance a b = .real (1 - s) := by
  have value := pgvector.regular a b s same first second similar
  cases distance : vision.cosineDistance a b with
  | nan => simp [distance, oneMinus] at value
  | real d =>
      simp only [distance, oneMinus, Number.real.injEq] at value
      rw [← value, sub_sub_cancel]

noncomputable def pgvector : Vision ℝ where
  cosineDistance a b :=
    let sums := accumulate a b ⟨0, 0, 0⟩
    if sums.normA = 0 ∨ sums.normB = 0 then .nan
    else .real (1 - sums.dot / (√sums.normA * √sums.normB))

theorem pgvector_lawful : Pgvector pgvector where
  regular a b s same first second similar := by
    rw [cosineSimilarity_regular a b same first second] at similar
    simp [pgvector, accumulate_sums a b _ same, squares_eq_zero, first, second, oneMinus,
      Except.ok.inj similar]
  degenerate a b same degenerate := by
    simp [pgvector, accumulate_sums a b _ same, squares_eq_zero, degenerate, oneMinus]

end FaceVec.Faces
