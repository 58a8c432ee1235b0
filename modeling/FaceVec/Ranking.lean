import Mathlib.Order.Lattice
import Mathlib.Data.List.Basic

/-!
A stable sort by a measure, the largest first, and who comes out on top.
-/

namespace FaceVec.Ranking

variable {α β : Type} [LinearOrder β]

/-- A stable sort with the largest measure first; equals keep their order. -/
def descending (measure : α → β) (rows : List α) : List α :=
  rows.mergeSort fun a b => decide (measure b ≤ measure a)

/-- The first of the largest: above all before it, and at least as large as all after it. -/
structure Tops (measure : α → β) (rows : List α) (row : α) (before after : List α) : Prop where
  split : rows = before ++ row :: after
  above : ∀ other ∈ before, measure other < measure row
  least : ∀ other ∈ after, measure other ≤ measure row

theorem mem_descending (measure : α → β) (rows : List α) (row : α) :
    row ∈ descending measure rows ↔ row ∈ rows :=
  List.mem_mergeSort

theorem descending_nil (measure : α → β) : descending measure [] = [] := List.mergeSort_nil

theorem descending_pair (measure : α → β) (a b : α) (above : measure a < measure b) :
    descending measure [a, b] = [b, a] := by
  simp [descending, List.mergeSort, List.MergeSort.Internal.splitInTwo, not_le.mpr above]

theorem ahead_trans (measure : α → β) (a b c : α) (first : decide (measure b ≤ measure a) = true)
    (second : decide (measure c ≤ measure b) = true) : decide (measure c ≤ measure a) = true := by
  rw [decide_eq_true_eq] at first second ⊢
  exact le_trans second first

theorem ahead_total (measure : α → β) (a b : α) :
    (decide (measure b ≤ measure a) || decide (measure a ≤ measure b)) = true := by
  rw [Bool.or_eq_true, decide_eq_true_eq, decide_eq_true_eq]
  exact le_total _ _

theorem descending_pairwise (measure : α → β) (rows : List α) :
    (descending measure rows).Pairwise fun a b => measure b ≤ measure a := by
  have sorted := List.pairwise_mergeSort (ahead_trans measure) (ahead_total measure) rows
  exact sorted.imp fun within => of_decide_eq_true within

/-- A row in front of the others goes behind the strictly larger ones. -/
theorem descending_cons (measure : α → β) (row : α) (rows : List α) :
    ∃ larger rest, descending measure (row :: rows) = larger ++ row :: rest ∧
      descending measure rows = larger ++ rest ∧ ∀ other ∈ larger, measure row < measure other := by
  obtain ⟨larger, rest, whole, without, strict⟩ :=
    List.mergeSort_cons (ahead_trans measure) (ahead_total measure) row rows
  refine ⟨larger, rest, whole, without, fun other mem => ?_⟩
  have apart := strict other mem
  rw [Bool.not_eq_true', decide_eq_false_iff_not] at apart
  exact lt_of_not_ge apart

/-- What a stable sort puts first is the first of the largest. -/
theorem descending_head (measure : α → β) (rows : List α) (first : α)
    (head : (descending measure rows).head? = some first) :
    ∃ before after, Tops measure rows first before after := by
  induction rows with
  | nil =>
      rw [descending_nil] at head
      cases head
  | cons row rows ih =>
      obtain ⟨larger, rest, whole, without, strict⟩ := descending_cons measure row rows
      cases larger with
      | nil =>
          rw [whole] at head
          cases head
          have sorted := descending_pairwise measure (first :: rows)
          rw [whole, List.nil_append] at sorted
          refine ⟨[], rows, rfl, nofun, fun other mem => ?_⟩
          have kept := (mem_descending measure rows other).mpr mem
          rw [without, List.nil_append] at kept
          exact List.rel_of_pairwise_cons sorted kept
      | cons top others =>
          rw [whole] at head
          cases head
          obtain ⟨before, after, tops⟩ := ih (by rw [without]; rfl)
          refine ⟨row :: before, after, ?_, ?_, tops.least⟩
          · rw [tops.split, List.cons_append]
          · intro other mem
            rcases List.mem_cons.mp mem with rfl | old
            · exact strict _ List.mem_cons_self
            · exact tops.above other old

end FaceVec.Ranking
