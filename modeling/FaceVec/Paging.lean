import Mathlib.Data.List.Perm.Basic
import Mathlib.Data.List.Sort

/-!
Pages of a list that is sorted by a key on which rows may tie. Each page is cut
from a sorting of its own, as a query returns it. The first rows of two sortings
are the same up to order wherever the cut parts no tie; so the pages make up the
list exactly if none of their boundaries does.
-/

namespace FaceVec.Paging

universe u v

variable {Row : Type u} {Key : Type v} [LinearOrder Key] (key : Row → Key)

/-- An order in which `ORDER BY key DESC` may return the rows. -/
structure Arranges (rows ordered : List Row) : Prop where
  perm : ordered.Perm rows
  sorted : ordered.Pairwise fun a b => key b ≤ key a

/-- Page `page` (counted from zero) of `size` rows. -/
def slice (size page : Nat) (ordered : List Row) : List Row := (ordered.drop (page * size)).take size

/-- The cut after `cut` rows parts two rows of one key. -/
def Parts (ordered : List Row) (cut : Nat) : Prop :=
  ∃ index a b, cut = index + 1 ∧ ordered[index]? = some a ∧ ordered[index + 1]? = some b ∧
    key a = key b

/-- The cut after `cut` rows falls among the rows of one key: behind all rows of
a greater key, and before the last of this one. -/
def Splits (rows : List Row) (cut : Nat) : Prop :=
  ∃ row ∈ rows, (rows.countP fun other => key row < key other) < cut ∧
    cut < rows.countP fun other => key row ≤ key other

/-- No page boundary parts a tie. -/
def Untied (size : Nat) (ordered : List Row) : Prop :=
  ∀ page, ¬ Parts key ordered (page * size)

theorem take_slice (size page : Nat) (ordered : List Row) :
    ordered.take ((page + 1) * size) = ordered.take (page * size) ++ slice size page ordered := by
  rw [Nat.succ_mul, List.take_add]
  rfl

theorem flatMap_slice (size count : Nat) (ordered : List Row) :
    ((List.range count).flatMap fun page => slice size page ordered) =
      ordered.take (count * size) := by
  induction count with
  | zero => simp
  | succ count ih =>
      rw [List.range_succ, List.flatMap_append, ih, take_slice, List.flatMap_singleton]

theorem slice_length (size page : Nat) (ordered : List Row) :
    (slice size page ordered).length = min size (ordered.length - page * size) := by
  rw [slice, List.length_take, List.length_drop]

theorem mem_slice (size page index : Nat) (ordered : List Row) (row : Row)
    (found : ordered[index]? = some row) (from_ : page * size ≤ index)
    (upto : index < (page + 1) * size) : row ∈ slice size page ordered := by
  rw [Nat.succ_mul] at upto
  apply List.mem_of_getElem? (i := index - page * size)
  rw [slice, List.getElem?_take_of_lt (by omega), List.getElem?_drop, Nat.add_sub_cancel' from_, found]

section Sortings

variable (rows first second : List Row)

theorem arranged_keys (one : Arranges key rows first) (other : Arranges key rows second) :
    first.map key = second.map key := by
  have firstKeys : (first.map key).Pairwise fun a b => b ≤ a := List.pairwise_map.mpr one.sorted
  have secondKeys : (second.map key).Pairwise fun a b => b ≤ a :=
    List.pairwise_map.mpr other.sorted
  refine List.Perm.eq_of_pairwise ?_ firstKeys secondKeys ?_
  · exact fun a b _ _ below above => le_antisymm above below
  · exact (one.perm.trans other.perm.symm).map key

theorem arranged_length (one : Arranges key rows first) : first.length = rows.length :=
  one.perm.length_eq

omit [LinearOrder Key] in
/-- The rows before a cut are those with a key above the bound that the cut draws. -/
theorem take_eq_filter (ordered : List Row) (cut : Nat) (above : Row → Bool)
    (before : ∀ row ∈ ordered.take cut, above row = true)
    (after : ∀ row ∈ ordered.drop cut, above row = false) :
    ordered.take cut = ordered.filter above := by
  have parts := List.filter_append (p := above) (ordered.take cut) (ordered.drop cut)
  rw [List.take_append_drop] at parts
  rw [parts, List.filter_eq_self.mpr before, List.filter_eq_nil_iff.mpr, List.append_nil]
  exact fun row member => by simp [after row member]

/-- Where the keys fall, the rows before are those with a greater key. -/
theorem take_greater (ordered : List Row) (sorted : ordered.Pairwise fun a b => key b ≤ key a)
    (index : Nat) (within : index + 1 < ordered.length)
    (falls : key ordered[index + 1] < key ordered[index]) :
    ordered.take (index + 1) = ordered.filter fun row => key ordered[index + 1] < key row := by
  have ordering := List.pairwise_iff_getElem.mp sorted
  apply take_eq_filter
  · intro row member
    obtain ⟨at_, early, rfl⟩ := List.mem_take_iff_getElem.mp member
    rw [decide_eq_true_eq]
    rcases Nat.eq_or_lt_of_le (show at_ ≤ index by omega) with rfl | earlier
    · exact falls
    · exact falls.trans_le (ordering at_ index (by omega) (by omega) earlier)
  · intro row member
    obtain ⟨at_, late, rfl⟩ := List.mem_drop_iff_getElem.mp member
    rw [decide_eq_false_iff_not, not_lt]
    rcases Nat.eq_zero_or_pos at_ with rfl | later
    · exact le_refl _
    · exact ordering (index + 1) (index + 1 + at_) within (by omega) (by omega)

omit [LinearOrder Key] in
theorem passes_iff [LE Key] (test : Row → Bool)
    (upward : ∀ a b, key b ≤ key a → test b = true → test a = true) (ordered : List Row)
    (sorted : ordered.Pairwise fun a b => key b ≤ key a) (index : Nat) (row : Row)
    (found : ordered[index]? = some row) : test row = true ↔ index < ordered.countP test := by
  induction ordered generalizing index with
  | nil => contradiction
  | cons head rest ih =>
      obtain ⟨least, later⟩ := List.pairwise_cons.mp sorted
      by_cases first : test head = true
      · rw [List.countP_cons_of_pos first]
        cases index with
        | zero =>
            cases found
            simp [first]
        | succ index => rw [ih later index found, Nat.succ_lt_succ_iff]
      · -- Where the first row fails the test, so do all later ones.
        have none : rest.countP test = 0 :=
          List.countP_eq_zero.mpr fun other member passed =>
            first (upward head other (least other member) passed)
        rw [List.countP_cons_of_neg first, none]
        cases index with
        | zero =>
            cases found
            simp [first]
        | succ index => simpa [none] using ih later index found

/-- Whether a cut parts a tie does not depend on the sorting. -/
theorem parts_iff (cut : Nat) (one : Arranges key rows first) :
    Parts key first cut ↔ Splits key rows cut := by
  have greater (row : Row) := passes_iff key (fun other => key row < key other)
    (fun a b above => by simpa using fun below => lt_of_lt_of_le below above) first one.sorted
  have reaches (row : Row) := passes_iff key (fun other => key row ≤ key other)
    (fun a b above => by simpa using fun below => le_trans below above) first one.sorted
  simp only [decide_eq_true_eq, one.perm.countP_eq] at greater reaches
  constructor
  · rintro ⟨index, a, b, rfl, here, next, tie⟩
    refine ⟨a, one.perm.mem_iff.mp (List.mem_of_getElem? here), ?_, ?_⟩
    · have not_before := (greater a index a here).not.mp (lt_irrefl _)
      omega
    · exact (reaches a (index + 1) b next).mp tie.le
  · rintro ⟨row, stored, above, below⟩
    obtain ⟨index, rfl⟩ := Nat.exists_eq_add_one_of_ne_zero (Nat.ne_zero_of_lt above)
    have more : index + 1 < first.length :=
      arranged_length key rows first one ▸ below.trans_le List.countP_le_length
    have here := List.getElem?_eq_getElem (Nat.lt_of_succ_lt more)
    have next := List.getElem?_eq_getElem more
    have ofKey {at_ : Nat} {other : Row} (found : first[at_]? = some other) (late : index ≤ at_)
        (early : at_ ≤ index + 1) : key other = key row :=
      le_antisymm (not_lt.mp fun over_ => by have := (greater row at_ other found).mp over_; omega)
        ((reaches row at_ other found).mpr (by omega))
    exact ⟨index, _, _, rfl, here, next,
      (ofKey here le_rfl (by omega)).trans (ofKey next (by omega) le_rfl).symm⟩

theorem untied_iff (size : Nat) (one : Arranges key rows first) :
    Untied key size first ↔ ∀ page, ¬ Splits key rows (page * size) :=
  forall_congr' fun page => (parts_iff key rows first (page * size) one).not

theorem arranged_key (one : Arranges key rows first) (other : Arranges key rows second)
    (index : Nat) (a b : Row) (here : first[index]? = some a) (there : second[index]? = some b) :
    key a = key b := by
  have same := congrArg (·[index]?) (arranged_keys key rows first second one other)
  simpa [here, there] using same

theorem take_perm (cut : Nat) (one : Arranges key rows first) (other : Arranges key rows second)
    (whole : ¬ Parts key first cut) : (first.take cut).Perm (second.take cut) := by
  have both : first.Perm second := one.perm.trans other.perm.symm
  rcases cut with _ | index
  · simp
  rcases Nat.lt_or_ge (index + 1) first.length with more | past
  · have moreToo : index + 1 < second.length := both.length_eq ▸ more
    have same := arranged_key key rows first second one other index _ _
      (List.getElem?_eq_getElem (Nat.lt_of_succ_lt more))
      (List.getElem?_eq_getElem (Nat.lt_of_succ_lt moreToo))
    have sameNext := arranged_key key rows first second one other (index + 1) _ _
      (List.getElem?_eq_getElem more) (List.getElem?_eq_getElem moreToo)
    have ordering := List.pairwise_iff_getElem.mp one.sorted
    -- The key falls at the cut, so both beginnings are the rows of the greater keys.
    have falls : key first[index + 1] < key first[index] := by
      refine lt_of_le_of_ne (ordering index (index + 1) (by omega) more (by omega)) fun tie => ?_
      exact whole ⟨index, first[index], first[index + 1], rfl, List.getElem?_eq_getElem _,
        List.getElem?_eq_getElem _, tie.symm⟩
    have fallsToo : key second[index + 1] < key second[index] := by rwa [← same, ← sameNext]
    rw [take_greater key first one.sorted index more falls,
      take_greater key second other.sorted index moreToo fallsToo, sameNext]
    exact both.filter _
  · rw [List.take_of_length_le past, List.take_of_length_le (both.length_eq ▸ past)]
    exact both

theorem slice_perm (size page : Nat) (one : Arranges key rows first)
    (other : Arranges key rows second) (untied : Untied key size first) :
    (slice size page first).Perm (slice size page second) := by
  have early := take_perm key rows first second (page * size) one other (untied page)
  have late := take_perm key rows first second ((page + 1) * size) one other (untied (page + 1))
  rw [take_slice, take_slice] at late
  exact (List.perm_append_left_iff _).mp (late.trans (early.symm.append_right _))

/-- Pages of untied rows make up the rows, whatever order each of them was cut from. -/
theorem pages_perm (size count : Nat) (orders : Nat → List Row) (one : Arranges key rows first)
    (arranged : ∀ page, Arranges key rows (orders page)) (untied : Untied key size first)
    (enough : rows.length ≤ count * size) :
    ((List.range count).flatMap fun page => slice size page (orders page)).Perm rows := by
  have pages := List.Perm.flatMap_left (List.range count) fun page _ =>
    slice_perm key rows first (orders page) size page one (arranged page) untied
  rw [flatMap_slice, List.take_of_length_le (by rwa [arranged_length key rows first one])] at pages
  exact pages.symm.trans one.perm

theorem swap_arranges (index : Nat) (a b : Row) (one : Arranges key rows first)
    (here : first[index]? = some a) (next : first[index + 1]? = some b) (tie : key a = key b) :
    ∃ swapped, Arranges key rows swapped ∧ swapped[index + 1]? = some a := by
  obtain ⟨within, rfl⟩ := List.getElem?_eq_some_iff.mp here
  obtain ⟨more, rfl⟩ := List.getElem?_eq_some_iff.mp next
  have parts : first = first.take index ++ first[index] :: first[index + 1] ::
      first.drop (index + 2) := by
    rw [← List.drop_eq_getElem_cons more, ← List.drop_eq_getElem_cons within, List.take_append_drop]
  refine ⟨first.take index ++ first[index + 1] :: first[index] :: first.drop (index + 2), ⟨?_, ?_⟩, ?_⟩
  · refine (List.Perm.append_left _ (List.Perm.swap _ _ _)).trans ?_
    rw [← parts]
    exact one.perm
  · have sorted := one.sorted
    rw [parts] at sorted
    simp only [List.pairwise_append, List.pairwise_cons, List.mem_cons] at sorted ⊢
    obtain ⟨front, ⟨least, lesser, back⟩, between⟩ := sorted
    refine ⟨front, ⟨?_, fun row late => least row (Or.inr late), back⟩, ?_⟩
    · rintro row (rfl | late)
      · exact tie.le
      · exact lesser row late
    · rintro early among row (rfl | rfl | late)
      · exact between early among _ (Or.inr (Or.inl rfl))
      · exact between early among _ (Or.inl rfl)
      · exact between early among row (Or.inr (Or.inr late))
  · have length : (first.take index).length = index := by
      rw [List.length_take]
      omega
    rw [List.getElem?_append_right (by omega), length, Nat.add_sub_cancel_left]
    rfl

/-- Where a boundary parts a tie, a row may stand on both of its pages. -/
theorem tied_repeats (size : Nat) (positive : 0 < size) (one : Arranges key rows first)
    (tied : ¬ Untied key size first) :
    ∃ page row, ∃ orders : Nat → List Row, (page + 1) * size < rows.length ∧
      (∀ page, Arranges key rows (orders page)) ∧ row ∈ slice size page (orders page) ∧
      row ∈ slice size (page + 1) (orders (page + 1)) := by
  simp only [Untied, not_forall, not_not] at tied
  obtain ⟨boundary, index, a, b, cut, here, next, tie⟩ := tied
  obtain ⟨page, rfl⟩ : ∃ page, boundary = page + 1 := by
    refine Nat.exists_eq_add_one_of_ne_zero ?_
    rintro rfl
    omega
  obtain ⟨swapped, arranged, moved⟩ := swap_arranges key rows first index a b one here next tie
  -- One page is cut before the exchange, the next one after it.
  refine ⟨page, a, fun at_ => if at_ = page then first else swapped, ?_, ?_, ?_, ?_⟩
  · obtain ⟨more, _⟩ := List.getElem?_eq_some_iff.mp next
    rwa [cut, ← arranged_length key rows first one]
  · intro at_
    dsimp only
    split
    · exact one
    · exact arranged
  · rw [Nat.succ_mul] at cut
    simp only [if_true]
    exact mem_slice size page index first a here (by omega) (by rw [Nat.succ_mul]; omega)
  · simp only [Nat.succ_ne_self, if_false]
    exact mem_slice size (page + 1) (index + 1) swapped a moved (by omega)
      (by rw [Nat.succ_mul]; omega)

end Sortings

end FaceVec.Paging
