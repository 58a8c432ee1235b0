import Mathlib.Data.Set.Basic
import FaceVec.Table

/-!
Foreign keys between tables of rows: a row may carry the id of a row of another
table. Each rule says when a reference survives a change on one of its sides.
-/

namespace FaceVec

universe u v w

variable {Row : Type u} {Parent : Type v} {Key : Type w}

def idsOf (id : Parent → Key) (parents : List Parent) : Set Key :=
  {own | ∃ parent ∈ parents, id parent = own}

/-- Every key that a row carries is the id of a stored row. -/
def Refers (key : Row → Option Key) (rows : List Row) (ids : Set Key) : Prop :=
  ∀ row ∈ rows, ∀ own ∈ key row, own ∈ ids

theorem mem_idsOf (id : Parent → Key) (parents : List Parent) (parent : Parent)
    (stored : parent ∈ parents) : id parent ∈ idsOf id parents := ⟨parent, stored, rfl⟩

theorem idsOf_append (id : Parent → Key) (parents more : List Parent) :
    idsOf id parents ⊆ idsOf id (parents ++ more) := by
  rintro _ ⟨parent, stored, rfl⟩
  exact mem_idsOf id _ parent (List.mem_append_left _ stored)

theorem idsOf_map (id : Parent → Key) (parents : List Parent) (change : Parent → Parent)
    (same : ∀ parent, id (change parent) = id parent) :
    idsOf id (parents.map change) = idsOf id parents := by
  ext own
  simp [idsOf, same]

section Rules

variable {key : Row → Option Key} {rows : List Row} {ids : Set Key}

theorem Refers.append (refers : Refers key rows ids) (row : Row)
    (known : ∀ own ∈ key row, own ∈ ids) : Refers key (rows ++ [row]) ids := by
  intro other member own carried
  rcases List.mem_append.mp member with old | new
  · exact refers other old own carried
  · rw [List.mem_singleton.mp new] at carried
    exact known own carried

theorem Refers.grow (refers : Refers key rows ids) (more : Set Key) (grows : ids ⊆ more) :
    Refers key rows more :=
  fun row member own carried => grows (refers row member own carried)

theorem Refers.rewrite (refers : Refers key rows ids) (change : Row → Row)
    (known : ∀ row ∈ rows, ∀ own ∈ key (change row), own ∈ key row ∨ own ∈ ids) :
    Refers key (rows.map change) ids := by
  intro other member own carried
  obtain ⟨row, stored, rfl⟩ := List.mem_map.mp member
  exact (known row stored own carried).elim (refers row stored own) id

theorem Refers.subset (refers : Refers key rows ids) (fewer : List Row)
    (among : ∀ row ∈ fewer, row ∈ rows) : Refers key fewer ids :=
  fun row member => refers row (among row member)

/-- A deletion that takes along every row that refers to a deleted one. -/
theorem Refers.cascade {clash : Row → Row → Bool} {others : Parent → Parent → Bool}
    {table : Table clash} {parents : Table others} {id : Parent → Key}
    (refers : Refers key table.rows (idsOf id parents.rows)) (gone : Row → Bool)
    (dropped : Parent → Bool)
    (takes : ∀ row ∈ table, ∀ parent ∈ parents, id parent ∈ key row → dropped parent = true →
      gone row = true) :
    Refers key (table.delete gone).rows (idsOf id (parents.delete dropped).rows) := by
  intro row member own carried
  obtain ⟨stored, stays⟩ := (Table.mem_delete table gone row).mp member
  obtain ⟨parent, present, rfl⟩ := refers row stored own carried
  refine mem_idsOf id _ parent ((Table.mem_delete parents dropped parent).mpr ⟨present, ?_⟩)
  cases drops : dropped parent with
  | false => rfl
  | true =>
      rw [takes row stored parent present carried drops] at stays
      contradiction

theorem Refers.restrict {others : Parent → Parent → Bool} {parents : Table others}
    {id : Parent → Key} (refers : Refers key rows (idsOf id parents.rows)) (dropped : Parent → Bool)
    (free : ∀ row ∈ rows, ∀ parent ∈ parents, id parent ∈ key row → dropped parent = false) :
    Refers key rows (idsOf id (parents.delete dropped).rows) := by
  intro row member own carried
  obtain ⟨parent, present, rfl⟩ := refers row member own carried
  exact mem_idsOf id _ parent
    ((Table.mem_delete parents dropped parent).mpr ⟨present, free row member parent present carried⟩)

end Rules

end FaceVec
