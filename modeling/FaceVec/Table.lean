import Mathlib.Data.List.Pairwise
import Mathlib.Data.List.Basic

/-!
Relational tables under unique constraints. `clash` says which pairs of rows
the constraints forbid; a table carries the proof that no two of its rows
clash, so a table that breaks a constraint cannot be built. Rows keep their
insertion order.
-/

namespace FaceVec

universe u

structure Table {Row : Type u} (clash : Row → Row → Bool) where
  rows : List Row
  unique : rows.Pairwise fun earlier later => clash earlier later = false

namespace Table

variable {Row : Type u} {clash : Row → Row → Bool}

instance : Membership Row (Table clash) where
  mem table row := row ∈ table.rows

theorem mem_rows (table : Table clash) (row : Row) : row ∈ table ↔ row ∈ table.rows := Iff.rfl

instance [DecidableEq Row] (row : Row) (table : Table clash) : Decidable (row ∈ table) :=
  inferInstanceAs (Decidable (row ∈ table.rows))

def empty : Table clash := ⟨[], List.Pairwise.nil⟩

@[simp] theorem empty_rows : (empty : Table clash).rows = [] := rfl

def single (row : Row) : Table clash := ⟨[row], List.pairwise_singleton _ _⟩

/-- Insert a row at the end; `none` is a unique-constraint violation. -/
def insert (table : Table clash) (row : Row) : Option (Table clash) :=
  if fresh : ∀ old ∈ table.rows, clash old row = false then
    some ⟨table.rows ++ [row], by
      simpa [List.pairwise_append] using ⟨table.unique, fresh⟩⟩
  else none

theorem insert_eq_some (table next : Table clash) (row : Row)
    (inserted : table.insert row = some next) : next.rows = table.rows ++ [row] := by
  unfold insert at inserted
  split at inserted
  · exact (Option.some.inj inserted) ▸ rfl
  · contradiction

theorem insert_eq_none (table : Table clash) (row : Row) (refused : table.insert row = none) :
    ∃ old ∈ table, clash old row = true := by
  simpa [insert, mem_rows] using refused

/-- A row that was appended clashes with none of the rows before it. -/
theorem apart_of_append (before after : Table clash) (row : Row)
    (appended : after.rows = before.rows ++ [row]) (old : Row) (stored : old ∈ before) :
    clash old row = false := by
  have unique := after.unique
  rw [appended, List.pairwise_append] at unique
  exact unique.2.2 old stored row (List.mem_singleton.mpr rfl)

theorem insert_some (table : Table clash) (row : Row)
    (apart : ∀ old ∈ table, clash old row = false) : ∃ next, table.insert row = some next :=
  ⟨_, dif_pos apart⟩

theorem fresh_of_insert (table next : Table clash) (row : Row)
    (inserted : table.insert row = some next) (old : Row) (stored : old ∈ table) :
    clash old row = false :=
  apart_of_append table next row (insert_eq_some table next row inserted) old stored

theorem mem_insert (table next : Table clash) (added : Row)
    (inserted : table.insert added = some next) (row : Row) :
    row ∈ next ↔ row ∈ table ∨ row = added := by
  simp [mem_rows, insert_eq_some table next added inserted]

/-- An insert that is given up where it clashes adds at most its row. -/
theorem mem_insert_getD (table : Table clash) (added row : Row)
    (member : row ∈ (table.insert added).getD table) : row ∈ table ∨ row = added := by
  cases inserted : table.insert added with
  | none =>
      rw [inserted] at member
      exact Or.inl member
  | some next =>
      rw [inserted] at member
      exact (mem_insert table next added inserted row).mp member

/-- Rewrite rows without touching the constrained columns. -/
def modify (table : Table clash) (change : Row → Row)
    (keeps : ∀ a b, clash (change a) (change b) = clash a b) : Table clash :=
  ⟨table.rows.map change, by
    simpa [List.pairwise_map, keeps] using table.unique⟩

@[simp] theorem modify_rows (table : Table clash) (change : Row → Row)
    (keeps : ∀ a b, clash (change a) (change b) = clash a b) :
    (table.modify change keeps).rows = table.rows.map change := rfl

/-- Rewrite rows, constrained columns included; `none` is a violation. -/
def rewrite (table : Table clash) (change : Row → Row) : Option (Table clash) :=
  if sound : (table.rows.map change).Pairwise (fun earlier later => clash earlier later = false) then
    some ⟨table.rows.map change, sound⟩
  else none

theorem rewrite_eq_some (table next : Table clash) (change : Row → Row)
    (rewritten : table.rewrite change = some next) : next.rows = table.rows.map change := by
  unfold rewrite at rewritten
  split at rewritten
  · exact (Option.some.inj rewritten) ▸ rfl
  · contradiction

/-- A rewriting that makes no two rows clash goes through. -/
theorem rewrite_some (table : Table clash) (change : Row → Row)
    (sound : ∀ a ∈ table, ∀ b ∈ table, clash a b = false → clash (change a) (change b) = false) :
    ∃ next, table.rewrite change = some next := by
  have pairwise : (table.rows.map change).Pairwise fun earlier later => clash earlier later = false := by
    rw [List.pairwise_map]
    exact table.unique.imp_of_mem fun first second apart => sound _ first _ second apart
  exact ⟨_, dif_pos pairwise⟩

/-- Rewrite rows in a way that keeps apart what is apart. -/
def relax (table : Table clash) (change : Row → Row)
    (keeps : ∀ a b, clash a b = false → clash (change a) (change b) = false) : Table clash :=
  ⟨table.rows.map change, by
    rw [List.pairwise_map]
    exact table.unique.imp fun {a b} apart => keeps a b apart⟩

theorem mem_relax (table : Table clash) (change : Row → Row)
    (keeps : ∀ a b, clash a b = false → clash (change a) (change b) = false) (row : Row) :
    row ∈ table.relax change keeps ↔ ∃ old ∈ table, change old = row := List.mem_map

def delete (table : Table clash) (gone : Row → Bool) : Table clash :=
  ⟨table.rows.filter fun row => !gone row, table.unique.filter _⟩

@[simp] theorem mem_delete (table : Table clash) (gone : Row → Bool) (row : Row) :
    row ∈ table.delete gone ↔ row ∈ table ∧ gone row = false := by
  simp [delete, mem_rows]

theorem added_rows [DecidableEq Row] (before after : Table clash) (row : Row)
    (reflexive : clash row row = true) (appended : after.rows = before.rows ++ [row]) :
    (after.rows.filter fun other => !before.rows.contains other) = [row] := by
  have fresh : row ∉ before.rows := by
    intro member
    have apart := apart_of_append before after row appended row member
    rw [reflexive] at apart
    contradiction
  rw [appended, List.filter_append]
  simp [fresh]

/-- A selection whose rows would clash with one another holds at most one row. -/
theorem filter_single (table : Table clash) (selects : Row → Bool) (row : Row)
    (clashes : ∀ a b, selects a = true → selects b = true → clash a b = true) (stored : row ∈ table)
    (selected : selects row = true) : table.rows.filter selects = [row] := by
  have member : row ∈ table.rows.filter selects := List.mem_filter.mpr ⟨stored, selected⟩
  have unique := table.unique.filter selects
  cases kept : table.rows.filter selects with
  | nil =>
      rw [kept] at member
      exact absurd member List.not_mem_nil
  | cons first rest =>
      rw [kept] at member unique
      have chosen : ∀ other ∈ first :: rest, selects other = true := fun other among =>
        (List.mem_filter.mp (kept ▸ among)).2
      have alone : rest = [] := by
        rw [List.eq_nil_iff_forall_not_mem]
        intro other later
        have apart := (List.pairwise_cons.mp unique).1 other later
        rw [clashes first other (chosen first List.mem_cons_self)
          (chosen other (List.mem_cons_of_mem _ later))] at apart
        contradiction
      rw [alone] at member ⊢
      rw [List.mem_singleton.mp member]

theorem find_single (table : Table clash) (selects : Row → Bool) (row : Row)
    (clashes : ∀ a b, selects a = true → selects b = true → clash a b = true) (stored : row ∈ table)
    (selected : selects row = true) : table.rows.find? selects = some row := by
  rw [← List.head?_filter, filter_single table selects row clashes stored selected]
  rfl

/-- Two rows of one table that clash in both directions are the same row. -/
theorem eq_of_clash (table : Table clash) (a b : Row) (inA : a ∈ table) (inB : b ∈ table)
    (forward : clash a b = true) (backward : clash b a = true) : a = b := by
  by_contra different
  let apart := fun x y : Row => clash x y = false ∨ clash y x = false
  have symmetric : Std.Symm apart := ⟨fun _ _ either => either.symm⟩
  have pairwise : table.rows.Pairwise apart := table.unique.imp Or.inl
  rcases pairwise.forall inA inB different with apartAB | apartBA
  · simp [forward] at apartAB
  · simp [backward] at apartBA

end Table

end FaceVec
