import Mathlib.Data.List.Nodup
import Mathlib.Data.List.Sort
import Mathlib.Tactic

/-!
# Rows with keys

The rows of a table whose keys are distinct.  A batch is the rows with a property whose keys come
first, up to a limit: as many as there are or as the limit allows, and only rows with the property.
-/

set_option autoImplicit false

namespace Foundation

/-- The rows of a table, with one row for a key. -/
structure Rows (α : Type) (key : α → ℕ) where
  rows : List α
  distinct : (rows.map key).Nodup

namespace Rows

variable {α : Type} {key : α → ℕ}

/-- The keys of the rows with a property in order, up to a limit. -/
def select (t : Rows α key) (p : α → Bool) (limit : ℕ) : List ℕ :=
  (((t.rows.filter p).map key).insertionSort (· ≤ ·)).take limit

/-- The table without the rows of some keys. -/
def delete (t : Rows α key) (keys : List ℕ) : Rows α key where
  rows := t.rows.filter fun row => key row ∉ keys
  distinct := t.distinct.sublist (List.filter_sublist.map key)

/-- How many rows have a property. -/
def count (t : Rows α key) (p : α → Bool) : ℕ := (t.rows.filter p).length

variable (t : Rows α key) (p : α → Bool) (limit : ℕ)

/-- A batch has as many rows as there are, or as the limit allows. -/
theorem length_select : (t.select p limit).length = min limit (t.count p) := by
  rw [select, List.length_take, List.length_insertionSort, List.length_map, count]

/-- The keys of a batch are keys of rows with the property. -/
theorem mem_of_mem_select {k : ℕ} (h : k ∈ t.select p limit) :
    ∃ row ∈ t.rows, p row = true ∧ key row = k := by
  have hk := (List.mem_insertionSort _).mp (List.mem_of_mem_take h)
  obtain ⟨row, hrow, rfl⟩ := List.mem_map.mp hk
  obtain ⟨hmem, hp⟩ := List.mem_filter.mp hrow
  exact ⟨row, hmem, hp, rfl⟩

/-- A row is the only one with its key. -/
theorem eq_of_key_eq {a b : α} (ha : a ∈ t.rows) (hb : b ∈ t.rows) (h : key a = key b) : a = b :=
  List.inj_on_of_nodup_map t.distinct ha hb h

/-- Deleting a batch deletes no row without the property. -/
theorem mem_delete_select {row : α} (hrow : row ∈ t.rows) (hp : p row = false) :
    row ∈ (t.delete (t.select p limit)).rows := by
  refine List.mem_filter.mpr ⟨hrow, ?_⟩
  rw [decide_eq_true_iff]
  intro hk
  obtain ⟨other, hother, hpother, hkey⟩ := t.mem_of_mem_select p limit hk
  rw [t.eq_of_key_eq hother hrow hkey, hp] at hpother
  cases hpother

/-- A batch that is not full was all there is: none is left. -/
theorem not_of_mem_delete_select (h : t.count p ≤ limit) {row : α}
    (hrow : row ∈ (t.delete (t.select p limit)).rows) : p row = false := by
  obtain ⟨hmem, hkey⟩ := List.mem_filter.mp hrow
  rw [decide_eq_true_iff] at hkey
  cases hp : p row with
  | false => rfl
  | true =>
    refine absurd ?_ hkey
    have hlength : (((t.rows.filter p).map key).insertionSort (· ≤ ·)).length ≤ limit := by
      rw [List.length_insertionSort, List.length_map]
      exact h
    rw [select, List.take_of_length_le hlength, List.mem_insertionSort]
    exact List.mem_map_of_mem (List.mem_filter.mpr ⟨hmem, hp⟩)

/-- Deleting nothing. -/
theorem delete_nil : t.delete [] = t := by
  unfold delete
  congr 1
  simp

/-- No row has the property. -/
theorem count_eq_zero_iff : t.count p = 0 ↔ ∀ row ∈ t.rows, p row = false := by
  rw [count, List.length_eq_zero_iff, List.filter_eq_nil_iff]
  simp

end Rows

end Foundation
