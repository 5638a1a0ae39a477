import Mathlib.Data.List.DropRight
import Mathlib.Data.List.Rotate
import Mathlib.Tactic

/-!
# Rings of the last values

Cells that are written one after the other, from the first again after the last.  Read from the one
that is written next they are the last values, oldest first; in the order they stand in they are the
same values.
-/

set_option autoImplicit false

namespace Foundation

variable {α : Type}

/-- The first cells hold the last values of a list, and `index` is the one that is written next. -/
structure IsRecent (window : ℕ) (cells : List α) (index count : ℕ) (xs : List α) : Prop where
  window_le : window ≤ cells.length
  index_lt : index < window
  count_eq : count = min xs.length window
  index_eq : count < window → index = count
  held : (cells.take count).rotate index = xs.rtake window

/-- A list that is no longer than a number is what it ends with. -/
theorem rtake_of_length_le {xs : List α} {n : ℕ} (h : xs.length ≤ n) : xs.rtake n = xs := by
  rw [List.rtake, show xs.length - n = 0 by omega, List.drop_zero]

/-- Of a longer list the first of the last values goes when one more comes. -/
theorem rtake_snoc {xs : List α} {n : ℕ} (h : n ≤ xs.length) (hn : 0 < n) (x : α) :
    (xs ++ [x]).rtake n = (xs.rtake n).tail ++ [x] := by
  obtain ⟨n, rfl⟩ : ∃ m, n = m + 1 := ⟨n - 1, by omega⟩
  rw [List.rtake_concat_succ, List.rtake, List.rtake, List.tail_drop]
  congr 2
  omega

theorem rotate_eq_self {xs : List α} {n : ℕ} (h : xs.length = n) : xs.rotate n = xs := by
  subst h
  exact List.rotate_length xs

theorem take_set_succ {cells : List α} {index : ℕ} (h : index < cells.length) (x : α) :
    (cells.set index x).take (index + 1) = cells.take index ++ [x] := by
  rw [List.take_add_one, List.take_set_of_le (le_refl index), List.getElem?_set_self h,
    Option.toList_some]

/-- Writing a cell of a full ring: the oldest value goes, and the new one is the last. -/
theorem rotate_set_succ {cells : List α} {index : ℕ} (h : index < cells.length) (x : α) :
    (cells.set index x).rotate (index + 1) = (cells.rotate index).tail ++ [x] := by
  have hset : index + 1 ≤ (cells.set index x).length := by
    rw [List.length_set]
    exact h
  rw [List.rotate_eq_drop_append_take hset, List.rotate_eq_drop_append_take h.le, take_set_succ h,
    List.drop_set_of_lt (by omega), List.drop_eq_getElem_cons h, List.cons_append, List.tail_cons,
    List.append_assoc]

namespace IsRecent

variable {window index count : ℕ} {cells xs : List α}

/-- Nothing was written yet. -/
theorem nil (hpos : 0 < window) (h : window ≤ cells.length) : IsRecent window cells 0 0 [] where
  window_le := h
  index_lt := hpos
  count_eq := by simp
  index_eq _ := rfl
  held := by simp

/-- The cells hold the last values in some order. -/
theorem perm (h : IsRecent window cells index count xs) :
    (cells.take count).Perm (xs.rtake window) :=
  h.held ▸ (List.rotate_perm _ _).symm

theorem push (h : IsRecent window cells index count xs) (x : α) :
    IsRecent window (cells.set index x) ((index + 1) % window)
      (if count < window then count + 1 else count) (xs ++ [x]) := by
  have hindex := h.index_lt
  have hwindow := h.window_le
  have hcount := h.count_eq
  have hheld := h.held
  by_cases hroom : count < window
  · -- the ring is not full: the values stand in the order they came in
    have hsame : index = count := h.index_eq hroom
    subst hsame
    rw [rotate_eq_self (by rw [List.length_take]; omega), rtake_of_length_le (by omega)] at hheld
    rw [if_pos hroom]
    have hnew : (cells.set index x).take (index + 1) = xs ++ [x] := by
      rw [take_set_succ (by omega), hheld]
    have hlength : (xs ++ [x]).length = index + 1 := by
      rw [List.length_append, List.length_singleton]
      omega
    refine ⟨by rw [List.length_set]; exact hwindow, Nat.mod_lt _ (by omega), by omega,
      fun hmore => Nat.mod_eq_of_lt hmore, ?_⟩
    rw [hnew, rtake_of_length_le (by omega)]
    rcases Nat.lt_or_ge (index + 1) window with hmore | hfull
    · rw [Nat.mod_eq_of_lt hmore, rotate_eq_self hlength]
    · rw [show index + 1 = window by omega, Nat.mod_self, List.rotate_zero]
  · rw [if_neg hroom]
    have hfull : count = window := by omega
    subst hfull
    have hlength : (cells.take count).length = count := by
      rw [List.length_take]
      omega
    refine ⟨by rw [List.length_set]; exact hwindow, Nat.mod_lt _ (by omega),
      by rw [List.length_append]; omega, fun hmore => absurd hmore hroom, ?_⟩
    have hmod := List.rotate_mod ((cells.take count).set index x) (index + 1)
    rw [List.length_set, hlength] at hmod
    rw [List.take_set, hmod, rotate_set_succ (by omega), hheld, rtake_snoc (by omega) (by omega)]

end IsRecent

end Foundation
