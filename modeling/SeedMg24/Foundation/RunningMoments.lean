import Mathlib.Algebra.BigOperators.Group.List.Basic
import Mathlib.Algebra.CharZero.Defs
import Mathlib.Tactic

/-!
# Means and squared deviations, one number at a time

The mean of a list, and the sum of the squared distances from it, when one more number comes in:
both are obtained from what they were before and the number.
-/

set_option autoImplicit false

namespace Foundation

variable {F : Type} [Field F]

/-- The mean, zero for no numbers. -/
def mean (xs : List F) : F := xs.sum / xs.length

/-- The sum of the squared distances from a point. -/
def squaresAbout (c : F) (xs : List F) : F := (xs.map fun x => (x - c) ^ 2).sum

variable [CharZero F]

theorem length_mul_mean (xs : List F) : (xs.length : F) * mean xs = xs.sum := by
  unfold mean
  cases xs with
  | nil => simp
  | cons x xs =>
    have hlength : ((x :: xs).length : F) ≠ 0 := Nat.cast_ne_zero.mpr (Nat.succ_ne_zero xs.length)
    field_simp

/-- **The mean with one more number.** -/
theorem mean_snoc (xs : List F) (x : F) :
    mean (xs ++ [x]) = mean xs + (x - mean xs) / ((xs.length + 1 : ℕ) : F) := by
  have hlength : ((xs.length + 1 : ℕ) : F) ≠ 0 := Nat.cast_ne_zero.mpr (Nat.succ_ne_zero _)
  have hsum := length_mul_mean xs
  have hall := length_mul_mean (xs ++ [x])
  rw [List.length_append, List.length_singleton, List.sum_append, List.sum_singleton] at hall
  apply mul_left_cancel₀ hlength
  rw [hall, mul_add, mul_div_cancel₀ _ hlength, ← hsum]
  push_cast
  ring

omit [CharZero F] in
theorem squaresAbout_snoc (c : F) (xs : List F) (x : F) :
    squaresAbout c (xs ++ [x]) = squaresAbout c xs + (x - c) ^ 2 := by
  unfold squaresAbout
  rw [List.map_append, List.sum_append, List.map_singleton, List.sum_singleton]

omit [CharZero F] in
/-- The squared distances from one point, about another. -/
theorem squaresAbout_eq (c m : F) (xs : List F) :
    squaresAbout c xs =
      squaresAbout m xs - 2 * (c - m) * (xs.sum - xs.length * m) + xs.length * (c - m) ^ 2 := by
  induction xs with
  | nil => simp [squaresAbout]
  | cons x xs ih =>
    unfold squaresAbout at ih ⊢
    rw [List.map_cons, List.sum_cons, List.map_cons, List.sum_cons, ih, List.sum_cons,
      List.length_cons]
    push_cast
    ring

/-- About the mean they are the least: what comes to them is the distance from the mean. -/
theorem squaresAbout_mean (c : F) (xs : List F) :
    squaresAbout c xs = squaresAbout (mean xs) xs + xs.length * (c - mean xs) ^ 2 := by
  rw [squaresAbout_eq c (mean xs) xs, length_mul_mean]
  ring

/-- **The squared deviations with one more number.** -/
theorem squaresAbout_mean_snoc (xs : List F) (x : F) :
    squaresAbout (mean (xs ++ [x])) (xs ++ [x]) =
      squaresAbout (mean xs) xs + (x - mean xs) * (x - mean (xs ++ [x])) := by
  have hlength : ((xs.length + 1 : ℕ) : F) ≠ 0 := Nat.cast_ne_zero.mpr (Nat.succ_ne_zero _)
  rw [squaresAbout_snoc, squaresAbout_mean, mean_snoc]
  push_cast at hlength ⊢
  field_simp
  ring

end Foundation
