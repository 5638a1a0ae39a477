import Mathlib.Algebra.Order.Field.Basic
import Mathlib.Algebra.Order.Field.Rat
import Mathlib.Data.List.Sort

/-!
# Medians

The middle one of an odd number of values, the mean of the two middle ones of an even number.  The
order the values come in does not matter: any sorted list of them has the same middle.
-/

set_option autoImplicit false

namespace Foundation

/-- What stands in the middle of a sorted list. -/
def middle {F : Type} [Field F] (sorted : List F) : F :=
  if sorted.length % 2 = 1 then sorted.getD (sorted.length / 2) 0
  else (sorted.getD (sorted.length / 2 - 1) 0 + sorted.getD (sorted.length / 2) 0) / 2

variable {F : Type} [Field F] [LinearOrder F]

/-- The median of some values. -/
def median (xs : List F) : F := middle (xs.insertionSort (· ≤ ·))

/-- **There is one median.**  It stands in the middle of the values in any sorted order. -/
theorem middle_eq_median {sorted xs : List F} (hsorted : sorted.Pairwise (· ≤ ·))
    (hperm : sorted.Perm xs) : middle sorted = median xs := by
  have hsame : sorted = xs.insertionSort (· ≤ ·) :=
    (hperm.trans (List.perm_insertionSort (· ≤ ·) xs).symm).eq_of_pairwise'
      hsorted (List.pairwise_insertionSort (· ≤ ·) xs)
  rw [median, ← hsame]

theorem median_eq_of_perm {xs ys : List F} (h : xs.Perm ys) : median xs = median ys :=
  middle_eq_median (List.pairwise_insertionSort (· ≤ ·) xs)
    ((List.perm_insertionSort (· ≤ ·) xs).trans h)

example : median [(9 : ℚ), 1, 3] = 3 ∧ median [(4 : ℚ), 1, 3, 9] = 7 / 2 := by decide +kernel

end Foundation
