import Mathlib.Order.Lattice
import Mathlib.Tactic

/-!
# Bisection

Where a value goes into a sorted list, behind those that are equal to it.  The search halves an
interval that keeps what is not greater to its left and what is greater to its right.
-/

set_option autoImplicit false

namespace Foundation

variable {α : Type} [LinearOrder α] [Inhabited α]

/-- The search between `lo` and `hi`. -/
def bisectBetween (xs : List α) (x : α) (lo hi : ℕ) : ℕ :=
  if lo < hi then
    let mid := (lo + hi) / 2
    if x < xs.getD mid default then bisectBetween xs x lo mid else bisectBetween xs x (mid + 1) hi
  else lo
termination_by hi - lo

/-- `bisect_right`. -/
def bisectRight (xs : List α) (x : α) : ℕ := bisectBetween xs x 0 xs.length

/-- What is to the left of a place is not greater, and what is to the right is. -/
structure Separates (xs : List α) (x : α) (place : ℕ) : Prop where
  le_length : place ≤ xs.length
  left : ∀ i < place, xs.getD i default ≤ x
  right : ∀ i, place ≤ i → i < xs.length → x < xs.getD i default

theorem separates_bisectBetween {xs : List α} {x : α}
    (hsorted : ∀ i j, i ≤ j → j < xs.length → xs.getD i default ≤ xs.getD j default) {lo hi : ℕ}
    (hlo : lo ≤ hi) (hhi : hi ≤ xs.length) (hleft : ∀ i < lo, xs.getD i default ≤ x)
    (hright : ∀ i, hi ≤ i → i < xs.length → x < xs.getD i default) :
    Separates xs x (bisectBetween xs x lo hi) := by
  induction lo, hi using bisectBetween.induct xs x with
  | case1 lo hi hlt mid hless ih =>
    have hmid : mid = (lo + hi) / 2 := rfl
    rw [bisectBetween, if_pos hlt]
    dsimp only
    rw [if_pos hless]
    refine ih (by omega) (by omega) hleft fun i hi' hlength => ?_
    exact hless.trans_le (hsorted mid i hi' hlength)
  | case2 lo hi hlt mid hnot ih =>
    have hmid : mid = (lo + hi) / 2 := rfl
    rw [bisectBetween, if_pos hlt]
    dsimp only
    rw [if_neg hnot]
    refine ih (by omega) hhi (fun i hi' => ?_) hright
    exact (hsorted i mid (by omega) (by omega)).trans (not_lt.mp hnot)
  | case3 lo hi hdone =>
    rw [bisectBetween, if_neg hdone]
    exact ⟨by omega, hleft, fun i hi' => hright i (by omega)⟩

/-- **The place in a sorted list.** -/
theorem separates_bisectRight {xs : List α}
    (hsorted : ∀ i j, i ≤ j → j < xs.length → xs.getD i default ≤ xs.getD j default) (x : α) :
    Separates xs x (bisectRight xs x) :=
  separates_bisectBetween hsorted (Nat.zero_le _) (le_refl _) (fun i hi => absurd hi (by omega))
    fun i hi hlength => absurd hlength (by omega)

end Foundation
