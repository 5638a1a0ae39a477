import Mathlib.Tactic
import SeedMg24.Model.VibrationCondition

/-!
# The service in exact arithmetic

Over an ordered field the operations of the service are those of the field.
-/

set_option autoImplicit false

namespace SeedMg24.Analysis

open SeedMg24.Model.ConditionService

namespace ExactArithmetic

variable {F : Type} [Field F] [LinearOrder F] (sqrt : F → F)

theorem literal_exact (q : ℚ) : (Arithmetic.exact sqrt).literal q = (q : F) := rfl

/-- A divisor that is positive is not zero. -/
theorem divide_exact {x y : F} (h : 0 < y) :
    (Arithmetic.exact sqrt).divide x y = .ok (x / y) :=
  if_neg (by simpa [Arithmetic.exact] using h.ne')

theorem max_exact (x y : F) : (Arithmetic.exact sqrt).max x y = max x y := by
  show (if decide (x < y) = true then y else x) = max x y
  by_cases h : x < y
  · rw [if_pos (by simpa using h), max_eq_right h.le]
  · rw [if_neg (by simpa using h), max_eq_left (not_lt.mp h)]

theorem min_exact (x y : F) : (Arithmetic.exact sqrt).min x y = min x y := by
  show (if decide (y < x) = true then y else x) = min x y
  by_cases h : y < x
  · rw [if_pos (by simpa using h), min_eq_right h.le]
  · rw [if_neg (by simpa using h), min_eq_left (not_lt.mp h)]

end ExactArithmetic

end SeedMg24.Analysis
