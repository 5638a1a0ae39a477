import Mathlib.Analysis.SpecialFunctions.Complex.CircleAddChar
import Mathlib.Analysis.SpecialFunctions.Trigonometric.Bounds
import Mathlib.Analysis.Real.Pi.Bounds
import Mathlib.Tactic
import SeedMg24.Foundation.Literals

/-!
# Sums of tones

The sum of equally spaced points on the unit circle: its size is that of a quotient of two sines, so
that it is small when the points go round the circle almost a whole number of times.
-/

set_option autoImplicit false

namespace Foundation

open Finset (range)

attribute [local instance] atLeastTwo_two

/-- The point of the unit circle after a number of turns. -/
noncomputable def turn (turns : ℝ) : ℂ := Complex.exp (2 * Real.pi * turns * Complex.I)

theorem turn_add (a b : ℝ) : turn (a + b) = turn a * turn b := by
  unfold turn
  rw [← Complex.exp_add]
  congr 1
  push_cast
  ring

@[simp] theorem turn_zero : turn 0 = 1 := by
  unfold turn
  rw [Complex.ofReal_zero, mul_zero, zero_mul, Complex.exp_zero]

theorem turn_intCast (n : ℤ) : turn n = 1 := by
  unfold turn
  rw [Complex.ofReal_intCast, show (2 * Real.pi * n * Complex.I : ℂ) =
    n * (2 * Real.pi * Complex.I) by ring]
  exact Complex.exp_int_mul_two_pi_mul_I n

theorem turn_nat_mul (n : ℕ) (a : ℝ) : turn (n * a) = turn a ^ n := by
  unfold turn
  rw [← Complex.exp_nat_mul]
  congr 1
  push_cast
  ring

@[simp] theorem norm_turn (a : ℝ) : ‖turn a‖ = 1 := by
  unfold turn
  rw [show (2 * Real.pi * a * Complex.I : ℂ) = ((2 * Real.pi * a : ℝ) : ℂ) * Complex.I by
    push_cast; ring]
  exact Complex.norm_exp_ofReal_mul_I _

/-- A cosine as two points that go round in opposite directions. -/
theorem cos_eq_turn (turns : ℝ) :
    (Real.cos (2 * Real.pi * turns) : ℂ) = (turn turns + turn (-turns)) / 2 := by
  rw [Complex.ofReal_cos, Complex.cos]
  unfold turn
  congr 3
  · push_cast
    ring
  · push_cast
    ring

theorem norm_turn_sub_one (a : ℝ) : ‖turn a - 1‖ = 2 * |Real.sin (Real.pi * a)| := by
  have h := Complex.norm_exp_I_mul_ofReal_sub_one (2 * Real.pi * a)
  unfold turn
  rw [show (2 * Real.pi * a * Complex.I : ℂ) = Complex.I * ((2 * Real.pi * a : ℝ) : ℂ) by
    push_cast; ring, h, norm_mul, Real.norm_eq_abs, Real.norm_eq_abs, abs_two]
  congr 3
  ring

/-- The sum of the first points of a tone. -/
noncomputable def toneSum (turns : ℝ) (count : ℕ) : ℂ := ∑ j ∈ range count, turn (j * turns)

theorem norm_toneSum_le (turns : ℝ) (count : ℕ) : ‖toneSum turns count‖ ≤ count := by
  refine (norm_sum_le (range count) fun j => turn (j * turns)).trans ?_
  simp only [norm_turn, Finset.sum_const, Finset.card_range, nsmul_eq_mul, mul_one]
  exact le_rfl

/-- **The size of a sum of a tone.** -/
theorem norm_toneSum_mul (turns : ℝ) (count : ℕ) :
    ‖toneSum turns count‖ * |Real.sin (Real.pi * turns)| =
      |Real.sin (Real.pi * (count * turns))| := by
  have hgeom : toneSum turns count * (turn turns - 1) = turn (count * turns) - 1 := by
    unfold toneSum
    rw [turn_nat_mul, ← geom_sum_mul]
    simp only [turn_nat_mul]
  have hnorm := congrArg norm hgeom
  rw [norm_mul, norm_turn_sub_one, norm_turn_sub_one] at hnorm
  linarith

/-- A tone that goes round a whole number of times adds up to nothing. -/
theorem toneSum_eq_zero {turns : ℝ} {count : ℕ} (n : ℤ) (h : count * turns = n)
    (hne : Real.sin (Real.pi * turns) ≠ 0) : toneSum turns count = 0 := by
  have hmul := norm_toneSum_mul turns count
  rw [h, mul_comm Real.pi (n : ℝ), Real.sin_int_mul_pi, abs_zero] at hmul
  exact norm_eq_zero.mp ((mul_eq_zero.mp hmul).resolve_right (abs_ne_zero.mpr hne))

theorem toneSum_zero (count : ℕ) : toneSum 0 count = count := by
  unfold toneSum
  simp

/-- Backwards, the sum is the conjugate one. -/
theorem norm_toneSum_neg (turns : ℝ) (count : ℕ) :
    ‖toneSum (-turns) count‖ = ‖toneSum turns count‖ := by
  have hconj : toneSum (-turns) count = (starRingEnd ℂ) (toneSum turns count) := by
    unfold toneSum
    rw [map_sum]
    refine Finset.sum_congr rfl fun j _ => ?_
    unfold turn
    rw [← Complex.exp_conj]
    congr 1
    simp [Complex.conj_ofNat]
  rw [hconj, RCLike.norm_conj]

/-- A sine over half a turn is at least twice the distance to the nearer end. -/
theorem two_mul_le_sin {a margin : ℝ} (hmargin : 0 ≤ margin) (hlow : margin ≤ a)
    (hhigh : a ≤ 1 - margin) : 2 * margin ≤ Real.sin (Real.pi * a) := by
  have hpi := Real.pi_pos
  have hchord : ∀ b, 0 ≤ b → b ≤ 1 / 2 → 2 * b ≤ Real.sin (Real.pi * b) := by
    intro b h0 hb
    have h := Real.mul_le_sin (x := Real.pi * b) (by positivity) (by nlinarith)
    have heq : 2 / Real.pi * (Real.pi * b) = 2 * b := by field_simp
    rwa [heq] at h
  by_cases hhalf : a ≤ 1 / 2
  · have h := hchord a (by linarith) hhalf
    linarith
  · have h := hchord (1 - a) (by linarith) (by linarith)
    have heq : Real.sin (Real.pi * (1 - a)) = Real.sin (Real.pi * a) := by
      rw [mul_sub, mul_one, Real.sin_pi_sub]
    linarith

/-- **A bound on the sum of a tone.**  The whole of it goes round a whole number of times and a
little more; one step stays away from whole turns. -/
theorem norm_toneSum_le_of {turns margin : ℝ} {count : ℕ} (hmargin : 0 < margin)
    (hlow : margin ≤ |turns|) (hhigh : |turns| ≤ 1 - margin) (n : ℤ) (rest : ℝ)
    (hrest : count * turns = n + rest) :
    ‖toneSum turns count‖ ≤ Real.pi * |rest| / (2 * margin) := by
  have hstep : 2 * margin ≤ |Real.sin (Real.pi * turns)| := by
    have habs : |Real.sin (Real.pi * turns)| = |Real.sin (Real.pi * |turns|)| := by
      rcases abs_cases turns with h | h
      · rw [h.1]
      · rw [h.1, mul_neg, Real.sin_neg, abs_neg]
    rw [habs]
    exact (two_mul_le_sin hmargin.le hlow hhigh).trans (le_abs_self _)
  have hwhole : |Real.sin (Real.pi * (count * turns))| ≤ Real.pi * |rest| := by
    have hturn : Real.pi * (n + rest) = Real.pi * rest + n * Real.pi := by ring
    rw [hrest, hturn, Real.sin_add_int_mul_pi, abs_mul, abs_zpow, abs_neg, abs_one, one_zpow,
      one_mul]
    refine (Real.abs_sin_le_abs).trans ?_
    rw [abs_mul, abs_of_pos Real.pi_pos]
  rw [le_div_iff₀ (by positivity)]
  have hmul := norm_toneSum_mul turns count
  have hmono := mul_le_mul_of_nonneg_left hstep (norm_nonneg (toneSum turns count))
  linarith

end Foundation
