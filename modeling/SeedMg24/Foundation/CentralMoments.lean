import Mathlib.Algebra.Order.Chebyshev
import Mathlib.Analysis.Real.Sqrt
import Mathlib.Tactic

/-!
# Central moments

The average, the mean square and the central moments of finitely many numbers, and the inequalities
between them.
-/

set_option autoImplicit false

namespace Foundation

variable {count : ℕ}

/-- The average. -/
noncomputable def average (x : Fin count → ℝ) : ℝ := (∑ i, x i) / count

/-- The average of the squares. -/
noncomputable def meanSquare (x : Fin count → ℝ) : ℝ := (∑ i, x i ^ 2) / count

/-- The average of a power of the deviations from the average. -/
noncomputable def centralMoment (order : ℕ) (x : Fin count → ℝ) : ℝ :=
  (∑ i, (x i - average x) ^ order) / count

section

variable (x : Fin count → ℝ)

theorem meanSquare_nonneg : 0 ≤ meanSquare x :=
  div_nonneg (Finset.sum_nonneg fun i _ => sq_nonneg (x i)) (Nat.cast_nonneg count)

theorem centralMoment_two_nonneg : 0 ≤ centralMoment 2 x :=
  div_nonneg (Finset.sum_nonneg fun _ _ => sq_nonneg _) (Nat.cast_nonneg count)

variable (hcount : 0 < count)

include hcount

theorem sum_eq_mul_average : ∑ i, x i = count * average x := by
  have hpos : (count : ℝ) ≠ 0 := Nat.cast_ne_zero.mpr hcount.ne'
  unfold average
  field_simp

/-- **The second central moment is the mean square without the square of the average.** -/
theorem centralMoment_two : centralMoment 2 x = meanSquare x - average x ^ 2 := by
  have hpos : (count : ℝ) ≠ 0 := Nat.cast_ne_zero.mpr hcount.ne'
  have hsum := sum_eq_mul_average x hcount
  have hexpand : ∑ i, (x i - average x) ^ 2 =
      ∑ i, x i ^ 2 - 2 * average x * ∑ i, x i + count * average x ^ 2 := by
    simp only [sub_sq, Finset.sum_add_distrib, Finset.sum_sub_distrib, Finset.mul_sum,
      Finset.sum_const, Finset.card_univ, Fintype.card_fin, nsmul_eq_mul]
    congr 2
    exact Finset.sum_congr rfl fun i _ => by ring
  unfold centralMoment meanSquare
  rw [hexpand, hsum]
  field_simp
  ring

theorem sq_average_le_meanSquare : average x ^ 2 ≤ meanSquare x := by
  have hmoment := centralMoment_two x hcount
  have hnonneg := centralMoment_two_nonneg x
  linarith

theorem meanSquare_le {bound : ℝ} (h : ∀ i, |x i| ≤ bound) : meanSquare x ≤ bound ^ 2 := by
  have hpos : (0 : ℝ) < count := Nat.cast_pos.mpr hcount
  unfold meanSquare
  rw [div_le_iff₀ hpos, mul_comm]
  have hsum := Finset.sum_le_card_nsmul Finset.univ (fun i => x i ^ 2) (bound ^ 2)
    fun i _ => sq_le_sq' (abs_le.mp (h i)).1 (abs_le.mp (h i)).2
  simpa only [Finset.card_univ, Fintype.card_fin, nsmul_eq_mul] using hsum

/-- One square is at most all of them. -/
theorem sq_le_count_mul_meanSquare (i : Fin count) : x i ^ 2 ≤ count * meanSquare x := by
  have hpos : (count : ℝ) ≠ 0 := Nat.cast_ne_zero.mpr hcount.ne'
  have hone := Finset.single_le_sum (f := fun i => x i ^ 2) (fun i _ => sq_nonneg (x i))
    (Finset.mem_univ i)
  unfold meanSquare
  rwa [mul_div_cancel₀ _ hpos]

/-- **Numbers in an interval do not vary more than its ends do.** -/
theorem centralMoment_two_le {low high : ℝ} (hlow : ∀ i, low ≤ x i) (hhigh : ∀ i, x i ≤ high) :
    centralMoment 2 x ≤ ((high - low) / 2) ^ 2 := by
  have hpos : (0 : ℝ) < count := Nat.cast_pos.mpr hcount
  have hproduct : 0 ≤ (∑ i, (x i - low) * (high - x i)) / count :=
    div_nonneg (Finset.sum_nonneg fun i _ =>
      mul_nonneg (sub_nonneg.mpr (hlow i)) (sub_nonneg.mpr (hhigh i))) hpos.le
  have hexpand : (∑ i, (x i - low) * (high - x i)) / count =
      (low + high) * average x - meanSquare x - low * high := by
    have hsplit : ∑ i, (x i - low) * (high - x i) =
        (low + high) * ∑ i, x i - ∑ i, x i ^ 2 - count * (low * high) := by
      rw [Finset.mul_sum, ← Finset.sum_sub_distrib]
      have hconst : (count : ℝ) * (low * high) = ∑ _i : Fin count, low * high := by
        rw [Finset.sum_const, Finset.card_univ, Fintype.card_fin, nsmul_eq_mul]
      rw [hconst, ← Finset.sum_sub_distrib]
      exact Finset.sum_congr rfl fun i _ => by ring
    unfold average meanSquare
    rw [hsplit]
    field_simp
  rw [centralMoment_two x hcount]
  nlinarith [sq_nonneg (average x - (low + high) / 2)]

/-- **The square of the second central moment is at most the fourth.** -/
theorem sq_centralMoment_two_le : centralMoment 2 x ^ 2 ≤ centralMoment 4 x := by
  have hpos : (0 : ℝ) < count := Nat.cast_pos.mpr hcount
  have h := sq_sum_le_card_mul_sum_sq (s := Finset.univ) (f := fun i => (x i - average x) ^ 2)
  rw [Finset.card_univ, Fintype.card_fin] at h
  simp only [← pow_mul, Nat.reduceMul] at h
  unfold centralMoment
  rw [div_pow, div_le_div_iff₀ (by positivity) hpos]
  nlinarith

/-- The fourth central moment is at most that of one deviation that is as great as all. -/
theorem centralMoment_four_le : centralMoment 4 x ≤ count * centralMoment 2 x ^ 2 := by
  have hpos : (0 : ℝ) < count := Nat.cast_pos.mpr hcount
  have hall : ∑ i, (x i - average x) ^ 4 ≤ (∑ i, (x i - average x) ^ 2) ^ 2 := by
    rw [sq (∑ i, (x i - average x) ^ 2), Finset.sum_mul]
    refine Finset.sum_le_sum fun i hi => ?_
    have hone := Finset.single_le_sum (f := fun i => (x i - average x) ^ 2)
      (fun i _ => sq_nonneg (x i - average x)) hi
    calc (x i - average x) ^ 4 = (x i - average x) ^ 2 * (x i - average x) ^ 2 := by ring
      _ ≤ _ := mul_le_mul_of_nonneg_left hone (sq_nonneg _)
  unfold centralMoment
  rw [div_pow, div_le_iff₀ hpos]
  have hcancel : (count : ℝ) * ((∑ i, (x i - average x) ^ 2) ^ 2 / count ^ 2) * count =
      (∑ i, (x i - average x) ^ 2) ^ 2 := by
    field_simp
  rw [hcancel]
  exact hall

end

end Foundation
