import Mathlib.Tactic
import Mathlib.Order.WithBot
import Mathlib.Data.Rat.Defs

/-!
# Positive 64-bit floats under doubling

The positive values of the 64-bit binary format, and their product with a power of two: exact, up
to the largest value, and infinity above it.
-/

set_option autoImplicit false

namespace Foundation

/-- The positive rationals the 64-bit format holds: a mantissa of 53 bits, and the exponents of
the format. -/
def Representable (q : ℚ) : Prop :=
  ∃ (m : ℕ) (e : ℤ), 0 < m ∧ m < 2 ^ 53 ∧ -1074 ≤ e ∧ e ≤ 971 ∧ q = m * 2 ^ e

/-- Doubling keeps a value representable until it leaves the range of the format. -/
theorem Representable.scale {q : ℚ} (h : Representable q) {n : ℕ} (hrange : q * 2 ^ n < 2 ^ 1024) :
    Representable (q * 2 ^ n) := by
  obtain ⟨m, e, hm, hbound, hlow, hhigh, rfl⟩ := h
  by_cases hexponent : e + n ≤ 971
  · refine ⟨m, e + n, hm, hbound, by omega, hexponent, ?_⟩
    rw [zpow_add₀ (by norm_num), zpow_natCast]
    ring
  -- the exponent is at its largest, and the mantissa takes the rest
  · obtain ⟨k, hk⟩ := Int.eq_ofNat_of_zero_le (show 0 ≤ e + n - 971 by omega)
    have hsplit : (m : ℚ) * 2 ^ e * 2 ^ n = ((m * 2 ^ k : ℕ) : ℚ) * 2 ^ (971 : ℤ) := by
      have hexp : (2 : ℚ) ^ e * 2 ^ n = 2 ^ k * 2 ^ (971 : ℤ) := by
        rw [← zpow_natCast 2 n, ← zpow_natCast 2 k, ← zpow_add₀ (by norm_num),
          ← zpow_add₀ (by norm_num)]
        congr 1
        omega
      rw [mul_assoc, hexp, Nat.cast_mul, Nat.cast_pow, Nat.cast_ofNat, mul_assoc]
    refine ⟨m * 2 ^ k, 971, by positivity, ?_, by norm_num, le_refl _, hsplit⟩
    rw [hsplit] at hrange
    have hwide : (2 : ℚ) ^ 1024 = 2 ^ 53 * 2 ^ (971 : ℤ) := by
      rw [show (971 : ℤ) = ((971 : ℕ) : ℤ) by rfl, zpow_natCast, ← pow_add]
    rw [hwide] at hrange
    exact_mod_cast lt_of_mul_lt_mul_right hrange (by positivity)

/-- A finite positive float. -/
structure PositiveDouble where
  value : ℚ
  representable : Representable value

theorem PositiveDouble.value_pos (x : PositiveDouble) : 0 < x.value := by
  obtain ⟨m, e, hm, -, -, -, hvalue⟩ := x.representable
  rw [hvalue]
  have : (0 : ℚ) < m := by exact_mod_cast hm
  positivity

/-- A positive float. -/
inductive PositiveFloat where
  | finite (x : PositiveDouble)
  | infinity

namespace PositiveFloat

/-- The number a float stands for. -/
def value : PositiveFloat → WithTop ℚ
  | finite x => x.value
  | infinity => ⊤

instance : Preorder PositiveFloat := Preorder.lift value

theorem le_iff {a b : PositiveFloat} : a ≤ b ↔ a.value ≤ b.value := Iff.rfl

theorem lt_iff {a b : PositiveFloat} : a < b ↔ a.value < b.value := Iff.rfl

theorem le_of_not_lt {a b : PositiveFloat} (h : ¬ b < a) : a ≤ b := by
  rw [lt_iff, not_lt] at h
  exact h

instance (a b : PositiveFloat) : Decidable (a < b) := inferInstanceAs (Decidable (a.value < b.value))

theorem value_pos (x : PositiveFloat) : 0 < x.value := by
  cases x with
  | finite x => exact WithTop.coe_lt_coe.mpr x.value_pos
  | infinity => exact WithTop.coe_lt_top 0

/-- The product with `2 ^ n`. -/
def scale (x : PositiveFloat) (n : ℕ) : PositiveFloat :=
  match x with
  | finite x =>
    if h : x.value * 2 ^ n < 2 ^ 1024 then finite ⟨x.value * 2 ^ n, x.representable.scale h⟩
    else infinity
  | infinity => infinity

/-- Of two floats the smaller, and the first of equal ones. -/
def minimum (a b : PositiveFloat) : PositiveFloat := if b < a then b else a

theorem scale_mono (x : PositiveFloat) {n k : ℕ} (h : n ≤ k) : x.scale n ≤ x.scale k := by
  cases x with
  | infinity => exact le_refl _
  | finite x =>
    have hpow : x.value * 2 ^ n ≤ x.value * 2 ^ k :=
      mul_le_mul_of_nonneg_left (pow_le_pow_right₀ (by norm_num) h) x.value_pos.le
    rw [le_iff]
    unfold scale
    dsimp only
    by_cases hk : x.value * 2 ^ k < 2 ^ 1024
    · rw [dif_pos hk, dif_pos (lt_of_le_of_lt hpow hk)]
      exact WithTop.coe_le_coe.mpr hpow
    · rw [dif_neg hk]
      exact le_top

theorem minimum_le_right (a b : PositiveFloat) : minimum a b ≤ b := by
  unfold minimum
  split
  · exact le_refl _
  · exact le_of_not_lt (by assumption)

theorem minimum_mono {a a' : PositiveFloat} (h : a ≤ a') (b : PositiveFloat) :
    minimum a b ≤ minimum a' b := by
  unfold minimum
  split
  · rename_i hb
    rw [if_pos (lt_of_lt_of_le hb h)]
  · rename_i hb
    split
    · exact le_of_not_lt hb
    · exact h

end PositiveFloat

end Foundation
