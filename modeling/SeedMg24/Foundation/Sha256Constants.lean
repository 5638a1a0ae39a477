import Mathlib.Analysis.SpecialFunctions.Pow.Real
import SeedMg24.Foundation.Literals
import SeedMg24.Foundation.Sha256

/-!
# The constants of SHA-256

The round constants are the first thirty-two bits of the fractional parts of the cube roots of the
first sixty-four primes, and the initial hash value those of the square roots of the first eight.
-/

set_option autoImplicit false

namespace Foundation

namespace Sha256

attribute [local instance] atLeastTwo_two

/-- The first sixty-four primes. -/
def primes : List ℕ := [
  2, 3, 5, 7, 11, 13, 17, 19, 23, 29, 31, 37, 41, 43, 47, 53,
  59, 61, 67, 71, 73, 79, 83, 89, 97, 101, 103, 107, 109, 113, 127, 131,
  137, 139, 149, 151, 157, 163, 167, 173, 179, 181, 191, 193, 197, 199, 211, 223,
  227, 229, 233, 239, 241, 251, 257, 263, 269, 271, 277, 281, 283, 293, 307, 311]

/-- They are all the primes up to the last of them. -/
theorem mem_primes_iff {p : ℕ} : p ∈ primes ↔ p.Prime ∧ p ≤ 311 := by
  have hsmall : ∀ p ≤ 311, p ∈ primes ↔ 2 ≤ p ∧ ∀ m < 18, 2 ≤ m → m < p → ¬ m ∣ p := by
    decide +kernel
  constructor
  · intro hp
    have hle : p ≤ 311 := (by decide : ∀ p ∈ primes, p ≤ 311) p hp
    obtain ⟨htwo, hdivisors⟩ := (hsmall p hle).mp hp
    refine ⟨Nat.prime_def_le_sqrt.mpr ⟨htwo, fun m hm hsqrt => ?_⟩, hle⟩
    have hsquare : m * m ≤ p := Nat.le_sqrt.mp hsqrt
    exact hdivisors m (by nlinarith) hm (lt_of_le_of_lt hsqrt (Nat.sqrt_lt_self htwo))
  · rintro ⟨hp, hle⟩
    obtain ⟨htwo, hdivisors⟩ := Nat.prime_def_lt'.mp hp
    exact (hsmall p hle).mpr ⟨htwo, fun m _ hm hlt => hdivisors m hm hlt⟩

/-- The first thirty-two bits of the fractional part of a root. -/
noncomputable def rootBits (k p : ℕ) : ℤ := ⌊Int.fract ((p : ℝ) ^ (1 / k : ℝ)) * 2 ^ 32⌋

/-- What the bits of a root are, by whole numbers alone. -/
theorem rootBits_eq {k p whole bits : ℕ} (hk : k ≠ 0) (hbits : bits < 2 ^ 32)
    (hlow : (whole * 2 ^ 32 + bits) ^ k ≤ p * 2 ^ (32 * k))
    (hhigh : p * 2 ^ (32 * k) < (whole * 2 ^ 32 + bits + 1) ^ k) : rootBits k p = bits := by
  set root := (p : ℝ) ^ (1 / k : ℝ) with hroot
  have hpos : 0 ≤ root := Real.rpow_nonneg (Nat.cast_nonneg p) _
  have hpow : root ^ k = p := by
    rw [hroot, one_div]
    exact Real.rpow_inv_natCast_pow (Nat.cast_nonneg p) hk
  have hscaled : (root * 2 ^ 32) ^ k = (p * 2 ^ (32 * k) : ℝ) := by
    rw [mul_pow, hpow, ← pow_mul]
  have hle : (whole * 2 ^ 32 + bits : ℝ) ≤ root * 2 ^ 32 := by
    refine le_of_pow_le_pow_left₀ hk (by positivity) ?_
    rw [hscaled]
    exact_mod_cast hlow
  have hlt : root * 2 ^ 32 < (whole * 2 ^ 32 + bits + 1 : ℝ) := by
    refine lt_of_pow_lt_pow_left₀ k (by positivity) ?_
    rw [hscaled]
    exact_mod_cast hhigh
  have hbits' : (bits : ℝ) + 1 ≤ 2 ^ 32 := by exact_mod_cast hbits
  have hnonneg : (0 : ℝ) ≤ bits := Nat.cast_nonneg bits
  have hwhole : ⌊root⌋ = (whole : ℤ) := by
    rw [Int.floor_eq_iff]
    constructor
    · push_cast
      nlinarith
    · push_cast
      nlinarith
  have hfract : Int.fract root = root - whole := by
    rw [Int.fract, hwhole]
    push_cast
    ring
  unfold rootBits
  rw [← hroot, hfract, Int.floor_eq_iff]
  push_cast
  constructor <;> linarith

/-- **The round constants are the bits of the cube roots.** -/
theorem roundConstants_eq_rootBits :
    ∀ t < 64, ((roundConstants.getD t 0).toNat : ℤ) = rootBits 3 (primes.getD t 0) := by
  have hbounds : ∀ t < 64, ∃ whole < 7, ((roundConstants.getD t 0).toNat < 2 ^ 32 ∧
      (whole * 2 ^ 32 + (roundConstants.getD t 0).toNat) ^ 3 ≤ primes.getD t 0 * 2 ^ (32 * 3)) ∧
      primes.getD t 0 * 2 ^ (32 * 3) <
        (whole * 2 ^ 32 + (roundConstants.getD t 0).toNat + 1) ^ 3 := by
    decide +kernel
  intro t ht
  obtain ⟨whole, -, ⟨hbits, hlow⟩, hhigh⟩ := hbounds t ht
  exact (rootBits_eq (by decide) hbits hlow hhigh).symm

/-- **The initial hash value is the bits of the square roots.** -/
theorem initial_eq_rootBits :
    ∀ t < 8, ((initial.toList.getD t 0).toNat : ℤ) = rootBits 2 (primes.getD t 0) := by
  have hbounds : ∀ t < 8, ∃ whole < 5, ((initial.toList.getD t 0).toNat < 2 ^ 32 ∧
      (whole * 2 ^ 32 + (initial.toList.getD t 0).toNat) ^ 2 ≤ primes.getD t 0 * 2 ^ (32 * 2)) ∧
      primes.getD t 0 * 2 ^ (32 * 2) <
        (whole * 2 ^ 32 + (initial.toList.getD t 0).toNat + 1) ^ 2 := by
    decide +kernel
  intro t ht
  obtain ⟨whole, -, ⟨hbits, hlow⟩, hhigh⟩ := hbounds t ht
  exact (rootBits_eq (by decide) hbits hlow hhigh).symm

end Sha256

end Foundation
