import SeedMg24.Foundation.DecimalNumbers

/-!
# Sums and comparisons of 32-bit floats

Sums are rounded to the nearest float, the even one of two; a comparison with something that is no
number is false.  Of a zero the sign is not kept.
-/

set_option autoImplicit false

namespace Foundation

theorem roundEven_intCast (n : ℤ) : roundEven (n : ℚ) = n := by
  unfold roundEven
  rw [Int.floor_intCast, sub_self]
  exact if_pos (by norm_num)

namespace Single

def zero : Single := finite false 0 0

/-- The absolute value of a number, in units of the float format with the given exponent. -/
def mantissaAt (q : ℚ) (exponent : Fin 254) : ℕ :=
  (roundEven (|q| / 2 ^ ((exponent.val : ℤ) - 149))).toNat

/-- The float nearest to a number: with the first exponent at which the rounded mantissa fits, and
infinite if there is none. -/
def nearest (q : ℚ) : Single :=
  match (List.finRange 254).find? fun exponent => mantissaAt q exponent < 2 ^ 24 with
  | some exponent => finite (q < 0) (Fin.ofNat (2 ^ 24) (mantissaAt q exponent)) exponent
  | none => infinite (q < 0)

def neg : Single → Single
  | nan => nan
  | infinite negative => infinite !negative
  | finite negative mantissa exponent => finite (!negative) mantissa exponent

/-- The sum of two floats. -/
def add : Single → Single → Single
  | nan, _ => nan
  | _, nan => nan
  | infinite a, infinite b => if a = b then infinite a else nan
  | infinite a, finite _ _ _ => infinite a
  | finite _ _ _, infinite b => infinite b
  | finite a m e, finite b n f => nearest ((finite a m e).value + (finite b n f).value)

/-- The difference of two floats. -/
def sub (x y : Single) : Single := x.add y.neg

theorem abs_value (x : Single) : |x.value| = x.magnitude := by
  unfold value
  split
  · rw [abs_neg, abs_of_nonneg x.magnitude_nonneg]
  · rw [abs_of_nonneg x.magnitude_nonneg]

/-- A float in units of a format with a smaller exponent. -/
theorem magnitude_eq (negative : Bool) (mantissa : Fin (2 ^ 24)) {exponent other : Fin 254}
    (h : other ≤ exponent) : (finite negative mantissa exponent).magnitude =
      (mantissa.val * 2 ^ (exponent.val - other.val) : ℕ) * 2 ^ ((other.val : ℤ) - 149) := by
  have hother : other.val ≤ exponent.val := h
  have hshift : (exponent.val : ℤ) - 149 =
      ((exponent.val - other.val : ℕ) : ℤ) + ((other.val : ℤ) - 149) := by omega
  show (mantissa.val : ℚ) * 2 ^ ((exponent.val : ℤ) - 149) = _
  rw [hshift, zpow_add₀ (by norm_num), zpow_natCast, ← mul_assoc]
  push_cast
  rfl

/-- The mantissa of a float at its own exponent or at a smaller one. -/
theorem mantissaAt_value (negative : Bool) (mantissa : Fin (2 ^ 24)) {exponent other : Fin 254}
    (h : other ≤ exponent) : mantissaAt (finite negative mantissa exponent).value other =
      mantissa.val * 2 ^ (exponent.val - other.val) := by
  unfold mantissaAt
  rw [abs_value, magnitude_eq negative mantissa h,
    mul_div_cancel_right₀ _ (zpow_ne_zero _ (by norm_num)), ← Int.cast_natCast, roundEven_intCast,
    Int.toNat_natCast]

/-- The float nearest to a float is that float. -/
theorem nearest_value {x : Single} (h : x.isFinite = true) :
    (nearest x.value).isFinite = true ∧ (nearest x.value).value = x.value := by
  cases x with
  | nan => cases h
  | infinite negative => cases h
  | finite negative mantissa exponent =>
    set q := (finite negative mantissa exponent).value with hq
    have hfits : mantissaAt q exponent < 2 ^ 24 := by
      rw [hq, mantissaAt_value negative mantissa (le_refl exponent), Nat.sub_self, pow_zero, mul_one]
      exact mantissa.isLt
    unfold nearest
    cases hfind : (List.finRange 254).find? fun other => mantissaAt q other < 2 ^ 24 with
    | none =>
      have hnone := List.find?_eq_none.mp hfind exponent (List.mem_finRange exponent)
      exact absurd hfits (by simpa using hnone)
    | some other =>
      obtain ⟨hother, before, after, hsplit, hbefore⟩ := List.find?_eq_some_iff_append.mp hfind
      have hlt : mantissaAt q other < 2 ^ 24 := by simpa using hother
      have hle : other ≤ exponent := by
        have hmem := List.mem_finRange exponent
        have hsorted := List.pairwise_lt_finRange 254
        rw [hsplit] at hmem hsorted
        rcases List.mem_append.mp hmem with hearlier | hlater
        · have hnot := hbefore exponent hearlier
          simp only [Bool.not_eq_true', decide_eq_false_iff_not] at hnot
          exact absurd hfits hnot
        · rcases List.mem_cons.mp hlater with rfl | hrest
          · exact le_refl _
          · exact (List.rel_of_pairwise_cons (List.pairwise_append.mp hsorted).2.1 hrest).le
      have hmagnitude :
          (finite (q < 0) (Fin.ofNat (2 ^ 24) (mantissaAt q other)) other).magnitude = |q| := by
        rw [hq, abs_value, magnitude_eq negative mantissa hle, ← mantissaAt_value negative mantissa
          hle, ← hq]
        show ((mantissaAt q other % 2 ^ 24 : ℕ) : ℚ) * _ = _
        rw [Nat.mod_eq_of_lt hlt]
      refine ⟨rfl, ?_⟩
      show (if decide (q < 0) = true then -_ else _) = q
      rw [hmagnitude]
      by_cases hneg : q < 0
      · rw [if_pos (by simpa using hneg), abs_of_neg hneg, neg_neg]
      · rw [if_neg (by simpa using hneg), abs_of_nonneg (not_lt.mp hneg)]

/-- Whether a float is at most another one. -/
def le : Single → Single → Bool
  | nan, _ => false
  | _, nan => false
  | infinite true, _ => true
  | _, infinite false => true
  | infinite false, _ => false
  | _, infinite true => false
  | finite a m e, finite b n f => (finite a m e).value ≤ (finite b n f).value

/-- A float without zero is that float. -/
theorem le_sub_zero {x y : Single} (hx : x.isFinite = true) (hy : y.isFinite = true) :
    (x.sub zero).le y = decide (x.value ≤ y.value) := by
  cases x with
  | nan => cases hx
  | infinite negative => cases hx
  | finite a m e =>
    cases y with
    | nan => cases hy
    | infinite negative => cases hy
    | finite b n f =>
      have hzero : zero.neg.value = 0 := by simp [zero, neg, value, magnitude]
      have hsum : (finite a m e).sub zero = nearest (finite a m e).value := by
        show nearest ((finite a m e).value + zero.neg.value) = _
        rw [hzero, add_zero]
      obtain ⟨hfinite, hvalue⟩ := nearest_value hx
      rw [hsum]
      cases hnearest : nearest (finite a m e).value with
      | finite c p g =>
        rw [hnearest] at hvalue
        rw [← hvalue]
        rfl
      | nan => rw [hnearest] at hfinite; cases hfinite
      | infinite negative => rw [hnearest] at hfinite; cases hfinite

end Single

end Foundation
