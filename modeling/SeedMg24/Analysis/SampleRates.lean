import SeedMg24.Model.VibrationTiming

/-!
# The rate of the sensor

An observed rate is taken only if it lies between 350 and 500 Hz, and an average of two such rates
lies there too, also when every step is rounded; the interval between two frames is then between
2000 and 2857 microseconds.
-/

set_option autoImplicit false

namespace SeedMg24.Analysis

open Foundation SeedMg24.Model.VibrationTiming

namespace VibrationTiming

/-! ## Rounded rates -/

/-- A rate the service may have. -/
structure InRange (rate : Single) : Prop where
  finite : rate.isFinite = true
  atLeast : (Single.ofNat 350).value ≤ rate.value
  atMost : rate.value ≤ (Single.ofNat 500).value

theorem isFinite_350 : (Single.ofNat 350).isFinite = true := by decide +kernel

theorem isFinite_500 : (Single.ofNat 500).isFinite = true := by decide +kernel

theorem value_350_pos : (0 : ℚ) < (Single.ofNat 350).value := by decide +kernel

theorem inRange_nominal : InRange singleRates.nominal :=
  ⟨by decide +kernel, by decide +kernel, by decide +kernel⟩

theorem inRange_of_isPlausible {observed : Single} (h : singleRates.isPlausible observed = true) :
    InRange observed := by
  obtain ⟨hlow, hhigh⟩ := (Bool.and_eq_true_iff).mp h
  have hfinite := Single.isFinite_of_lt isFinite_350 isFinite_500 hlow hhigh
  rw [Single.lt_of_isFinite isFinite_350 hfinite] at hlow
  rw [Single.lt_of_isFinite hfinite isFinite_500] at hhigh
  exact ⟨hfinite, (of_decide_eq_true hlow).le, (of_decide_eq_true hhigh).le⟩

/-- The factors of the average. -/
theorem isFinite_factors : (Single.nearest (9 / 10)).isFinite = true ∧
    (Single.nearest (1 / 10)).isFinite = true ∧ 0 ≤ (Single.nearest (9 / 10)).value ∧
    0 ≤ (Single.nearest (1 / 10)).value := by decide +kernel

/-- An average grows with both rates. -/
theorem smoothed_mono {x x' y y' : Single} (hfx : x.isFinite = true) (hfx' : x'.isFinite = true)
    (hfy : y.isFinite = true) (hfy' : y'.isFinite = true) (hx : 0 ≤ x.value)
    (hle : x.value ≤ x'.value) (hy : 0 ≤ y.value) (hle' : y.value ≤ y'.value)
    (hfirst : ((Single.nearest (9 / 10)).mul x').isFinite = true)
    (hsecond : ((Single.nearest (1 / 10)).mul y').isFinite = true)
    (hfinite : (singleRates.smoothed x' y').isFinite = true) :
    ((Single.nearest (9 / 10)).mul x).isFinite = true ∧
      ((Single.nearest (1 / 10)).mul y).isFinite = true ∧
      (singleRates.smoothed x y).isFinite = true ∧
      (singleRates.smoothed x y).value ≤ (singleRates.smoothed x' y').value := by
  obtain ⟨hnine, hone, hnine', hone'⟩ := isFinite_factors
  obtain ⟨hfinite₁, hle₁⟩ := Single.mul_mono ⟨hnine, hfx, hfx'⟩ hnine' hx hle hfirst
  obtain ⟨hfinite₂, hle₂⟩ := Single.mul_mono ⟨hone, hfy, hfy'⟩ hone' hy hle' hsecond
  refine ⟨hfinite₁, hfinite₂, ?_⟩
  apply Single.add_mono hfinite₁ hfirst hfinite₂ hsecond _ hle₁ hle₂ hfinite
  exact add_nonneg (Single.value_mul_nonneg hnine hfx hnine' hx hfinite₁)
    (Single.value_mul_nonneg hone hfy hone' hy hfinite₂)

/-- **The average of two rates is again one.**
SOURCE: vibration_service.cpp:153-156 -/
theorem InRange.smoothed {rate observed : Single} (hrate : InRange rate)
    (hobserved : InRange observed) : InRange (singleRates.smoothed rate observed) := by
  have hlow : singleRates.smoothed (.ofNat 350) (.ofNat 350) = .ofNat 350 := by decide +kernel
  have hhigh : singleRates.smoothed (.ofNat 500) (.ofNat 500) = .ofNat 500 := by decide +kernel
  have hpos := value_350_pos.le
  obtain ⟨hfinite₁, hfinite₂, hfinite, hatMost⟩ := smoothed_mono hrate.finite isFinite_500
    hobserved.finite isFinite_500 (hpos.trans hrate.atLeast) hrate.atMost
    (hpos.trans hobserved.atLeast) hobserved.atMost (by decide +kernel) (by decide +kernel)
    (by rw [hhigh]; exact isFinite_500)
  obtain ⟨-, -, -, hatLeast⟩ := smoothed_mono isFinite_350 hrate.finite isFinite_350
    hobserved.finite hpos hrate.atLeast hpos hobserved.atLeast hfinite₁ hfinite₂ hfinite
  rw [hlow] at hatLeast
  rw [hhigh] at hatMost
  exact ⟨hfinite, hatLeast, hatMost⟩

/-- The microseconds from one frame to the next, before they become an integer of 32 bits. -/
def intervalOf (rate : Single) : ℕ :=
  (((Single.ofNat 1000000).div rate).add (.nearest (1 / 2))).toNat

/-- The numbers the interval is calculated with. -/
theorem isFinite_interval : (Single.ofNat 1000000).isFinite = true ∧
    (Single.nearest (1 / 2)).isFinite = true ∧ 0 ≤ (Single.ofNat 1000000).value ∧
    0 ≤ (Single.nearest (1 / 2)).value := by decide +kernel

theorem intervalOf_anti {x y : Single} (hfx : x.isFinite = true) (hfy : y.isFinite = true)
    (hx : 0 < x.value) (h : x.value ≤ y.value)
    (hfinite : ((Single.ofNat 1000000).div x).isFinite = true)
    (hsum : (((Single.ofNat 1000000).div x).add (.nearest (1 / 2))).isFinite = true) :
    ((Single.ofNat 1000000).div y).isFinite = true ∧
      (((Single.ofNat 1000000).div y).add (.nearest (1 / 2))).isFinite = true ∧
      intervalOf y ≤ intervalOf x := by
  obtain ⟨hmillion, hhalf, hmillion', hhalf'⟩ := isFinite_interval
  obtain ⟨hfinite', hle⟩ := Single.div_anti ⟨hmillion, hfx, hfy⟩ hmillion' hx h hfinite
  have hnonneg :=
    Single.value_div_nonneg hmillion hfy hmillion' (lt_of_lt_of_le hx h) hfinite'
  obtain ⟨hsum', hle'⟩ := Single.add_mono hfinite' hfinite hhalf hhalf
    (add_nonneg hnonneg hhalf') hle (le_refl _) hsum
  exact ⟨hfinite', hsum', Single.toNat_mono hle'⟩

/-- **The interval between two frames.**
SOURCE: vibration_service.cpp:159-160 -/
theorem InRange.intervalUs {rate : Single} (h : InRange rate) :
    2000 ≤ (singleRates.intervalUs rate).toNat ∧
      (singleRates.intervalUs rate).toNat ≤ 2857 := by
  have hleast : intervalOf (.ofNat 350) = 2857 := by decide +kernel
  have hmost : intervalOf (.ofNat 500) = 2000 := by decide +kernel
  obtain ⟨hfinite, hsum, hatMost⟩ := intervalOf_anti isFinite_350 h.finite value_350_pos h.atLeast
    (by decide +kernel) (by decide +kernel)
  obtain ⟨-, -, hatLeast⟩ := intervalOf_anti h.finite isFinite_500
    (lt_of_lt_of_le value_350_pos h.atLeast) h.atMost hfinite hsum
  rw [hleast] at hatMost
  rw [hmost] at hatLeast
  have hsmall : (singleRates.intervalUs rate).toNat = intervalOf rate :=
    UInt32.toNat_ofNat_of_lt' (lt_of_le_of_lt hatMost (by decide))
  rw [hsmall]
  exact ⟨hatLeast, hatMost⟩

/-! ## Exact rates -/

/-- **The average of two exact rates between 350 and 500 Hz lies between them.**
SOURCE: vibration_service.cpp:153-156 -/
theorem smoothed_exact {rate observed : ℚ} (hrate : 350 < rate ∧ rate < 500)
    (h : exactRates.isPlausible observed = true) :
    350 < exactRates.smoothed rate observed ∧ exactRates.smoothed rate observed < 500 := by
  obtain ⟨hlow, hhigh⟩ := (Bool.and_eq_true_iff).mp h
  have hlow' : 350 < observed := of_decide_eq_true hlow
  have hhigh' : observed < 500 := of_decide_eq_true hhigh
  show 350 < 9 / 10 * rate + 1 / 10 * observed ∧ 9 / 10 * rate + 1 / 10 * observed < 500
  constructor
  · linarith [hrate.1]
  · linarith [hrate.2]

end VibrationTiming

end SeedMg24.Analysis
