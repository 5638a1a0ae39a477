import SeedMg24.Analysis.Spectra
import SeedMg24.Foundation.Literals

/-!
# Pure tones

A window that holds an offset and one tone of a whole number of turns: the Hann window lets little of
either into the other bins, so that the analysis reports the tone's own bin and nearly its amplitude.
-/

set_option autoImplicit false

namespace SeedMg24.Analysis

open Foundation SeedMg24.Model
open SeedMg24.Model.Vibration (kVibrationWindowSamples)
open VibrationArithmetic.Arithmetic (exact)

attribute [local instance] atLeastTwo_two

namespace PureTones

open Spectra

/-! ## What the window lets through -/

/-- What of a tone under the window is found a number of bins away. -/
noncomputable def leakage (distance : ℤ) : ℂ :=
  ∑ j : Fin kVibrationWindowSamples, hannWindow j * turn (j * (distance / 256))

theorem hannWindow_eq (index : ℕ) : (hannWindow index : ℂ) =
    1 / 2 - 1 / 4 * (turn (index * (1 / 255)) + turn (index * (-(1 / 255)))) := by
  unfold hannWindow
  rw [Complex.ofReal_sub, Complex.ofReal_mul, cos_eq_turn, mul_neg, mul_one_div]
  push_cast
  ring

/-- The leakage as sums of three tones. -/
theorem leakage_eq (distance : ℤ) :
    leakage distance = 1 / 2 * toneSum (distance / 256) 256 -
      1 / 4 * (toneSum (1 / 255 + distance / 256) 256 +
        toneSum (-(1 / 255) + distance / 256) 256) := by
  have hturn : ∀ (j : ℕ) (a b : ℝ), turn (j * (a + b)) = turn (j * a) * turn (j * b) :=
    fun j a b => by rw [mul_add, turn_add]
  unfold leakage toneSum
  rw [← Finset.sum_add_distrib, Finset.mul_sum, Finset.mul_sum, ← Finset.sum_sub_distrib,
    Finset.sum_range]
  refine Finset.sum_congr rfl fun j _ => ?_
  rw [hannWindow_eq, hturn, hturn]
  ring

/-- A tone that does not stay in place adds up to nothing over the 256 samples. -/
theorem toneSum_distance {distance : ℤ} (hne : distance ≠ 0) (hlt : |distance| < 256) :
    toneSum (distance / 256) 256 = 0 := by
  refine toneSum_eq_zero distance (by push_cast; ring) fun hsin => ?_
  obtain ⟨n, hn⟩ := Real.sin_eq_zero_iff.mp hsin
  have hdistance : (distance : ℝ) = n * 256 := by
    have hpi := Real.pi_pos.ne'
    field_simp at hn
    linarith
  have hint : distance = n * 256 := by exact_mod_cast hdistance
  obtain ⟨hlow, hhigh⟩ := abs_lt.mp hlt
  omega

/-- The tones that the window itself is made of. -/
theorem toneSum_window (sign : ℝ) (hsign : sign = 1 ∨ sign = -1) :
    toneSum (sign * (1 / 255)) 256 = 1 := by
  have hsin : Real.sin (Real.pi * (1 / 255)) ≠ 0 :=
    (Real.sin_pos_of_pos_of_lt_pi (by positivity) (by linarith [Real.pi_pos])).ne'
  have hlast : ∀ a, toneSum a 256 = toneSum a 255 + turn ((255 : ℕ) * a) := fun a =>
    Finset.sum_range_succ _ 255
  rw [hlast]
  obtain rfl | rfl := hsign
  · rw [toneSum_eq_zero 1 (by push_cast; ring) (by rw [one_mul]; exact hsin), zero_add]
    rw [show ((255 : ℕ) : ℝ) * (1 * (1 / 255)) = ((1 : ℤ) : ℝ) by push_cast; ring]
    exact turn_intCast 1
  · rw [toneSum_eq_zero (-1) (by push_cast; ring)
      (by rw [neg_one_mul, mul_neg, Real.sin_neg]; exact neg_ne_zero.mpr hsin), zero_add]
    rw [show ((255 : ℕ) : ℝ) * (-1 * (1 / 255)) = ((-1 : ℤ) : ℝ) by push_cast; ring]
    exact turn_intCast (-1)

theorem leakage_zero : leakage 0 = 255 / 2 := by
  have hplus := toneSum_window 1 (.inl rfl)
  have hminus := toneSum_window (-1) (.inr rfl)
  rw [one_mul] at hplus
  rw [neg_one_mul] at hminus
  rw [leakage_eq, Int.cast_zero, zero_div, add_zero, add_zero, hplus, hminus, toneSum_zero]
  norm_num

theorem windowSum_eq : windowSum = 255 / 2 := by
  have hzero : ((windowSum : ℝ) : ℂ) = leakage 0 := by
    unfold windowSum leakage
    push_cast
    refine Finset.sum_congr rfl fun j _ => ?_
    rw [zero_div, mul_zero, turn_zero, mul_one]
  rw [leakage_zero] at hzero
  have hcast : ((windowSum : ℝ) : ℂ) = ((255 / 2 : ℝ) : ℂ) := by
    rw [hzero]
    push_cast
    rfl
  exact Complex.ofReal_injective hcast

/-- A tone of the window, moved by a distance, adds up to little. -/
theorem norm_toneSum_window_le (sign : ℝ) (hsign : sign = 1 ∨ sign = -1) (distance : ℤ)
    {margin : ℝ} (hmargin : 0 < margin) (hlow : margin ≤ |sign * (1 / 255) + distance / 256|)
    (hhigh : |sign * (1 / 255) + distance / 256| ≤ 1 - margin) :
    ‖toneSum (sign * (1 / 255) + distance / 256) 256‖ ≤ 63 / 5100 / (2 * margin) := by
  have hpi := Real.pi_lt_d2
  have hrest : |sign * (1 / 255)| = 1 / 255 := by
    obtain rfl | rfl := hsign
    · rw [one_mul, abs_of_pos (by norm_num)]
    · rw [neg_one_mul, abs_neg, abs_of_pos (by norm_num)]
  have hturns : ((256 : ℕ) : ℝ) * (sign * (1 / 255) + distance / 256) =
      ((if sign = 1 then 1 + distance else -1 + distance : ℤ) : ℝ) + sign * (1 / 255) := by
    obtain rfl | rfl := hsign
    · rw [if_pos rfl]
      push_cast
      ring
    · rw [if_neg (by norm_num)]
      push_cast
      ring
  refine (norm_toneSum_le_of hmargin hlow hhigh _ _ hturns).trans ?_
  rw [hrest]
  gcongr
  linarith

theorem abs_distance_bounds {distance : ℤ} {sign : ℝ} (hsign : sign = 1 ∨ sign = -1)
    (hlow : 2 ≤ |distance|) (hhigh : |distance| ≤ 254) :
    254 / 65280 ≤ |sign * (1 / 255) + distance / 256| ∧
      |sign * (1 / 255) + distance / 256| ≤ 1 - 254 / 65280 := by
  have hlow' : (2 : ℝ) ≤ |(distance : ℝ)| := by exact_mod_cast hlow
  have hhigh' : |(distance : ℝ)| ≤ 254 := by exact_mod_cast hhigh
  have hwindow : |sign * (1 / 255)| = 1 / 255 := by
    obtain rfl | rfl := hsign
    · rw [one_mul, abs_of_pos (by norm_num)]
    · rw [neg_one_mul, abs_neg, abs_of_pos (by norm_num)]
  have hmoved : |(distance : ℝ) / 256| = |(distance : ℝ)| / 256 := by
    rw [abs_div, abs_of_pos (by norm_num : (0 : ℝ) < 256)]
  have hsum := abs_add_le (sign * (1 / 255)) ((distance : ℝ) / 256)
  have hback := abs_sub_abs_le_abs_sub ((distance : ℝ) / 256) (-(sign * (1 / 255)))
  rw [abs_neg, sub_neg_eq_add, add_comm] at hback
  constructor
  · linarith
  · linarith

/-- **Two bins away or more, little is left.** -/
theorem norm_leakage_le {distance : ℤ} (hlow : 2 ≤ |distance|) (hhigh : |distance| ≤ 254) :
    ‖leakage distance‖ ≤ 4 / 5 := by
  have hsteady := toneSum_distance (by rintro rfl; simp at hlow)
    (hhigh.trans_lt (by norm_num))
  have hplus := abs_distance_bounds (.inl rfl) hlow hhigh
  have hminus := abs_distance_bounds (.inr rfl) hlow hhigh
  have hone := norm_toneSum_window_le 1 (.inl rfl) distance (by norm_num) hplus.1 hplus.2
  have htwo := norm_toneSum_window_le (-1) (.inr rfl) distance (by norm_num) hminus.1 hminus.2
  rw [one_mul] at hone
  rw [neg_one_mul] at htwo
  rw [leakage_eq, hsteady, mul_zero, zero_sub, norm_neg, norm_mul]
  have hadd := norm_add_le (toneSum (1 / 255 + distance / 256) 256)
    (toneSum (-(1 / 255) + distance / 256) 256)
  have hquarter : ‖(1 / 4 : ℂ)‖ = 1 / 4 := by norm_num
  rw [hquarter]
  norm_num at hone htwo
  linarith

/-- In the next bin there is half of it. -/
theorem norm_leakage_one_le {distance : ℤ} (h : |distance| = 1) : ‖leakage distance‖ ≤ 257 / 4 := by
  have hsteady := toneSum_distance (by rintro rfl; simp at h)
    (h.trans_lt (by norm_num))
  have hone := norm_toneSum_le (1 / 255 + distance / 256) 256
  have htwo := norm_toneSum_le (-(1 / 255) + distance / 256) 256
  have hfar : ‖toneSum (1 / 255 + distance / 256) 256‖ ≤ 1 ∨
      ‖toneSum (-(1 / 255) + distance / 256) 256‖ ≤ 1 := by
    obtain rfl | rfl : distance = 1 ∨ distance = -1 := (abs_eq zero_le_one).mp h
    · left
      have hle := @norm_toneSum_window_le 1 (.inl rfl) 1 (511 / 65280) (by norm_num)
        (by push_cast; rw [abs_of_pos (by norm_num)]; norm_num)
        (by push_cast; rw [abs_of_pos (by norm_num)]; norm_num)
      rw [one_mul] at hle
      exact hle.trans (by norm_num)
    · right
      have hle := @norm_toneSum_window_le (-1) (.inr rfl) (-1) (511 / 65280) (by norm_num)
        (by push_cast; rw [abs_of_neg (by norm_num)]; norm_num)
        (by push_cast; rw [abs_of_neg (by norm_num)]; norm_num)
      rw [neg_one_mul] at hle
      exact hle.trans (by norm_num)
  rw [leakage_eq, hsteady, mul_zero, zero_sub, norm_neg, norm_mul]
  have hadd := norm_add_le (toneSum (1 / 255 + distance / 256) 256)
    (toneSum (-(1 / 255) + distance / 256) 256)
  have hquarter : ‖(1 / 4 : ℂ)‖ = 1 / 4 := by norm_num
  rw [hquarter]
  push_cast at hone htwo
  rcases hfar with hfar | hfar
  · linarith
  · linarith

/-! ## A tone under the window -/

/-- The samples of an offset and a tone that goes round a whole number of times. -/
noncomputable def tone (offset strength phase : ℝ) (bin : ℕ)
    (j : Fin kVibrationWindowSamples) : ℝ :=
  offset + strength * Real.cos (2 * Real.pi * (j * (bin / 256) + phase))

theorem windowedBin_tone (offset strength phase : ℝ) (bin other : ℕ) :
    windowedBin (tone offset strength phase bin) other =
      offset * leakage (-other) + strength / 2 *
        (turn phase * leakage (bin - other) + turn (-phase) * leakage (-bin - other)) := by
  unfold windowedBin leakage
  rw [Finset.mul_sum, Finset.mul_sum, Finset.mul_sum, ← Finset.sum_add_distrib, Finset.mul_sum,
    ← Finset.sum_add_distrib]
  refine Finset.sum_congr rfl fun j _ => ?_
  have hsize : ((kVibrationWindowSamples : ℕ) : ℝ) = 256 := by
    unfold kVibrationWindowSamples
    norm_num
  have hsteady : turn ((j : ℕ) * (((-other : ℤ) : ℝ) / 256)) =
      turn (-((j : ℕ) * ((other : ℝ) / 256))) := by
    congr 1
    push_cast
    ring
  have hforward : turn ((j : ℕ) * (((bin - other : ℤ) : ℝ) / 256)) =
      turn ((j : ℕ) * ((bin : ℝ) / 256)) * turn (-((j : ℕ) * ((other : ℝ) / 256))) := by
    rw [← turn_add]
    congr 1
    push_cast
    ring
  have hbackward : turn ((j : ℕ) * (((-bin - other : ℤ) : ℝ) / 256)) =
      turn (-((j : ℕ) * ((bin : ℝ) / 256))) * turn (-((j : ℕ) * ((other : ℝ) / 256))) := by
    rw [← turn_add]
    congr 1
    push_cast
    ring
  rw [hsize, hsteady, hforward, hbackward]
  unfold tone
  rw [Complex.ofReal_mul, Complex.ofReal_add, Complex.ofReal_mul, cos_eq_turn, neg_add, turn_add,
    turn_add]
  ring

/-- How far a bin is from what the tone alone leaves in it. -/
theorem norm_windowedBin_tone_sub_le {offset strength : ℝ} (phase : ℝ) {bin other : ℕ}
    (hstrength : 0 < strength) (hbin : 0 < bin) (hlast : bin < 128) (hother : 0 < other)
    (hothers : other < 128) (hquiet : offset = 0 ∨ 1 < other) (hboth : 2 ≤ bin + other) :
    ‖windowedBin (tone offset strength phase bin) other -
        strength / 2 * (turn phase * leakage (bin - other))‖ ≤
      |offset| * (4 / 5) + strength / 2 * (4 / 5) := by
  have hsteady : ‖(offset : ℂ) * leakage (-other)‖ ≤ |offset| * (4 / 5) := by
    rw [norm_mul, Complex.norm_real, Real.norm_eq_abs]
    obtain rfl | hmore := hquiet
    · simp
    · refine mul_le_mul_of_nonneg_left (norm_leakage_le ?_ ?_) (abs_nonneg _)
      · rw [abs_neg, Nat.abs_cast]
        omega
      · rw [abs_neg, Nat.abs_cast]
        omega
  have hbackward : ‖leakage (-bin - other)‖ ≤ 4 / 5 := by
    have habs : |(-bin - other : ℤ)| = bin + other := by
      rw [← neg_add', abs_neg, abs_of_nonneg (by omega)]
    refine norm_leakage_le ?_ ?_
    · rw [habs]
      omega
    · rw [habs]
      omega
  have hhalf : ‖(strength / 2 : ℂ)‖ = strength / 2 := by
    rw [norm_div, Complex.norm_real, Real.norm_eq_abs, abs_of_pos hstrength]
    norm_num
  rw [windowedBin_tone, show ∀ a b c d : ℂ, a + d * (b + c) - d * b = a + d * c from
    fun a b c d => by ring]
  refine (norm_add_le _ _).trans (add_le_add hsteady ?_)
  rw [norm_mul, norm_mul, norm_turn, one_mul, hhalf]
  exact mul_le_mul_of_nonneg_left hbackward (by linarith)

/-- The tone's own bin. -/
theorem abs_norm_windowedBin_tone_le {offset strength : ℝ} (phase : ℝ) {bin : ℕ}
    (hstrength : 0 < strength) (hbin : 0 < bin) (hlast : bin < 128)
    (hquiet : offset = 0 ∨ 1 < bin) :
    |‖windowedBin (tone offset strength phase bin) bin‖ - strength / 2 * (255 / 2)| ≤
      |offset| * (4 / 5) + strength / 2 * (4 / 5) := by
  have hrest := norm_windowedBin_tone_sub_le phase hstrength hbin hlast hbin hlast hquiet (by omega)
  have hown : ‖(strength / 2 : ℂ) * (turn phase * leakage ((bin : ℤ) - bin))‖ =
      strength / 2 * (255 / 2) := by
    rw [sub_self, leakage_zero, norm_mul, norm_mul, norm_turn, norm_div, Complex.norm_real,
      Real.norm_eq_abs, abs_of_pos hstrength]
    norm_num
  have hdiff := abs_norm_sub_norm_le (windowedBin (tone offset strength phase bin) bin)
    (strength / 2 * (turn phase * leakage ((bin : ℤ) - bin)))
  rw [hown] at hdiff
  exact hdiff.trans hrest

/-- The other bins. -/
theorem norm_windowedBin_tone_le {offset strength : ℝ} (phase : ℝ) {bin other : ℕ}
    (hstrength : 0 < strength) (hbin : 0 < bin) (hlast : bin < 128) (hother : 0 < other)
    (hothers : other < 128) (hquiet : offset = 0 ∨ 1 < other) (hne : other ≠ bin) :
    ‖windowedBin (tone offset strength phase bin) other‖ ≤
      |offset| * (4 / 5) + strength / 2 * (4 / 5) + strength / 2 * (257 / 4) := by
  have hrest := norm_windowedBin_tone_sub_le phase hstrength hbin hlast hother hothers hquiet
    (by omega)
  have hleak : ‖leakage ((bin : ℤ) - other)‖ ≤ 257 / 4 := by
    have hpos : 0 < |(bin : ℤ) - other| := abs_pos.mpr (by omega)
    obtain hone | hmore := Int.lt_or_eq_of_le (Int.add_one_le_of_lt hpos)
    · refine (norm_leakage_le (by omega) ?_).trans (by norm_num)
      exact abs_le.mpr ⟨by omega, by omega⟩
    · exact norm_leakage_one_le (by omega)
  have hforward : ‖(strength / 2 : ℂ) * (turn phase * leakage ((bin : ℤ) - other))‖ ≤
      strength / 2 * (257 / 4) := by
    rw [norm_mul, norm_mul, norm_turn, one_mul, norm_div, Complex.norm_real, Real.norm_eq_abs,
      abs_of_pos hstrength, Complex.norm_ofNat]
    exact mul_le_mul_of_nonneg_left hleak (by linarith)
  have hsum := norm_add_le (windowedBin (tone offset strength phase bin) other -
    strength / 2 * (turn phase * leakage (bin - other)))
    (strength / 2 * (turn phase * leakage (bin - other)))
  rw [sub_add_cancel] at hsum
  linarith

end PureTones

end SeedMg24.Analysis
