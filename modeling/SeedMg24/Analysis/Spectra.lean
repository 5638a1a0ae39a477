import SeedMg24.Analysis.ExactTransforms
import SeedMg24.Foundation.FirstGreatest
import SeedMg24.Foundation.Tones
import SeedMg24.Foundation.Literals

/-!
# Spectra

What the analysis of a window finds in exact arithmetic: the amplitudes are those of the Fourier
transform of the samples under a Hann window, and the dominant bin is the first one, from the lowest
that may be dominant on, whose amplitude is greatest.
-/

set_option autoImplicit false

namespace SeedMg24.Analysis

open Foundation SeedMg24.Model
open SeedMg24.Model.Vibration (kVibrationWindowSamples)
open SeedMg24.Model.VibrationArithmetic (Arithmetic)
open SeedMg24.Model.VibrationProcessing (MathLibrary VibrationFft256)
open VibrationArithmetic.Arithmetic (exact single)

attribute [local instance] atLeastTwo_two

namespace Spectra

open ExactTransforms

/-- SOURCE: vibration_fft.cpp:65-66 -/
noncomputable def hannWindow (index : ℕ) : ℝ :=
  1 / 2 - 1 / 2 * Real.cos (2 * Real.pi * (index / 255))

/-- The sum of the window. -/
noncomputable def windowSum : ℝ := ∑ j : Fin kVibrationWindowSamples, hannWindow j

/-- An entry of the Fourier transform of the samples under the window. -/
noncomputable def windowedBin (samples : Fin kVibrationWindowSamples → ℝ) (bin : ℕ) : ℂ :=
  ∑ j, (samples j * hannWindow j : ℝ) * turn (-(j * (bin / kVibrationWindowSamples : ℝ)))

/-- The amplitude of a bin.
SOURCE: vibration_fft.cpp:79-80 -/
noncomputable def amplitude (samples : Fin kVibrationWindowSamples → ℝ) (bin : ℕ) : ℝ :=
  if bin = 0 then ‖windowedBin samples bin‖ / windowSum
  else 2 * ‖windowedBin samples bin‖ / windowSum

variable (samples : Fin kVibrationWindowSamples → ℝ)

theorem exact_hann (index : ℕ) : exact.hann index = hannWindow index := by
  unfold Arithmetic.hann hannWindow kVibrationWindowSamples
  simp only [exact_literal, exact_sub, exact_mul, exact_div, exact_cos, exact_ofNat, exact_pi]
  push_cast
  ring_nf

theorem hannWindow_nonneg (index : ℕ) : 0 ≤ hannWindow index := by
  have h := Real.cos_le_one (2 * Real.pi * (index / 255))
  unfold hannWindow
  linarith

theorem hannWindow_le_one (index : ℕ) : hannWindow index ≤ 1 := by
  have h := Real.neg_one_le_cos (2 * Real.pi * (index / 255))
  unfold hannWindow
  linarith

theorem foldl_add_range (f : ℕ → ℝ) (count : ℕ) :
    ((List.range count).map f).foldl exact.add exact.zero = ∑ j ∈ Finset.range count, f j := by
  induction count with
  | zero => rfl
  | succ count ih =>
    rw [List.range_succ, List.map_append, List.map_singleton, List.foldl_concat, ih,
      Finset.sum_range_succ]
    rfl

/-- SOURCE: vibration_fft.cpp:63-70 -/
theorem foldl_hann : ((List.range kVibrationWindowSamples).map exact.hann).foldl exact.add
    exact.zero = windowSum := by
  rw [foldl_add_range, windowSum, Finset.sum_range]
  exact Finset.sum_congr rfl fun j _ => exact_hann j

/-- The arrays the transform is given. -/
theorem windowed_samples {count : ℕ} (samples : Fin count → ℝ) :
    (List.ofFn samples).zipWith exact.mul ((List.range count).map exact.hann) =
        (List.ofFn fun j => ((samples j * hannWindow j : ℝ) : ℂ).re) ∧
      List.replicate count exact.zero =
        List.ofFn fun j => ((samples j * hannWindow j : ℝ) : ℂ).im := by
  constructor
  · refine List.ext_getElem (by simp) fun index hleft hright => ?_
    simp only [List.getElem_zipWith, List.getElem_ofFn, List.getElem_map, List.getElem_range,
      exact_hann, exact_mul, Complex.ofReal_re]
  · simp only [Complex.ofReal_im, exact_zero, List.ofFn_const]

theorem amplitudeAt_exact (arrays : List ℝ × List ℝ) (total : ℝ) (bin : ℕ) :
    exact.amplitudeAt arrays.1 arrays.2 total bin =
      if bin = 0 then ‖point arrays bin‖ / total else 2 * ‖point arrays bin‖ / total := by
  have hnorm : √(arrays.1.getD bin 0 * arrays.1.getD bin 0 +
      arrays.2.getD bin 0 * arrays.2.getD bin 0) = ‖point arrays bin‖ := by
    rw [Complex.norm_def, Complex.normSq_apply]
    rfl
  unfold Arithmetic.amplitudeAt
  simp only [exact_zero, exact_add, exact_mul, exact_sqrt, exact_div, exact_ofNat, hnorm]
  rfl

/-- The transform of an array of real numbers.
SOURCE: vibration_fft.cpp:10-53 -/
theorem point_transform_real {count bits : ℕ} (hcount : count = 2 ^ bits) (values : Fin count → ℝ)
    (bin : ℕ) (hbin : bin < count) :
    point (exact.transform bits (List.ofFn fun j => (values j : ℂ).re)
        (List.ofFn fun j => (values j : ℂ).im)) bin =
      ∑ j, values j * turn (-(j * (bin / count : ℝ))) := by
  subst hcount
  have hlength : HasLength (List.ofFn fun j => (values j : ℂ).re,
      List.ofFn fun j => (values j : ℂ).im) (2 ^ bits) := ⟨List.length_ofFn, List.length_ofFn⟩
  refine ((point_transform bits hlength).2 bin hbin).trans ?_
  refine (fourierSum_ofFn bits (fun j => (values j : ℂ)) ⟨bin, hbin⟩).trans ?_
  unfold discreteTransform
  refine Finset.sum_congr rfl fun j _ => ?_
  unfold turn
  congr 2
  push_cast
  ring

/-- **The amplitudes are those of the transform of the samples under the window.**
SOURCE: vibration_fft.cpp:63-80 -/
theorem amplitudes_exact : exact.amplitudes (List.ofFn samples) =
    (List.range (kVibrationWindowSamples / 2)).map (amplitude samples) := by
  have hcount : kVibrationWindowSamples = 2 ^ 8 := by decide
  have hhalf : kVibrationWindowSamples / 2 < kVibrationWindowSamples := by decide
  obtain ⟨hreal, himaginary⟩ := windowed_samples samples
  unfold Arithmetic.amplitudes
  dsimp only
  rw [foldl_hann, hreal, himaginary]
  refine List.map_congr_left fun bin hbin => ?_
  rw [amplitudeAt_exact, point_transform_real hcount _ bin ((List.mem_range.mp hbin).trans hhalf)]
  rfl

/-! ## Bounds -/

theorem windowSum_pos : 0 < windowSum := by
  have hmiddle : 1 / 2 ≤ hannWindow 128 := by
    have hcos : Real.cos (2 * Real.pi * ((128 : ℕ) / 255)) ≤ 0 := by
      refine Real.cos_nonpos_of_pi_div_two_le_of_le ?_ ?_
      · push_cast
        linarith [Real.pi_pos]
      · push_cast
        linarith [Real.pi_pos]
    unfold hannWindow
    linarith
  have hle := Finset.single_le_sum (f := fun j : Fin kVibrationWindowSamples => hannWindow j)
    (fun j _ => hannWindow_nonneg j) (Finset.mem_univ ⟨128, by decide⟩)
  unfold windowSum
  linarith

/-- A bin of the transform is at most what the samples and the window allow. -/
theorem norm_windowedBin_le {bound : ℝ} (h : ∀ j, |samples j| ≤ bound) (bin : ℕ) :
    ‖windowedBin samples bin‖ ≤ bound * windowSum := by
  refine (norm_sum_le _ _).trans ?_
  unfold windowSum
  rw [Finset.mul_sum]
  refine Finset.sum_le_sum fun j _ => ?_
  rw [norm_mul, norm_turn, mul_one, Complex.norm_real, Real.norm_eq_abs, abs_mul,
    abs_of_nonneg (hannWindow_nonneg j)]
  exact mul_le_mul_of_nonneg_right (h j) (hannWindow_nonneg j)

theorem amplitude_le {bound : ℝ} (h : ∀ j, |samples j| ≤ bound) (bin : ℕ) :
    amplitude samples bin ≤ 2 * bound := by
  have hnorm := norm_windowedBin_le samples h bin
  have hpos := norm_nonneg (windowedBin samples bin)
  unfold amplitude
  split
  · rw [div_le_iff₀ windowSum_pos]
    linarith
  · rw [div_le_iff₀ windowSum_pos]
    linarith

/-! ## The dominant bin -/

/-- SOURCE: vibration_fft.cpp:78-84 -/
theorem dominant_exact (firstBin : ℕ) (values : List ℝ) :
    exact.dominant firstBin values = firstGreatest firstBin values := by
  unfold Arithmetic.dominant firstGreatest
  simp only [exact_lt, decide_eq_true_eq, exact_zero]

/-- What an analysis reports of a window. -/
structure Describes (samples : Fin kVibrationWindowSamples → ℝ)
    (sampleRateHz minimumFrequencyHz : ℝ)
    (result : Arithmetic.FrequencyMetrics ℝ) : Prop where
  /-- The dominant bin is the first one whose amplitude is greatest. -/
  dominant : 0 < sampleRateHz →
    max 1 ⌈minimumFrequencyHz / (sampleRateHz / 256)⌉₊ < 128 →
    IsFirstGreatest (max 1 ⌈minimumFrequencyHz / (sampleRateHz / 256)⌉₊) 128 (amplitude samples)
      (result.dominantAmplitude, result.dominantBin)
  /-- Without a rate, or without a bin that may be dominant, nothing is reported. -/
  nothing : ¬ (0 < sampleRateHz ∧
    max 1 ⌈minimumFrequencyHz / (sampleRateHz / 256)⌉₊ < 128) → result = ⟨0, 0, 0⟩
  /-- The frequency is that of the bin. -/
  frequency : result.dominantFrequencyHz = result.dominantBin * (sampleRateHz / 256)
  /-- A dominant frequency is neither below the least one asked for nor half the rate. -/
  between : result.dominantBin ≠ 0 → minimumFrequencyHz ≤ result.dominantFrequencyHz ∧
    result.dominantFrequencyHz < sampleRateHz / 2
  /-- The amplitude is at most twice the greatest sample. -/
  bounded : ∀ bound, (∀ j, |samples j| ≤ bound) → result.dominantAmplitude ≤ 2 * bound

theorem firstBin_exact (sampleRateHz minimumFrequencyHz : ℝ) :
    exact.firstBin sampleRateHz minimumFrequencyHz =
      max 1 ⌈minimumFrequencyHz / (sampleRateHz / 256)⌉₊ := by
  unfold Arithmetic.firstBin Arithmetic.binHz
  simp only [exact_sizeOfCeil, exact_div, exact_ofNat]
  rfl

theorem analyze_of_not {sampleRateHz minimumFrequencyHz : ℝ} (h : ¬ (0 < sampleRateHz ∧
    max 1 ⌈minimumFrequencyHz / (sampleRateHz / 256)⌉₊ < 128)) (values : List ℝ) :
    exact.analyze values sampleRateHz minimumFrequencyHz = ⟨0, 0, 0⟩ := by
  unfold Arithmetic.analyze
  rw [if_pos]
  · rfl
  · by_contra hnot
    rw [not_or, firstBin_exact, exact_lt, exact_zero] at hnot
    exact h ⟨by simpa using hnot.1, not_le.mp hnot.2⟩

theorem analyze_of {sampleRateHz minimumFrequencyHz : ℝ} (hrate : 0 < sampleRateHz)
    (hfirst : max 1 ⌈minimumFrequencyHz / (sampleRateHz / 256)⌉₊ < 128) :
    ∃ found, IsFirstGreatest (max 1 ⌈minimumFrequencyHz / (sampleRateHz / 256)⌉₊) 128
        (amplitude samples) found ∧
      exact.analyze (List.ofFn samples) sampleRateHz minimumFrequencyHz =
        ⟨found.2 * (sampleRateHz / 256), found.1, found.2⟩ := by
  refine ⟨_, isFirstGreatest_firstGreatest _ 128 (amplitude samples), ?_⟩
  unfold Arithmetic.analyze
  rw [if_neg]
  · rw [amplitudes_exact, firstBin_exact, dominant_exact]
    unfold Arithmetic.binHz
    simp only [exact_mul, exact_ofNat, exact_div]
    rfl
  · rw [firstBin_exact, exact_lt, exact_zero, not_or]
    exact ⟨by simpa using hrate, not_le.mpr hfirst⟩

theorem describes_analyze (sampleRateHz minimumFrequencyHz : ℝ) :
    Describes samples sampleRateHz minimumFrequencyHz
      (exact.analyze (List.ofFn samples) sampleRateHz minimumFrequencyHz) := by
  by_cases h : 0 < sampleRateHz ∧ max 1 ⌈minimumFrequencyHz / (sampleRateHz / 256)⌉₊ < 128
  · obtain ⟨found, hfound, hresult⟩ := analyze_of samples h.1 h.2
    rw [hresult]
    have hwidth : 0 < sampleRateHz / 256 := by linarith [h.1]
    refine ⟨fun _ _ => hfound, fun hnot => absurd h hnot, rfl, fun hbin => ?_, fun bound hbound => ?_⟩
    · cases hfound with
      | nothing _ => exact absurd rfl hbin
      | found index hfirst hlast _ _ _ =>
        have hceil : minimumFrequencyHz / (sampleRateHz / 256) ≤ index :=
          (Nat.le_ceil _).trans (Nat.cast_le.mpr ((le_max_right _ _).trans hfirst))
        have hindex : (index : ℝ) < 128 := by exact_mod_cast hlast
        refine ⟨(div_le_iff₀ hwidth).mp hceil, ?_⟩
        have hmul := mul_lt_mul_of_pos_right hindex hwidth
        dsimp only at hmul ⊢
        linarith
    · cases hfound with
      | nothing _ =>
        have hsome := (abs_nonneg _).trans (hbound ⟨0, by decide⟩)
        show (0 : ℝ) ≤ _
        linarith
      | found index _ _ _ _ _ => exact amplitude_le samples hbound index
  · rw [analyze_of_not h]
    refine ⟨fun hrate hfirst => absurd ⟨hrate, hfirst⟩ h, fun _ => rfl, ?_, fun hbin => absurd rfl hbin,
      fun bound hbound => ?_⟩
    · show (0 : ℝ) = ((0 : ℕ) : ℝ) * _
      rw [Nat.cast_zero, zero_mul]
    · have hsome := (abs_nonneg _).trans (hbound ⟨0, by decide⟩)
      show (0 : ℝ) ≤ _
      linarith

/-! ## Floats -/

/-- The metrics with the bin in 16 bits. -/
def metricsOf (result : Arithmetic.FrequencyMetrics Single) :
    VibrationProcessing.FrequencyMetrics where
  dominantFrequencyHz := result.dominantFrequencyHz
  dominantAmplitude := result.dominantAmplitude
  dominantBin := UInt16.ofNat result.dominantBin

theorem hann_single (M : MathLibrary) : (single M).hann = VibrationProcessing.hann M := rfl

theorem amplitudeAt_single (M : MathLibrary) :
    (single M).amplitudeAt = VibrationProcessing.amplitudeAt M := rfl

/-- In floats the analysis is the one of the processor.
SOURCE: vibration_fft.cpp:57-89 -/
theorem analyze_single (M : MathLibrary) (fft : VibrationFft256) (values : List Single)
    (sampleRateHz minimumFrequencyHz : Single) :
    (fft.analyze M values sampleRateHz minimumFrequencyHz).1 =
      metricsOf ((single M).analyze values sampleRateHz minimumFrequencyHz) := by
  by_cases hrate : Single.zero.lt sampleRateHz = true
  · unfold VibrationFft256.analyze
    rw [if_neg (by rw [hrate]; decide)]
    dsimp only
    rw [← transform_single]
    by_cases hfirst : kVibrationWindowSamples / 2 ≤
        (single M).firstBin sampleRateHz minimumFrequencyHz
    · have hnothing : (single M).analyze values sampleRateHz minimumFrequencyHz =
          ⟨.zero, .zero, 0⟩ := if_pos (.inr hfirst)
      rw [hnothing]
      exact congrArg Prod.fst (if_pos hfirst)
    · have hor : ¬ ((!(single M).lt (single M).zero sampleRateHz) = true ∨
          kVibrationWindowSamples / 2 ≤ (single M).firstBin sampleRateHz minimumFrequencyHz) :=
        fun h => h.elim (fun hnot => by
          rw [show (single M).lt (single M).zero sampleRateHz = true from hrate] at hnot
          cases hnot) hfirst
      have hfound : (single M).analyze values sampleRateHz minimumFrequencyHz = _ := if_neg hor
      rw [hfound]
      refine (congrArg Prod.fst (if_neg hfirst)).trans ?_
      dsimp only
      rw [← hann_single, ← amplitudeAt_single]
      unfold metricsOf Arithmetic.dominant Arithmetic.amplitudes
      rfl
  · have hnot : (!Single.zero.lt sampleRateHz) = true := by simpa using hrate
    have hnothing : (single M).analyze values sampleRateHz minimumFrequencyHz =
        ⟨.zero, .zero, 0⟩ := if_pos (.inl hnot)
    rw [hnothing]
    exact congrArg Prod.fst (if_pos hnot)

end Spectra

end SeedMg24.Analysis
