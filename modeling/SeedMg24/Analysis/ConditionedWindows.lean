import SeedMg24.Analysis.AxisMetrics
import SeedMg24.Analysis.OwnSamples
import SeedMg24.Analysis.Spectra
import SeedMg24.Foundation.Literals

/-!
# Conditioned windows

The high-pass filter keeps an average of its inputs, with weights that depend on the rate of each
window, and puts out how far an input is from it.  So what it puts out is never more than the inputs
are spread, however the rates change, and the metrics of a window have the bounds of its samples.
-/

set_option autoImplicit false

namespace SeedMg24.Analysis

open Foundation SeedMg24.Model
open SeedMg24.Model.Vibration (ImuRawSample kVibrationWindowSamples)
open SeedMg24.Model.VibrationArithmetic (Arithmetic Accumulation Processor ProcessorConfig
  WindowMetrics)
open SeedMg24.Model.VibrationProcessing (MathLibrary Member VibrationProcessor ProcessCall)
open VibrationArithmetic.Arithmetic (exact single HighPass)

attribute [local instance] atLeastTwo_two atLeastTwo_five atLeastTwo_eight atLeastTwo_sixteen
  atLeastTwo_twoThousand atLeastTwo_fullScale

namespace ConditionedWindows

open ExactTransforms AxisMetrics

/-! ## The filter -/

/-- The average that a filter keeps. -/
def memory (f : HighPass ℝ) : ℝ := f.previousInput - f.previousOutput

/-- A filter runs, and its average lies in an interval. -/
structure Keeps (f : HighPass ℝ) (low high : ℝ) : Prop where
  initialized : f.initialized = true
  low_le : low ≤ memory f
  le_high : memory f ≤ high

/-- A filter's weight is one of an average. -/
def IsWeight (alpha : ℝ) : Prop := 0 ≤ alpha ∧ alpha ≤ 1

/-- **One input**: the average moves towards it, and the output is the distance that is left.
SOURCE: vibration_filter.cpp:25-34 -/
theorem applyFilter_eq {f : HighPass ℝ} (h : f.initialized = true) (input : ℝ) :
    memory (exact.applyFilter f input).2 = (1 - f.alpha) * input + f.alpha * memory f ∧
      (exact.applyFilter f input).1 = input - memory (exact.applyFilter f input).2 := by
  unfold Arithmetic.applyFilter memory
  rw [if_neg (by rw [h]; decide)]
  simp only [exact_mul, exact_sub, exact_add]
  constructor
  · ring
  · ring

theorem Keeps.applyFilter {f : HighPass ℝ} {low high input : ℝ} (h : Keeps f low high)
    (halpha : IsWeight f.alpha) (hlow : low ≤ input) (hhigh : input ≤ high) :
    |(exact.applyFilter f input).1| ≤ high - low ∧
      Keeps (exact.applyFilter f input).2 low high ∧
      IsWeight (exact.applyFilter f input).2.alpha := by
  obtain ⟨hmemory, houtput⟩ := applyFilter_eq h.initialized input
  have hbelow : low ≤ memory (exact.applyFilter f input).2 := by
    rw [hmemory]
    nlinarith [h.low_le, halpha.1, halpha.2]
  have habove : memory (exact.applyFilter f input).2 ≤ high := by
    rw [hmemory]
    nlinarith [h.le_high, halpha.1, halpha.2]
  refine ⟨?_, ⟨?_, hbelow, habove⟩, ?_⟩
  · rw [houtput, abs_le]
    constructor
    · linarith
    · linarith
  · unfold Arithmetic.applyFilter
    rw [if_neg (by rw [h.initialized]; decide)]
    exact h.initialized
  · unfold Arithmetic.applyFilter
    rw [if_neg (by rw [h.initialized]; decide)]
    exact halpha

/-- A filter can be configured with a rate and a cutoff.
SOURCE: vibration_filter.cpp:11-12 -/
def IsConfigurable (sampleRateHz cutoffHz : ℝ) : Prop :=
  0 < sampleRateHz ∧ 0 < cutoffHz ∧ cutoffHz < sampleRateHz / 2

/-- The weight a rate and a cutoff give.
SOURCE: vibration_filter.cpp:13-15 -/
noncomputable def weight (sampleRateHz cutoffHz : ℝ) : ℝ :=
  1 / (2 * Real.pi * cutoffHz) / (1 / (2 * Real.pi * cutoffHz) + 1 / sampleRateHz)

theorem isWeight_weight {sampleRateHz cutoffHz : ℝ} (h : IsConfigurable sampleRateHz cutoffHz) :
    IsWeight (weight sampleRateHz cutoffHz) := by
  have hpi := Real.pi_pos
  have hrc : 0 < 1 / (2 * Real.pi * cutoffHz) := by
    have := h.2.1
    positivity
  have hdt : 0 < 1 / sampleRateHz := one_div_pos.mpr h.1
  exact ⟨(div_pos hrc (by linarith)).le, (div_le_one (by linarith)).mpr (by linarith)⟩

theorem configureFilter_exact {sampleRateHz cutoffHz : ℝ}
    (h : IsConfigurable sampleRateHz cutoffHz) (f : HighPass ℝ) :
    exact.configureFilter f sampleRateHz cutoffHz =
      (true, { f with alpha := weight sampleRateHz cutoffHz }) := by
  have hcutoff : ¬ sampleRateHz * ((1 / 2 : ℚ) : ℝ) ≤ cutoffHz := by
    push_cast
    have := h.2.2
    linarith
  have hgood : (!exact.lt exact.zero sampleRateHz || !exact.lt exact.zero cutoffHz ||
      exact.le (exact.mul sampleRateHz (exact.literal (1 / 2))) cutoffHz) = false := by
    simp only [exact_lt, exact_zero, exact_le, exact_mul, exact_literal, decide_eq_true h.1,
      decide_eq_true h.2.1, decide_eq_false hcutoff]
    rfl
  unfold Arithmetic.configureFilter
  rw [if_neg (by rw [hgood]; decide)]
  simp only [exact_div, exact_ofNat, exact_mul, exact_pi, exact_add]
  push_cast
  rfl

/-- All filters are configured.
SOURCE: vibration_processor.cpp:33-36 -/
theorem configureFilters_exact {sampleRateHz cutoffHz : ℝ}
    (h : IsConfigurable sampleRateHz cutoffHz) (filters : Member → HighPass ℝ) :
    Processor.configureFilters exact sampleRateHz cutoffHz filters Member.all =
      (true, fun member => { filters member with alpha := weight sampleRateHz cutoffHz }) := by
  have hmembers : ∀ (members : List Member) (filters : Member → HighPass ℝ),
      Processor.configureFilters exact sampleRateHz cutoffHz filters members =
        (true, fun member => if member ∈ members then
          { filters member with alpha := weight sampleRateHz cutoffHz } else filters member) := by
    intro members
    induction members with
    | nil => intro filters; simp [Processor.configureFilters]
    | cons first rest ih =>
      intro filters
      unfold Processor.configureFilters
      rw [configureFilter_exact h]
      dsimp only
      rw [ih]
      congr 1
      funext member
      by_cases hfirst : member = first
      · subst hfirst
        rw [Function.update_self, if_pos List.mem_cons_self]
        split
        · rfl
        · rfl
      · rw [Function.update_of_ne hfirst]
        simp only [List.mem_cons, hfirst, false_or]
  rw [hmembers]
  congr 1
  funext member
  rw [if_pos]
  cases member <;> decide

/-! ## Windows -/

/-- The values of a sample lie in the intervals of their axes. -/
def Within (config : ProcessorConfig ℝ) (low high : Member → ℝ) (sample : ImuRawSample) : Prop :=
  ∀ member, low member ≤ Processor.engineeringValues exact config sample member ∧
    Processor.engineeringValues exact config sample member ≤ high member

/-- The samples of a window are filtered.
SOURCE: vibration_processor.cpp:49-65 -/
theorem filterSamples_within (config : ProcessorConfig ℝ) {low high : Member → ℝ}
    {samples : List ImuRawSample} (hsamples : ∀ sample ∈ samples, Within config low high sample)
    {filters : Member → HighPass ℝ}
    (hfilters : ∀ member, Keeps (filters member) (low member) (high member) ∧
      IsWeight (filters member).alpha) :
    (∀ values ∈ (Processor.filterSamples exact config filters samples).1,
      ∀ member, |values member| ≤ high member - low member) ∧
      (Processor.filterSamples exact config filters samples).1.length = samples.length ∧
      ∀ member, Keeps ((Processor.filterSamples exact config filters samples).2 member)
        (low member) (high member) := by
  induction samples generalizing filters with
  | nil => exact ⟨nofun, rfl, fun member => (hfilters member).1⟩
  | cons sample rest ih =>
    have happly := fun member => (hfilters member).1.applyFilter (hfilters member).2
      (hsamples sample List.mem_cons_self member).1 (hsamples sample List.mem_cons_self member).2
    obtain ⟨hvalues, hlength, hafter⟩ := ih
      (fun other hother => hsamples other (List.mem_cons_of_mem _ hother))
      (fun member => (happly member).2)
    refine ⟨fun values hmem => ?_, congrArg Nat.succ hlength, hafter⟩
    rcases List.mem_cons.mp hmem with rfl | hrest
    · exact fun member => (happly member).1
    · exact hvalues values hrest

/-- The filters of a processor have not begun, or their averages lie in the intervals. -/
def Ready (p : Processor ℝ) (low high : Member → ℝ) : Prop :=
  p.filtersInitialized = false ∨ ∀ member, Keeps (p.filters member) (low member) (high member)

/-- The filters that a window goes through.
SOURCE: vibration_processor.cpp:33-48 -/
noncomputable def started (p : Processor ℝ) (samples : List ImuRawSample) (sampleRateHz : ℝ) :
    Member → HighPass ℝ :=
  let configured : Member → HighPass ℝ := fun member =>
    { p.filters member with alpha := weight sampleRateHz p.config.highPassCutoffHz }
  if p.filtersInitialized then configured
  else Processor.initializeFilters exact p.config configured samples

/-- Filters that begin do so at the first sample.
SOURCE: vibration_processor.cpp:37-48 -/
theorem keeps_started {p : Processor ℝ} {low high : Member → ℝ} (h : Ready p low high)
    {samples : List ImuRawSample} (hne : samples ≠ [])
    (hsamples : ∀ sample ∈ samples, Within p.config low high sample) {sampleRateHz : ℝ}
    (hrate : IsConfigurable sampleRateHz p.config.highPassCutoffHz) (member : Member) :
    Keeps (started p samples sampleRateHz member) (low member) (high member) ∧
      IsWeight (started p samples sampleRateHz member).alpha := by
  obtain ⟨first, rest, rfl⟩ := List.exists_cons_of_ne_nil hne
  obtain ⟨hlow, hhigh⟩ := hsamples first List.mem_cons_self member
  have hweight := isWeight_weight hrate
  unfold started
  dsimp only
  by_cases hinitialized : p.filtersInitialized = true
  · rw [if_pos hinitialized]
    have hkeeps := (h.resolve_left (by rw [hinitialized]; decide)) member
    exact ⟨⟨hkeeps.initialized, hkeeps.low_le, hkeeps.le_high⟩, hweight⟩
  · rw [if_neg hinitialized]
    unfold Processor.initializeFilters Arithmetic.resetFilter
    refine ⟨⟨rfl, ?_, ?_⟩, hweight⟩
    · unfold memory
      rwa [exact_zero, sub_zero]
    · unfold memory
      rwa [exact_zero, sub_zero]

/-- **A window**: what comes out of the filters is never more than the inputs are spread.
SOURCE: vibration_processor.cpp:29-66 -/
theorem condition_within {p : Processor ℝ} {low high : Member → ℝ} (h : Ready p low high)
    {samples : List ImuRawSample} (hne : samples ≠ [])
    (hsamples : ∀ sample ∈ samples, Within p.config low high sample) {sampleRateHz : ℝ}
    (hrate : IsConfigurable sampleRateHz p.config.highPassCutoffHz) :
    let after := Processor.condition exact p samples sampleRateHz
    (∀ values ∈ after.conditioned, ∀ member, |values member| ≤ high member - low member) ∧
      after.conditioned.length = samples.length ∧ Ready after low high ∧
      after.config = p.config ∧ after.valid = p.valid := by
  have hcondition : Processor.condition exact p samples sampleRateHz =
      { p with
        conditioned := (Processor.filterSamples exact p.config (started p samples sampleRateHz)
          samples).1
        filters := (Processor.filterSamples exact p.config (started p samples sampleRateHz)
          samples).2
        filtersInitialized := true } := by
    unfold Processor.condition
    rw [configureFilters_exact hrate]
    rfl
  obtain ⟨hvalues, hlength, hafter⟩ :=
    filterSamples_within p.config hsamples (keeps_started h hne hsamples hrate)
  rw [hcondition]
  exact ⟨hvalues, hlength, .inr hafter, rfl, rfl⟩

/-! ## Limits -/

/-- The configuration of the firmware.
SOURCE: vibration_service.cpp:12-20 -/
noncomputable def productionConfig : ProcessorConfig ℝ := ⟨416, 2, 5, 16 / 32768, 2000 / 32768⟩

def isAccel : Member → Bool
  | .accelXG | .accelYG | .accelZG => true
  | .gyroXDps | .gyroYDps | .gyroZDps => false

/-- The limits that a summary is only sent within.
SOURCE: vibration_summary.cpp:9-40 -/
structure WithinLimits (w : WindowMetrics ℝ) : Prop where
  accel : ∀ member, isAccel member = true →
    (0 ≤ (w.axis member).rms ∧ (w.axis member).rms ≤ 16) ∧
    (0 ≤ (w.axis member).peakAbs ∧ (w.axis member).peakAbs ≤ 16) ∧
    (0 ≤ (w.axis member).crestFactor ∧ (w.axis member).crestFactor ≤ 100) ∧
    (0 ≤ (w.axis member).kurtosis ∧ (w.axis member).kurtosis ≤ 1000)
  gyro : ∀ member, isAccel member = false →
    0 ≤ (w.axis member).rms ∧ (w.axis member).rms ≤ 2000
  frequency : ∀ frequency ∈ [w.frequencyX, w.frequencyY, w.frequencyZ],
    (0 ≤ frequency.dominantFrequencyHz ∧ frequency.dominantFrequencyHz ≤ 250) ∧
    (0 ≤ frequency.dominantAmplitude ∧ frequency.dominantAmplitude ≤ 16)
  rate : 0 < w.effectiveSampleRateHz ∧ w.effectiveSampleRateHz ≤ 500

/-- How far the values of an axis may be spread. -/
def spread (member : Member) : ℝ := if isAccel member then 8 else 2000

theorem exists_ofFn {count : ℕ} {values : List ℝ} (h : values.length = count) :
    ∃ samples : Fin count → ℝ, values = List.ofFn samples ∧ ∀ i, samples i ∈ values := by
  subst h
  exact ⟨fun i => values.get i, (List.ofFn_get values).symm, fun i => List.get_mem values i⟩

/-- The metrics of an axis whose samples are bounded. -/
theorem axis_bounded {values : List ℝ} {count : ℕ} (hlength : values.length = count + 1)
    {bound : ℝ} (hbound : ∀ value ∈ values, |value| ≤ bound) :
    let metrics := Accumulation.exact.calculateAxisMetrics exact values
    (0 ≤ metrics.rms ∧ metrics.rms ≤ bound) ∧ (0 ≤ metrics.peakAbs ∧ metrics.peakAbs ≤ bound) ∧
      (0 ≤ metrics.crestFactor ∧ metrics.crestFactor ≤ √(count + 1 : ℕ)) ∧
      (0 ≤ metrics.kurtosis ∧ metrics.kurtosis ≤ (count + 1 : ℕ)) := by
  obtain ⟨samples, rfl, hmem⟩ := exists_ofFn hlength
  have hdescribes := describesAxis_calculateAxisMetrics samples
  have hconsistent := hdescribes.consistent count.succ_pos
  have hrms : 0 ≤ (Accumulation.exact.calculateAxisMetrics exact (List.ofFn samples)).rms := by
    rw [hdescribes.rms]
    exact Real.sqrt_nonneg _
  obtain ⟨⟨i, hi⟩, -⟩ := hdescribes.peakAbs
  have hpeak : (Accumulation.exact.calculateAxisMetrics exact (List.ofFn samples)).peakAbs ≤
      bound := hi ▸ hbound _ (hmem i)
  refine ⟨⟨hrms, hconsistent.rms_le_peak.trans hpeak⟩,
    ⟨hrms.trans hconsistent.rms_le_peak, hpeak⟩, ?_, ?_⟩
  · rcases hconsistent.crestFactor with hzero | ⟨hone, hle⟩
    · rw [hzero]
      exact ⟨le_rfl, Real.sqrt_nonneg _⟩
    · exact ⟨by linarith, hle⟩
  · rcases hconsistent.kurtosis with hzero | ⟨hone, hle⟩
    · rw [hzero]
      exact ⟨le_rfl, Nat.cast_nonneg _⟩
    · exact ⟨by linarith, hle⟩

/-- The spectrum of an axis whose samples are bounded. -/
theorem frequency_bounded {values : List ℝ} (hlength : values.length = kVibrationWindowSamples)
    {bound : ℝ} (hbound : ∀ value ∈ values, |value| ≤ bound) {sampleRateHz : ℝ}
    (hpos : 0 < sampleRateHz) (hrate : sampleRateHz ≤ 500) (minimumFrequencyHz : ℝ) :
    let result := exact.analyze values sampleRateHz minimumFrequencyHz
    (0 ≤ result.dominantFrequencyHz ∧ result.dominantFrequencyHz ≤ 250) ∧
      (0 ≤ result.dominantAmplitude ∧ result.dominantAmplitude ≤ 2 * bound) := by
  obtain ⟨samples, rfl, hmem⟩ := exists_ofFn hlength
  have hdescribes := Spectra.describes_analyze samples sampleRateHz minimumFrequencyHz
  have hfrequency := hdescribes.frequency
  have hlow : 0 ≤ (exact.analyze (List.ofFn samples) sampleRateHz
      minimumFrequencyHz).dominantFrequencyHz := by
    rw [hfrequency]
    positivity
  have hhigh : (exact.analyze (List.ofFn samples) sampleRateHz
      minimumFrequencyHz).dominantFrequencyHz ≤ 250 := by
    by_cases hbin : (exact.analyze (List.ofFn samples) sampleRateHz
        minimumFrequencyHz).dominantBin = 0
    · rw [hfrequency, hbin, Nat.cast_zero, zero_mul]
      norm_num
    · have := (hdescribes.between hbin).2
      linarith
  have hamplitude : 0 ≤ (exact.analyze (List.ofFn samples) sampleRateHz
      minimumFrequencyHz).dominantAmplitude := by
    by_cases h : max 1 ⌈minimumFrequencyHz / (sampleRateHz / 256)⌉₊ < 128
    · exact (hdescribes.dominant hpos h).fst_nonneg
    · rw [hdescribes.nothing fun hboth => h hboth.2]
  exact ⟨⟨hlow, hhigh⟩, hamplitude, hdescribes.bounded bound fun i => hbound _ (hmem i)⟩

theorem withinLimits_metrics {conditioned : List (Member → ℝ)}
    (hlength : conditioned.length = kVibrationWindowSamples)
    (hbound : ∀ values ∈ conditioned, ∀ member, |values member| ≤ spread member) {sampleRateHz : ℝ}
    (hpos : 0 < sampleRateHz) (hrate : sampleRateHz ≤ 500) (config : ProcessorConfig ℝ) :
    WithinLimits (Processor.metrics exact Accumulation.exact config conditioned sampleRateHz) := by
  have hvalues : ∀ member, ∀ value ∈ conditioned.map fun sample => sample member,
      |value| ≤ spread member := by
    intro member value hvalue
    obtain ⟨values, hmem, rfl⟩ := List.mem_map.mp hvalue
    exact hbound values hmem member
  have hcount : conditioned.length = 255 + 1 := hlength
  have haxis := fun member => axis_bounded ((List.length_map _).trans hcount) (hvalues member)
  have hroot : √((255 + 1 : ℕ) : ℝ) = 16 := by
    rw [show ((255 + 1 : ℕ) : ℝ) = 16 ^ 2 by norm_num]
    exact Real.sqrt_sq (by norm_num)
  have hfrequency := fun member => frequency_bounded ((List.length_map _).trans hlength)
    (hvalues member) hpos hrate config.minimumDominantFrequencyHz
  have haccel : ∀ member, isAccel member = true → spread member = 8 := fun member h => if_pos h
  refine ⟨fun member hmember => ?_, fun member hmember => ?_, ?_, hpos, hrate⟩
  · obtain ⟨hrms, hpeak, hcrest, hkurtosis⟩ := haxis member
    rw [haccel member hmember] at hrms hpeak
    rw [hroot] at hcrest
    exact ⟨⟨hrms.1, hrms.2.trans (by norm_num)⟩, ⟨hpeak.1, hpeak.2.trans (by norm_num)⟩,
      ⟨hcrest.1, hcrest.2.trans (by norm_num)⟩, ⟨hkurtosis.1, hkurtosis.2.trans (by norm_num)⟩⟩
  · have hspread : spread member = 2000 := if_neg (by rw [hmember]; decide)
    obtain ⟨hrms, -⟩ := haxis member
    rw [hspread] at hrms
    exact hrms
  · have hall : ∀ member, isAccel member = true → (0 ≤ (exact.analyze (conditioned.map fun sample =>
        sample member) sampleRateHz config.minimumDominantFrequencyHz).dominantFrequencyHz ∧
        (exact.analyze (conditioned.map fun sample => sample member) sampleRateHz
          config.minimumDominantFrequencyHz).dominantFrequencyHz ≤ 250) ∧
        (0 ≤ (exact.analyze (conditioned.map fun sample => sample member) sampleRateHz
          config.minimumDominantFrequencyHz).dominantAmplitude ∧
        (exact.analyze (conditioned.map fun sample => sample member) sampleRateHz
          config.minimumDominantFrequencyHz).dominantAmplitude ≤ 16) := by
      intro member hmember
      obtain ⟨hbetween, hlow, hhigh⟩ := hfrequency member
      rw [haccel member hmember] at hhigh
      exact ⟨hbetween, hlow, hhigh.trans (by norm_num)⟩
    intro frequency hmem
    simp only [List.mem_cons, List.not_mem_nil, or_false] at hmem
    rcases hmem with rfl | rfl | rfl
    · exact hall .accelXG rfl
    · exact hall .accelYG rfl
    · exact hall .accelZG rfl

/-! ## Runs -/

/-- What is calculated of the windows given one after the other. -/
noncomputable def results (p : Processor ℝ) :
    List (List ImuRawSample × ℝ) → List (WindowMetrics ℝ)
  | [] => []
  | call :: rest =>
    let processed := Processor.process exact Accumulation.exact p call.1 call.2
    processed.1.toList ++ results processed.2 rest

/-- The windows of a run: their samples lie in the intervals of their axes, and their rates are
those of the sensor, or none. -/
structure Plausible (low high : Member → ℝ) (call : List ImuRawSample × ℝ) : Prop where
  samples : ∀ sample ∈ call.1, Within productionConfig low high sample
  slowest : call.2 ≤ 0 ∨ 4 < call.2
  fastest : call.2 ≤ 500

/-- **One window of a run.** -/
theorem process_withinLimits {p : Processor ℝ} (hconfig : p.config = productionConfig)
    {low high : Member → ℝ} (hspread : ∀ member, high member - low member ≤ spread member)
    (hready : Ready p low high) {call : List ImuRawSample × ℝ} (hcall : Plausible low high call) :
    let processed := Processor.process exact Accumulation.exact p call.1 call.2
    (∀ w, processed.1 = some w → WithinLimits w) ∧ processed.2.config = productionConfig ∧
      Ready processed.2 low high := by
  unfold Processor.process
  split
  · exact ⟨nofun, hconfig, hready⟩
  · rename_i htaken
    have hlength : call.1.length = kVibrationWindowSamples := by
      by_contra hne
      exact htaken (by simp [hne])
    have hne : call.1 ≠ [] := by
      intro hnil
      rw [hnil] at hlength
      cases hlength
    have hused : Processor.usedRateHz exact p call.2 = if call.2 ≤ 0 then 416 else call.2 := by
      unfold Processor.usedRateHz
      rw [hconfig]
      simp only [exact_lt, exact_zero, Bool.not_eq_true', decide_eq_false_iff_not, not_lt]
      rfl
    have hrate : 4 < Processor.usedRateHz exact p call.2 ∧
        Processor.usedRateHz exact p call.2 ≤ 500 := by
      rw [hused]
      split
      · norm_num
      · rename_i hpositive
        exact ⟨hcall.slowest.resolve_left hpositive, hcall.fastest⟩
    have hconfigurable : IsConfigurable (Processor.usedRateHz exact p call.2)
        p.config.highPassCutoffHz := by
      rw [hconfig]
      exact ⟨by linarith [hrate.1], by norm_num [productionConfig],
        by show (2 : ℝ) < _; linarith [hrate.1]⟩
    obtain ⟨hvalues, hcount, hafter, hsame, -⟩ := condition_within hready hne
      (fun sample hmem => hconfig ▸ hcall.samples sample hmem) hconfigurable
    refine ⟨fun w hw => ?_, hsame.trans hconfig, hafter⟩
    cases hw
    exact withinLimits_metrics (hcount.trans hlength)
      (fun values hmem member => (hvalues values hmem member).trans (hspread member))
      (by linarith [hrate.1]) hrate.2 _

theorem results_withinLimits {p : Processor ℝ} (hconfig : p.config = productionConfig)
    {low high : Member → ℝ} (hspread : ∀ member, high member - low member ≤ spread member)
    (hready : Ready p low high) {calls : List (List ImuRawSample × ℝ)}
    (hcalls : ∀ call ∈ calls, Plausible low high call) :
    ∀ w ∈ results p calls, WithinLimits w := by
  induction calls generalizing p with
  | nil => exact nofun
  | cons call rest ih =>
    obtain ⟨hfirst, hconfig', hready'⟩ :=
      process_withinLimits hconfig hspread hready (hcalls call List.mem_cons_self)
    intro w hw
    rcases List.mem_append.mp hw with hnow | hlater
    · exact hfirst w (Option.mem_toList.mp hnow)
    · exact ih hconfig' hready' (fun other hother => hcalls other (List.mem_cons_of_mem _ hother)) w
        hlater

/-! ## Floats -/

/-- A filter of the processor. -/
def filterOf (f : VibrationProcessing.FirstOrderHighPass) : HighPass Single :=
  ⟨f.alpha, f.previousInput, f.previousOutput, f.initialized⟩

/-- What of a processor a result depends on. -/
def processorOf (p : VibrationProcessor) : Processor Single where
  config := ⟨p.config.sampleRateHz, p.config.highPassCutoffHz, p.config.minimumDominantFrequencyHz,
    p.config.accelGPerCount, p.config.gyroDpsPerCount⟩
  valid := p.valid
  filtersInitialized := p.filtersInitialized
  filters := fun member => filterOf (p.filters member)
  conditioned := p.conditioned

variable (M : MathLibrary)

theorem configureFilter_single (f : VibrationProcessing.FirstOrderHighPass)
    (sampleRateHz cutoffHz : Single) :
    (single M).configureFilter (filterOf f) sampleRateHz cutoffHz =
      ((f.configure sampleRateHz cutoffHz).1, filterOf (f.configure sampleRateHz cutoffHz).2) := by
  unfold VibrationProcessing.FirstOrderHighPass.configure
  by_cases h : (!Single.zero.lt sampleRateHz || !Single.zero.lt cutoffHz ||
      (sampleRateHz.mul (.nearest (1 / 2))).le cutoffHz) = true
  · rw [if_pos h]
    exact if_pos h
  · rw [if_neg h]
    exact if_neg h

theorem configureFilters_single (sampleRateHz cutoffHz : Single) (members : List Member)
    (filters : Member → VibrationProcessing.FirstOrderHighPass) :
    Processor.configureFilters (single M) sampleRateHz cutoffHz
        (fun member => filterOf (filters member)) members =
      ((VibrationProcessing.configureFilters sampleRateHz cutoffHz filters members).1,
        fun member => filterOf
          ((VibrationProcessing.configureFilters sampleRateHz cutoffHz filters members).2
            member)) := by
  induction members generalizing filters with
  | nil => rfl
  | cons member rest ih =>
    unfold Processor.configureFilters VibrationProcessing.configureFilters
    rw [configureFilter_single]
    generalize (filters member).configure sampleRateHz cutoffHz = configured
    obtain ⟨accepted, filter⟩ := configured
    cases accepted with
    | false => rfl
    | true =>
      dsimp only
      have hupdate : Function.update (fun member => filterOf (filters member)) member
          (filterOf filter) = fun other => filterOf (Function.update filters member filter other) := by
        funext other
        by_cases hother : other = member
        · subst hother
          rw [Function.update_self, Function.update_self]
        · rw [Function.update_of_ne hother, Function.update_of_ne hother]
      rw [hupdate]
      exact ih _

theorem applyFilter_single (f : VibrationProcessing.FirstOrderHighPass) (input : Single) :
    (single M).applyFilter (filterOf f) input = ((f.apply input).1, filterOf (f.apply input).2) := by
  unfold VibrationProcessing.FirstOrderHighPass.apply
  by_cases h : (!f.initialized) = true
  · rw [if_pos h]
    exact if_pos h
  · rw [if_neg h]
    exact if_neg h

theorem engineeringValues_single (p : VibrationProcessor) (sample : ImuRawSample) :
    Processor.engineeringValues (single M) (processorOf p).config sample =
      VibrationProcessing.engineeringValues p.config sample := by
  funext member
  cases member <;> rfl

theorem filterSamples_single (p : VibrationProcessor) (samples : List ImuRawSample)
    (filters : Member → VibrationProcessing.FirstOrderHighPass) :
    Processor.filterSamples (single M) (processorOf p).config
        (fun member => filterOf (filters member)) samples =
      ((VibrationProcessing.filterSamples p.config filters samples).1,
        fun member => filterOf
          ((VibrationProcessing.filterSamples p.config filters samples).2 member)) := by
  induction samples generalizing filters with
  | nil => rfl
  | cons sample rest ih =>
    unfold Processor.filterSamples VibrationProcessing.filterSamples
    rw [engineeringValues_single]
    simp only [applyFilter_single, ih]

/-- SOURCE: vibration_processor.cpp:29-66 -/
theorem condition_single (p : VibrationProcessor) (samples : List ImuRawSample)
    (sampleRateHz : Single) :
    processorOf (p.condition samples sampleRateHz) =
      Processor.condition (single M) (processorOf p) samples sampleRateHz := by
  unfold VibrationProcessor.condition Processor.condition
  rw [show (processorOf p).filters = fun member => filterOf (p.filters member) from rfl,
    show (processorOf p).config.highPassCutoffHz = p.config.highPassCutoffHz from rfl,
    configureFilters_single]
  generalize VibrationProcessing.configureFilters sampleRateHz p.config.highPassCutoffHz p.filters
    Member.all = configured
  obtain ⟨accepted, filters⟩ := configured
  cases accepted with
  | false => rfl
  | true =>
    dsimp only
    have hstarted : (if (processorOf p).filtersInitialized then
          fun member => filterOf (filters member)
        else Processor.initializeFilters (single M) (processorOf p).config
          (fun member => filterOf (filters member)) samples) =
        fun member => filterOf ((if p.filtersInitialized then filters
          else VibrationProcessing.initializeFilters p.config filters samples) member) := by
      rw [show (processorOf p).filtersInitialized = p.filtersInitialized from rfl]
      by_cases h : p.filtersInitialized = true
      · rw [if_pos h, if_pos h]
      · rw [if_neg h, if_neg h]
        cases samples with
        | nil => rfl
        | cons first rest =>
          show (fun member => (single M).resetFilter (filterOf (filters member))
            (Processor.engineeringValues (single M) (processorOf p).config first member)) = _
          rw [engineeringValues_single]
          rfl
    rw [hstarted, filterSamples_single]
    rfl

/-- A result in floats is what the algorithm calculates of a window. -/
structure Agrees (result : VibrationProcessing.VibrationWindowResult)
    (w : WindowMetrics Single) : Prop where
  rate : result.effectiveSampleRateHz = w.effectiveSampleRateHz
  accelX : result.accelX = metricsOf (w.axis .accelXG)
  accelY : result.accelY = metricsOf (w.axis .accelYG)
  accelZ : result.accelZ = metricsOf (w.axis .accelZG)
  gyroX : result.gyroX = metricsOf (w.axis .gyroXDps)
  gyroY : result.gyroY = metricsOf (w.axis .gyroYDps)
  gyroZ : result.gyroZ = metricsOf (w.axis .gyroZDps)
  frequencyX : result.accelXFrequency = Spectra.metricsOf w.frequencyX
  frequencyY : result.accelYFrequency = Spectra.metricsOf w.frequencyY
  frequencyZ : result.accelZFrequency = Spectra.metricsOf w.frequencyZ

theorem agrees_resultOf (p : VibrationProcessor) (sampleRateHz : Single)
    (clock : Option (UInt32 × UInt32 × UInt32)) (window : List (Member → Single)) :
    Agrees (VibrationProcessing.resultOf M p.config sampleRateHz clock window)
      (Processor.metrics (single M) (Accumulation.double M) (processorOf p).config window
        sampleRateHz) := by
  have haxis := fun member => calculateAxisMetrics_single M (window.map fun sample => sample member)
  have hfrequency := fun member => Spectra.analyze_single M ⟨[], [], []⟩
    (window.map fun sample => sample member) sampleRateHz p.config.minimumDominantFrequencyHz
  unfold VibrationProcessing.resultOf
  dsimp only
  exact ⟨rfl, haxis .accelXG, haxis .accelYG, haxis .accelZG, haxis .gyroXDps, haxis .gyroYDps,
    haxis .gyroZDps, hfrequency .accelXG, hfrequency .accelYG, hfrequency .accelZG⟩

/-- The processor of the firmware does in a call what the algorithm does in floats. -/
def RunsAlike (p : VibrationProcessor) (call : ProcessCall) : Prop :=
  let processed := Processor.process (single M) (Accumulation.double M) (processorOf p)
    call.samples call.effectiveSampleRateHz
  processorOf (p.process M call).2 = processed.2 ∧
    (∀ result, (p.process M call).1 = some result → ∃ w, processed.1 = some w ∧ Agrees result w) ∧
    ((p.process M call).1 = none → processed.1 = none)

/-- SOURCE: vibration_processor.cpp:79-113 -/
theorem runsAlike_process (p : VibrationProcessor) (call : ProcessCall) : RunsAlike M p call := by
  unfold RunsAlike
  by_cases h : VibrationProcessing.IsTaken p call
  · have htaken : (!(processorOf p).valid || call.samples.length != kVibrationWindowSamples) =
        false := by
      rw [show (processorOf p).valid = p.valid from rfl, h.1, h.2]
      decide
    have hprocess : Processor.process (single M) (Accumulation.double M) (processorOf p)
        call.samples call.effectiveSampleRateHz = (some (Processor.metrics (single M)
          (Accumulation.double M) (processorOf p).config (Processor.condition (single M)
            (processorOf p) call.samples (p.usedRateHz call.effectiveSampleRateHz)).conditioned
            (p.usedRateHz call.effectiveSampleRateHz)),
          Processor.condition (single M) (processorOf p) call.samples
            (p.usedRateHz call.effectiveSampleRateHz)) := by
      have hconfig : (Processor.condition (single M) (processorOf p) call.samples
          (p.usedRateHz call.effectiveSampleRateHz)).config = (processorOf p).config := by
        rw [← condition_single]
        unfold processorOf
        rw [VibrationProcessing.config_condition]
      unfold Processor.process
      rw [if_neg (by rw [htaken]; decide)]
      dsimp only
      rw [← hconfig]
      rfl
    have hfirst := VibrationProcessing.process_fst M h
    have hsecond : processorOf (p.process M call).2 =
        processorOf (p.condition call.samples (p.usedRateHz call.effectiveSampleRateHz)) := by
      unfold VibrationProcessor.process
      rw [if_neg (by rw [h.1, h.2]; decide)]
      rfl
    dsimp only
    rw [hprocess, ← condition_single]
    refine ⟨hsecond, fun result hresult => ⟨_, rfl, ?_⟩, fun hnone => ?_⟩
    · rw [hfirst] at hresult
      rw [← Option.some.inj hresult]
      exact agrees_resultOf M p _ _ _
    · rw [hfirst] at hnone
      cases hnone
  · have hprocess := VibrationProcessing.process_of_not_isTaken M h
    have hrefused : Processor.process (single M) (Accumulation.double M) (processorOf p)
        call.samples call.effectiveSampleRateHz = (none, processorOf p) := by
      refine if_pos ?_
      unfold VibrationProcessing.IsTaken at h
      rw [show (processorOf p).valid = p.valid from rfl]
      simp only [Bool.or_eq_true, Bool.not_eq_true', bne_iff_ne]
      by_cases hvalid : p.valid = true
      · exact .inr fun hlength => h ⟨hvalid, hlength⟩
      · exact .inl (Bool.eq_false_iff.mpr hvalid)
    dsimp only
    rw [hprocess, hrefused]
    exact ⟨rfl, fun result hresult => absurd hresult (Option.some_ne_none result).symm,
      fun _ => rfl⟩

end ConditionedWindows

open ConditionedWindows in
/-- **Windows of moderate vibration are within the limits of a summary.**  In exact arithmetic, in
every run that begins with fresh filters: as long as the accelerations of an axis are not spread over
more than 8 g and the rates of turn over more than 2000 degrees per second, each window's metrics are
within the limits that a summary is only sent within, however the sample rate changes in between.
The processor of the firmware runs the same algorithm in floats.
SOURCE: vibration_processor.cpp:29-113, vibration_summary.cpp:9-40 -/
theorem windows_within_limits {p : Processor ℝ} (hconfig : p.config = productionConfig)
    (hfresh : p.filtersInitialized = false) {low high : Member → ℝ}
    (hspread : ∀ member, high member - low member ≤ spread member)
    {calls : List (List ImuRawSample × ℝ)} (hcalls : ∀ call ∈ calls, Plausible low high call) :
    (∀ w ∈ results p calls, WithinLimits w) ∧
      ∀ (M : MathLibrary) (q : VibrationProcessor) (call : ProcessCall), RunsAlike M q call :=
  ⟨results_withinLimits hconfig hspread (.inl hfresh) hcalls, runsAlike_process⟩

open ConditionedWindows in
/-- A sensor at rest. -/
theorem resting_windows_within_limits :
    (∀ member, (0 : ℝ) - 0 ≤ spread member) ∧
      ∀ w ∈ results (Processor.construct exact productionConfig [])
        [(List.replicate 256 ⟨0, 0, 0, 0, 0, 0⟩, 416)], WithinLimits w := by
  have hspread (member : Member) : (0 : ℝ) - 0 ≤ spread member := by
    rw [sub_self]
    unfold spread
    split
    · norm_num
    · norm_num
  refine ⟨hspread, (@windows_within_limits _ rfl rfl (fun _ => 0) (fun _ => 0) hspread _
    fun call hcall => ?_).1⟩
  cases List.mem_singleton.mp hcall
  refine ⟨fun sample hsample member => ?_, .inr (by norm_num), by norm_num⟩
  have hvalue : Processor.engineeringValues exact productionConfig sample member = 0 := by
    rw [List.eq_of_mem_replicate hsample]
    cases member <;> simp [Processor.engineeringValues, ExactTransforms.exact_mul]
  rw [hvalue]
  exact ⟨le_rfl, le_rfl⟩

end SeedMg24.Analysis
