import SeedMg24.Foundation.Runs
import SeedMg24.Model.VibrationProcessor

/-!
# A window describes its own samples

The metrics are calculated from an array of the processor.  A window is filtered into it only if the
filters can be configured with its rate; if not, the metrics are those of whatever the array holds,
and the caller is not told.
-/

set_option autoImplicit false

namespace SeedMg24.Analysis

open Foundation SeedMg24.Model.VibrationProcessing
open SeedMg24.Model.Vibration (ImuRawSample kVibrationWindowSamples)

namespace VibrationProcessing

variable {M : MathLibrary} {p : VibrationProcessor} {call : ProcessCall}

/-! ## Filters -/

/-- The filters can be configured with a rate and a cutoff.
SOURCE: vibration_filter.cpp:11-12 -/
def IsConfigurable (sampleRateHz cutoffHz : Single) : Prop :=
  Single.zero.lt sampleRateHz = true ∧ Single.zero.lt cutoffHz = true ∧
    (sampleRateHz.mul (.nearest (1 / 2))).le cutoffHz = false

instance (sampleRateHz cutoffHz : Single) : Decidable (IsConfigurable sampleRateHz cutoffHz) :=
  inferInstanceAs (Decidable (_ ∧ _ ∧ _))

/-- Whether a filter is configured depends on the rate and the cutoff alone. -/
theorem configure_fst (f : FirstOrderHighPass) (sampleRateHz cutoffHz : Single) :
    (f.configure sampleRateHz cutoffHz).1 = decide (IsConfigurable sampleRateHz cutoffHz) := by
  by_cases h : IsConfigurable sampleRateHz cutoffHz
  · rw [decide_eq_true h]
    unfold FirstOrderHighPass.configure
    rw [if_neg (by rw [h.1, h.2.1, h.2.2]; decide)]
  · rw [decide_eq_false h]
    have hrefused : (!Single.zero.lt sampleRateHz || !Single.zero.lt cutoffHz ||
        (sampleRateHz.mul (.nearest (1 / 2))).le cutoffHz) = true := by
      by_contra hnot
      simp only [Bool.or_eq_true, Bool.not_eq_true', not_or, Bool.not_eq_false,
        Bool.not_eq_true] at hnot
      exact h ⟨hnot.1.1, hnot.1.2, hnot.2⟩
    unfold FirstOrderHighPass.configure
    rw [if_pos hrefused]

/-- Either all filters are configured or none.
SOURCE: vibration_processor.cpp:33-36 -/
theorem configureFilters_of_isConfigurable {sampleRateHz cutoffHz : Single}
    (h : IsConfigurable sampleRateHz cutoffHz) (filters : Member → FirstOrderHighPass)
    (members : List Member) :
    (configureFilters sampleRateHz cutoffHz filters members).1 = true := by
  induction members generalizing filters with
  | nil => rfl
  | cons member rest ih =>
    have hfirst := configure_fst (filters member) sampleRateHz cutoffHz
    rw [decide_eq_true h] at hfirst
    unfold configureFilters
    split
    · rename_i hconfigured
      rw [hconfigured] at hfirst
      cases hfirst
    · exact ih _

theorem configureFilters_of_not {sampleRateHz cutoffHz : Single}
    (h : ¬ IsConfigurable sampleRateHz cutoffHz) (filters : Member → FirstOrderHighPass) :
    configureFilters sampleRateHz cutoffHz filters Member.all = (false, filters) := by
  have hfirst := configure_fst (filters .accelXG) sampleRateHz cutoffHz
  rw [decide_eq_false h] at hfirst
  unfold Member.all configureFilters
  split
  · rfl
  · rename_i hconfigured
    rw [hconfigured] at hfirst
    cases hfirst

/-! ## The result -/

/-- The samples of a call, filtered from the state the filters are in. -/
def ownWindow (p : VibrationProcessor) (call : ProcessCall) : List ImuEngineeringSample :=
  let filters := (configureFilters (p.usedRateHz call.effectiveSampleRateHz)
    p.config.highPassCutoffHz p.filters Member.all).2
  (filterSamples p.config (if p.filtersInitialized then filters
    else initializeFilters p.config filters call.samples) call.samples).1

/-- What the array holds after `condition`.
SOURCE: vibration_processor.cpp:29-66 -/
theorem conditioned_condition (p : VibrationProcessor) (call : ProcessCall) :
    (p.condition call.samples (p.usedRateHz call.effectiveSampleRateHz)).conditioned =
      if IsConfigurable (p.usedRateHz call.effectiveSampleRateHz) p.config.highPassCutoffHz then
        ownWindow p call else p.conditioned := by
  unfold VibrationProcessor.condition ownWindow
  by_cases h : IsConfigurable (p.usedRateHz call.effectiveSampleRateHz) p.config.highPassCutoffHz
  · have hall := configureFilters_of_isConfigurable h p.filters Member.all
    rw [if_pos h]
    split
    · rename_i hconfigured
      rw [hconfigured] at hall
      cases hall
    · rename_i filters hconfigured
      dsimp only
      rw [hconfigured]
  · rw [if_neg h, configureFilters_of_not h]

theorem config_condition (p : VibrationProcessor) (samples : List ImuRawSample)
    (sampleRateHz : Single) : (p.condition samples sampleRateHz).config = p.config := by
  unfold VibrationProcessor.condition
  split
  · rfl
  · rfl

/-- The transform of an array does not depend on the arrays it is calculated in. -/
theorem analyze_fst (fft fft' : VibrationFft256) (samples : List Single)
    (sampleRateHz minimumFrequencyHz : Single) :
    (fft.analyze M samples sampleRateHz minimumFrequencyHz).1 =
      (fft'.analyze M samples sampleRateHz minimumFrequencyHz).1 := by
  unfold VibrationFft256.analyze
  split
  · rfl
  · dsimp only
    split
    · rfl
    · rfl

/-- What is calculated from a conditioned window. -/
def resultOf (M : MathLibrary) (config : VibrationProcessorConfig) (sampleRateHz : Single)
    (clock : Option (UInt32 × UInt32 × UInt32)) (window : List ImuEngineeringSample) :
    VibrationWindowResult :=
  let values := fun (member : Member) => window.map fun sample => sample member
  let frequencies := fun (member : Member) => (VibrationFft256.analyze M ⟨[], [], []⟩
    (values member) sampleRateHz config.minimumDominantFrequencyHz).1
  { sampleCount := UInt16.ofNat kVibrationWindowSamples
    configuredSampleRateHz := config.sampleRateHz
    effectiveSampleRateHz := sampleRateHz
    highPassCutoffHz := config.highPassCutoffHz
    featureProcessingUs := (clock.getD (0, 0, 0)).2.1 - (clock.getD (0, 0, 0)).1
    fftProcessingUs := (clock.getD (0, 0, 0)).2.2 - (clock.getD (0, 0, 0)).2.1
    totalProcessingUs := (clock.getD (0, 0, 0)).2.2 - (clock.getD (0, 0, 0)).1
    accelX := calculateAxisMetrics M (values .accelXG)
    accelY := calculateAxisMetrics M (values .accelYG)
    accelZ := calculateAxisMetrics M (values .accelZG)
    gyroX := calculateAxisMetrics M (values .gyroXDps)
    gyroY := calculateAxisMetrics M (values .gyroYDps)
    gyroZ := calculateAxisMetrics M (values .gyroZDps)
    accelXFrequency := frequencies .accelXG
    accelYFrequency := frequencies .accelYG
    accelZFrequency := frequencies .accelZG }

/-- The processor takes the call. -/
def IsTaken (p : VibrationProcessor) (call : ProcessCall) : Prop :=
  p.valid = true ∧ call.samples.length = kVibrationWindowSamples

/-- **The result is calculated from what the array holds after `condition`.**
SOURCE: vibration_processor.cpp:79-113 -/
theorem process_fst (M : MathLibrary) (h : IsTaken p call) :
    (p.process M call).1 = some (resultOf M p.config (p.usedRateHz call.effectiveSampleRateHz)
      call.clock
      (p.condition call.samples (p.usedRateHz call.effectiveSampleRateHz)).conditioned) := by
  have hconfig := config_condition p call.samples (p.usedRateHz call.effectiveSampleRateHz)
  unfold VibrationProcessor.process
  rw [if_neg (by rw [h.1, h.2]; decide)]
  refine congrArg some ?_
  unfold resultOf VibrationProcessor.analyzeAxis VibrationProcessor.axisMetrics
  dsimp only
  rw [hconfig]
  congr 1 <;> exact analyze_fst _ _ _ _ _

/-- The result, with other contents of the arrays. -/
theorem process_withArrays (M : MathLibrary) (h : IsTaken p call)
    (conditioned : List ImuEngineeringSample) (fftInput : List Single) (fft : VibrationFft256) :
    ({ p with conditioned, fftInput, fft }.process M call).1 =
      some (resultOf M p.config (p.usedRateHz call.effectiveSampleRateHz) call.clock
        (if IsConfigurable (p.usedRateHz call.effectiveSampleRateHz) p.config.highPassCutoffHz then
          ownWindow p call else conditioned)) := by
  rw [process_fst M (p := { p with conditioned, fftInput, fft }) h,
    conditioned_condition { p with conditioned, fftInput, fft }]
  rfl

theorem process_of_not_isTaken (M : MathLibrary) (h : ¬ IsTaken p call) :
    p.process M call = (none, p) := by
  unfold VibrationProcessor.process
  refine if_pos ?_
  unfold IsTaken at h
  simp only [Bool.or_eq_true, Bool.not_eq_true', bne_iff_ne]
  by_cases hvalid : p.valid = true
  · exact .inr fun hlength => h ⟨hvalid, hlength⟩
  · exact .inl (Bool.eq_false_iff.mpr hvalid)

/-! ## Peaks -/

theorem not_lt_self (x : Single) : x.lt x = false := by
  unfold Single.lt
  cases x.le x with
  | false => rfl
  | true => rfl

/-- The peak of samples that are all the same. -/
theorem peak_replicate (x : Single) (count : ℕ) (e : Extent) (h : e.peak = x.abs) :
    ((List.replicate count x).foldl Extent.next e).peak = x.abs := by
  induction count generalizing e with
  | zero => exact h
  | succ count ih =>
    rw [List.replicate_succ, List.foldl_cons]
    apply ih
    unfold Extent.next
    dsimp only
    rw [h, not_lt_self]
    rfl

theorem peakAbs_replicate (M : MathLibrary) (x : Single) (count : ℕ) :
    (calculateAxisMetrics M (List.replicate (count + 1) x)).peakAbs = x.abs := by
  have hpeak := peak_replicate x (count + 1) { minimum := x, maximum := x, peak := x.abs } rfl
  rw [List.replicate_succ] at hpeak ⊢
  exact hpeak

/-- A window of samples that are all the same. -/
def constantWindow (x : Single) : List ImuEngineeringSample :=
  List.replicate kVibrationWindowSamples fun _ => x

theorem peakAbs_constantWindow (M : MathLibrary) (config : VibrationProcessorConfig)
    (sampleRateHz : Single) (clock : Option (UInt32 × UInt32 × UInt32)) (x : Single) :
    (resultOf M config sampleRateHz clock (constantWindow x)).accelX.peakAbs = x.abs := by
  unfold resultOf constantWindow
  dsimp only
  rw [List.map_replicate]
  exact peakAbs_replicate M x 255

/-! ## Calls -/

/-- A result is calculated from the samples of the call and the filters, and would be the same
whatever the arrays of the processor held. -/
structure DescribesOwn (M : MathLibrary) (p : VibrationProcessor) (call : ProcessCall)
    (result : VibrationWindowResult) : Prop where
  own : result = resultOf M p.config (p.usedRateHz call.effectiveSampleRateHz) call.clock
    (ownWindow p call)
  independent : ∀ (conditioned : List ImuEngineeringSample) (fftInput : List Single)
    (fft : VibrationFft256), conditioned.length = kVibrationWindowSamples →
      ({ p with conditioned, fftInput, fft }.process M call).1 = some result

/-- Whatever `process` returns describes the samples it was given. -/
def DescribesOwnSamples (M : MathLibrary) (p : VibrationProcessor) : ProcessorCall → Prop
  | .process call => ∀ result, (p.process M call).1 = some result → DescribesOwn M p call result
  | .resetFilterState => True

/-- The cutoff of the filters lies below half of the rate a window is processed with. -/
def IsBelowNyquist (p : VibrationProcessor) : ProcessorCall → Prop
  | .process call => IsTaken p call →
      ((p.usedRateHz call.effectiveSampleRateHz).mul (.nearest (1 / 2))).le
        p.config.highPassCutoffHz = false
  | .resetFilterState => True

/-- A processor that is valid has a rate and a cutoff. -/
def IsSound (p : VibrationProcessor) : Prop :=
  p.valid = true → Single.zero.lt p.config.sampleRateHz = true ∧
    Single.zero.lt p.config.highPassCutoffHz = true

theorem isSound_construct (config : VibrationProcessorConfig)
    (conditioned : List ImuEngineeringSample) (fftInput : List Single) (fft : VibrationFft256) :
    IsSound (.construct config conditioned fftInput fft) := by
  intro hvalid
  unfold VibrationProcessor.construct at hvalid ⊢
  dsimp only at hvalid ⊢
  rw [configure_fst] at hvalid
  simp only [Bool.and_eq_true, Member.all, List.all_cons, decide_eq_true_eq] at hvalid
  have hconfigurable := hvalid.2.1
  exact ⟨hconfigurable.1, hconfigurable.2.1⟩

theorem IsSound.next (h : IsSound p) (M : MathLibrary) (e : ProcessorCall) :
    IsSound (p.next M e) := by
  cases e with
  | resetFilterState => exact h
  | process call =>
    show IsSound (p.process M call).2
    have hcondition (sampleRateHz : Single) :
        IsSound (p.condition call.samples sampleRateHz) := by
      unfold VibrationProcessor.condition
      split
      · exact h
      · exact h
    unfold VibrationProcessor.process
    split
    · exact h
    · exact hcondition _

/-- A valid processor can use every rate above twice its cutoff. -/
theorem IsSound.isConfigurable_iff (h : IsSound p) (hvalid : p.valid = true)
    (sampleRateHz : Single) :
    IsConfigurable (p.usedRateHz sampleRateHz) p.config.highPassCutoffHz ↔
      ((p.usedRateHz sampleRateHz).mul (.nearest (1 / 2))).le p.config.highPassCutoffHz =
        false := by
  obtain ⟨hrate, hcutoff⟩ := h hvalid
  have hused : Single.zero.lt (p.usedRateHz sampleRateHz) = true := by
    unfold VibrationProcessor.usedRateHz
    split
    · exact hrate
    · rename_i hpositive
      simpa using hpositive
  exact ⟨fun hconfigurable => hconfigurable.2.2, fun hbelow => ⟨hused, hcutoff, hbelow⟩⟩

/-- **A call describes its own samples exactly if the filters can be configured.** -/
theorem IsSound.describes_iff (h : IsSound p) (M : MathLibrary) (e : ProcessorCall) :
    DescribesOwnSamples M p e ↔ IsBelowNyquist p e := by
  cases e with
  | resetFilterState => exact Iff.rfl
  | process call =>
    by_cases htaken : IsTaken p call
    swap
    · refine ⟨fun _ hnot => absurd hnot htaken, fun _ result hresult => ?_⟩
      rw [process_of_not_isTaken M htaken] at hresult
      cases hresult
    have hiff := h.isConfigurable_iff htaken.1 call.effectiveSampleRateHz
    constructor
    · intro hown _
      rw [← hiff]
      by_contra hnot
      -- two contents of the array give two peaks
      have hresult := process_withArrays M htaken p.conditioned p.fftInput p.fft
      rw [if_neg hnot] at hresult
      have hpeak (x : Single) : (resultOf M p.config (p.usedRateHz call.effectiveSampleRateHz)
          call.clock p.conditioned).accelX.peakAbs = x.abs := by
        have hstale := (hown _ hresult).independent (constantWindow x) p.fftInput p.fft
          List.length_replicate
        rw [process_withArrays M htaken, if_neg hnot, Option.some_inj] at hstale
        rw [← hstale]
        exact peakAbs_constantWindow M _ _ _ x
      have hsame := (hpeak .zero).symm.trans (hpeak (.ofNat 1))
      revert hsame
      decide +kernel
    · intro hbelow result hresult
      have hconfigurable := hiff.mpr (hbelow htaken)
      rw [process_fst M htaken, conditioned_condition, if_pos hconfigurable,
        Option.some_inj] at hresult
      refine ⟨hresult.symm, fun conditioned fftInput fft _ => ?_⟩
      rw [process_withArrays M htaken, if_pos hconfigurable, hresult]

/-! ## Runs -/

/-- **When a processed window describes its own samples.**  Whatever a processor is called with, all
results are calculated from the samples of their own calls and the state of the filters, exactly if
the cutoff lies below half of the rate of every window that is taken; a window with another rate is
described by what the arrays held before.
SOURCE: vibration_processor.cpp:29-113, vibration_filter.cpp:10-17 -/
theorem describesOwnSamples_iff (M : MathLibrary) (config : VibrationProcessorConfig)
    (conditioned : List ImuEngineeringSample) (fftInput : List Single) (fft : VibrationFft256)
    (calls : List ProcessorCall) :
    Runs.Throughout (VibrationProcessor.next M) (DescribesOwnSamples M)
        (.construct config conditioned fftInput fft) calls ↔
      Runs.Throughout (VibrationProcessor.next M) IsBelowNyquist
        (.construct config conditioned fftInput fft) calls :=
  Runs.throughout_iff_throughout (VibrationProcessor.next M) (I := IsSound)
    (isSound_construct config conditioned fftInput fft) (fun _ e h _ => h.next M e)
    (fun _ e h => h.describes_iff M e)

/-- The processor of the node.
SOURCE: vibration_service.cpp:12-20 -/
def nodeConfig : VibrationProcessorConfig where
  sampleRateHz := .ofNat 416
  highPassCutoffHz := .ofNat 2
  minimumDominantFrequencyHz := .ofNat 5
  accelGPerCount := .nearest (16 / 32768)
  gyroDpsPerCount := .nearest (2000 / 32768)

/-- A window of a sensor at rest, with a rate of 3 Hz. -/
def slowWindow : ProcessCall where
  samples := List.replicate kVibrationWindowSamples ⟨0, 0, 0, 0, 0, 0⟩
  effectiveSampleRateHz := .ofNat 3
  clock := none

/-- Nothing was written into the array before the window at 3 Hz is described from it. -/
theorem not_describesOwnSamples : ¬ ∀ M : MathLibrary,
    Runs.Throughout (VibrationProcessor.next M) (DescribesOwnSamples M)
      (.construct nodeConfig (constantWindow .zero) [] ⟨[], [], []⟩) [.process slowWindow] := by
  intro h
  have hfirst := h ⟨id, id, id, id, fun _ => 0⟩ [] (.process slowWindow) (List.prefix_refl _)
  rw [Runs.after_nil, (isSound_construct _ _ _ _).describes_iff] at hfirst
  have hbelow := hfirst ⟨by decide +kernel, List.length_replicate⟩
  revert hbelow
  decide +kernel

end VibrationProcessing

end SeedMg24.Analysis
