import SeedMg24.Foundation.DoubleArithmetic
import SeedMg24.Model.VibrationService

/-!
# The vibration processor

`vibration_processor.cpp` with the filters, the features and the transform it calls: the samples of
a window are filtered into an array that belongs to the processor, and the metrics are calculated
from this array.  The functions of `math.h` are parameters.
-/

set_option autoImplicit false

namespace SeedMg24.Model.VibrationProcessing

open Foundation
open Vibration (ImuRawSample kVibrationWindowSamples)

/-- The functions of `math.h`, and the conversion of a `ceilf` to an index, which C++ leaves open
for what is no number or negative. -/
structure MathLibrary where
  sqrtf : Single → Single
  sqrt : Double → Double
  cosf : Single → Single
  sinf : Single → Single
  sizeOfCeilf : Single → ℕ

/-! ## The types -/

/-- SOURCE: vibration_processor.h:10-16 -/
structure VibrationProcessorConfig where
  sampleRateHz : Single
  highPassCutoffHz : Single
  minimumDominantFrequencyHz : Single
  accelGPerCount : Single
  gyroDpsPerCount : Single

/-- The members of a conditioned sample, in their order.
SOURCE: vibration_types.h:21-28 -/
inductive Member where
  | accelXG
  | accelYG
  | accelZG
  | gyroXDps
  | gyroYDps
  | gyroZDps
deriving DecidableEq

def Member.all : List Member := [.accelXG, .accelYG, .accelZG, .gyroXDps, .gyroYDps, .gyroZDps]

/-- SOURCE: vibration_types.h:21-28 -/
abbrev ImuEngineeringSample := Member → Single

/-- SOURCE: vibration_types.h:30-38 -/
structure AxisVibrationMetrics where
  mean : Single := .zero
  rms : Single := .zero
  peakAbs : Single := .zero
  peakToPeak : Single := .zero
  standardDeviation : Single := .zero
  crestFactor : Single := .zero
  kurtosis : Single := .zero

/-- SOURCE: vibration_types.h:40-44 -/
structure FrequencyMetrics where
  dominantFrequencyHz : Single := .zero
  dominantAmplitude : Single := .zero
  dominantBin : UInt16 := 0

/-- SOURCE: vibration_types.h:46-63 -/
structure VibrationWindowResult where
  sampleCount : UInt16
  configuredSampleRateHz : Single
  effectiveSampleRateHz : Single
  highPassCutoffHz : Single
  featureProcessingUs : UInt32
  fftProcessingUs : UInt32
  totalProcessingUs : UInt32
  accelX : AxisVibrationMetrics
  accelY : AxisVibrationMetrics
  accelZ : AxisVibrationMetrics
  gyroX : AxisVibrationMetrics
  gyroY : AxisVibrationMetrics
  gyroZ : AxisVibrationMetrics
  accelXFrequency : FrequencyMetrics
  accelYFrequency : FrequencyMetrics
  accelZFrequency : FrequencyMetrics

/-! ## The filter -/

/-- `3.14159265358979323846f`. -/
def kPi : Single := .nearest 3.14159265358979323846

/-- SOURCE: vibration_filter.h:14-18, vibration_filter.cpp:7-8 -/
structure FirstOrderHighPass where
  alpha : Single := .zero
  previousInput : Single := .zero
  previousOutput : Single := .zero
  initialized : Bool := false

namespace FirstOrderHighPass

/-- SOURCE: vibration_filter.cpp:10-17 -/
def configure (f : FirstOrderHighPass) (sampleRateHz cutoffHz : Single) :
    Bool × FirstOrderHighPass :=
  if !Single.zero.lt sampleRateHz || !Single.zero.lt cutoffHz ||
      (sampleRateHz.mul (.nearest (1 / 2))).le cutoffHz then (false, f)
  else
    let dt := (Single.ofNat 1).div sampleRateHz
    let rc := (Single.ofNat 1).div (((Single.ofNat 2).mul kPi).mul cutoffHz)
    (true, { f with alpha := rc.div (rc.add dt) })

/-- SOURCE: vibration_filter.cpp:19-23 -/
def reset (f : FirstOrderHighPass) (initialInput : Single) : FirstOrderHighPass :=
  { f with previousInput := initialInput, previousOutput := .zero, initialized := true }

/-- SOURCE: vibration_filter.cpp:25-34 -/
def apply (f : FirstOrderHighPass) (input : Single) : Single × FirstOrderHighPass :=
  if !f.initialized then (.zero, f.reset input)
  else
    let output := f.alpha.mul ((f.previousOutput.add input).sub f.previousInput)
    (output, { f with previousInput := input, previousOutput := output })

end FirstOrderHighPass

/-! ## The features -/

/-- What the first loop over the samples gathers.
SOURCE: vibration_features.cpp:13-26 -/
structure Extent where
  sum : Double := .zero
  sumSquares : Double := .zero
  minimum : Single
  maximum : Single
  peak : Single

/-- SOURCE: vibration_features.cpp:19-26 -/
def Extent.next (e : Extent) (value : Single) : Extent where
  sum := e.sum.add (.ofSingle value)
  sumSquares := e.sumSquares.add ((Double.ofSingle value).mul (.ofSingle value))
  minimum := if value.lt e.minimum then value else e.minimum
  maximum := if e.maximum.lt value then value else e.maximum
  peak := if e.peak.lt value.abs then value.abs else e.peak

/-- The sums of the second and the fourth powers of the deviations.
SOURCE: vibration_features.cpp:32-40 -/
def moments (mean : Single) (samples : List Single) : Double × Double :=
  samples.foldl (fun sums value =>
    let delta := Double.ofSingle (value.sub mean)
    let square := delta.mul delta
    (sums.1.add square, sums.2.add (square.mul square))) (.zero, .zero)

/-- SOURCE: vibration_features.cpp:7-49 -/
def calculateAxisMetrics (M : MathLibrary) : List Single → AxisVibrationMetrics
  | [] => {}
  | first :: rest =>
    let samples := first :: rest
    let count := Double.nearest samples.length
    let extent := samples.foldl Extent.next
      { minimum := first, maximum := first, peak := first.abs }
    let mean := (extent.sum.div count).toSingle
    let rms := (M.sqrt (extent.sumSquares.div count)).toSingle
    let sums := moments mean samples
    let variance := sums.1.div count
    { mean := mean
      rms := rms
      peakAbs := extent.peak
      peakToPeak := extent.maximum.sub extent.minimum
      standardDeviation := (M.sqrt variance).toSingle
      crestFactor := if (Single.nearest (1 / 10 ^ 12)).lt rms then extent.peak.div rms else .zero
      kurtosis := if (Double.nearest (1 / 10 ^ 20)).lt variance then
        ((sums.2.div count).div (variance.mul variance)).toSingle else .zero }

/-! ## The transform -/

/-- SOURCE: vibration_fft.h:19-22 -/
structure VibrationFft256 where
  real : List Single
  imaginary : List Single
  amplitudes : List Single

/-- One more, with the bits in reverse order: the carry goes down from the bit below the given one.
SOURCE: vibration_fft.cpp:13-15 -/
def reverseCarry (reversed : ℕ) : ℕ → ℕ
  | 0 => reversed
  | bits + 1 =>
    if reversed.testBit bits then reverseCarry (reversed ^^^ 2 ^ bits) bits
    else reversed ^^^ 2 ^ bits

/-- SOURCE: vibration_fft.cpp:17-22 -/
def exchange (values : List Single) (index other : ℕ) : List Single :=
  (values.set index (values.getD other .zero)).set other (values.getD index .zero)

/-- SOURCE: vibration_fft.cpp:12-25 -/
def permute (real imaginary : List Single) : List Single × List Single :=
  ((List.range' 1 (kVibrationWindowSamples - 1)).foldl (fun state index =>
    let reversed := reverseCarry state.1 8
    if index < reversed then
      (reversed, exchange state.2.1 index reversed, exchange state.2.2 index reversed)
    else (reversed, state.2)) (0, real, imaginary)).2

/-- The arrays and the twiddle factor. -/
structure Butterflies where
  real : List Single
  imaginary : List Single
  twiddleReal : Single
  twiddleImaginary : Single

/-- SOURCE: vibration_fft.cpp:35-45 -/
def Butterflies.next (b : Butterflies) (rootReal rootImaginary : Single) (even odd : ℕ) :
    Butterflies :=
  let realAt := fun index => b.real.getD index .zero
  let imaginaryAt := fun index => b.imaginary.getD index .zero
  let oddReal := ((realAt odd).mul b.twiddleReal).sub ((imaginaryAt odd).mul b.twiddleImaginary)
  let oddImaginary :=
    ((realAt odd).mul b.twiddleImaginary).add ((imaginaryAt odd).mul b.twiddleReal)
  { real := (b.real.set odd ((realAt even).sub oddReal)).set even ((realAt even).add oddReal)
    imaginary := (b.imaginary.set odd ((imaginaryAt even).sub oddImaginary)).set even
      ((imaginaryAt even).add oddImaginary)
    twiddleReal := (b.twiddleReal.mul rootReal).sub (b.twiddleImaginary.mul rootImaginary)
    twiddleImaginary := (b.twiddleReal.mul rootImaginary).add (b.twiddleImaginary.mul rootReal) }

/-- The butterflies of one length.
SOURCE: vibration_fft.cpp:28-51 -/
def stage (M : MathLibrary) (arrays : List Single × List Single) (length : ℕ) :
    List Single × List Single :=
  let angle := (((Single.ofNat 2).neg).mul kPi).div (.ofNat length)
  (List.range (kVibrationWindowSamples / length)).foldl (fun arrays block =>
    let base := block * length
    let started : Butterflies :=
      { real := arrays.1, imaginary := arrays.2, twiddleReal := .ofNat 1, twiddleImaginary := .zero }
    let b := (List.range (length / 2)).foldl (fun (b : Butterflies) offset =>
      b.next (M.cosf angle) (M.sinf angle) (base + offset) (base + offset + length / 2)) started
    (b.real, b.imaginary)) arrays

/-- SOURCE: vibration_fft.cpp:10-53 -/
def transform (M : MathLibrary) (real imaginary : List Single) : List Single × List Single :=
  ((List.range 8).map fun exponent => 2 ^ (exponent + 1)).foldl (stage M) (permute real imaginary)

/-- SOURCE: vibration_fft.cpp:65-66 -/
def hann (M : MathLibrary) (index : ℕ) : Single :=
  (Single.nearest (1 / 2)).sub ((Single.nearest (1 / 2)).mul (M.cosf
    ((((Single.ofNat 2).mul kPi).mul (.ofNat index)).div (.ofNat (kVibrationWindowSamples - 1)))))

/-- SOURCE: vibration_fft.cpp:79-80 -/
def amplitudeAt (M : MathLibrary) (real imaginary : List Single) (windowSum : Single) (bin : ℕ) :
    Single :=
  let realBin := real.getD bin .zero
  let imaginaryBin := imaginary.getD bin .zero
  let magnitude := M.sqrtf ((realBin.mul realBin).add (imaginaryBin.mul imaginaryBin))
  if bin = 0 then magnitude.div windowSum else ((Single.ofNat 2).mul magnitude).div windowSum

/-- SOURCE: vibration_fft.cpp:57-89 -/
def VibrationFft256.analyze (M : MathLibrary) (fft : VibrationFft256) (samples : List Single)
    (sampleRateHz minimumFrequencyHz : Single) : FrequencyMetrics × VibrationFft256 :=
  if !Single.zero.lt sampleRateHz then ({}, fft)
  else
    let windows := (List.range kVibrationWindowSamples).map (hann M)
    let arrays := transform M (samples.zipWith Single.mul windows)
      (List.replicate kVibrationWindowSamples .zero)
    let windowSum := windows.foldl Single.add .zero
    let binHz := sampleRateHz.div (.ofNat kVibrationWindowSamples)
    let firstBin := max 1 (M.sizeOfCeilf (minimumFrequencyHz.div binHz))
    if kVibrationWindowSamples / 2 ≤ firstBin then
      ({}, { fft with real := arrays.1, imaginary := arrays.2 })
    else
      let amplitudes := (List.range (kVibrationWindowSamples / 2)).map
        (amplitudeAt M arrays.1 arrays.2 windowSum)
      let dominant := amplitudes.zipIdx.foldl (fun (dominant : Single × ℕ) amplitude =>
        if firstBin ≤ amplitude.2 ∧ dominant.1.lt amplitude.1 then amplitude else dominant)
        (.zero, 0)
      ({ dominantFrequencyHz := (Single.ofNat dominant.2).mul binHz
         dominantAmplitude := dominant.1
         dominantBin := UInt16.ofNat dominant.2 },
        { real := arrays.1, imaginary := arrays.2, amplitudes := amplitudes })

/-! ## The processor -/

/-- SOURCE: vibration_processor.h:40-47 -/
structure VibrationProcessor where
  config : VibrationProcessorConfig
  valid : Bool
  filtersInitialized : Bool
  conditioned : List ImuEngineeringSample
  filters : Member → FirstOrderHighPass
  fftInput : List Single
  fft : VibrationFft256

/-- The filters are configured one after the other, up to the first that refuses.
SOURCE: vibration_processor.cpp:33-36 -/
def configureFilters (sampleRateHz cutoffHz : Single) (filters : Member → FirstOrderHighPass) :
    List Member → Bool × (Member → FirstOrderHighPass)
  | [] => (true, filters)
  | member :: rest =>
    match (filters member).configure sampleRateHz cutoffHz with
    | (false, _) => (false, filters)
    | (true, filter) =>
      configureFilters sampleRateHz cutoffHz (Function.update filters member filter) rest

/-- A sample in engineering units.
SOURCE: vibration_processor.cpp:50-57 -/
def engineeringValues (config : VibrationProcessorConfig) (sample : ImuRawSample) :
    ImuEngineeringSample
  | .accelXG => (Single.ofInt sample.accelX.toInt).mul config.accelGPerCount
  | .accelYG => (Single.ofInt sample.accelY.toInt).mul config.accelGPerCount
  | .accelZG => (Single.ofInt sample.accelZ.toInt).mul config.accelGPerCount
  | .gyroXDps => (Single.ofInt sample.gyroX.toInt).mul config.gyroDpsPerCount
  | .gyroYDps => (Single.ofInt sample.gyroY.toInt).mul config.gyroDpsPerCount
  | .gyroZDps => (Single.ofInt sample.gyroZ.toInt).mul config.gyroDpsPerCount

/-- The samples go through the filters one after the other.
SOURCE: vibration_processor.cpp:49-65 -/
def filterSamples (config : VibrationProcessorConfig) (filters : Member → FirstOrderHighPass) :
    List ImuRawSample → List ImuEngineeringSample × (Member → FirstOrderHighPass)
  | [] => ([], filters)
  | sample :: rest =>
    let values := engineeringValues config sample
    let filtered := filterSamples config
      (fun member => ((filters member).apply (values member)).2) rest
    ((fun member => ((filters member).apply (values member)).1) :: filtered.1, filtered.2)

/-- The filters begin at the first sample of the first window.
SOURCE: vibration_processor.cpp:37-48 -/
def initializeFilters (config : VibrationProcessorConfig)
    (filters : Member → FirstOrderHighPass) : List ImuRawSample → Member → FirstOrderHighPass
  | [] => filters
  | first :: _ => fun member => (filters member).reset (engineeringValues config first member)

/-- What a call of `process` is given, and what the clock shows in it, if there is one. -/
structure ProcessCall where
  samples : List ImuRawSample
  effectiveSampleRateHz : Single
  clock : Option (UInt32 × UInt32 × UInt32)

namespace VibrationProcessor

/-- The constructor; what the arrays hold is not said.
SOURCE: vibration_processor.cpp:17-27 -/
def construct (config : VibrationProcessorConfig) (conditioned : List ImuEngineeringSample)
    (fftInput : List Single) (fft : VibrationFft256) : VibrationProcessor where
  config := config
  valid := Single.zero.lt config.sampleRateHz && Single.zero.lt config.accelGPerCount &&
    Single.zero.lt config.gyroDpsPerCount && Member.all.all fun _ =>
      (({} : FirstOrderHighPass).configure config.sampleRateHz config.highPassCutoffHz).1
  filtersInitialized := false
  conditioned := conditioned
  filters _ := (({} : FirstOrderHighPass).configure config.sampleRateHz config.highPassCutoffHz).2
  fftInput := fftInput
  fft := fft

/-- SOURCE: vibration_processor.cpp:29-66 -/
def condition (p : VibrationProcessor) (samples : List ImuRawSample)
    (effectiveSampleRateHz : Single) : VibrationProcessor :=
  match configureFilters effectiveSampleRateHz p.config.highPassCutoffHz p.filters Member.all with
  | (false, filters) => { p with filters }
  | (true, filters) =>
    let started := if p.filtersInitialized then filters
      else initializeFilters p.config filters samples
    let filtered := filterSamples p.config started samples
    { p with conditioned := filtered.1, filters := filtered.2, filtersInitialized := true }

/-- The features of one axis. -/
def axisMetrics (M : MathLibrary) (p : VibrationProcessor) (member : Member) :
    AxisVibrationMetrics :=
  calculateAxisMetrics M (p.conditioned.map fun sample => sample member)

/-- SOURCE: vibration_processor.cpp:68-77 -/
def analyzeAxis (M : MathLibrary) (p : VibrationProcessor) (member : Member)
    (sampleRateHz : Single) : FrequencyMetrics × VibrationProcessor :=
  let fftInput := p.conditioned.map fun sample => sample member
  let analyzed := p.fft.analyze M fftInput sampleRateHz p.config.minimumDominantFrequencyHz
  (analyzed.1, { p with fftInput := fftInput, fft := analyzed.2 })

/-- The rate a window is processed with.
SOURCE: vibration_processor.cpp:87-89 -/
def usedRateHz (p : VibrationProcessor) (effectiveSampleRateHz : Single) : Single :=
  if !Single.zero.lt effectiveSampleRateHz then p.config.sampleRateHz else effectiveSampleRateHz

/-- SOURCE: vibration_processor.cpp:79-113 -/
def process (M : MathLibrary) (p : VibrationProcessor) (call : ProcessCall) :
    Option VibrationWindowResult × VibrationProcessor :=
  if !p.valid || call.samples.length != kVibrationWindowSamples then (none, p)
  else
    let rate := p.usedRateHz call.effectiveSampleRateHz
    let p := p.condition call.samples rate
    let x := p.analyzeAxis M .accelXG rate
    let y := x.2.analyzeAxis M .accelYG rate
    let z := y.2.analyzeAxis M .accelZG rate
    let clock := call.clock.getD (0, 0, 0)
    (some {
      sampleCount := UInt16.ofNat kVibrationWindowSamples
      configuredSampleRateHz := p.config.sampleRateHz
      effectiveSampleRateHz := rate
      highPassCutoffHz := p.config.highPassCutoffHz
      featureProcessingUs := clock.2.1 - clock.1
      fftProcessingUs := clock.2.2 - clock.2.1
      totalProcessingUs := clock.2.2 - clock.1
      accelX := p.axisMetrics M .accelXG
      accelY := p.axisMetrics M .accelYG
      accelZ := p.axisMetrics M .accelZG
      gyroX := p.axisMetrics M .gyroXDps
      gyroY := p.axisMetrics M .gyroYDps
      gyroZ := p.axisMetrics M .gyroZDps
      accelXFrequency := x.1
      accelYFrequency := y.1
      accelZFrequency := z.1 }, z.2)

/-- SOURCE: vibration_processor.h:25 -/
def resetFilterState (p : VibrationProcessor) : VibrationProcessor :=
  { p with filtersInitialized := false }

end VibrationProcessor

/-- A call of the processor. -/
inductive ProcessorCall where
  | process (call : ProcessCall)
  | resetFilterState

/-- One call. -/
def VibrationProcessor.next (M : MathLibrary) (p : VibrationProcessor) :
    ProcessorCall → VibrationProcessor
  | .process call => (p.process M call).2
  | .resetFilterState => p.resetFilterState

end SeedMg24.Model.VibrationProcessing
