import Mathlib.Analysis.SpecialFunctions.Trigonometric.Basic
import SeedMg24.Model.VibrationProcessor

/-!
# The vibration algorithms over an arithmetic

The filter, the features and the transform of the vibration library, with the arithmetic they are
calculated in as a parameter.  In 32- and 64-bit floats they are the processor's own functions; in
exact arithmetic they say what these functions approximate.
-/

set_option autoImplicit false

namespace SeedMg24.Model.VibrationArithmetic

open Foundation
open Vibration (ImuRawSample kVibrationWindowSamples)
open VibrationProcessing (MathLibrary Member reverseCarry kPi)

/-- The operations the algorithms use. -/
structure Arithmetic (α : Type) where
  /-- The number a literal stands for. -/
  literal : ℚ → α
  zero : α
  pi : α
  neg : α → α
  abs : α → α
  add : α → α → α
  sub : α → α → α
  mul : α → α → α
  div : α → α → α
  lt : α → α → Bool
  le : α → α → Bool
  sqrt : α → α
  cos : α → α
  sin : α → α
  /-- The index a `ceilf` is converted to. -/
  sizeOfCeil : α → ℕ

namespace Arithmetic

/-- The arithmetic of `float`, with the functions of `math.h`. -/
def single (M : MathLibrary) : Arithmetic Single where
  literal := .nearest
  zero := .zero
  pi := kPi
  neg := .neg
  abs := .abs
  add := .add
  sub := .sub
  mul := .mul
  div := .div
  lt := Single.lt
  le := Single.le
  sqrt := M.sqrtf
  cos := M.cosf
  sin := M.sinf
  sizeOfCeil := M.sizeOfCeilf

/-- Exact arithmetic. -/
noncomputable def exact : Arithmetic ℝ where
  literal q := q
  zero := 0
  pi := Real.pi
  neg x := -x
  abs x := |x|
  add x y := x + y
  sub x y := x - y
  mul x y := x * y
  div x y := x / y
  lt x y := decide (x < y)
  le x y := decide (x ≤ y)
  sqrt := Real.sqrt
  cos := Real.cos
  sin := Real.sin
  sizeOfCeil x := ⌈x⌉₊

variable {α : Type} (A : Arithmetic α)

/-- The conversion of an integer. -/
def ofNat (n : ℕ) : α := A.literal n

/-! ## The transform -/

/-- SOURCE: vibration_fft.cpp:17-22 -/
def exchange (values : List α) (index other : ℕ) : List α :=
  (values.set index (values.getD other A.zero)).set other (values.getD index A.zero)

/-- SOURCE: vibration_fft.cpp:13-24 -/
def permuteNext (bits : ℕ) (state : ℕ × List α × List α) (index : ℕ) : ℕ × List α × List α :=
  let reversed := reverseCarry state.1 bits
  if index < reversed then
    (reversed, A.exchange state.2.1 index reversed, A.exchange state.2.2 index reversed)
  else (reversed, state.2)

/-- SOURCE: vibration_fft.cpp:12-25 -/
def permute (bits : ℕ) (real imaginary : List α) : List α × List α :=
  ((List.range' 1 (2 ^ bits - 1)).foldl (A.permuteNext bits) (0, real, imaginary)).2

/-- The arrays and the twiddle factor. -/
structure Butterflies (α : Type) where
  real : List α
  imaginary : List α
  twiddleReal : α
  twiddleImaginary : α

/-- SOURCE: vibration_fft.cpp:35-45 -/
def nextButterfly (b : Butterflies α) (rootReal rootImaginary : α) (even odd : ℕ) :
    Butterflies α :=
  let realAt := fun index => b.real.getD index A.zero
  let imaginaryAt := fun index => b.imaginary.getD index A.zero
  let oddReal := A.sub (A.mul (realAt odd) b.twiddleReal) (A.mul (imaginaryAt odd)
    b.twiddleImaginary)
  let oddImaginary :=
    A.add (A.mul (realAt odd) b.twiddleImaginary) (A.mul (imaginaryAt odd) b.twiddleReal)
  { real := (b.real.set odd (A.sub (realAt even) oddReal)).set even (A.add (realAt even) oddReal)
    imaginary := (b.imaginary.set odd (A.sub (imaginaryAt even) oddImaginary)).set even
      (A.add (imaginaryAt even) oddImaginary)
    twiddleReal := A.sub (A.mul b.twiddleReal rootReal) (A.mul b.twiddleImaginary rootImaginary)
    twiddleImaginary :=
      A.add (A.mul b.twiddleReal rootImaginary) (A.mul b.twiddleImaginary rootReal) }

/-- The angle of a stage's root.
SOURCE: vibration_fft.cpp:29 -/
def stageAngle (length : ℕ) : α := A.div (A.mul (A.neg (A.ofNat 2)) A.pi) (A.ofNat length)

/-- The butterflies of one block.
SOURCE: vibration_fft.cpp:32-50 -/
def block (arrays : List α × List α) (length base : ℕ) : Butterflies α :=
  (List.range (length / 2)).foldl (fun (b : Butterflies α) offset =>
    A.nextButterfly b (A.cos (A.stageAngle length)) (A.sin (A.stageAngle length)) (base + offset)
      (base + offset + length / 2))
    { real := arrays.1, imaginary := arrays.2, twiddleReal := A.ofNat 1,
      twiddleImaginary := A.zero }

/-- The butterflies of one length.
SOURCE: vibration_fft.cpp:28-51 -/
def stage (bits : ℕ) (arrays : List α × List α) (length : ℕ) : List α × List α :=
  (List.range (2 ^ bits / length)).foldl (fun arrays index =>
    let b := A.block arrays length (index * length)
    (b.real, b.imaginary)) arrays

/-- SOURCE: vibration_fft.cpp:10-53 -/
def transform (bits : ℕ) (real imaginary : List α) : List α × List α :=
  ((List.range bits).map fun exponent => 2 ^ (exponent + 1)).foldl (A.stage bits)
    (A.permute bits real imaginary)

/-! ## The spectrum -/

/-- SOURCE: vibration_types.h:40-44 -/
structure FrequencyMetrics (α : Type) where
  dominantFrequencyHz : α
  dominantAmplitude : α
  dominantBin : ℕ

/-- SOURCE: vibration_fft.cpp:65-66 -/
def hann (index : ℕ) : α :=
  A.sub (A.literal (1 / 2)) (A.mul (A.literal (1 / 2)) (A.cos
    (A.div (A.mul (A.mul (A.ofNat 2) A.pi) (A.ofNat index))
      (A.ofNat (kVibrationWindowSamples - 1)))))

/-- SOURCE: vibration_fft.cpp:79-80 -/
def amplitudeAt (real imaginary : List α) (windowSum : α) (bin : ℕ) : α :=
  let realBin := real.getD bin A.zero
  let imaginaryBin := imaginary.getD bin A.zero
  let magnitude := A.sqrt (A.add (A.mul realBin realBin) (A.mul imaginaryBin imaginaryBin))
  if bin = 0 then A.div magnitude windowSum else A.div (A.mul (A.ofNat 2) magnitude) windowSum

/-- The amplitudes of the bins.
SOURCE: vibration_fft.cpp:63-80 -/
def amplitudes (samples : List α) : List α :=
  let windows := (List.range kVibrationWindowSamples).map A.hann
  let arrays := A.transform 8 (samples.zipWith A.mul windows)
    (List.replicate kVibrationWindowSamples A.zero)
  (List.range (kVibrationWindowSamples / 2)).map
    (A.amplitudeAt arrays.1 arrays.2 (windows.foldl A.add A.zero))

/-- The first bin from one on that has the greatest amplitude, if that is above zero.
SOURCE: vibration_fft.cpp:78-84 -/
def dominant (firstBin : ℕ) (amplitudes : List α) : α × ℕ :=
  amplitudes.zipIdx.foldl (fun (dominant : α × ℕ) amplitude =>
    if firstBin ≤ amplitude.2 ∧ A.lt dominant.1 amplitude.1 then amplitude else dominant)
    (A.zero, 0)

/-- The width of a bin.
SOURCE: vibration_fft.cpp:74 -/
def binHz (sampleRateHz : α) : α := A.div sampleRateHz (A.ofNat kVibrationWindowSamples)

/-- The first bin that may be dominant.
SOURCE: vibration_fft.cpp:75-76 -/
def firstBin (sampleRateHz minimumFrequencyHz : α) : ℕ :=
  max 1 (A.sizeOfCeil (A.div minimumFrequencyHz (A.binHz sampleRateHz)))

/-- SOURCE: vibration_fft.cpp:57-89 -/
def analyze (samples : List α) (sampleRateHz minimumFrequencyHz : α) : FrequencyMetrics α :=
  if !A.lt A.zero sampleRateHz ∨
      kVibrationWindowSamples / 2 ≤ A.firstBin sampleRateHz minimumFrequencyHz then
    ⟨A.zero, A.zero, 0⟩
  else
    let found := A.dominant (A.firstBin sampleRateHz minimumFrequencyHz) (A.amplitudes samples)
    ⟨A.mul (A.ofNat found.2) (A.binHz sampleRateHz), found.1, found.2⟩

/-! ## The filter -/

/-- SOURCE: vibration_filter.h:14-18 -/
structure HighPass (α : Type) where
  alpha : α
  previousInput : α
  previousOutput : α
  initialized : Bool

/-- SOURCE: vibration_filter.cpp:7-8 -/
def newFilter : HighPass α := ⟨A.zero, A.zero, A.zero, false⟩

/-- SOURCE: vibration_filter.cpp:10-17 -/
def configureFilter (f : HighPass α) (sampleRateHz cutoffHz : α) : Bool × HighPass α :=
  if !A.lt A.zero sampleRateHz || !A.lt A.zero cutoffHz ||
      A.le (A.mul sampleRateHz (A.literal (1 / 2))) cutoffHz then (false, f)
  else
    let dt := A.div (A.ofNat 1) sampleRateHz
    let rc := A.div (A.ofNat 1) (A.mul (A.mul (A.ofNat 2) A.pi) cutoffHz)
    (true, { f with alpha := A.div rc (A.add rc dt) })

/-- SOURCE: vibration_filter.cpp:19-23 -/
def resetFilter (f : HighPass α) (initialInput : α) : HighPass α :=
  { f with previousInput := initialInput, previousOutput := A.zero, initialized := true }

/-- SOURCE: vibration_filter.cpp:25-34 -/
def applyFilter (f : HighPass α) (input : α) : α × HighPass α :=
  if !f.initialized then (A.zero, A.resetFilter f input)
  else
    let output := A.mul f.alpha (A.sub (A.add f.previousOutput input) f.previousInput)
    (output, { f with previousInput := input, previousOutput := output })

end Arithmetic

/-! ## The features -/

/-- The operations of the wider numbers that sums are gathered in. -/
structure Accumulation (α β : Type) where
  widen : α → β
  narrow : β → α
  literal : ℚ → β
  zero : β
  add : β → β → β
  mul : β → β → β
  div : β → β → β
  lt : β → β → Bool
  sqrt : β → β

/-- Sums of `float`s in `double`s. -/
def Accumulation.double (M : MathLibrary) : Accumulation Single Double where
  widen := .ofSingle
  narrow := Double.toSingle
  literal := .nearest
  zero := .zero
  add := .add
  mul := .mul
  div := .div
  lt := Double.lt
  sqrt := M.sqrt

/-- Exact sums. -/
noncomputable def Accumulation.exact : Accumulation ℝ ℝ where
  widen x := x
  narrow x := x
  literal q := q
  zero := 0
  add x y := x + y
  mul x y := x * y
  div x y := x / y
  lt x y := decide (x < y)
  sqrt := Real.sqrt

/-- SOURCE: vibration_types.h:30-38 -/
structure AxisMetrics (α : Type) where
  mean : α
  rms : α
  peakAbs : α
  peakToPeak : α
  standardDeviation : α
  crestFactor : α
  kurtosis : α

/-- What the first loop over the samples gathers.
SOURCE: vibration_features.cpp:13-26 -/
structure Extent (α β : Type) where
  sum : β
  sumSquares : β
  minimum : α
  maximum : α
  peak : α

namespace Accumulation

variable {α β : Type} (A : Arithmetic α) (D : Accumulation α β)

/-- SOURCE: vibration_features.cpp:19-26 -/
def nextExtent (e : Extent α β) (value : α) : Extent α β where
  sum := D.add e.sum (D.widen value)
  sumSquares := D.add e.sumSquares (D.mul (D.widen value) (D.widen value))
  minimum := if A.lt value e.minimum then value else e.minimum
  maximum := if A.lt e.maximum value then value else e.maximum
  peak := if A.lt e.peak (A.abs value) then A.abs value else e.peak

/-- The sums of the second and the fourth powers of the deviations.
SOURCE: vibration_features.cpp:32-40 -/
def moments (mean : α) (samples : List α) : β × β :=
  samples.foldl (fun sums value =>
    let delta := D.widen (A.sub value mean)
    let square := D.mul delta delta
    (D.add sums.1 square, D.add sums.2 (D.mul square square))) (D.zero, D.zero)

/-- SOURCE: vibration_features.cpp:7-49 -/
def calculateAxisMetrics : List α → AxisMetrics α
  | [] => ⟨A.zero, A.zero, A.zero, A.zero, A.zero, A.zero, A.zero⟩
  | first :: rest =>
    let samples := first :: rest
    let count := D.literal samples.length
    let extent := samples.foldl (D.nextExtent A) ⟨D.zero, D.zero, first, first, A.abs first⟩
    let mean := D.narrow (D.div extent.sum count)
    let rms := D.narrow (D.sqrt (D.div extent.sumSquares count))
    let sums := D.moments A mean samples
    let variance := D.div sums.1 count
    { mean := mean
      rms := rms
      peakAbs := extent.peak
      peakToPeak := A.sub extent.maximum extent.minimum
      standardDeviation := D.narrow (D.sqrt variance)
      crestFactor := if A.lt (A.literal (1 / 10 ^ 12)) rms then A.div extent.peak rms else A.zero
      kurtosis := if D.lt (D.literal (1 / 10 ^ 20)) variance then
        D.narrow (D.div (D.div sums.2 count) (D.mul variance variance)) else A.zero }

end Accumulation

/-! ## The processor -/

/-- SOURCE: vibration_processor.h:10-16 -/
structure ProcessorConfig (α : Type) where
  sampleRateHz : α
  highPassCutoffHz : α
  minimumDominantFrequencyHz : α
  accelGPerCount : α
  gyroDpsPerCount : α

/-- The state of a processor that a result depends on.
SOURCE: vibration_processor.h:40-45 -/
structure Processor (α : Type) where
  config : ProcessorConfig α
  valid : Bool
  filtersInitialized : Bool
  filters : Member → Arithmetic.HighPass α
  conditioned : List (Member → α)

/-- What is calculated of a window.
SOURCE: vibration_types.h:46-63 -/
structure WindowMetrics (α : Type) where
  effectiveSampleRateHz : α
  axis : Member → AxisMetrics α
  frequencyX : Arithmetic.FrequencyMetrics α
  frequencyY : Arithmetic.FrequencyMetrics α
  frequencyZ : Arithmetic.FrequencyMetrics α

namespace Processor

variable {α β : Type} (A : Arithmetic α) (D : Accumulation α β)

/-- SOURCE: vibration_processor.cpp:17-27 -/
def construct (config : ProcessorConfig α) (conditioned : List (Member → α)) : Processor α where
  config := config
  valid := A.lt A.zero config.sampleRateHz && A.lt A.zero config.accelGPerCount &&
    A.lt A.zero config.gyroDpsPerCount && Member.all.all fun _ =>
      (A.configureFilter A.newFilter config.sampleRateHz config.highPassCutoffHz).1
  filtersInitialized := false
  filters _ := (A.configureFilter A.newFilter config.sampleRateHz config.highPassCutoffHz).2
  conditioned := conditioned

/-- SOURCE: vibration_processor.cpp:33-36 -/
def configureFilters (sampleRateHz cutoffHz : α) (filters : Member → Arithmetic.HighPass α) :
    List Member → Bool × (Member → Arithmetic.HighPass α)
  | [] => (true, filters)
  | member :: rest =>
    match A.configureFilter (filters member) sampleRateHz cutoffHz with
    | (false, _) => (false, filters)
    | (true, filter) =>
      configureFilters sampleRateHz cutoffHz (Function.update filters member filter) rest

/-- SOURCE: vibration_processor.cpp:50-57 -/
def engineeringValues (config : ProcessorConfig α) (sample : ImuRawSample) : Member → α
  | .accelXG => A.mul (A.literal sample.accelX.toInt) config.accelGPerCount
  | .accelYG => A.mul (A.literal sample.accelY.toInt) config.accelGPerCount
  | .accelZG => A.mul (A.literal sample.accelZ.toInt) config.accelGPerCount
  | .gyroXDps => A.mul (A.literal sample.gyroX.toInt) config.gyroDpsPerCount
  | .gyroYDps => A.mul (A.literal sample.gyroY.toInt) config.gyroDpsPerCount
  | .gyroZDps => A.mul (A.literal sample.gyroZ.toInt) config.gyroDpsPerCount

/-- SOURCE: vibration_processor.cpp:49-65 -/
def filterSamples (config : ProcessorConfig α) (filters : Member → Arithmetic.HighPass α) :
    List ImuRawSample → List (Member → α) × (Member → Arithmetic.HighPass α)
  | [] => ([], filters)
  | sample :: rest =>
    let values := engineeringValues A config sample
    let filtered := filterSamples config
      (fun member => (A.applyFilter (filters member) (values member)).2) rest
    ((fun member => (A.applyFilter (filters member) (values member)).1) :: filtered.1, filtered.2)

/-- SOURCE: vibration_processor.cpp:37-48 -/
def initializeFilters (config : ProcessorConfig α) (filters : Member → Arithmetic.HighPass α) :
    List ImuRawSample → Member → Arithmetic.HighPass α
  | [] => filters
  | first :: _ => fun member =>
    A.resetFilter (filters member) (engineeringValues A config first member)

/-- SOURCE: vibration_processor.cpp:29-66 -/
def condition (p : Processor α) (samples : List ImuRawSample) (effectiveSampleRateHz : α) :
    Processor α :=
  match configureFilters A effectiveSampleRateHz p.config.highPassCutoffHz p.filters Member.all with
  | (false, filters) => { p with filters }
  | (true, filters) =>
    let started := if p.filtersInitialized then filters
      else initializeFilters A p.config filters samples
    let filtered := filterSamples A p.config started samples
    { p with conditioned := filtered.1, filters := filtered.2, filtersInitialized := true }

/-- The rate a window is processed with.
SOURCE: vibration_processor.cpp:87-89 -/
def usedRateHz (p : Processor α) (effectiveSampleRateHz : α) : α :=
  if !A.lt A.zero effectiveSampleRateHz then p.config.sampleRateHz else effectiveSampleRateHz

/-- What is calculated from the conditioned samples.
SOURCE: vibration_processor.cpp:93-112 -/
def metrics (config : ProcessorConfig α) (conditioned : List (Member → α)) (sampleRateHz : α) :
    WindowMetrics α :=
  let values := fun (member : Member) => conditioned.map fun sample => sample member
  let frequency := fun (member : Member) =>
    A.analyze (values member) sampleRateHz config.minimumDominantFrequencyHz
  { effectiveSampleRateHz := sampleRateHz
    axis := fun member => D.calculateAxisMetrics A (values member)
    frequencyX := frequency .accelXG
    frequencyY := frequency .accelYG
    frequencyZ := frequency .accelZG }

/-- SOURCE: vibration_processor.cpp:79-113 -/
def process (p : Processor α) (samples : List ImuRawSample) (effectiveSampleRateHz : α) :
    Option (WindowMetrics α) × Processor α :=
  if !p.valid || samples.length != kVibrationWindowSamples then (none, p)
  else
    let rate := usedRateHz A p effectiveSampleRateHz
    let p := condition A p samples rate
    (some (metrics A D p.config p.conditioned rate), p)

/-- SOURCE: vibration_processor.h:25 -/
def resetFilterState (p : Processor α) : Processor α := { p with filtersInitialized := false }

end Processor

end SeedMg24.Model.VibrationArithmetic
