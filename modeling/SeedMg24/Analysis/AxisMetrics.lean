import SeedMg24.Analysis.ExactTransforms
import SeedMg24.Foundation.CentralMoments

/-!
# The metrics of an axis

What is calculated from the samples of an axis, in exact arithmetic: the average, the root of the
mean square, the extremes and the moments of the samples, and the bounds that follow from it.
-/

set_option autoImplicit false

namespace SeedMg24.Analysis

open Foundation SeedMg24.Model
open SeedMg24.Model.VibrationArithmetic (Arithmetic Accumulation Extent)
open SeedMg24.Model.VibrationProcessing (MathLibrary)
open VibrationArithmetic.Arithmetic (exact single)

namespace AxisMetrics

open ExactTransforms

/-! ## Exact sums -/

@[simp] theorem accumulation_widen (x : ℝ) : Accumulation.exact.widen x = x := rfl
@[simp] theorem accumulation_narrow (x : ℝ) : Accumulation.exact.narrow x = x := rfl
@[simp] theorem accumulation_literal (q : ℚ) : Accumulation.exact.literal q = q := rfl
@[simp] theorem accumulation_zero : Accumulation.exact.zero = 0 := rfl
@[simp] theorem accumulation_add (x y : ℝ) : Accumulation.exact.add x y = x + y := rfl
@[simp] theorem accumulation_mul (x y : ℝ) : Accumulation.exact.mul x y = x * y := rfl
@[simp] theorem accumulation_div (x y : ℝ) : Accumulation.exact.div x y = x / y := rfl
@[simp] theorem accumulation_lt (x y : ℝ) : Accumulation.exact.lt x y = decide (x < y) := rfl
@[simp] theorem accumulation_sqrt (x : ℝ) : Accumulation.exact.sqrt x = √x := rfl

/-- What the first loop has gathered of some values. -/
structure Gathers (e : Extent ℝ ℝ) (values : List ℝ) : Prop where
  sum : e.sum = values.sum
  sumSquares : e.sumSquares = (values.map fun value => value ^ 2).sum
  minimum : ∀ value ∈ values, e.minimum ≤ value
  maximum : ∀ value ∈ values, value ≤ e.maximum
  peak : ∀ value ∈ values, |value| ≤ e.peak

/-- The extremes are values of a set. -/
structure Attained (e : Extent ℝ ℝ) (values : Set ℝ) : Prop where
  minimum : e.minimum ∈ values
  maximum : e.maximum ∈ values
  peak : ∃ value ∈ values, |value| = e.peak

/-- One sample more.
SOURCE: vibration_features.cpp:19-26 -/
theorem Gathers.next {e : Extent ℝ ℝ} {values : List ℝ} (h : Gathers e values) (value : ℝ) :
    Gathers (Accumulation.exact.nextExtent exact e value) (values ++ [value]) := by
  have hmin : (Accumulation.exact.nextExtent exact e value).minimum ≤ e.minimum ∧
      (Accumulation.exact.nextExtent exact e value).minimum ≤ value := by
    simp only [Accumulation.nextExtent, exact_lt, decide_eq_true_eq]
    split
    · rename_i hlt
      exact ⟨hlt.le, le_rfl⟩
    · rename_i hnot
      exact ⟨le_rfl, not_lt.mp hnot⟩
  have hmax : e.maximum ≤ (Accumulation.exact.nextExtent exact e value).maximum ∧
      value ≤ (Accumulation.exact.nextExtent exact e value).maximum := by
    simp only [Accumulation.nextExtent, exact_lt, decide_eq_true_eq]
    split
    · rename_i hlt
      exact ⟨hlt.le, le_rfl⟩
    · rename_i hnot
      exact ⟨le_rfl, not_lt.mp hnot⟩
  have hpeak : e.peak ≤ (Accumulation.exact.nextExtent exact e value).peak ∧
      |value| ≤ (Accumulation.exact.nextExtent exact e value).peak := by
    simp only [Accumulation.nextExtent, exact_lt, exact_abs, decide_eq_true_eq]
    split
    · rename_i hlt
      exact ⟨hlt.le, le_rfl⟩
    · rename_i hnot
      exact ⟨le_rfl, not_lt.mp hnot⟩
  constructor
  · rw [List.sum_append, List.sum_singleton, ← h.sum]
    rfl
  · rw [List.map_append, List.sum_append, List.map_singleton, List.sum_singleton, ← h.sumSquares,
      sq]
    rfl
  · intro other hother
    rcases List.mem_append.mp hother with hbefore | hlast
    · exact hmin.1.trans (h.minimum other hbefore)
    · rw [List.mem_singleton.mp hlast]
      exact hmin.2
  · intro other hother
    rcases List.mem_append.mp hother with hbefore | hlast
    · exact (h.maximum other hbefore).trans hmax.1
    · rw [List.mem_singleton.mp hlast]
      exact hmax.2
  · intro other hother
    rcases List.mem_append.mp hother with hbefore | hlast
    · exact (h.peak other hbefore).trans hpeak.1
    · rw [List.mem_singleton.mp hlast]
      exact hpeak.2

theorem Attained.next {e : Extent ℝ ℝ} {values : Set ℝ} (h : Attained e values) {value : ℝ}
    (hvalue : value ∈ values) :
    Attained (Accumulation.exact.nextExtent exact e value) values := by
  constructor
  · simp only [Accumulation.nextExtent]
    split
    · exact hvalue
    · exact h.minimum
  · simp only [Accumulation.nextExtent]
    split
    · exact hvalue
    · exact h.maximum
  · simp only [Accumulation.nextExtent]
    split
    · exact ⟨value, hvalue, rfl⟩
    · exact h.peak

/-- The first loop.
SOURCE: vibration_features.cpp:13-26 -/
theorem gathers_foldl (e : Extent ℝ ℝ) (before values : List ℝ) (h : Gathers e before) :
    Gathers (values.foldl (Accumulation.exact.nextExtent exact) e) (before ++ values) := by
  induction values generalizing e before with
  | nil => rwa [List.append_nil]
  | cons value rest ih =>
    have hrest := ih _ _ (h.next value)
    rwa [List.append_assoc, List.singleton_append] at hrest

theorem attained_foldl (e : Extent ℝ ℝ) (all : Set ℝ) (values : List ℝ)
    (hvalues : ∀ value ∈ values, value ∈ all) (h : Attained e all) :
    Attained (values.foldl (Accumulation.exact.nextExtent exact) e) all := by
  induction values generalizing e with
  | nil => exact h
  | cons value rest ih =>
    exact ih _ (fun other hother => hvalues other (List.mem_cons_of_mem _ hother))
      (h.next (hvalues value List.mem_cons_self))

/-- The second loop.
SOURCE: vibration_features.cpp:32-40 -/
theorem moments_exact (mean : ℝ) (values : List ℝ) :
    Accumulation.exact.moments exact mean values =
      ((values.map fun value => (value - mean) ^ 2).sum,
        (values.map fun value => (value - mean) ^ 4).sum) := by
  have hloop : ∀ sums : ℝ × ℝ, values.foldl (fun sums value =>
      let delta := Accumulation.exact.widen (exact.sub value mean)
      let square := Accumulation.exact.mul delta delta
      (Accumulation.exact.add sums.1 square,
        Accumulation.exact.add sums.2 (Accumulation.exact.mul square square))) sums =
        (sums.1 + (values.map fun value => (value - mean) ^ 2).sum,
          sums.2 + (values.map fun value => (value - mean) ^ 4).sum) := by
    induction values with
    | nil => intro sums; simp
    | cons value rest ih =>
      intro sums
      rw [List.foldl_cons, ih]
      simp only [accumulation_widen, exact_sub, accumulation_mul, accumulation_add, List.map_cons,
        List.sum_cons]
      refine Prod.ext ?_ ?_
      · dsimp only
        ring
      · dsimp only
        ring
  have hall := hloop (0, 0)
  rw [zero_add, zero_add] at hall
  exact hall

/-! ## What is reported -/

/-- What the metrics of an axis say about its samples. -/
structure DescribesAxis {count : ℕ} (samples : Fin count → ℝ)
    (metrics : VibrationArithmetic.AxisMetrics ℝ) : Prop where
  mean : metrics.mean = average samples
  rms : metrics.rms = √(meanSquare samples)
  standardDeviation : metrics.standardDeviation = √(centralMoment 2 samples)
  peakAbs : IsGreatest (Set.range fun i => |samples i|) metrics.peakAbs
  /-- The distance between the extremes. -/
  peakToPeak : ∃ low high, IsLeast (Set.range samples) low ∧ IsGreatest (Set.range samples) high ∧
    metrics.peakToPeak = high - low
  crestFactor : metrics.crestFactor =
    if 1 / 10 ^ 12 < metrics.rms then metrics.peakAbs / metrics.rms else 0
  kurtosis : metrics.kurtosis =
    if 1 / 10 ^ 20 < centralMoment 2 samples then
      centralMoment 4 samples / centralMoment 2 samples ^ 2 else 0

theorem sum_map_ofFn {count : ℕ} (samples : Fin count → ℝ) (f : ℝ → ℝ) :
    ((List.ofFn samples).map f).sum = ∑ i, f (samples i) := by
  rw [List.map_ofFn, List.sum_ofFn]
  rfl

/-- What the first loop gathers of samples, the first of which is given. -/
noncomputable def extentOf (first : ℝ) (values : List ℝ) : Extent ℝ ℝ :=
  values.foldl (Accumulation.exact.nextExtent exact) ⟨0, 0, first, first, |first|⟩

/-- SOURCE: vibration_features.cpp:27-48 -/
theorem calculateAxisMetrics_cons {first : ℝ} {rest values : List ℝ} (h : values = first :: rest) :
    let mean : ℝ := (extentOf first values).sum / values.length
    let rms : ℝ := √((extentOf first values).sumSquares / values.length)
    let variance : ℝ := (values.map fun value => (value - mean) ^ 2).sum / values.length
    Accumulation.exact.calculateAxisMetrics exact values =
      { mean := mean
        rms := rms
        peakAbs := (extentOf first values).peak
        peakToPeak := (extentOf first values).maximum - (extentOf first values).minimum
        standardDeviation := √variance
        crestFactor := if 1 / 10 ^ 12 < rms then (extentOf first values).peak / rms else 0
        kurtosis := if 1 / 10 ^ 20 < variance then
          (values.map fun value => (value - mean) ^ 4).sum / values.length /
            (variance * variance) else 0 } := by
  subst h
  have hlength : (((first :: rest).length : ℚ) : ℝ) = (first :: rest).length := Rat.cast_natCast _
  have hloop : (first :: rest).foldl (Accumulation.exact.nextExtent exact)
      ⟨Accumulation.exact.zero, Accumulation.exact.zero, first, first, exact.abs first⟩ =
        extentOf first (first :: rest) := rfl
  simp only [Accumulation.calculateAxisMetrics, accumulation_narrow, accumulation_div,
    accumulation_literal, accumulation_sqrt, accumulation_lt, accumulation_mul, exact_literal,
    exact_lt, exact_sub, exact_div, exact_zero, decide_eq_true_eq, hlength, hloop, moments_exact]
  push_cast
  rfl

/-- SOURCE: vibration_features.cpp:7-49 -/
theorem describesAxis_calculateAxisMetrics {count : ℕ} (samples : Fin (count + 1) → ℝ) :
    DescribesAxis samples (Accumulation.exact.calculateAxisMetrics exact (List.ofFn samples)) := by
  have hfirst : List.ofFn samples = samples 0 :: List.ofFn fun i : Fin count => samples i.succ :=
    List.ofFn_succ
  have hgathers : Gathers (extentOf (samples 0) (List.ofFn samples)) (List.ofFn samples) :=
    gathers_foldl ⟨0, 0, samples 0, samples 0, |samples 0|⟩ [] (List.ofFn samples)
      ⟨rfl, rfl, nofun, nofun, nofun⟩
  have hattained : Attained (extentOf (samples 0) (List.ofFn samples)) (Set.range samples) :=
    attained_foldl ⟨0, 0, samples 0, samples 0, |samples 0|⟩ (Set.range samples) (List.ofFn samples)
      (fun value hvalue => by rwa [List.mem_ofFn] at hvalue) ⟨⟨0, rfl⟩, ⟨0, rfl⟩, ⟨_, ⟨0, rfl⟩, rfl⟩⟩
  have hmem : ∀ i, samples i ∈ List.ofFn samples := fun i => List.mem_ofFn.mpr ⟨i, rfl⟩
  have hlength : (List.ofFn samples).length = count + 1 := List.length_ofFn
  have hmean : (extentOf (samples 0) (List.ofFn samples)).sum / (List.ofFn samples).length =
      average samples := by
    rw [hgathers.sum, List.sum_ofFn, hlength]
    rfl
  have hsquare : (extentOf (samples 0) (List.ofFn samples)).sumSquares /
      (List.ofFn samples).length = meanSquare samples := by
    rw [hgathers.sumSquares, sum_map_ofFn samples fun value => value ^ 2, hlength]
    rfl
  have hmoment : ∀ order, ((List.ofFn samples).map fun value =>
      (value - average samples) ^ order).sum / (List.ofFn samples).length =
        centralMoment order samples := by
    intro order
    rw [sum_map_ofFn samples fun value => (value - average samples) ^ order, hlength]
    rfl
  rw [calculateAxisMetrics_cons hfirst, hmean, hsquare]
  simp only [hmoment, ← sq]
  refine ⟨rfl, rfl, rfl, ⟨?_, ?_⟩, ⟨_, _, ⟨hattained.minimum, ?_⟩, ⟨hattained.maximum, ?_⟩, rfl⟩,
    rfl, rfl⟩
  · obtain ⟨_, ⟨i, rfl⟩, hpeak⟩ := hattained.peak
    exact ⟨i, hpeak⟩
  · rintro _ ⟨i, rfl⟩
    exact hgathers.peak _ (hmem i)
  · rintro _ ⟨i, rfl⟩
    exact hgathers.minimum _ (hmem i)
  · rintro _ ⟨i, rfl⟩
    exact hgathers.maximum _ (hmem i)

/-! ## Bounds -/

/-- The bounds between the metrics. -/
structure Consistent (count : ℕ) (metrics : VibrationArithmetic.AxisMetrics ℝ) : Prop where
  /-- The deviation is what of the root of the mean square is not the mean. -/
  deviation : metrics.standardDeviation ^ 2 = metrics.rms ^ 2 - metrics.mean ^ 2
  mean_le_rms : |metrics.mean| ≤ metrics.rms
  rms_le_peak : metrics.rms ≤ metrics.peakAbs
  deviation_le : metrics.standardDeviation ≤ metrics.peakToPeak / 2
  peakToPeak_le : metrics.peakToPeak ≤ 2 * metrics.peakAbs
  crestFactor : metrics.crestFactor = 0 ∨
    1 ≤ metrics.crestFactor ∧ metrics.crestFactor ≤ √count
  kurtosis : metrics.kurtosis = 0 ∨ 1 ≤ metrics.kurtosis ∧ metrics.kurtosis ≤ count

theorem DescribesAxis.consistent {count : ℕ} (hcount : 0 < count) {samples : Fin count → ℝ}
    {metrics : VibrationArithmetic.AxisMetrics ℝ} (h : DescribesAxis samples metrics) :
    Consistent count metrics := by
  obtain ⟨low, high, hlow, hhigh, hrange⟩ := h.peakToPeak
  obtain ⟨⟨last, hlast⟩, hpeak⟩ := h.peakAbs
  have hpeak : ∀ i, |samples i| ≤ metrics.peakAbs := fun i => hpeak ⟨i, rfl⟩
  have hpeakNonneg : 0 ≤ metrics.peakAbs := hlast ▸ abs_nonneg _
  have hrmsLe : metrics.rms ≤ metrics.peakAbs := by
    rw [h.rms]
    exact Real.sqrt_le_iff.mpr ⟨hpeakNonneg, meanSquare_le samples hcount hpeak⟩
  refine ⟨?_, ?_, hrmsLe, ?_, ?_, ?_, ?_⟩
  · rw [h.standardDeviation, h.rms, h.mean, Real.sq_sqrt (centralMoment_two_nonneg samples),
      Real.sq_sqrt (meanSquare_nonneg samples), centralMoment_two samples hcount]
  · rw [h.mean, h.rms]
    exact Real.abs_le_sqrt (sq_average_le_meanSquare samples hcount)
  · obtain ⟨i, hi⟩ := hlow.1
    have horder : low ≤ high := hi ▸ hhigh.2 ⟨i, rfl⟩
    rw [h.standardDeviation, hrange]
    refine Real.sqrt_le_iff.mpr ⟨by linarith, ?_⟩
    exact centralMoment_two_le samples hcount (fun i => hlow.2 ⟨i, rfl⟩) fun i => hhigh.2 ⟨i, rfl⟩
  · obtain ⟨i, rfl⟩ := hlow.1
    obtain ⟨j, rfl⟩ := hhigh.1
    have hi := (abs_le.mp (hpeak i)).1
    have hj := (abs_le.mp (hpeak j)).2
    linarith
  · rw [h.crestFactor]
    split
    · rename_i hlarge
      have hpos : 0 < metrics.rms := lt_trans (by norm_num) hlarge
      refine .inr ⟨(one_le_div hpos).mpr hrmsLe, (div_le_iff₀ hpos).mpr ?_⟩
      have hone := sq_le_count_mul_meanSquare samples hcount last
      rw [← hlast, h.rms, ← Real.sqrt_mul (Nat.cast_nonneg count)]
      exact Real.abs_le_sqrt hone
    · exact .inl rfl
  · rw [h.kurtosis]
    split
    · rename_i hlarge
      have hpos : 0 < centralMoment 2 samples := lt_trans (by norm_num) hlarge
      exact .inr ⟨(one_le_div (by positivity)).mpr (sq_centralMoment_two_le samples hcount),
        (div_le_iff₀ (by positivity)).mpr (centralMoment_four_le samples hcount)⟩
    · exact .inl rfl

/-! ## Floats -/

/-- The metrics of the processor. -/
def metricsOf (metrics : VibrationArithmetic.AxisMetrics Single) :
    VibrationProcessing.AxisVibrationMetrics where
  mean := metrics.mean
  rms := metrics.rms
  peakAbs := metrics.peakAbs
  peakToPeak := metrics.peakToPeak
  standardDeviation := metrics.standardDeviation
  crestFactor := metrics.crestFactor
  kurtosis := metrics.kurtosis

/-- What the first loop of the processor has gathered. -/
def extentIn (e : Extent Single Double) : VibrationProcessing.Extent :=
  ⟨e.sum, e.sumSquares, e.minimum, e.maximum, e.peak⟩

/-- In floats the metrics are those of the processor.
SOURCE: vibration_features.cpp:7-49 -/
theorem calculateAxisMetrics_single (M : MathLibrary) (values : List Single) :
    VibrationProcessing.calculateAxisMetrics M values =
      metricsOf ((Accumulation.double M).calculateAxisMetrics (single M) values) := by
  cases values with
  | nil => rfl
  | cons first rest =>
    have hloop : (first :: rest).foldl VibrationProcessing.Extent.next
        (extentIn ⟨.zero, .zero, first, first, first.abs⟩) =
          extentIn ((first :: rest).foldl ((Accumulation.double M).nextExtent (single M))
            ⟨.zero, .zero, first, first, first.abs⟩) :=
      List.foldl_hom extentIn fun _ _ => rfl
    unfold VibrationProcessing.calculateAxisMetrics Accumulation.calculateAxisMetrics
    dsimp only
    rw [show ({ minimum := first, maximum := first, peak := first.abs } :
      VibrationProcessing.Extent) = extentIn ⟨.zero, .zero, first, first, first.abs⟩ from rfl, hloop]
    rfl

end AxisMetrics

open AxisMetrics in
/-- **The metrics of an axis are those of its samples, and fit together.**  In exact arithmetic, for
every number of samples; the features of the processor are the same algorithm in floats.
SOURCE: vibration_features.cpp:7-49 -/
theorem axis_metrics_consistent :
    (∀ (count : ℕ) (samples : Fin (count + 1) → ℝ),
      let metrics := Accumulation.exact.calculateAxisMetrics exact (List.ofFn samples)
      DescribesAxis samples metrics ∧ Consistent (count + 1) metrics) ∧
      ∀ (M : MathLibrary) (values : List Single),
        VibrationProcessing.calculateAxisMetrics M values =
          metricsOf ((Accumulation.double M).calculateAxisMetrics (single M) values) := by
  refine ⟨fun count samples => ?_, calculateAxisMetrics_single⟩
  have hdescribes := describesAxis_calculateAxisMetrics samples
  exact ⟨hdescribes, hdescribes.consistent count.succ_pos⟩

end SeedMg24.Analysis
