import SeedMg24.Analysis.BaselineStatistics
import SeedMg24.Analysis.ConditionVerdicts
import SeedMg24.Foundation.Literals

/-!
# Online statistics equal the batch definitions

Feature vectors that are folded one after the other into empty statistics leave, of every feature,
the number of the values, their mean, their squared deviations from it and their bounds.  The
variance that is told and the one a window is compared with are the sample variance.
-/

set_option autoImplicit false

namespace SeedMg24.Analysis

open Foundation SeedMg24.Model.ConditionService ExactArithmetic BaselineStatistics ConditionVerdicts

namespace OnlineStatistics

attribute [local instance] atLeastTwo_five atLeastTwo_ten atLeastTwo_hundred atLeastTwo_thousand
  atLeastTwo_million

variable {F : Type} [Field F]

/-- The sample variance, zero of a single value. -/
def sampleVariance (values : List F) : F :=
  squaresAbout (mean values) values / ((values.length - 1 : ℕ) : F)

/-- A single value does not deviate. -/
theorem squaresAbout_of_length {values : List F} (h : values.length = 1) :
    squaresAbout (mean values) values = 0 := by
  obtain ⟨x, rfl⟩ := List.length_eq_one_iff.mp h
  simp [squaresAbout, mean]

variable [LinearOrder F] [IsStrictOrderedRing F]

theorem squaresAbout_nonneg (c : F) (values : List F) : 0 ≤ squaresAbout c values :=
  List.sum_nonneg (List.forall_mem_map.mpr fun x _ => sq_nonneg (x - c))

theorem sampleVariance_nonneg (values : List F) : 0 ≤ sampleVariance values :=
  div_nonneg (squaresAbout_nonneg _ _) (Nat.cast_nonneg _)

omit [IsStrictOrderedRing F] in
/-- Some values have a summary. -/
theorem exists_summaryOf {values : List F} (h : values ≠ []) :
    ∃ item, BaselineStatistics.summaryOf values = some item ∧ item.count = values.length ∧
      item.mean = mean values ∧ item.m2 = squaresAbout (mean values) values ∧ (∀ x ∈ values, item.min ≤ x ∧ x ≤ item.max) ∧
      item.min ∈ values ∧ item.max ∈ values := by
  cases hleast : values.min? with
  | none => exact absurd (List.min?_eq_none_iff.mp hleast) h
  | some least =>
    cases hgreatest : values.max? with
    | none => exact absurd (List.max?_eq_none_iff.mp hgreatest) h
    | some greatest =>
      obtain ⟨hmin, hbelow⟩ := List.min?_eq_some_iff.mp hleast
      obtain ⟨hmax, habove⟩ := List.max?_eq_some_iff.mp hgreatest
      refine ⟨⟨values.length, mean values, squaresAbout (mean values) values, least, greatest⟩, ?_,
        rfl, rfl, rfl, fun x hx => ⟨hbelow x hx, habove x hx⟩, hmin, hmax⟩
      unfold BaselineStatistics.summaryOf
      rw [hleast, hgreatest]
      rfl

/-- The divisor of at least 1 changes nothing. -/
theorem variance_eq (values : List F) :
    squaresAbout (mean values) values / ((max 1 (values.length - 1) : ℕ) : F) =
      sampleVariance values := by
  unfold sampleVariance
  rcases Nat.lt_or_ge 1 values.length with hmany | hfew
  · rw [max_eq_right (by omega)]
  · rcases Nat.lt_or_ge 0 values.length with hone | hnone
    · rw [squaresAbout_of_length (by omega), zero_div, zero_div]
    · have hnil : values = [] := List.length_eq_zero_iff.mp (by omega)
      rw [hnil]
      simp [squaresAbout]

variable (sqrt : F → F)

/-- The statistics of some feature vectors are the summaries of the values of each feature.
SOURCE: vibration_condition.py:46-56 -/
theorem foldlM_updateStatistics (vectors : List (Feature → F)) :
    vectors.foldlM (updateStatistics (Arithmetic.exact sqrt)) Statistics.empty =
      .ok fun f => BaselineStatistics.summaryOf (vectors.map fun vector => vector f) := by
  induction vectors using List.reverseRecOn with
  | nil => rfl
  | append_singleton vectors vector ih =>
    have hitem (f : Feature) :=
      updateItem_summaryOf sqrt (vectors.map fun vector => vector f) (vector f)
    choose items hitems hsummary using hitem
    have hlast : updateStatistics (Arithmetic.exact sqrt)
        (fun f => BaselineStatistics.summaryOf (vectors.map fun vector => vector f)) vector =
      .ok fun f => some (items f) := updateStatistics_ok hitems
    rw [List.foldlM_append, ih]
    show [vector].foldlM (updateStatistics (Arithmetic.exact sqrt)) _ = _
    rw [List.foldlM_cons, hlast]
    show Except.ok (fun f => some (items f)) = _
    congr 1
    funext f
    rw [List.map_append, List.map_singleton, hsummary f]

/-- The variance that is told is the sample variance. -/
theorem publicVariance_exact {values : List F} {item : StatisticsItem F}
    (hcount : item.count = values.length) (hm2 : item.m2 = squaresAbout (mean values) values) :
    publicVariance (Arithmetic.exact sqrt) item = .ok (sampleVariance values) := by
  unfold publicVariance
  rw [hcount, hm2, literal_exact, literal_exact, Rat.cast_natCast, Rat.cast_zero]
  by_cases hmany : values.length > 1
  · have hpos : (0 : F) < (values.length - 1 : ℕ) := Nat.cast_pos.mpr (by omega)
    rw [if_pos hmany, divide_exact sqrt hpos]
    rfl
  · have hzero : sampleVariance values = 0 := by
      rw [sampleVariance, show values.length - 1 = 0 by omega, Nat.cast_zero, div_zero]
    rw [if_neg hmany, hzero]

theorem publicItem_exact {values : List F} {item : StatisticsItem F}
    (hcount : item.count = values.length) (hm2 : item.m2 = squaresAbout (mean values) values) :
    publicItem (Arithmetic.exact sqrt) item =
      .ok ⟨item.count, item.mean, sqrt (sampleVariance values), item.min, item.max⟩ := by
  unfold publicItem
  rw [publicVariance_exact sqrt hcount hm2]
  show Except.ok _ = _
  rw [max_exact, literal_exact, Rat.cast_zero, max_eq_right (sampleVariance_nonneg values)]
  rfl

/-- What is told of statistics is what is told of each feature. -/
theorem publicStatistics_ok {K : Type} {A : Arithmetic K} {statistics : Statistics K}
    {items : Feature → StatisticsItem K} {told : Feature → PublicStatistics K}
    (hitems : ∀ f, statistics f = some (items f)) (htold : ∀ f, publicItem A (items f) = .ok (told f)) :
    publicStatistics A statistics = .ok fun f => some (told f) := by
  have hfold (fs : List Feature) (before : Feature → Option (PublicStatistics K)) :
      fs.foldlM (tellFeature A statistics) before =
      .ok fun f => if f ∈ fs then some (told f) else before f := by
    induction fs generalizing before with
    | nil => rfl
    | cons g fs ih =>
      have hstep : tellFeature A statistics before g =
          .ok (Function.update before g (some (told g))) := by
        unfold tellFeature
        rw [hitems g]
        dsimp only
        rw [htold g]
        rfl
      rw [List.foldlM_cons, hstep]
      show fs.foldlM _ (Function.update before g (some (told g))) = _
      rw [ih]
      congr 1
      funext f
      by_cases hfg : f = g
      · subst hfg
        simp
      · simp [hfg]
  unfold publicStatistics
  rw [hfold features]
  congr 1
  funext f
  exact if_pos (mem_features f)

/-- What a deviation is measured by, given the spread of the baseline.
SOURCE: vibration_condition.py:78-82 -/
def scaleBy (f : Feature) (binWidthHz spread average : F) : F :=
  match f.group with
  | .dominantFrequency => max (max binWidthHz spread) (1 / 1000000)
  | .accelRms | .accelPeak | .dominantAmplitude => max (max spread (|average| * (1 / 10))) (1 / 1000)
  | .crest | .kurtosis | .gyroRms => max (max spread (|average| * (1 / 10))) (5 / 100)

/-- **A window is compared with the sample variance.** -/
theorem normalizedDeviation_sampleVariance {values : List F} {item : StatisticsItem F}
    (hcount : item.count = values.length) (hm2 : item.m2 = squaresAbout (mean values) values)
    (f : Feature) (current binWidthHz : F) :
    normalizedDeviation (Arithmetic.exact sqrt) f current item binWidthHz =
      .ok (|current - item.mean| / scaleBy f binWidthHz (sqrt (sampleVariance values)) item.mean) := by
  have hvariance : max 0 (item.m2 / ((max 1 (item.count - 1) : ℕ) : F)) = sampleVariance values := by
    rw [hcount, hm2, variance_eq, max_eq_right (sampleVariance_nonneg values)]
  have hscale : scale sqrt (fun _ => item) binWidthHz f =
      scaleBy f binWidthHz (sqrt (sampleVariance values)) item.mean := by
    unfold scale
    rw [hvariance]
    rfl
  have hdeviation :=
    normalizedDeviation_exact sqrt (fun _ => current) (fun _ => item) binWidthHz f
  unfold deviation at hdeviation
  rwa [hscale] at hdeviation

/-- **Online statistics equal the batch definitions.**  Folding feature vectors into empty statistics
leaves, of every feature, the number, the mean, the squared deviations and the extremes of its
values; what is told of them and what windows are compared with is their sample variance, which is
never negative. -/
theorem statistics_exact (vectors : List (Feature → F)) (h : vectors ≠ []) :
    ∃ statistics told,
      vectors.foldlM (updateStatistics (Arithmetic.exact sqrt)) Statistics.empty = .ok statistics ∧
      publicStatistics (Arithmetic.exact sqrt) statistics = .ok told ∧
      ∀ f, let values := vectors.map fun vector => vector f
        0 ≤ sampleVariance values ∧ ∃ item, statistics f = some item ∧
        item.count = vectors.length ∧ item.mean = mean values ∧
        item.m2 = squaresAbout (mean values) values ∧
        (item.min ∈ values ∧ ∀ x ∈ values, item.min ≤ x) ∧
        (item.max ∈ values ∧ ∀ x ∈ values, x ≤ item.max) ∧
        publicVariance (Arithmetic.exact sqrt) item = .ok (sampleVariance values) ∧
        told f = some ⟨item.count, item.mean, sqrt (sampleVariance values), item.min, item.max⟩ ∧
        ∀ current binWidthHz, normalizedDeviation (Arithmetic.exact sqrt) f current item binWidthHz =
          .ok (|current - item.mean| /
            scaleBy f binWidthHz (sqrt (sampleVariance values)) item.mean) := by
  have hvalues (f : Feature) : vectors.map (fun vector => vector f) ≠ [] :=
    fun hnil => h (List.map_eq_nil_iff.mp hnil)
  choose items hsummary hcount hmean hm2 hbounds hmin hmax using
    fun f => exists_summaryOf (hvalues f)
  refine ⟨_, _, foldlM_updateStatistics sqrt vectors,
    publicStatistics_ok hsummary fun f => publicItem_exact sqrt (hcount f) (hm2 f), fun f => ?_⟩
  refine ⟨sampleVariance_nonneg _, items f, hsummary f, ?_, hmean f, hm2 f, ⟨hmin f, ?_⟩, ⟨hmax f, ?_⟩,
    publicVariance_exact sqrt (hcount f) (hm2 f), rfl, fun current binWidthHz => ?_⟩
  · rw [hcount f, List.length_map]
  · exact fun x hx => (hbounds f x hx).1
  · exact fun x hx => (hbounds f x hx).2
  · exact normalizedDeviation_sampleVariance sqrt (hcount f) (hm2 f) f current binWidthHz

/-- Two windows whose features are all 1 and all 4. -/
theorem statistics_exact_two : ∃ statistics told,
    [fun _ => (1 : ℚ), fun _ => 4].foldlM (updateStatistics (Arithmetic.exact Rat.sqrt))
      Statistics.empty = .ok statistics ∧
    publicStatistics (Arithmetic.exact Rat.sqrt) statistics = .ok told ∧
    ∀ f, ∃ item, statistics f = some item ∧ item.count = 2 ∧ item.mean = 5 / 2 ∧ item.m2 = 9 / 2 ∧
      publicVariance (Arithmetic.exact Rat.sqrt) item = .ok (9 / 2) := by
  obtain ⟨statistics, told, hfold, htold, hall⟩ :=
    statistics_exact Rat.sqrt [fun _ => (1 : ℚ), fun _ => 4] (List.cons_ne_nil _ _)
  refine ⟨statistics, told, hfold, htold, fun f => ?_⟩
  obtain ⟨-, item, hitem, hcount, hmean, hm2, -, -, hvariance, -⟩ := hall f
  have haverage : mean [(1 : ℚ), 4] = 5 / 2 := by decide +kernel
  have hsquares : squaresAbout (5 / 2) [(1 : ℚ), 4] = 9 / 2 := by decide +kernel
  have hsample : sampleVariance [(1 : ℚ), 4] = 9 / 2 := by decide +kernel
  exact ⟨item, hitem, hcount, hmean.trans haverage, hm2.trans (haverage ▸ hsquares),
    hvariance.trans (congrArg Except.ok hsample)⟩

end OnlineStatistics

end SeedMg24.Analysis
