import Mathlib.Data.Rat.Sqrt
import SeedMg24.Analysis.BaselineStatistics
import SeedMg24.Analysis.SingleBaseline
import SeedMg24.Foundation.FirstOccurrences

/-!
# Learning a baseline

The service remembers of the windows it has taken only the last.  While a baseline is building, a
valid window that is taken again is left out only directly after itself, so every other repetition
is learned once more.
-/

set_option autoImplicit false

namespace SeedMg24.Analysis

open Foundation SeedMg24.Model.ConditionService ConditionRuns BaselineStatistics

namespace BaselineLearning

variable {K : Type}

/-! ## What is to be learned -/

/-- What identifies a window. -/
def keyOf (delivery : Delivery K) : Text × ℕ :=
  (delivery.sessionId, delivery.summary.windowSequence)

variable (A : Arithmetic K)

/-- The distinct valid windows, as they were taken first. -/
def validWindows (delivered : List (Delivery K)) : List (Delivery K) :=
  firstOccurrences keyOf (delivered.filter (·.summary.isEligible A))

/-- The distinct valid windows up to the freezing one. -/
def learnedWindows (minimumSamples : ℕ) (delivered : List (Delivery K)) : List (Delivery K) :=
  (validWindows A delivered).take minimumSamples

/-- The baseline counts each distinct valid window once, up to the one that freezes it. -/
structure CountsOnce (delivered : List (Delivery K)) (baseline : VibrationBaseline K) : Prop where
  sampleCount : baseline.sampleCount =
    (learnedWindows A baseline.minimumSamples delivered).length
  statistics : statisticsOf A (learnedWindows A baseline.minimumSamples delivered) =
    .ok baseline.statistics
  counts : ∀ f, countOf baseline.statistics f = baseline.sampleCount
  frozen : baseline.status = .frozen ↔ baseline.minimumSamples ≤ baseline.sampleCount

variable (service : VibrationConditionService) (installationId : Option Text)

/-- A call, made while the device is at the installation. -/
def nextAt (j : Journal K) (call : Call K) : Journal K := next service A j installationId call

/-- After a call the baseline counts each window once, and unless it was learned again, a frozen
baseline is as it was. -/
structure LearnsOnce (j : Journal K) (call : Call K) : Prop where
  counts : ∀ baseline, (nextAt A service installationId j call).rows.baselines = [baseline] →
    CountsOnce A (nextAt A service installationId j call).delivered baseline
  frozen : ∀ baseline, j.rows.baselines = [baseline] → baseline.status = .frozen →
    (nextAt A service installationId j call).relearns = j.relearns →
      ∃ after, (nextAt A service installationId j call).rows.baselines = [after] ∧
        after.status = .frozen ∧ after.sampleCount = baseline.sampleCount ∧
        after.statistics = baseline.statistics

/-- What a window brings can be written: the statistics with it are finite, the database takes it,
and if it is to be stored it is not stored already. -/
def IsWritten (j : Journal K) (delivery : Delivery K) : Prop :=
  (∃ statistics, updateStatistics A
      (j.rows.baselineFor service installationId delivery).statistics
      (summaryValues delivery.summary) = .ok statistics ∧ statistics.isFinite A = true) ∧
    delivery.context.refused = false ∧
    (j.rows.isDue service delivery.observedAt && j.rows.isStored delivery) = false

/-- A valid window that comes while the baseline is building has been taken before if it directly
follows itself, and only then, unless it is not written. -/
def ComesOnce (j : Journal K) : Call K → Prop
  | .process delivery =>
    IsAvailable delivery → delivery.summary.isEligible A = true →
    (j.rows.baselineFor service installationId delivery).status = .building →
      ((j.rows.baselineFor service installationId delivery).isDuplicate delivery = true →
        keyOf delivery ∈ (validWindows A j.delivered).map keyOf) ∧
      (keyOf delivery ∈ (validWindows A j.delivered).map keyOf →
        (j.rows.baselineFor service installationId delivery).isDuplicate delivery = true ∨
          ¬ IsWritten A service installationId j delivery)
  | _ => True

/-! ## One window -/

variable {A service installationId}

theorem validWindows_of_not_eligible (delivered : List (Delivery K)) {delivery : Delivery K}
    (h : delivery.summary.isEligible A = false) :
    validWindows A (delivered ++ [delivery]) = validWindows A delivered := by
  unfold validWindows
  rw [List.filter_append, List.filter_cons_of_neg (by simp [h]), List.filter_nil, List.append_nil]

theorem filter_eligible (delivered : List (Delivery K)) {delivery : Delivery K}
    (h : delivery.summary.isEligible A = true) :
    (delivered ++ [delivery]).filter (·.summary.isEligible A) =
      delivered.filter (·.summary.isEligible A) ++ [delivery] := by
  rw [List.filter_append, List.filter_cons_of_pos (by simpa using h), List.filter_nil]

theorem validWindows_of_mem {delivered : List (Delivery K)} {delivery : Delivery K}
    (h : delivery.summary.isEligible A = true)
    (hmem : keyOf delivery ∈ (validWindows A delivered).map keyOf) :
    validWindows A (delivered ++ [delivery]) = validWindows A delivered := by
  unfold validWindows at hmem ⊢
  rw [filter_eligible delivered h, firstOccurrences_of_mem keyOf hmem]

theorem validWindows_of_notMem {delivered : List (Delivery K)} {delivery : Delivery K}
    (h : delivery.summary.isEligible A = true)
    (hmem : keyOf delivery ∉ (validWindows A delivered).map keyOf) :
    validWindows A (delivered ++ [delivery]) = validWindows A delivered ++ [delivery] := by
  unfold validWindows at hmem ⊢
  rw [filter_eligible delivered h, firstOccurrences_of_notMem keyOf hmem]

/-- A frozen baseline has learned enough, and a baseline that is building all there is. -/
theorem CountsOnce.length_of_building {delivered : List (Delivery K)}
    {baseline : VibrationBaseline K} (h : CountsOnce A delivered baseline)
    (hbuilding : baseline.status = .building) :
    (validWindows A delivered).length = baseline.sampleCount ∧
      baseline.sampleCount < baseline.minimumSamples := by
  have hfew : ¬ baseline.minimumSamples ≤ baseline.sampleCount := fun hle => by
    rw [← h.frozen, hbuilding] at hle
    cases hle
  have hcount := h.sampleCount
  unfold learnedWindows at hcount
  rw [List.length_take] at hcount
  omega

theorem CountsOnce.learnedWindows_of_building {delivered : List (Delivery K)}
    {baseline : VibrationBaseline K} (h : CountsOnce A delivered baseline)
    (hbuilding : baseline.status = .building) :
    learnedWindows A baseline.minimumSamples delivered = validWindows A delivered := by
  obtain ⟨hlength, hfew⟩ := h.length_of_building hbuilding
  exact List.take_of_length_le (by omega)

theorem CountsOnce.learnedWindows_of_frozen {delivered : List (Delivery K)}
    {baseline : VibrationBaseline K} (h : CountsOnce A delivered baseline)
    (hfrozen : baseline.status = .frozen) (delivery : Delivery K) :
    learnedWindows A baseline.minimumSamples (delivered ++ [delivery]) =
      learnedWindows A baseline.minimumSamples delivered := by
  have henough := h.frozen.mp hfrozen
  have hcount := h.sampleCount
  unfold learnedWindows at hcount ⊢
  rw [List.length_take] at hcount
  cases heligible : delivery.summary.isEligible A with
  | false => rw [validWindows_of_not_eligible delivered heligible]
  | true =>
    by_cases hmem : keyOf delivery ∈ (validWindows A delivered).map keyOf
    · rw [validWindows_of_mem heligible hmem]
    · rw [validWindows_of_notMem heligible hmem]
      exact List.take_append_of_le_length (by omega)

/-- A window that changes nothing of what is to be learned. -/
theorem CountsOnce.of_learnedWindows {delivered others : List (Delivery K)}
    {baseline after : VibrationBaseline K} (h : CountsOnce A delivered baseline)
    (hsampleCount : after.sampleCount = baseline.sampleCount)
    (hstatistics : after.statistics = baseline.statistics)
    (hstatus : after.status = baseline.status)
    (hminimum : after.minimumSamples = baseline.minimumSamples)
    (hsame : learnedWindows A baseline.minimumSamples others =
      learnedWindows A baseline.minimumSamples delivered) :
    CountsOnce A others after where
  sampleCount := by rw [hsampleCount, hminimum, hsame, h.sampleCount]
  statistics := by rw [hstatistics, hminimum, hsame, h.statistics]
  counts f := by rw [hstatistics, hsampleCount, h.counts f]
  frozen := by rw [hstatus, hminimum, hsampleCount, h.frozen]

/-- A window that is learned. -/
theorem CountsOnce.learned {delivered : List (Delivery K)} {baseline : VibrationBaseline K}
    (h : CountsOnce A delivered baseline) (hbuilding : baseline.status = .building)
    {delivery : Delivery K} (heligible : delivery.summary.isEligible A = true)
    (hnew : keyOf delivery ∉ (validWindows A delivered).map keyOf) {statistics : Statistics K}
    (hstatistics : updateStatistics A baseline.statistics (summaryValues delivery.summary) =
      .ok statistics) :
    CountsOnce A (delivered ++ [delivery])
      ((baseline.seen delivery).learned statistics delivery.observedAt) := by
  obtain ⟨hlength, hfew⟩ := h.length_of_building hbuilding
  have hvalid := validWindows_of_notMem heligible hnew
  have hlearned : learnedWindows A baseline.minimumSamples (delivered ++ [delivery]) =
      learnedWindows A baseline.minimumSamples delivered ++ [delivery] := by
    rw [h.learnedWindows_of_building hbuilding]
    unfold learnedWindows
    rw [hvalid]
    refine List.take_of_length_le ?_
    rw [List.length_append, List.length_singleton]
    omega
  have hcount : baseline.sampleCount + 1 =
      (learnedWindows A baseline.minimumSamples (delivered ++ [delivery])).length := by
    rw [hlearned, List.length_append, List.length_singleton, h.sampleCount]
  have hall : statisticsOf A
      (learnedWindows A baseline.minimumSamples (delivered ++ [delivery])) = .ok statistics := by
    rw [hlearned]
    exact statisticsOf_snoc h.statistics delivery hstatistics
  have hcounts (f : Feature) : countOf statistics f = baseline.sampleCount + 1 := by
    rw [countOf_updateStatistics hstatistics, h.counts f]
  unfold VibrationBaseline.learned
  split
  · rename_i henough
    exact ⟨hcount, hall, hcounts, iff_of_true rfl henough⟩
  · rename_i hmore
    refine ⟨hcount, hall, hcounts, iff_of_false ?_ hmore⟩
    show ¬ baseline.status = .frozen
    rw [hbuilding]
    decide

/-! ## The invariant of a run -/

/-- The last window the baseline remembers is the last one that was taken. -/
structure Remembers (delivered : List (Delivery K)) (baseline : VibrationBaseline K) : Prop where
  session : baseline.lastSessionId = delivered.getLast?.map (·.sessionId)
  sequence : baseline.lastWindowSequence = delivered.getLast?.map (·.summary.windowSequence)

variable (A service installationId)

/-- What holds between the calls of a run that repeats no window. -/
structure Learning (j : Journal K) : Prop where
  single : Single service installationId j.rows
  untaken : j.rows.baselines = [] → j.delivered = []
  remembers : ∀ baseline, j.rows.baselines = [baseline] → Remembers j.delivered baseline
  counts : ∀ baseline, j.rows.baselines = [baseline] → CountsOnce A j.delivered baseline

variable {A service installationId}

theorem learnedWindows_nil (minimumSamples : ℕ) :
    learnedWindows A minimumSamples [] = [] := List.take_nil

/-- A baseline that has learned nothing. -/
theorem countsOnce_nil {baseline : VibrationBaseline K} (hstatus : baseline.status = .building)
    (hcount : baseline.sampleCount = 0) (hstatistics : baseline.statistics = .empty)
    (hpos : 0 < baseline.minimumSamples) : CountsOnce A [] baseline where
  sampleCount := by
    rw [hcount, learnedWindows_nil]
    rfl
  statistics := by
    rw [hstatistics, learnedWindows_nil]
    rfl
  counts f := by
    rw [hstatistics, hcount]
    rfl
  frozen := by
    rw [hstatus, hcount]
    exact iff_of_false (by decide) (by omega)

/-- The baseline a window is compared with, whether it is in the rows or new. -/
theorem Learning.baselineFor {j : Journal K} (h : Learning A service installationId j)
    (delivery : Delivery K) :
    Remembers j.delivered (j.rows.baselineFor service installationId delivery) ∧
      CountsOnce A j.delivered (j.rows.baselineFor service installationId delivery) := by
  obtain ⟨hscope, hbaselines | ⟨hbaselines, hnew⟩⟩ := h.single.baselineFor delivery
  · exact ⟨h.remembers _ hbaselines, h.counts _ hbaselines⟩
  · rw [h.untaken hbaselines]
    refine ⟨⟨hnew.lastSessionId, hnew.lastWindowSequence⟩,
      countsOnce_nil hnew.status hnew.sampleCount hnew.statistics ?_⟩
    rw [hscope.minimum]
    exact service.minimumWindows_pos

theorem remembers_of_last {delivered : List (Delivery K)} {baseline : VibrationBaseline K}
    {delivery : Delivery K} (hsession : baseline.lastSessionId = some delivery.sessionId)
    (hsequence : baseline.lastWindowSequence = some delivery.summary.windowSequence) :
    Remembers (delivered ++ [delivery]) baseline where
  session := by
    rw [hsession, List.getLast?_append_of_ne_nil _ (List.cons_ne_nil _ _)]
    rfl
  sequence := by
    rw [hsequence, List.getLast?_append_of_ne_nil _ (List.cons_ne_nil _ _)]
    rfl

/-- A duplicate is a duplicate of a baseline that is in the rows. -/
theorem Learning.baselines_of_isDuplicate {j : Journal K} (h : Learning A service installationId j)
    {delivery : Delivery K}
    (hduplicate : (j.rows.baselineFor service installationId delivery).isDuplicate delivery =
      true) :
    j.rows.baselines = [j.rows.baselineFor service installationId delivery] := by
  refine (h.single.baselineFor delivery).2.resolve_right fun hnew => ?_
  unfold VibrationBaseline.isDuplicate at hduplicate
  rw [hnew.2.lastSessionId] at hduplicate
  simp at hduplicate

/-- A journal with one baseline. -/
theorem Learning.of_singleton {j : Journal K} {baseline : VibrationBaseline K}
    (hsingle : Single service installationId j.rows) (hbaselines : j.rows.baselines = [baseline])
    (hremembers : Remembers j.delivered baseline) (hcounts : CountsOnce A j.delivered baseline) :
    Learning A service installationId j := by
  refine ⟨hsingle, fun hnone => ?_, fun other hother => ?_, fun other hother => ?_⟩
  · rw [hbaselines] at hnone
    exact absurd hnone (List.cons_ne_nil _ _)
  · rw [hbaselines] at hother
    exact List.singleton_inj.mp hother ▸ hremembers
  · rw [hbaselines] at hother
    exact List.singleton_inj.mp hother ▸ hcounts

/-- **A call of a run that repeats no window.** -/
theorem learning_next {j : Journal K} (h : Learning A service installationId j) (call : Call K)
    (hcomes : ComesOnce A service installationId j call) :
    Learning A service installationId (nextAt A service installationId j call) := by
  have hchange := change_next service A j installationId call
  unfold nextAt
  generalize next service A j installationId call = after at hchange
  cases hchange with
  | kept => exact h
  | duplicate delivery available repeated =>
    have hbaselines := h.baselines_of_isDuplicate repeated
    obtain ⟨_, hcounts⟩ := h.baselineFor delivery
    have hsame : learnedWindows A
        (j.rows.baselineFor service installationId delivery).minimumSamples
          (j.delivered ++ [delivery]) =
        learnedWindows A (j.rows.baselineFor service installationId delivery).minimumSamples
          j.delivered := by
      cases hstatus : (j.rows.baselineFor service installationId delivery).status with
      | frozen => exact hcounts.learnedWindows_of_frozen hstatus delivery
      | building =>
        unfold learnedWindows
        cases heligible : delivery.summary.isEligible A with
        | false => rw [validWindows_of_not_eligible j.delivered heligible]
        | true =>
          rw [validWindows_of_mem heligible ((hcomes available heligible hstatus).1 repeated)]
    refine .of_singleton h.single hbaselines ?_ ?_
    · unfold VibrationBaseline.isDuplicate at repeated
      rw [Bool.and_eq_true, decide_eq_true_iff, decide_eq_true_iff] at repeated
      exact remembers_of_last repeated.1 repeated.2
    · exact hcounts.of_learnedWindows rfl rfl rfl rfl hsame
  | processed delivery assessment available accepted unstored new assessed =>
    obtain ⟨hbaselines, hsingle⟩ := h.single.rowsAfter assessed
    obtain ⟨hkeeps, hsession, hsequence⟩ := keeps_assess assessed
    obtain ⟨_, hcounts⟩ := h.baselineFor delivery
    refine .of_singleton hsingle hbaselines (remembers_of_last hsession hsequence) ?_
    rcases assess_cases assessed with
      ⟨heligible, hbuilding, statistics, hstatistics, hfinite, hbaseline⟩ | ⟨hfrozen, hbaseline⟩
    · rw [hbaseline]
      refine hcounts.learned hbuilding heligible (fun hmem => ?_) hstatistics
      rcases (hcomes available heligible hbuilding).2 hmem with hduplicate | hwritten
      · rw [new] at hduplicate
        cases hduplicate
      · exact hwritten ⟨⟨statistics, hstatistics, hfinite⟩, accepted, unstored⟩
    · rw [hbaseline]
      refine hcounts.of_learnedWindows rfl rfl rfl rfl ?_
      cases heligible : delivery.summary.isEligible A with
      | false =>
        unfold learnedWindows
        rw [validWindows_of_not_eligible j.delivered heligible]
      | true => exact hcounts.learnedWindows_of_frozen (hfrozen heligible) delivery
  | relearned call context reason requestId baseline requests current =>
    obtain ⟨hbaselines, hsingle⟩ :=
      h.single.rowsRelearned current context.now reason requestId
    obtain ⟨_, hscope⟩ := h.single.currentBaseline current
    refine .of_singleton hsingle hbaselines ⟨rfl, rfl⟩ (countsOnce_nil rfl rfl rfl ?_)
    show 0 < baseline.minimumSamples
    rw [hscope.minimum]
    exact service.minimumWindows_pos

/-- **A frozen baseline stays as it is** until it is learned again. -/
theorem frozen_next {j : Journal K} (h : Single service installationId j.rows) (call : Call K)
    {baseline : VibrationBaseline K} (hbaseline : j.rows.baselines = [baseline])
    (hfrozen : baseline.status = .frozen)
    (hrelearns : (nextAt A service installationId j call).relearns = j.relearns) :
    ∃ after, (nextAt A service installationId j call).rows.baselines = [after] ∧
      after.status = .frozen ∧ after.sampleCount = baseline.sampleCount ∧
      after.statistics = baseline.statistics := by
  have hchange := change_next service A j installationId call
  unfold nextAt at hrelearns ⊢
  generalize next service A j installationId call = after at hchange hrelearns
  cases hchange with
  | kept => exact ⟨baseline, hbaseline, hfrozen, rfl, rfl⟩
  | duplicate => exact ⟨baseline, hbaseline, hfrozen, rfl, rfl⟩
  | processed delivery assessment available accepted unstored new assessed =>
    have hfound : j.rows.baselineFor service installationId delivery = baseline := by
      rcases (h.baselineFor delivery).2 with hbaselines | ⟨hbaselines, _⟩
      · rw [hbaselines] at hbaseline
        exact List.singleton_inj.mp hbaseline
      · rw [hbaselines] at hbaseline
        cases hbaseline
    refine ⟨assessment.baseline, (h.rowsAfter assessed).1, ?_⟩
    rw [hfound] at assessed
    rcases assess_cases assessed with ⟨_, hbuilding, _⟩ | ⟨_, hseen⟩
    · rw [hfrozen] at hbuilding
      cases hbuilding
    · rw [hseen]
      exact ⟨hfrozen, rfl, rfl⟩
  | relearned => exact absurd hrelearns (by simp)

/-- **When one call learns each window once.** -/
theorem learnsOnce_iff {j : Journal K} (h : Learning A service installationId j) (call : Call K) :
    LearnsOnce A service installationId j call ↔ ComesOnce A service installationId j call := by
  constructor
  · intro hlearns
    cases call with
    | relearnBaseline => exact True.intro
    | resetBaseline => exact True.intro
    | process delivery =>
      intro havailable heligible hbuilding
      obtain ⟨_, hcounts⟩ := h.baselineFor delivery
      obtain ⟨hlength, hfew⟩ := hcounts.length_of_building hbuilding
      have hlearned := hlearns.counts
      unfold nextAt at hlearned
      constructor
      · -- a duplicate that is no repetition is left out
        intro hduplicate
        by_contra hnew
        rw [next_of_isDuplicate havailable hduplicate] at hlearned
        have hafter := hlearned _ (h.baselines_of_isDuplicate hduplicate)
        have hlengthAfter := (hafter.length_of_building hbuilding).1
        rw [validWindows_of_notMem heligible hnew, List.length_append, List.length_singleton]
          at hlengthAfter
        omega
      · -- a repetition that is no duplicate is learned once more
        intro hmem
        by_contra hnot
        rw [not_or, not_not, Bool.not_eq_true] at hnot
        obtain ⟨hnew, ⟨statistics, hstatistics, hfinite⟩, haccepted, hunstored⟩ := hnot
        obtain ⟨assessment, hassessed, hfactors, hbaseline⟩ :=
          assess_of_building heligible hbuilding hstatistics hfinite
        have hprocess := process_of_assess havailable hnew hassessed (by rw [hfactors]; rfl)
          haccepted hunstored
        rw [next_of_process hassessed hprocess] at hlearned
        have hafter := (hlearned _ (h.single.rowsAfter hassessed).1).sampleCount
        have hcount : assessment.baseline.sampleCount =
            (j.rows.baselineFor service installationId delivery).sampleCount + 1 := by
          rw [hbaseline]
          unfold VibrationBaseline.learned
          split <;> rfl
        unfold learnedWindows at hafter
        rw [validWindows_of_mem heligible hmem, List.length_take, hcount] at hafter
        omega
  · intro hcomes
    exact {
      counts := (learning_next h call hcomes).counts
      frozen := fun _ hbaseline hfrozen hrelearns =>
        frozen_next h.single call hbaseline hfrozen hrelearns }

/-- **When learning counts each window once.**  Along a run of calls for one device at one
installation the statistics are at all times those of the distinct valid windows first taken since
the last relearn, and a frozen baseline keeps them, exactly if every valid window that comes while
the baseline is building comes once, or again directly after itself.
SOURCE: vibration_condition.py:104-159 -/
theorem learnsOnce_run_iff (calls : List (Call K)) :
    Runs.Throughout (nextAt A service installationId) (LearnsOnce A service installationId) {}
        calls ↔
      Runs.Throughout (nextAt A service installationId) (ComesOnce A service installationId) {}
        calls := by
  have hstart : Learning A service installationId ({} : Journal K) := {
    single := .inl ⟨rfl, rfl⟩
    untaken := fun _ => rfl
    remembers := fun _ hbaseline => absurd hbaseline.symm (List.cons_ne_nil _ _)
    counts := fun _ hbaseline => absurd hbaseline.symm (List.cons_ne_nil _ _) }
  exact Runs.throughout_iff_throughout (nextAt A service installationId) hstart
    (fun _ call h hcomes => learning_next h call hcomes) fun _ call h => learnsOnce_iff h call

/-! ## A window between -/

/-- The bounds of the configuration and its defaults. -/
def defaultService : VibrationConditionService where
  minimumWindows := 100
  persistenceWindows := 3
  persistenceInterval := 5000000
  minimumWindows_pos := by decide
  persistenceWindows_pos := by decide

/-- A valid window of a session. -/
def steadyWindow (windowSequence : ℕ) (observedAt : ℤ) : Delivery ℚ where
  context := { device := some ⟨false, true⟩, now := observedAt, refused := false }
  summary := {
    windowSequence
    deviceUptimeMs := 600 * windowSequence
    effectiveSampleRateHz := 416
    validity := .valid
    accelRmsG := fun _ => 1
    accelPeakG := fun _ => 1
    crestFactor := fun _ => 1
    kurtosis := fun _ => 3
    dominantFrequencyHz := fun _ => 30
    dominantAmplitudeG := fun _ => 1
    gyroRmsDps := fun _ => 1 }
  sessionId := "boot".toList
  observedAt

/-- The first window, the second, and the first again. -/
def retransmission : List (Call ℚ) :=
  [.process (steadyWindow 1 0), .process (steadyWindow 2 600000),
    .process (steadyWindow 1 1200000)]

/-- What the third of them leads to: three windows are counted, two are distinct. -/
theorem retransmission_counted :
    (Runs.after (nextAt (Arithmetic.exact Rat.sqrt) defaultService none) {}
      retransmission).rows.baselines.map (fun b => (b.sampleCount, b.minimumSamples)) =
        [(3, 100)] ∧
    (learnedWindows (Arithmetic.exact Rat.sqrt) 100
      (Runs.after (nextAt (Arithmetic.exact Rat.sqrt) defaultService none) {}
        retransmission).delivered).length = 2 := by
  decide +kernel

/-- A window that is taken again after another is learned twice. -/
theorem not_learnsOnce :
    ¬ ∀ calls, Runs.Throughout (nextAt (Arithmetic.exact Rat.sqrt) defaultService none)
      (LearnsOnce (Arithmetic.exact Rat.sqrt) defaultService none) {} calls := by
  intro hall
  have hlast := hall retransmission (retransmission.take 2) (.process (steadyWindow 1 1200000))
    (List.prefix_refl _)
  have hsplit : retransmission =
      retransmission.take 2 ++ [.process (steadyWindow 1 1200000)] := rfl
  obtain ⟨hcounted, hdistinct⟩ := retransmission_counted
  rw [hsplit, Runs.after_snoc] at hcounted hdistinct
  obtain ⟨baseline, hbaseline, hpair⟩ := List.map_eq_singleton_iff.mp hcounted
  obtain ⟨hthree, hminimum⟩ := Prod.mk.inj hpair
  have hcount := (hlast.counts baseline hbaseline).sampleCount
  rw [hminimum] at hcount
  exact absurd (hthree.symm.trans (hcount.trans hdistinct)) (by decide)

end BaselineLearning

end SeedMg24.Analysis
