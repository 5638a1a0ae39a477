import SeedMg24.Analysis.ConditionRuns

/-!
# A device with one baseline

As long as a device stays at one installation it has at most one baseline, which is the one every
call works on.
-/

set_option autoImplicit false

namespace SeedMg24.Analysis

open Foundation SeedMg24.Model.ConditionService

namespace ConditionRuns

variable {K : Type}

/-! ## What a window does to the baseline -/

/-- SOURCE: vibration_condition.py:136-159 -/
theorem assess_cases {A : Arithmetic K} {baseline : VibrationBaseline K} {delivery : Delivery K}
    {assessment : Assessment K} (h : assess A baseline delivery = .ok assessment) :
    (delivery.summary.isEligible A = true ∧ baseline.status = .building ∧
      ∃ statistics, updateStatistics A baseline.statistics (summaryValues delivery.summary) =
          .ok statistics ∧ statistics.isFinite A = true ∧
        assessment.baseline =
          (baseline.seen delivery).learned statistics delivery.observedAt) ∨
    ((delivery.summary.isEligible A = true → baseline.status = .frozen) ∧
      assessment.baseline = baseline.seen delivery) := by
  unfold assess at h
  dsimp only at h
  cases heligible : delivery.summary.isEligible A with
  | false =>
    rw [heligible, if_neg Bool.false_ne_true] at h
    cases h
    exact .inr ⟨nofun, rfl⟩
  | true =>
    rw [heligible, if_pos rfl] at h
    cases hstatus : baseline.status with
    | building =>
      rw [hstatus] at h
      obtain ⟨statistics, hstatistics, h⟩ := Checks.exists_of_bind h
      obtain ⟨_, hfinite, h⟩ := Checks.exists_of_bind h
      refine .inl ⟨rfl, rfl, statistics, hstatistics, of_require hfinite, ?_⟩
      cases hlearned : ((baseline.seen delivery).learned statistics delivery.observedAt).status with
      | building =>
        rw [hlearned] at h
        cases h
        rfl
      | frozen =>
        rw [hlearned] at h
        cases h
        rfl
    | frozen =>
      rw [hstatus] at h
      obtain ⟨_, _, h⟩ := Checks.exists_of_bind h
      obtain ⟨⟨_, _, _⟩, _, h⟩ := Checks.exists_of_bind h
      cases h
      exact .inr ⟨fun _ => rfl, rfl⟩

/-- A valid window is learned as long as the baseline is building. -/
theorem assess_of_building {A : Arithmetic K} {baseline : VibrationBaseline K}
    {delivery : Delivery K} {statistics : Statistics K}
    (heligible : delivery.summary.isEligible A = true) (hbuilding : baseline.status = .building)
    (hstatistics : updateStatistics A baseline.statistics (summaryValues delivery.summary) =
      .ok statistics) (hfinite : statistics.isFinite A = true) :
    ∃ assessment, assess A baseline delivery = .ok assessment ∧ assessment.factors = [] ∧
      assessment.baseline = (baseline.seen delivery).learned statistics delivery.observedAt := by
  unfold assess
  dsimp only
  rw [if_pos heligible, hbuilding]
  dsimp only [bind, Except.bind]
  rw [hstatistics]
  dsimp only [require]
  rw [if_pos hfinite]
  dsimp only [pure, Except.pure]
  cases ((baseline.seen delivery).learned statistics delivery.observedAt).status with
  | building => exact ⟨_, rfl, rfl, rfl⟩
  | frozen => exact ⟨_, rfl, rfl, rfl⟩

/-- What no window changes of a baseline. -/
structure Keeps (before after : VibrationBaseline K) : Prop where
  id : after.id = before.id
  installationId : after.installationId = before.installationId
  baselineVersion : after.baselineVersion = before.baselineVersion
  algorithmVersion : after.algorithmVersion = before.algorithmVersion
  minimumSamples : after.minimumSamples = before.minimumSamples
  lastRelearnRequestId : after.lastRelearnRequestId = before.lastRelearnRequestId

theorem keeps_assess {A : Arithmetic K} {baseline : VibrationBaseline K} {delivery : Delivery K}
    {assessment : Assessment K} (h : assess A baseline delivery = .ok assessment) :
    Keeps baseline assessment.baseline ∧
      assessment.baseline.lastSessionId = some delivery.sessionId ∧
      assessment.baseline.lastWindowSequence = some delivery.summary.windowSequence := by
  rcases assess_cases h with ⟨_, _, statistics, _, _, hbaseline⟩ | ⟨_, hbaseline⟩
  · rw [hbaseline]
    unfold VibrationBaseline.learned
    split
    · exact ⟨⟨rfl, rfl, rfl, rfl, rfl, rfl⟩, rfl, rfl⟩
    · exact ⟨⟨rfl, rfl, rfl, rfl, rfl, rfl⟩, rfl, rfl⟩
  · rw [hbaseline]
    exact ⟨⟨rfl, rfl, rfl, rfl, rfl, rfl⟩, rfl, rfl⟩

/-! ## One baseline -/

variable (service : VibrationConditionService) (installationId : Option Text)

/-- A baseline of the installation, made by the service. -/
structure InScope (baseline : VibrationBaseline K) : Prop where
  installation : baseline.installationId = installationId
  algorithm : baseline.algorithmVersion = 1
  minimum : baseline.minimumSamples = service.minimumWindows

/-- No baseline, or one that the condition belongs to. -/
def Single (rows : DeviceRows K) : Prop :=
  (rows.baselines = [] ∧ rows.condition = none) ∨
    ∃ baseline condition, rows.baselines = [baseline] ∧ rows.condition = some condition ∧
      condition.baselineId = some baseline.id ∧ InScope service installationId baseline

/-- A baseline no window has been learned for. -/
structure IsNew (baseline : VibrationBaseline K) : Prop where
  baselineVersion : baseline.baselineVersion = 1
  status : baseline.status = .building
  sampleCount : baseline.sampleCount = 0
  statistics : baseline.statistics = .empty
  lastSessionId : baseline.lastSessionId = none
  lastWindowSequence : baseline.lastWindowSequence = none
  lastRelearnRequestId : baseline.lastRelearnRequestId = none

variable {service installationId}

/-- The baseline a window is compared with: the one there is, or a new one. -/
theorem Single.baselineFor {rows : DeviceRows K} (h : Single service installationId rows)
    (delivery : Delivery K) :
    InScope service installationId (rows.baselineFor service installationId delivery) ∧
      (rows.baselines = [rows.baselineFor service installationId delivery] ∨
        (rows.baselines = [] ∧ IsNew (rows.baselineFor service installationId delivery))) := by
  rcases h with ⟨hbaselines, _⟩ | ⟨baseline, condition, hbaselines, _, _, hscope⟩
  · unfold DeviceRows.baselineFor
    rw [hbaselines]
    exact ⟨⟨rfl, delivery.summary.algorithmVersion_eq, rfl⟩,
      .inr ⟨rfl, ⟨rfl, rfl, rfl, rfl, rfl, rfl, rfl⟩⟩⟩
  · have hfound : rows.baselineFor service installationId delivery = baseline := by
      unfold DeviceRows.baselineFor
      rw [hbaselines, List.find?_cons_of_pos (by
        simp [hscope.installation, hscope.algorithm, delivery.summary.algorithmVersion_eq])]
      rfl
    rw [hfound]
    exact ⟨hscope, .inl hbaselines⟩

/-- There is one row to save it in. -/
theorem Single.saveBaseline {rows : DeviceRows K} (h : Single service installationId rows)
    (delivery : Delivery K) {baseline : VibrationBaseline K}
    (hid : baseline.id = (rows.baselineFor service installationId delivery).id) :
    rows.saveBaseline baseline = [baseline] := by
  unfold DeviceRows.saveBaseline
  rcases (h.baselineFor delivery).2 with hbaselines | ⟨hbaselines, _⟩
  · rw [hbaselines]
    simp [hid]
  · rw [hbaselines]
    rfl

/-- The baseline a request is about is the one there is. -/
theorem Single.currentBaseline {rows : DeviceRows K} (h : Single service installationId rows)
    {baseline : VibrationBaseline K} (hcurrent : rows.currentBaseline = some baseline) :
    rows.baselines = [baseline] ∧ InScope service installationId baseline := by
  unfold DeviceRows.currentBaseline at hcurrent
  rcases h with ⟨hbaselines, hcondition⟩ | ⟨other, condition, hbaselines, hcondition, hid, hscope⟩
  · rw [hbaselines, hcondition] at hcurrent
    cases hcurrent
  · rw [hbaselines, hcondition] at hcurrent
    simp only [Option.bind_some, hid, List.find?_singleton, decide_true, if_true,
      Option.some_or, Option.some.injEq] at hcurrent
    subst hcurrent
    exact ⟨hbaselines, hscope⟩

theorem Single.currentBaseline_eq {rows : DeviceRows K} (h : Single service installationId rows)
    {baseline : VibrationBaseline K} (hbaselines : rows.baselines = [baseline]) :
    rows.currentBaseline = some baseline := by
  unfold DeviceRows.currentBaseline
  rcases h with ⟨hnone, _⟩ | ⟨other, condition, hother, hcondition, hid, _⟩
  · rw [hnone] at hbaselines
    cases hbaselines
  · rw [hother] at hbaselines
    obtain rfl := List.singleton_inj.mp hbaselines
    rw [hother, hcondition]
    simp [hid]

theorem Single.rowsRelearned {rows : DeviceRows K} (h : Single service installationId rows)
    {baseline : VibrationBaseline K} (hcurrent : rows.currentBaseline = some baseline) (now : ℤ)
    (reason requestId : Option Text) :
    (ConditionRuns.rowsRelearned rows baseline now reason requestId).baselines =
        [baseline.relearned now reason requestId] ∧
      Single service installationId
        (ConditionRuns.rowsRelearned rows baseline now reason requestId) := by
  obtain ⟨hbaselines, hscope⟩ := h.currentBaseline hcurrent
  have hsaved : rows.saveBaseline (baseline.relearned now reason requestId) =
      [baseline.relearned now reason requestId] := by
    unfold DeviceRows.saveBaseline
    rw [hbaselines]
    simp [VibrationBaseline.relearned]
  refine ⟨hsaved, .inr ⟨_, _, hsaved, rfl, rfl, ?_⟩⟩
  exact ⟨hscope.installation, hscope.algorithm, hscope.minimum⟩

theorem Single.rowsAfter {A : Arithmetic K} {rows : DeviceRows K}
    (h : Single service installationId rows) {delivery : Delivery K} {assessment : Assessment K}
    (hassessed : assess A (rows.baselineFor service installationId delivery) delivery =
      .ok assessment) :
    (ConditionRuns.rowsAfter service rows installationId delivery assessment).baselines =
        [assessment.baseline] ∧
      Single service installationId
        (ConditionRuns.rowsAfter service rows installationId delivery assessment) := by
  have hkeeps := (keeps_assess hassessed).1
  have hscope := (h.baselineFor delivery).1
  have hsaved := h.saveBaseline delivery hkeeps.id
  refine ⟨hsaved, .inr ⟨_, _, hsaved, rfl, rfl, ?_⟩⟩
  exact ⟨hkeeps.installationId.trans hscope.installation,
    hkeeps.algorithmVersion.trans hscope.algorithm, hkeeps.minimumSamples.trans hscope.minimum⟩

end ConditionRuns

end SeedMg24.Analysis
