import SeedMg24.Analysis.BaselineLearning

/-!
# Requests to learn again

A baseline remembers the request that was followed last.  Each request that is followed supersedes
one version, which goes to the history; but a request that is repeated after another was followed
is followed again.
-/

set_option autoImplicit false

namespace SeedMg24.Analysis

open Foundation SeedMg24.Model.ConditionService ConditionRuns

namespace RelearnRequests

variable {K : Type}

/-- The request ids, other than empty ones, of the requests that took effect. -/
def takenIds (j : Journal K) : List Text :=
  j.relearns.filterMap fun relearn => relearn.1.filter (!·.isEmpty)

/-- The request that took effect last. -/
def lastTaken (j : Journal K) : Option Text := j.relearns.getLast?.bind (·.1)

/-- Each request takes effect once, the version counts the relearns, and the history has each
superseded version as it was, and no other. -/
structure IsComplete (j : Journal K) : Prop where
  once : (takenIds j).Nodup
  version : ∀ baseline, j.rows.baselines = [baseline] →
    baseline.baselineVersion = 1 + j.relearns.length
  superseded : j.rows.history.map (fun row =>
      (row.baselineVersion, row.sampleCount, row.statistics)) =
    j.relearns.map fun relearn =>
      (relearn.2.baselineVersion, relearn.2.sampleCount, relearn.2.statistics)
  versions : j.rows.history.map (·.baselineVersion) = List.range' 1 j.relearns.length

/-- A request that took effect before is repeated only as long as no other took effect, unless the
device is not found or the database refuses what is written. -/
def RepeatsLast (j : Journal K) (call : Call K) : Prop :=
  ∀ context reason id, Requests call context reason (some id) → id ∈ takenIds j →
    IsFound context → context.refused = false → lastTaken j = some id

variable (service : VibrationConditionService) (installationId : Option Text)

/-- What every call keeps: one baseline that remembers the last request, with a version for each
that took effect, and the versions before in the history. -/
structure IsRecorded (j : Journal K) : Prop where
  single : Single service installationId j.rows
  untouched : j.rows.baselines = [] → j.relearns = []
  version : ∀ baseline, j.rows.baselines = [baseline] →
    baseline.baselineVersion = 1 + j.relearns.length
  last : ∀ baseline, j.rows.baselines = [baseline] → baseline.lastRelearnRequestId = lastTaken j
  superseded : j.rows.history.map (fun row =>
      (row.baselineVersion, row.sampleCount, row.statistics)) =
    j.relearns.map fun relearn =>
      (relearn.2.baselineVersion, relearn.2.sampleCount, relearn.2.statistics)
  versions : j.rows.history.map (·.baselineVersion) = List.range' 1 j.relearns.length

variable {service installationId} {A : Arithmetic K}

/-- A new baseline, like one that is in the rows, has the version and remembers the request. -/
theorem IsRecorded.baselineFor {j : Journal K} (h : IsRecorded service installationId j)
    (delivery : Delivery K) :
    (j.rows.baselineFor service installationId delivery).baselineVersion =
        1 + j.relearns.length ∧
      (j.rows.baselineFor service installationId delivery).lastRelearnRequestId = lastTaken j := by
  rcases (h.single.baselineFor delivery).2 with hbaselines | ⟨hbaselines, hnew⟩
  · exact ⟨h.version _ hbaselines, h.last _ hbaselines⟩
  · unfold lastTaken
    rw [h.untouched hbaselines, hnew.baselineVersion, hnew.lastRelearnRequestId]
    exact ⟨rfl, rfl⟩

/-- A journal with one baseline. -/
theorem IsRecorded.of_singleton {j : Journal K} {baseline : VibrationBaseline K}
    (hsingle : Single service installationId j.rows) (hbaselines : j.rows.baselines = [baseline])
    (hversion : baseline.baselineVersion = 1 + j.relearns.length)
    (hlast : baseline.lastRelearnRequestId = lastTaken j)
    (hsuperseded : j.rows.history.map (fun row => (row.baselineVersion, row.sampleCount,
      row.statistics)) = j.relearns.map fun relearn =>
        (relearn.2.baselineVersion, relearn.2.sampleCount, relearn.2.statistics))
    (hversions : j.rows.history.map (·.baselineVersion) = List.range' 1 j.relearns.length) :
    IsRecorded service installationId j := by
  refine ⟨hsingle, fun hnone => ?_, fun other hother => ?_, fun other hother => ?_, hsuperseded,
    hversions⟩
  · rw [hbaselines] at hnone
    exact absurd hnone (List.cons_ne_nil _ _)
  · rw [hbaselines] at hother
    exact List.singleton_inj.mp hother ▸ hversion
  · rw [hbaselines] at hother
    exact List.singleton_inj.mp hother ▸ hlast

/-- **What every call keeps.** -/
theorem isRecorded_next {j : Journal K} (h : IsRecorded service installationId j) (call : Call K) :
    IsRecorded service installationId (next service A j installationId call) := by
  have hchange := change_next service A j installationId call
  generalize next service A j installationId call = after at hchange
  cases hchange with
  | kept => exact h
  | duplicate => exact ⟨h.single, h.untouched, h.version, h.last, h.superseded, h.versions⟩
  | processed delivery assessment available accepted unstored new assessed =>
    obtain ⟨hbaselines, hsingle⟩ := h.single.rowsAfter assessed
    obtain ⟨hkeeps, _⟩ := keeps_assess assessed
    obtain ⟨hversion, hlast⟩ := h.baselineFor delivery
    exact .of_singleton hsingle hbaselines (hkeeps.baselineVersion.trans hversion)
      (hkeeps.lastRelearnRequestId.trans hlast) h.superseded h.versions
  | relearned call context reason requestId baseline requests current =>
    obtain ⟨hbaselines, hsingle⟩ := h.single.rowsRelearned current context.now reason requestId
    obtain ⟨hbaseline, _⟩ := h.single.currentBaseline current
    have hversion := h.version baseline hbaseline
    refine .of_singleton hsingle hbaselines ?_ ?_ ?_ ?_
    · show baseline.baselineVersion + 1 = 1 + (j.relearns ++ [(requestId, baseline)]).length
      rw [hversion, List.length_append, List.length_singleton, Nat.add_assoc]
    · show requestId = lastTaken _
      unfold lastTaken
      rw [List.getLast?_append_of_ne_nil _ (List.cons_ne_nil _ _)]
      rfl
    · show (j.rows.history ++ [historyRow baseline context.now reason]).map _ = _
      rw [List.map_append, h.superseded, List.map_append]
      rfl
    · show (j.rows.history ++ [historyRow baseline context.now reason]).map _ = _
      rw [List.map_append, h.versions, List.length_append, List.length_singleton,
        List.range'_concat, Nat.one_mul]
      show _ ++ [baseline.baselineVersion] = _
      rw [hversion]

/-! ## Requests that are followed -/

theorem takenIds_snoc (j : Journal K) (rows : DeviceRows K) (requestId : Option Text)
    (baseline : VibrationBaseline K) :
    takenIds { rows, relearns := j.relearns ++ [(requestId, baseline)] } =
      takenIds j ++ (requestId.filter (!·.isEmpty)).toList := by
  unfold takenIds
  rw [List.filterMap_append, List.filterMap_cons, List.filterMap_nil]
  cases requestId.filter (!·.isEmpty) <;> rfl

theorem ne_nil_of_mem_takenIds {j : Journal K} {id : Text} (h : id ∈ takenIds j) : id ≠ [] := by
  obtain ⟨relearn, _, hid⟩ := List.mem_filterMap.mp h
  obtain ⟨_, hnonempty⟩ := Option.filter_eq_some_iff.mp hid
  simpa using hnonempty

/-- What is remembered is recognised. -/
theorem isRepeated_iff {baseline : VibrationBaseline K} {id : Text} (hid : id ≠ []) :
    baseline.isRepeated (some id) = true ↔ baseline.lastRelearnRequestId = some id := by
  unfold VibrationBaseline.isRepeated
  simp [hid]

/-- The version of the baseline is not in the history yet. -/
theorem IsRecorded.isSuperseded {j : Journal K} (h : IsRecorded service installationId j)
    {baseline : VibrationBaseline K} (hbaseline : j.rows.baselines = [baseline]) :
    j.rows.isSuperseded baseline = false := by
  unfold DeviceRows.isSuperseded
  rw [Bool.and_eq_false_iff, List.any_eq_false]
  refine .inr fun row hrow => ?_
  have hversion : row.baselineVersion ∈ List.range' 1 j.relearns.length := by
    rw [← h.versions]
    exact List.mem_map_of_mem hrow
  rw [List.mem_range'_1] at hversion
  have hcurrent := h.version baseline hbaseline
  have hne : row.baselineVersion ≠ baseline.baselineVersion := by omega
  simp [hne]

/-- **When one call keeps the requests apart.** -/
theorem isComplete_next_iff {j : Journal K} (h : IsRecorded service installationId j)
    (hcomplete : IsComplete j) (call : Call K) :
    IsComplete (next service A j installationId call) ↔ RepeatsLast j call := by
  constructor
  · intro hafter context reason id hrequests hmem hfound haccepted
    by_contra hlast
    have hid := ne_nil_of_mem_takenIds hmem
    cases hrequests
    -- a request took effect before, so there is a baseline
    rcases h.single with ⟨hnone, _⟩ | ⟨baseline, _, hbaseline, _⟩
    · unfold takenIds at hmem
      rw [h.untouched hnone] at hmem
      cases hmem
    · have hcurrent := h.single.currentBaseline_eq hbaseline
      have hnew : baseline.isRepeated (some id) = false := by
        rw [← Bool.not_eq_true, isRepeated_iff hid, h.last baseline hbaseline]
        exact hlast
      obtain ⟨result, hrelearn, hduplicate⟩ := relearnBaseline_of_isRepeated reason hfound hcurrent
        hnew haccepted (h.isSuperseded hbaseline)
      have honce := hafter.once
      rw [next_of_relearnBaseline hcurrent hrelearn hduplicate, takenIds_snoc] at honce
      have htaken : (some id).filter (fun id : Text => !id.isEmpty) = some id := by
        simp [hid]
      rw [htaken, List.nodup_append] at honce
      exact honce.2.2 id hmem id (by simp) rfl
  · intro hrepeats
    have hrecorded := isRecorded_next (A := A) h call
    refine ⟨?_, hrecorded.version, hrecorded.superseded, hrecorded.versions⟩
    have hchange := change_next service A j installationId call
    generalize next service A j installationId call = after at hchange
    cases hchange with
    | kept => exact hcomplete.once
    | duplicate => exact hcomplete.once
    | processed => exact hcomplete.once
    | relearned call context reason requestId baseline requests current new found accepted =>
      rw [takenIds_snoc]
      cases hid : requestId.filter (!·.isEmpty) with
      | none =>
        rw [Option.toList_none, List.append_nil]
        exact hcomplete.once
      | some id =>
        obtain ⟨rfl, hnonempty⟩ := Option.filter_eq_some_iff.mp hid
        have hne : id ≠ [] := by simpa using hnonempty
        rw [Option.toList_some, List.nodup_append]
        refine ⟨hcomplete.once, List.nodup_singleton id, fun other hother same hsame => ?_⟩
        rintro rfl
        rw [List.mem_singleton] at hsame
        subst hsame
        have hlast := hrepeats context reason other requests hother found accepted
        obtain ⟨hbaseline, _⟩ := h.single.currentBaseline current
        rw [← h.last baseline hbaseline, ← isRepeated_iff hne, new] at hlast
        cases hlast

variable (A service installationId)

/-- **When requests are idempotent.**  Along a run of calls for one device with one baseline every
request takes effect at most once, the version counts the relearns and the history has every
superseded version once as it was, exactly if a request is repeated only as long as no other took
effect.
SOURCE: vibration_condition.py:205-272 -/
theorem isComplete_run_iff (calls : List (Call K)) :
    Runs.Always (fun j call => next service A j installationId call) IsComplete {} calls ↔
      Runs.Throughout (fun j call => next service A j installationId call) RepeatsLast {}
        calls := by
  have hstart : IsRecorded service installationId ({} : Journal K) := {
    single := .inl ⟨rfl, rfl⟩
    untouched := fun _ => rfl
    version := fun _ hbaseline => absurd hbaseline.symm (List.cons_ne_nil _ _)
    last := fun _ hbaseline => absurd hbaseline.symm (List.cons_ne_nil _ _)
    superseded := rfl
    versions := rfl }
  have hcomplete : IsComplete ({} : Journal K) := ⟨List.nodup_nil,
    fun _ hbaseline => absurd hbaseline.symm (List.cons_ne_nil _ _), rfl, rfl⟩
  exact Runs.always_iff_throughout _ hstart hcomplete (fun _ call h => isRecorded_next h call)
    fun _ call h hj => isComplete_next_iff h hj call

/-! ## A late retry -/

/-- A request to learn again. -/
def relearnCall (id : Text) : Call ℚ :=
  .relearnBaseline { device := some ⟨false, true⟩, now := 0, refused := false } none (some id)

/-- A window, a request, another request, and the first request again. -/
def lateRetry : List (Call ℚ) :=
  [.process (BaselineLearning.steadyWindow 1 0), relearnCall "request-0001".toList,
    relearnCall "request-0002".toList, relearnCall "request-0001".toList]

/-- A request that is repeated after another takes effect twice. -/
theorem not_isComplete :
    ¬ ∀ calls, Runs.Always (fun j call => next BaselineLearning.defaultService
      (Arithmetic.exact Rat.sqrt) j none call) IsComplete {} calls := by
  intro hall
  have hlast := (hall lateRetry lateRetry (List.prefix_refl _)).once
  have htaken : ¬ (takenIds (Runs.after (fun j call => next BaselineLearning.defaultService
      (Arithmetic.exact Rat.sqrt) j none call) {} lateRetry)).Nodup := by
    decide +kernel
  exact htaken hlast

end RelearnRequests

end SeedMg24.Analysis
