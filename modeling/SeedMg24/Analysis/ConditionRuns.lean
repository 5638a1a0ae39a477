import Mathlib.Tactic
import SeedMg24.Foundation.Checks
import SeedMg24.Foundation.Runs
import SeedMg24.Model.VibrationCondition

/-!
# Runs of the condition service

A journal beside the rows of a device: the windows that have been taken since the baseline was
learned again for the last time, what the new ones among them were evaluated to, and the requests
that took effect.  A call leaves all as it is, takes a window, or starts learning again.
-/

set_option autoImplicit false

namespace SeedMg24.Analysis

open Foundation SeedMg24.Model.ConditionService

namespace ConditionRuns

variable {K : Type}

/-- The rows of a device, and what has happened to them. -/
structure Journal (K : Type) where
  rows : DeviceRows K := {}
  /-- The windows taken since the last relearn. -/
  delivered : List (Delivery K) := []
  /-- What those of them that were no duplicates were evaluated to. -/
  evaluated : List ConditionState := []
  /-- The requests that took effect, with the baselines they superseded. -/
  relearns : List (Option Text × VibrationBaseline K) := []

variable (service : VibrationConditionService) (A : Arithmetic K)

/-- The request a call makes, if it is one to learn again. -/
def requestOf : Call K → Option (Option Text)
  | .process _ => none
  | .relearnBaseline _ _ requestId => some requestId
  | .resetBaseline _ => some none

/-- What a window is evaluated to. -/
def evaluation (rows : DeviceRows K) (installationId : Option Text) (delivery : Delivery K) :
    Option ConditionState :=
  ((assess A (rows.baselineFor service installationId delivery) delivery).toOption).map (·.state)

/-- A call, made when the device has an installation. -/
def next (j : Journal K) (installationId : Option Text) (call : Call K) : Journal K :=
  let (rows, answer) := step service A j.rows installationId call
  match call, answer with
  | .process delivery, .processed (.duplicate _) =>
    { j with rows, delivered := j.delivered ++ [delivery] }
  | .process delivery, .processed (.done ..) => { j with
      rows
      delivered := j.delivered ++ [delivery]
      evaluated := j.evaluated ++ (evaluation service A j.rows installationId delivery).toList }
  | call, .relearned result =>
    if result.duplicate then { j with rows }
    else {
      rows
      relearns := j.relearns ++
        (j.rows.currentBaseline.map ((requestOf call).getD none, ·)).toList }
  | _, _ => { j with rows }

/-! ## What a call can do -/

/-- The device is registered and takes windows. -/
def IsAvailable (delivery : Delivery K) : Prop :=
  (delivery.context.device.any fun device => !device.archived && device.enabled) = true

/-- The device is registered and not archived. -/
def IsFound (context : CallContext) : Prop := (context.device.any (!·.archived)) = true

/-- The rows after a window that is no duplicate. -/
def rowsAfter (rows : DeviceRows K) (installationId : Option Text) (delivery : Delivery K)
    (assessment : Assessment K) : DeviceRows K where
  baselines := rows.saveBaseline assessment.baseline
  condition := some (conditionRow installationId delivery assessment
    (hysteresis service.persistenceWindows ((rows.condition.map (·.held)).getD {})
      assessment.state))
  windows := if rows.isDue service delivery.observedAt then
    rows.windows ++ [windowRow installationId assessment.baseline.baselineVersion delivery]
    else rows.windows
  history := rows.history

/-- What is answered to a window that is no duplicate. -/
def resultAfter (rows : DeviceRows K) (delivery : Delivery K) (assessment : Assessment K) :
    ProcessResult K :=
  .done (rows.isDue service delivery.observedAt)
    ((hysteresis service.persistenceWindows ((rows.condition.map (·.held)).getD {})
      assessment.state).state.getD .baselinePending)
    assessment.score assessment.factors assessment.baseline.sampleCount assessment.baseline.status

/-- The rows after a baseline is learned again. -/
def rowsRelearned (rows : DeviceRows K) (baseline : VibrationBaseline K) (now : ℤ)
    (reason requestId : Option Text) : DeviceRows K where
  baselines := rows.saveBaseline (baseline.relearned now reason requestId)
  condition := some {
    installationId := baseline.installationId
    baselineId := some baseline.id
    evaluatedAt := some now }
  windows := rows.windows
  history := rows.history ++ [historyRow baseline now reason]

/-- A call to learn again, with its context, its reason and its request. -/
inductive Requests : Call K → CallContext → Option Text → Option Text → Prop
  | relearn (context : CallContext) (reason requestId : Option Text) :
    Requests (.relearnBaseline context reason requestId) context reason requestId
  | reset (context : CallContext) : Requests (.resetBaseline context) context
      (some "Baseline reset through compatibility endpoint".toList) none

/-- What a call does to the journal. -/
inductive Change (j : Journal K) (installationId : Option Text) : Call K → Journal K → Prop
  | kept (call : Call K) : Change j installationId call j
  | duplicate (delivery : Delivery K) (available : IsAvailable delivery)
      (repeated : (j.rows.baselineFor service installationId delivery).isDuplicate delivery = true) :
    Change j installationId (.process delivery)
      { j with delivered := j.delivered ++ [delivery] }
  | processed (delivery : Delivery K) (assessment : Assessment K)
      (available : IsAvailable delivery) (accepted : delivery.context.refused = false)
      (unstored : (j.rows.isDue service delivery.observedAt && j.rows.isStored delivery) = false)
      (new : (j.rows.baselineFor service installationId delivery).isDuplicate delivery = false)
      (assessed : assess A (j.rows.baselineFor service installationId delivery) delivery =
        .ok assessment) :
    Change j installationId (.process delivery) { j with
      rows := rowsAfter service j.rows installationId delivery assessment
      delivered := j.delivered ++ [delivery]
      evaluated := j.evaluated ++ [assessment.state] }
  | relearned (call : Call K) (context : CallContext) (reason requestId : Option Text)
      (baseline : VibrationBaseline K) (requests : Requests call context reason requestId)
      (current : j.rows.currentBaseline = some baseline)
      (new : baseline.isRepeated requestId = false) (found : IsFound context)
      (accepted : context.refused = false) :
    Change j installationId call {
      rows := rowsRelearned j.rows baseline context.now reason requestId
      relearns := j.relearns ++ [(requestId, baseline)] }

variable {service A}

theorem of_require {condition : Bool} {error : ServiceError} {u : Unit}
    (h : require condition error = .ok u) : condition = true := by
  unfold require at h
  split at h
  · assumption
  · cases h

/-- SOURCE: vibration_condition.py:104-203 -/
theorem process_cases {rows rows' : DeviceRows K} {installationId : Option Text}
    {delivery : Delivery K} {result : ProcessResult K}
    (h : process service A rows installationId delivery = .ok (rows', result)) :
    IsAvailable delivery ∧
    (((rows.baselineFor service installationId delivery).isDuplicate delivery = true ∧
        rows' = rows ∧ ∃ state, result = .duplicate state) ∨
      ((rows.baselineFor service installationId delivery).isDuplicate delivery = false ∧
        delivery.context.refused = false ∧
        (rows.isDue service delivery.observedAt && rows.isStored delivery) = false ∧
        ∃ assessment, assess A (rows.baselineFor service installationId delivery) delivery =
            .ok assessment ∧
          rows' = rowsAfter service rows installationId delivery assessment ∧
          result = resultAfter service rows delivery assessment)) := by
  unfold process at h
  obtain ⟨_, havailable, h⟩ := Checks.exists_of_bind h
  refine ⟨of_require havailable, ?_⟩
  dsimp only at h
  cases hduplicate : (rows.baselineFor service installationId delivery).isDuplicate delivery with
  | true =>
    rw [hduplicate, if_pos rfl] at h
    cases h
    exact .inl ⟨rfl, rfl, _, rfl⟩
  | false =>
    rw [hduplicate, if_neg Bool.false_ne_true] at h
    obtain ⟨assessment, hassessed, h⟩ := Checks.exists_of_bind h
    obtain ⟨_, _, h⟩ := Checks.exists_of_bind h
    obtain ⟨_, hwritten, h⟩ := Checks.exists_of_bind h
    have hwritten := of_require hwritten
    rw [Bool.and_eq_true, Bool.not_eq_true', Bool.not_eq_true'] at hwritten
    cases h
    exact .inr ⟨rfl, hwritten.1, hwritten.2, assessment, hassessed, rfl, rfl⟩

/-- A duplicate is recognised before anything else is looked at. -/
theorem process_of_isDuplicate {rows : DeviceRows K} {installationId : Option Text}
    {delivery : Delivery K} (havailable : IsAvailable delivery)
    (hduplicate : (rows.baselineFor service installationId delivery).isDuplicate delivery = true) :
    process service A rows installationId delivery =
      .ok (rows, .duplicate (rows.condition.map (·.state))) := by
  unfold IsAvailable at havailable
  unfold process require
  rw [if_pos havailable]
  dsimp only [bind, Except.bind]
  rw [if_pos hduplicate]
  rfl

/-- A window that is assessed and can be written is taken. -/
theorem process_of_assess {rows : DeviceRows K} {installationId : Option Text}
    {delivery : Delivery K} {assessment : Assessment K} (havailable : IsAvailable delivery)
    (hnew : (rows.baselineFor service installationId delivery).isDuplicate delivery = false)
    (hassessed : assess A (rows.baselineFor service installationId delivery) delivery =
      .ok assessment)
    (hfactors : assessment.factors.all (·.isFinite A) = true)
    (haccepted : delivery.context.refused = false)
    (hunstored : (rows.isDue service delivery.observedAt && rows.isStored delivery) = false) :
    process service A rows installationId delivery =
      .ok (rowsAfter service rows installationId delivery assessment,
        resultAfter service rows delivery assessment) := by
  unfold IsAvailable at havailable
  unfold process require
  rw [if_pos havailable]
  dsimp only [bind, Except.bind]
  rw [if_neg (by rw [hnew]; exact Bool.false_ne_true), hassessed]
  dsimp only
  rw [if_pos hfactors, haccepted, hunstored]
  rfl

/-- SOURCE: vibration_condition.py:205-268 -/
theorem relearnBaseline_cases {rows rows' : DeviceRows K} {context : CallContext}
    {reason requestId : Option Text} {result : RelearnResult}
    (h : relearnBaseline rows context reason requestId = .ok (rows', result)) :
    (rows' = rows ∧ result.duplicate = true) ∨
    ∃ baseline, rows.currentBaseline = some baseline ∧ baseline.isRepeated requestId = false ∧
      IsFound context ∧ context.refused = false ∧
      rows' = rowsRelearned rows baseline context.now reason requestId ∧
      result.duplicate = false := by
  unfold relearnBaseline at h
  obtain ⟨_, hfound, h⟩ := Checks.exists_of_bind h
  cases hcurrent : rows.currentBaseline with
  | none =>
    rw [hcurrent] at h
    cases h
  | some baseline =>
    rw [hcurrent] at h
    dsimp only at h
    cases hrepeated : baseline.isRepeated requestId with
    | true =>
      rw [hrepeated, if_pos rfl] at h
      cases h
      exact .inl ⟨rfl, rfl⟩
    | false =>
      rw [hrepeated, if_neg Bool.false_ne_true] at h
      obtain ⟨_, haccepted, h⟩ := Checks.exists_of_bind h
      have haccepted := of_require haccepted
      rw [Bool.and_eq_true, Bool.not_eq_true'] at haccepted
      cases h
      exact .inr ⟨baseline, rfl, hrepeated, of_require hfound, haccepted.1, rfl, rfl⟩

/-- A request that is not remembered is followed, if the database takes what is written. -/
theorem relearnBaseline_of_isRepeated {rows : DeviceRows K} {context : CallContext}
    {requestId : Option Text} {baseline : VibrationBaseline K} (reason : Option Text)
    (hfound : IsFound context)
    (hcurrent : rows.currentBaseline = some baseline)
    (hnew : baseline.isRepeated requestId = false) (haccepted : context.refused = false)
    (hsuperseded : rows.isSuperseded baseline = false) :
    ∃ result, relearnBaseline rows context reason requestId =
        .ok (rowsRelearned rows baseline context.now reason requestId, result) ∧
      result.duplicate = false := by
  unfold IsFound at hfound
  unfold relearnBaseline require
  rw [if_pos hfound, hcurrent]
  dsimp only [bind, Except.bind]
  rw [hnew, if_neg Bool.false_ne_true, haccepted, hsuperseded]
  exact ⟨_, rfl, rfl⟩

theorem step_of_error {rows : DeviceRows K} {installationId : Option Text} {call : Call K}
    {error : ServiceError} (h : attempt service A rows installationId call = .error error) :
    step service A rows installationId call = (rows, .raised error) := by
  unfold step
  rw [h]

theorem step_of_ok {rows : DeviceRows K} {installationId : Option Text} {call : Call K}
    {result : DeviceRows K × Answer K}
    (h : attempt service A rows installationId call = .ok result) :
    step service A rows installationId call = result := by
  unfold step
  rw [h]

/-- A reset is a call to learn again without a request.
SOURCE: vibration_condition.py:270-272 -/
theorem next_resetBaseline (j : Journal K) (installationId : Option Text) (context : CallContext) :
    next service A j installationId (.resetBaseline context) =
      next service A j installationId (.relearnBaseline context
        (some "Baseline reset through compatibility endpoint".toList) none) := by
  have hstep : step service A j.rows installationId (.resetBaseline context) =
      step service A j.rows installationId (.relearnBaseline context
        (some "Baseline reset through compatibility endpoint".toList) none) := rfl
  unfold next
  rw [hstep]
  obtain ⟨rows, answer⟩ := step service A j.rows installationId (.relearnBaseline context
    (some "Baseline reset through compatibility endpoint".toList) none)
  cases answer <;> rfl

theorem step_process {rows rows' : DeviceRows K} {installationId : Option Text}
    {delivery : Delivery K} {result : ProcessResult K}
    (h : process service A rows installationId delivery = .ok (rows', result)) :
    step service A rows installationId (.process delivery) = (rows', .processed result) := by
  refine step_of_ok ?_
  simp only [attempt, h]
  rfl

/-- The journal after a duplicate. -/
theorem next_of_isDuplicate {j : Journal K} {installationId : Option Text} {delivery : Delivery K}
    (havailable : IsAvailable delivery)
    (hduplicate : (j.rows.baselineFor service installationId delivery).isDuplicate delivery =
      true) :
    next service A j installationId (.process delivery) =
      { j with delivered := j.delivered ++ [delivery] } := by
  unfold next
  rw [step_process (process_of_isDuplicate havailable hduplicate)]

/-- The journal after a window that is taken. -/
theorem next_of_process {j : Journal K} {installationId : Option Text} {delivery : Delivery K}
    {assessment : Assessment K}
    (hassessed : assess A (j.rows.baselineFor service installationId delivery) delivery =
      .ok assessment)
    (hprocess : process service A j.rows installationId delivery =
      .ok (rowsAfter service j.rows installationId delivery assessment,
        resultAfter service j.rows delivery assessment)) :
    next service A j installationId (.process delivery) = { j with
      rows := rowsAfter service j.rows installationId delivery assessment
      delivered := j.delivered ++ [delivery]
      evaluated := j.evaluated ++ [assessment.state] } := by
  have hevaluation : evaluation service A j.rows installationId delivery =
      some assessment.state := by
    unfold evaluation
    rw [hassessed]
    rfl
  unfold next
  rw [step_process hprocess]
  unfold resultAfter
  dsimp only
  rw [hevaluation]
  rfl

theorem change_process (j : Journal K) (installationId : Option Text) (delivery : Delivery K) :
    Change service A j installationId (.process delivery)
      (next service A j installationId (.process delivery)) := by
  cases hprocess : process service A j.rows installationId delivery with
  | error error =>
    have hattempt : attempt service A j.rows installationId (.process delivery) = .error error := by
      simp only [attempt, hprocess]
      rfl
    unfold next
    rw [step_of_error hattempt]
    exact .kept _
  | ok found =>
    obtain ⟨rows, result⟩ := found
    obtain ⟨havailable, hcases⟩ := process_cases hprocess
    rcases hcases with ⟨hrepeated, rfl, state, rfl⟩ |
      ⟨hnew, haccepted, hunstored, assessment, hassessed, rfl, rfl⟩
    · rw [next_of_isDuplicate havailable hrepeated]
      exact .duplicate delivery havailable hrepeated
    · rw [next_of_process hassessed hprocess]
      exact .processed delivery assessment havailable haccepted hunstored hnew hassessed

theorem step_relearnBaseline {rows rows' : DeviceRows K} {installationId : Option Text}
    {context : CallContext} {reason requestId : Option Text} {result : RelearnResult}
    (h : relearnBaseline rows context reason requestId = .ok (rows', result)) :
    step service A rows installationId (.relearnBaseline context reason requestId) =
      (rows', .relearned result) := by
  refine step_of_ok ?_
  simp only [attempt, h]
  rfl

/-- The journal after a request that takes effect. -/
theorem next_of_relearnBaseline {j : Journal K} {installationId : Option Text}
    {context : CallContext} {reason requestId : Option Text} {baseline : VibrationBaseline K}
    {result : RelearnResult} (hcurrent : j.rows.currentBaseline = some baseline)
    (hrelearn : relearnBaseline j.rows context reason requestId =
      .ok (rowsRelearned j.rows baseline context.now reason requestId, result))
    (hduplicate : result.duplicate = false) :
    next service A j installationId (.relearnBaseline context reason requestId) = {
      rows := rowsRelearned j.rows baseline context.now reason requestId
      relearns := j.relearns ++ [(requestId, baseline)] } := by
  unfold next
  rw [step_relearnBaseline hrelearn]
  dsimp only
  rw [hduplicate, if_neg Bool.false_ne_true, hcurrent]
  rfl

theorem change_relearnBaseline (j : Journal K) (installationId : Option Text) {call : Call K}
    {context : CallContext} {reason requestId : Option Text}
    (hrequests : Requests call context reason requestId) :
    Change service A j installationId call
      (next service A j installationId (.relearnBaseline context reason requestId)) := by
  cases hrelearn : relearnBaseline j.rows context reason requestId with
  | error error =>
    have hattempt : attempt service A j.rows installationId
        (.relearnBaseline context reason requestId) = .error error := by
      simp only [attempt, hrelearn]
      rfl
    unfold next
    rw [step_of_error hattempt]
    exact .kept _
  | ok found =>
    obtain ⟨rows, result⟩ := found
    rcases relearnBaseline_cases hrelearn with ⟨rfl, hduplicate⟩ |
      ⟨baseline, hcurrent, hnew, hfound, haccepted, rfl, hduplicate⟩
    · unfold next
      rw [step_relearnBaseline hrelearn]
      dsimp only
      rw [hduplicate, if_pos rfl]
      exact .kept _
    · rw [next_of_relearnBaseline hcurrent hrelearn hduplicate]
      exact .relearned call context reason requestId baseline hrequests hcurrent hnew hfound haccepted

/-- **What a call does**: it leaves the journal as it is, takes a window, or starts learning
again. -/
theorem change_next (service : VibrationConditionService) (A : Arithmetic K) (j : Journal K) (installationId : Option Text) (call : Call K) :
    Change service A j installationId call (next service A j installationId call) := by
  cases call with
  | process delivery => exact change_process j installationId delivery
  | relearnBaseline context reason requestId =>
    exact change_relearnBaseline j installationId (.relearn context reason requestId)
  | resetBaseline context =>
    rw [next_resetBaseline]
    exact change_relearnBaseline j installationId (.reset context)

end ConditionRuns

end SeedMg24.Analysis
