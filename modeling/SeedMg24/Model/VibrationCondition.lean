import Mathlib.Algebra.Order.Field.Basic
import Mathlib.Data.Rat.Cast.Defs
import SeedMg24.Foundation.Text

/-!
# The condition of a machine from its vibration

`services/vibration_condition.py`: a baseline is learned from the windows of a device at an
installation until it is frozen, later windows are compared with it, and a state of the condition
has to be seen several times before it is taken on.  The rows are those of one registered device:
no statement of the service reads those of another.  A call that raises is rolled back.
-/

set_option autoImplicit false

namespace SeedMg24.Model.ConditionService

open Foundation

/-! ## Numbers -/

/-- What the service raises: a `ValueError`, a `ZeroDivisionError`, a `KeyError`, and an error of
the database. -/
inductive ServiceError where
  | value (message : Text)
  | zeroDivision
  | key
  | database
deriving DecidableEq, Repr

/-- `raise` unless something holds. -/
def require (condition : Bool) (error : ServiceError) : Except ServiceError Unit :=
  if condition then .ok () else .error error

/-- The arithmetic of the floats, with the literals and the counts as floats. -/
structure Arithmetic (K : Type) where
  literal : ℚ → K
  add : K → K → K
  sub : K → K → K
  mul : K → K → K
  div : K → K → K
  isZero : K → Bool
  abs : K → K
  sqrt : K → K
  lt : K → K → Bool
  le : K → K → Bool
  isFinite : K → Bool

namespace Arithmetic

variable {K : Type} (A : Arithmetic K)

/-- `max` of two numbers: the first, unless the second is greater. -/
def max (x y : K) : K := if A.lt x y then y else x

/-- `min` of two numbers: the first, unless the second is smaller. -/
def min (x y : K) : K := if A.lt y x then y else x

/-- `/`, which raises for a divisor that is zero. -/
def divide (x y : K) : Except ServiceError K :=
  if A.isZero y then .error .zeroDivision else .ok (A.div x y)

/-- Exact arithmetic. -/
def exact {F : Type} [Field F] [LinearOrder F] (sqrt : F → F) : Arithmetic F where
  literal q := q
  add x y := x + y
  sub x y := x - y
  mul x y := x * y
  div x y := x / y
  isZero x := x = 0
  abs x := |x|
  sqrt
  lt x y := x < y
  le x y := x ≤ y
  isFinite _ := true

end Arithmetic

/-! ## Features -/

inductive Axis where
  | x
  | y
  | z
deriving DecidableEq, Repr

def Axis.name : Axis → Text
  | .x => "x".toList
  | .y => "y".toList
  | .z => "z".toList

/-- The groups of features, one feature for each axis. -/
inductive FeatureGroup where
  | accelRms
  | accelPeak
  | crest
  | kurtosis
  | dominantFrequency
  | dominantAmplitude
  | gyroRms
deriving DecidableEq, Repr

/-- What stands before and behind the axis in the names of a group.
SOURCE: vibration_condition.py:31-39 -/
def FeatureGroup.template : FeatureGroup → Text × Text
  | .accelRms => ("accel_rms_".toList, "_g".toList)
  | .accelPeak => ("accel_peak_".toList, "_g".toList)
  | .crest => ("crest_".toList, [])
  | .kurtosis => ("kurtosis_".toList, [])
  | .dominantFrequency => ("dominant_frequency_".toList, "_hz".toList)
  | .dominantAmplitude => ("dominant_amplitude_".toList, "_g".toList)
  | .gyroRms => ("gyro_rms_".toList, "_dps".toList)

structure Feature where
  group : FeatureGroup
  axis : Axis
deriving DecidableEq, Repr

def Feature.name (f : Feature) : Text :=
  f.group.template.1 ++ f.axis.name ++ f.group.template.2

/-- SOURCE: vibration_condition.py:19-26 -/
def features : List Feature :=
  [⟨.accelRms, .x⟩, ⟨.accelRms, .y⟩, ⟨.accelRms, .z⟩,
   ⟨.accelPeak, .x⟩, ⟨.accelPeak, .y⟩, ⟨.accelPeak, .z⟩,
   ⟨.crest, .x⟩, ⟨.crest, .y⟩, ⟨.crest, .z⟩, ⟨.kurtosis, .x⟩, ⟨.kurtosis, .y⟩, ⟨.kurtosis, .z⟩,
   ⟨.dominantFrequency, .x⟩, ⟨.dominantFrequency, .y⟩, ⟨.dominantFrequency, .z⟩,
   ⟨.dominantAmplitude, .x⟩, ⟨.dominantAmplitude, .y⟩, ⟨.dominantAmplitude, .z⟩,
   ⟨.gyroRms, .x⟩, ⟨.gyroRms, .y⟩, ⟨.gyroRms, .z⟩]

theorem mem_features (f : Feature) : f ∈ features := by
  obtain ⟨group, axis⟩ := f
  cases group <;> cases axis <;> decide

theorem nodup_features : features.Nodup := by decide

/-- SOURCE: schemas.py:142 -/
inductive Validity where
  | valid
  | invalid
deriving DecidableEq, Repr

/-- The summary of a window; the only version of the algorithm is 1.
SOURCE: schemas.py:136-149 -/
structure VibrationSummary (K : Type) where
  schemaVersion : ℕ := 1
  algorithmVersion : ℕ := 1
  windowSequence : ℕ
  deviceUptimeMs : ℕ
  effectiveSampleRateHz : K
  validity : Validity
  accelRmsG : Axis → K
  accelPeakG : Axis → K
  crestFactor : Axis → K
  kurtosis : Axis → K
  dominantFrequencyHz : Axis → K
  dominantAmplitudeG : Axis → K
  gyroRmsDps : Axis → K
  algorithmVersion_eq : algorithmVersion = 1 := by rfl

/-- SOURCE: vibration_condition.py:29-43 -/
def summaryValues {K : Type} (summary : VibrationSummary K) (f : Feature) : K :=
  match f.group with
  | .accelRms => summary.accelRmsG f.axis
  | .accelPeak => summary.accelPeakG f.axis
  | .crest => summary.crestFactor f.axis
  | .kurtosis => summary.kurtosis f.axis
  | .dominantFrequency => summary.dominantFrequencyHz f.axis
  | .dominantAmplitude => summary.dominantAmplitudeG f.axis
  | .gyroRms => summary.gyroRmsDps f.axis

/-! ## Statistics -/

/-- SOURCE: vibration_condition.py:49 -/
structure StatisticsItem (K : Type) where
  count : ℕ
  mean : K
  m2 : K
  min : K
  max : K
deriving DecidableEq

/-- The statistics of the features, `statistics_json` as it is loaded: finite numbers are read back
as they were written. -/
abbrev Statistics (K : Type) := Feature → Option (StatisticsItem K)

variable {K : Type}

/-- `{}`. -/
def Statistics.empty : Statistics K := fun _ => none

/-- One more value of a feature.
SOURCE: vibration_condition.py:48-55 -/
def updateItem (A : Arithmetic K) (item : Option (StatisticsItem K)) (value : K) :
    Except ServiceError (StatisticsItem K) := do
  let item := item.getD ⟨0, A.literal 0, A.literal 0, value, value⟩
  let count := item.count + 1
  let delta := A.sub value item.mean
  let quotient ← A.divide delta (A.literal count)
  let mean := A.add item.mean quotient
  return {
    count
    mean
    m2 := A.add item.m2 (A.mul delta (A.sub value mean))
    min := A.min item.min value
    max := A.max item.max value }

/-- SOURCE: vibration_condition.py:46-56 -/
def updateStatistics (A : Arithmetic K) (statistics : Statistics K) (values : Feature → K) :
    Except ServiceError (Statistics K) :=
  features.foldlM (fun statistics f => do
    let item ← updateItem A (statistics f) (values f)
    return Function.update statistics f (some item)) statistics

/-- What is told about a feature.
SOURCE: vibration_condition.py:62-65 -/
structure PublicStatistics (K : Type) where
  count : ℕ
  mean : K
  standardDeviation : K
  minimum : K
  maximum : K
deriving DecidableEq

/-- SOURCE: vibration_condition.py:61 -/
def publicVariance (A : Arithmetic K) (item : StatisticsItem K) : Except ServiceError K :=
  if item.count > 1 then A.divide item.m2 (A.literal (item.count - 1 : ℕ)) else .ok (A.literal 0)

/-- SOURCE: vibration_condition.py:61-65 -/
def publicItem (A : Arithmetic K) (item : StatisticsItem K) :
    Except ServiceError (PublicStatistics K) := do
  let variance ← publicVariance A item
  return {
    count := item.count
    mean := item.mean
    standardDeviation := A.sqrt (A.max (A.literal 0) variance)
    minimum := item.min
    maximum := item.max }

/-- One feature of the loop. -/
def tellFeature (A : Arithmetic K) (statistics : Statistics K)
    (result : Feature → Option (PublicStatistics K)) (f : Feature) :
    Except ServiceError (Feature → Option (PublicStatistics K)) :=
  match statistics f with
  | none => .ok result
  | some item => do
    let told ← publicItem A item
    return Function.update result f (some told)

/-- SOURCE: vibration_condition.py:58-67 -/
def publicStatistics (A : Arithmetic K) (statistics : Statistics K) :
    Except ServiceError (Feature → Option (PublicStatistics K)) :=
  features.foldlM (tellFeature A statistics) fun _ => none

/-- What `json.dumps` raises without `allow_nan`. -/
def notCompliant : ServiceError :=
  .value "Out of range float values are not JSON compliant".toList

/-- All numbers of the statistics can be written. -/
def Statistics.isFinite (A : Arithmetic K) (statistics : Statistics K) : Bool :=
  features.all fun f => match statistics f with
    | none => true
    | some item =>
      A.isFinite item.mean && A.isFinite item.m2 && A.isFinite item.min && A.isFinite item.max

/-! ## The verdict on a window -/

inductive ConditionState where
  | baselinePending
  | normal
  | elevated
  | significantChange
  | insufficientData
  | invalid
deriving DecidableEq, Repr

/-- SOURCE: vibration_condition.py:84-88 -/
structure Factor (K : Type) where
  feature : Feature
  baseline : K
  current : K
  normalizedDeviation : K
  changePercent : Option K
deriving DecidableEq

/-- How far a feature is from its baseline.
SOURCE: vibration_condition.py:75-82 -/
def normalizedDeviation (A : Arithmetic K) (name : Feature) (current : K)
    (baseline : StatisticsItem K) (binWidthHz : K) : Except ServiceError K := do
  let variance ← A.divide baseline.m2 (A.literal (max 1 (baseline.count - 1) : ℕ))
  let std := A.sqrt (A.max (A.literal 0) variance)
  let distance := A.abs (A.sub current baseline.mean)
  if "dominant_frequency".toList.isPrefixOf name.name then
    A.divide distance (A.max (A.max binWidthHz std) (A.literal (1 / 1000000)))
  else
    let floor := if "_g".toList <:+: name.name then A.literal (1 / 1000) else A.literal (5 / 100)
    A.divide distance
      (A.max (A.max std (A.mul (A.abs baseline.mean) (A.literal (1 / 10)))) floor)

/-- SOURCE: vibration_condition.py:87 -/
def changePercent (A : Arithmetic K) (current mean : K) : Except ServiceError (Option K) := do
  if A.lt (A.literal (1 / 1000000000)) (A.abs mean) then
    let ratio ← A.divide (A.sub current mean) mean
    return some (A.mul ratio (A.literal 100))
  else return none

/-- One feature of the loop.
SOURCE: vibration_condition.py:73-89 -/
def evaluateFeature (A : Arithmetic K) (values : Feature → K) (statistics : Statistics K)
    (binWidthHz : K) (found : K × List (Factor K)) (name : Feature) :
    Except ServiceError (K × List (Factor K)) := do
  match statistics name with
  | none => .error .key
  | some baseline =>
    let normalized ← normalizedDeviation A name (values name) baseline binWidthHz
    let factors ← if A.le (A.literal 2) normalized then do
        let change ← changePercent A (values name) baseline.mean
        pure (found.2 ++ [⟨name, baseline.mean, values name, normalized, change⟩])
      else pure found.2
    return (A.max found.1 normalized, factors)

/-- SOURCE: vibration_condition.py:70-92 -/
def evaluateCondition (A : Arithmetic K) (values : Feature → K) (statistics : Statistics K)
    (binWidthHz : K) : Except ServiceError (ConditionState × K × List (Factor K)) := do
  let (severity, factors) ←
    features.foldlM (evaluateFeature A values statistics binWidthHz) (A.literal 0, [])
  let sorted := factors.mergeSort fun a b => !A.lt a.normalizedDeviation b.normalizedDeviation
  let state := if A.le (A.literal 6) severity then ConditionState.significantChange
    else if A.le (A.literal 3) severity then .elevated else .normal
  let score := A.max (A.literal 0)
    (A.min (A.literal 100) (A.sub (A.literal 100) (A.mul severity (A.literal 10))))
  return (state, score, sorted.take 5)

/-! ## Rows -/

inductive BaselineStatus where
  | building
  | frozen
deriving DecidableEq, Repr

/-- SOURCE: models.py:271-292 -/
structure VibrationBaseline (K : Type) where
  id : ℕ
  installationId : Option Text
  baselineVersion : ℕ := 1
  algorithmVersion : ℕ
  status : BaselineStatus := .building
  sampleCount : ℕ := 0
  minimumSamples : ℕ
  statistics : Statistics K := .empty
  lastSessionId : Option Text := none
  lastWindowSequence : Option ℕ := none
  createdAt : ℤ
  establishedAt : Option ℤ := none
  reason : Option Text := none
  lastRelearnRequestId : Option Text := none
  updatedAt : ℤ

/-- SOURCE: models.py:295-315 -/
structure VibrationBaselineHistory (K : Type) where
  installationId : Option Text
  baselineVersion : ℕ
  algorithmVersion : ℕ
  sampleCount : ℕ
  minimumSamples : ℕ
  statistics : Statistics K
  createdAt : ℤ
  establishedAt : Option ℤ
  supersededAt : ℤ
  reason : Option Text

/-- SOURCE: models.py:318-332 -/
structure VibrationCondition (K : Type) where
  installationId : Option Text
  baselineId : Option ℕ
  state : ConditionState := .baselinePending
  baselineSimilarityScore : Option K := none
  factors : List (Factor K) := []
  pendingState : Option ConditionState := none
  pendingCount : ℕ := 0
  latestWindowSequence : Option ℕ := none
  evaluatedAt : Option ℤ := none

/-- SOURCE: models.py:221-268 -/
structure VibrationWindow (K : Type) where
  installationId : Option Text
  sessionId : Text
  windowSequence : ℕ
  observedAt : ℤ
  deviceUptimeMs : ℕ
  schemaVersion : ℕ
  algorithmVersion : ℕ
  baselineVersion : ℕ
  effectiveSampleRateHz : K
  validity : Validity
  values : Feature → K

/-- The rows of a device that the service reads and writes. -/
structure DeviceRows (K : Type) where
  baselines : List (VibrationBaseline K) := []
  condition : Option (VibrationCondition K) := none
  windows : List (VibrationWindow K) := []
  history : List (VibrationBaselineHistory K) := []

/-- A baseline in its row, or in a new one. -/
def DeviceRows.saveBaseline (rows : DeviceRows K) (baseline : VibrationBaseline K) :
    List (VibrationBaseline K) :=
  if rows.baselines.any (·.id = baseline.id) then
    rows.baselines.map fun other => if other.id = baseline.id then baseline else other
  else rows.baselines ++ [baseline]

/-! ## Calls -/

/-- The arguments of the constructor; `config.py:32-33` bounds the two numbers from below.
SOURCE: vibration_condition.py:96-102 -/
structure VibrationConditionService where
  minimumWindows : ℕ
  persistenceWindows : ℕ
  persistenceInterval : ℤ
  minimumWindows_pos : 0 < minimumWindows
  persistenceWindows_pos : 0 < persistenceWindows

/-- The columns of a registered device that the service looks at. -/
structure RegisteredDevice where
  archived : Bool
  enabled : Bool
deriving DecidableEq, Repr

/-- What a call finds: the row of the device, the time, and whether the database refuses what is
written. -/
structure CallContext where
  device : Option RegisteredDevice
  now : ℤ
  refused : Bool

/-- A window as `process` is given it. -/
structure Delivery (K : Type) where
  context : CallContext
  summary : VibrationSummary K
  sessionId : Text
  observedAt : ℤ

inductive Call (K : Type) where
  | process (delivery : Delivery K)
  | relearnBaseline (context : CallContext) (reason requestId : Option Text)
  | resetBaseline (context : CallContext)

/-- SOURCE: vibration_condition.py:135, 198-200 -/
inductive ProcessResult (K : Type) where
  | duplicate (state : Option ConditionState)
  | done (persisted : Bool) (state : ConditionState) (score : Option K) (factors : List (Factor K))
      (baselineCount : ℕ) (baselineStatus : BaselineStatus)

/-- What is answered only when the baseline is learned again.
SOURCE: vibration_condition.py:262-264 -/
structure RelearnDetails where
  createdAt : ℤ
  establishedAt : Option ℤ
  algorithmVersion : ℕ
  installationId : Option Text
  conditionState : ConditionState

/-- SOURCE: vibration_condition.py:222-226, 259-265 -/
structure RelearnResult where
  status : BaselineStatus
  baselineVersion : ℕ
  sampleCount : ℕ
  minimumSamples : ℕ
  reason : Option Text
  duplicate : Bool
  details : Option RelearnDetails := none

/-! ## A window -/

/-- A window that counts for the baseline and is compared with it.
SOURCE: vibration_condition.py:139 -/
def VibrationSummary.isEligible (A : Arithmetic K) (summary : VibrationSummary K) : Bool :=
  summary.validity = .valid && features.all fun f => A.isFinite (summaryValues summary f)

/-- The baseline of an installation, or a new one.
SOURCE: vibration_condition.py:114-124 -/
def DeviceRows.baselineFor (service : VibrationConditionService) (rows : DeviceRows K)
    (installationId : Option Text) (delivery : Delivery K) : VibrationBaseline K :=
  (rows.baselines.find? fun baseline => baseline.installationId = installationId &&
    baseline.algorithmVersion = delivery.summary.algorithmVersion).getD {
      id := rows.baselines.length + 1
      installationId
      algorithmVersion := delivery.summary.algorithmVersion
      minimumSamples := service.minimumWindows
      createdAt := delivery.context.now
      updatedAt := delivery.context.now }

/-- The last window the baseline has seen is this one.
SOURCE: vibration_condition.py:133 -/
def VibrationBaseline.isDuplicate (baseline : VibrationBaseline K) (delivery : Delivery K) : Bool :=
  baseline.lastSessionId = some delivery.sessionId &&
    baseline.lastWindowSequence = some delivery.summary.windowSequence

/-- What a window comes to: the baseline with it, the state, the score and the factors. -/
structure Assessment (K : Type) where
  baseline : VibrationBaseline K
  state : ConditionState
  score : Option K := none
  factors : List (Factor K) := []

/-- A baseline that has seen a window.
SOURCE: vibration_condition.py:136-137 -/
def VibrationBaseline.seen (baseline : VibrationBaseline K) (delivery : Delivery K) :
    VibrationBaseline K :=
  { baseline with
    lastSessionId := some delivery.sessionId
    lastWindowSequence := some delivery.summary.windowSequence
    updatedAt := delivery.context.now }

/-- A baseline with a window learned, which freezes it when there are enough.
SOURCE: vibration_condition.py:145-149 -/
def VibrationBaseline.learned (baseline : VibrationBaseline K) (statistics : Statistics K)
    (observedAt : ℤ) : VibrationBaseline K :=
  if baseline.minimumSamples ≤ baseline.sampleCount + 1 then
    { baseline with
      statistics
      sampleCount := baseline.sampleCount + 1
      status := .frozen
      establishedAt := some observedAt }
  else { baseline with statistics, sampleCount := baseline.sampleCount + 1 }

/-- SOURCE: vibration_condition.py:136-159 -/
def assess (A : Arithmetic K) (baseline : VibrationBaseline K) (delivery : Delivery K) :
    Except ServiceError (Assessment K) := do
  let seen := baseline.seen delivery
  let values := summaryValues delivery.summary
  if delivery.summary.isEligible A then
    match baseline.status with
    | .building =>
      let statistics ← updateStatistics A baseline.statistics values
      require (statistics.isFinite A) notCompliant
      let learned := seen.learned statistics delivery.observedAt
      return match learned.status with
        | .frozen => { baseline := learned, state := .normal, score := some (A.literal 100) }
        | .building => { baseline := learned, state := .baselinePending }
    | .frozen =>
      let binWidthHz ← A.divide delivery.summary.effectiveSampleRateHz (A.literal 256)
      let (state, score, factors) ←
        evaluateCondition A values baseline.statistics binWidthHz
      return { baseline := seen, state, score := some score, factors }
  else return {
    baseline := seen
    state := if baseline.sampleCount = 0 then .insufficientData else .invalid }

/-- The state of a condition with the state that is pending; a row that is not written yet has no
state. -/
structure HeldState where
  state : Option ConditionState := none
  pendingState : Option ConditionState := none
  pendingCount : ℕ := 0
deriving DecidableEq, Repr

/-- How often in a row a state is pending with one more window.
SOURCE: vibration_condition.py:169-173 -/
def HeldState.pendingWith (held : HeldState) (state : ConditionState) : ℕ :=
  if held.pendingState = some state then held.pendingCount + 1 else 1

/-- SOURCE: vibration_condition.py:161-177 -/
def hysteresis (persistenceWindows : ℕ) (held : HeldState) (state : ConditionState) : HeldState :=
  if state = .invalid ∨ state = .baselinePending ∨ state = .insufficientData then
    { state := some state }
  else if held.state = some state then { state := held.state }
  else if persistenceWindows ≤ held.pendingWith state ∨
      (held.state = some .baselinePending ∧ state = .normal) then
    { state := some state }
  else {
    state := held.state
    pendingState := some state
    pendingCount := held.pendingWith state }

def VibrationCondition.held (condition : VibrationCondition K) : HeldState where
  state := some condition.state
  pendingState := condition.pendingState
  pendingCount := condition.pendingCount

/-- All numbers of a factor can be written. -/
def Factor.isFinite (A : Arithmetic K) (factor : Factor K) : Bool :=
  A.isFinite factor.baseline && A.isFinite factor.current &&
    A.isFinite factor.normalizedDeviation && factor.changePercent.all A.isFinite

/-- It is time to store a window again.
SOURCE: vibration_condition.py:183-188 -/
def DeviceRows.isDue (service : VibrationConditionService) (rows : DeviceRows K)
    (observedAt : ℤ) : Bool :=
  match (rows.windows.map (·.observedAt)).max? with
  | none => true
  | some latest => service.persistenceInterval ≤ observedAt - latest

/-- SOURCE: vibration_condition.py:190-196 -/
def windowRow (installationId : Option Text) (baselineVersion : ℕ) (delivery : Delivery K) :
    VibrationWindow K where
  installationId
  sessionId := delivery.sessionId
  windowSequence := delivery.summary.windowSequence
  observedAt := delivery.observedAt
  deviceUptimeMs := delivery.summary.deviceUptimeMs
  schemaVersion := delivery.summary.schemaVersion
  algorithmVersion := delivery.summary.algorithmVersion
  baselineVersion
  effectiveSampleRateHz := delivery.summary.effectiveSampleRateHz
  validity := delivery.summary.validity
  values := summaryValues delivery.summary

/-- A window of the same session, sequence and algorithm is stored already.
SOURCE: models.py:226-229 -/
def DeviceRows.isStored (rows : DeviceRows K) (delivery : Delivery K) : Bool :=
  rows.windows.any fun window => window.sessionId = delivery.sessionId &&
    window.windowSequence = delivery.summary.windowSequence &&
    window.algorithmVersion = delivery.summary.algorithmVersion

/-- The row of the condition after a window; the default of the state comes with the first write.
SOURCE: vibration_condition.py:125-131, 161-181 -/
def conditionRow (installationId : Option Text) (delivery : Delivery K) (assessment : Assessment K)
    (held : HeldState) : VibrationCondition K where
  installationId
  baselineId := some assessment.baseline.id
  state := held.state.getD .baselinePending
  baselineSimilarityScore := assessment.score
  factors := assessment.factors
  pendingState := held.pendingState
  pendingCount := held.pendingCount
  latestWindowSequence := some delivery.summary.windowSequence
  evaluatedAt := some delivery.observedAt

/-- SOURCE: vibration_condition.py:104-203 -/
def process (service : VibrationConditionService) (A : Arithmetic K) (rows : DeviceRows K)
    (installationId : Option Text) (delivery : Delivery K) :
    Except ServiceError (DeviceRows K × ProcessResult K) := do
  require (delivery.context.device.any fun device => !device.archived && device.enabled)
    (.value "registered device is unavailable".toList)
  let baseline := rows.baselineFor service installationId delivery
  if baseline.isDuplicate delivery then
    return (rows, .duplicate (rows.condition.map (·.state)))
  else
    let assessment ← assess A baseline delivery
    let held := hysteresis service.persistenceWindows
      ((rows.condition.map (·.held)).getD {}) assessment.state
    require (assessment.factors.all (·.isFinite A)) notCompliant
    let persist := rows.isDue service delivery.observedAt
    require (!delivery.context.refused && !(persist && rows.isStored delivery)) .database
    let condition := conditionRow installationId delivery assessment held
    return ({
      baselines := rows.saveBaseline assessment.baseline
      condition := some condition
      windows := if persist then
        rows.windows ++ [windowRow installationId assessment.baseline.baselineVersion delivery]
        else rows.windows
      history := rows.history },
      .done persist condition.state assessment.score assessment.factors
        assessment.baseline.sampleCount assessment.baseline.status)

/-! ## Learning again -/

/-- The baseline that was changed last.
SOURCE: vibration_condition.py:217-218 -/
def latestUpdated (baselines : List (VibrationBaseline K)) : Option (VibrationBaseline K) :=
  baselines.foldl (fun latest baseline => match latest with
    | none => some baseline
    | some other => if other.updatedAt < baseline.updatedAt then some baseline else some other) none

/-- The baseline of the condition, or the one that was changed last.
SOURCE: vibration_condition.py:213-218 -/
def DeviceRows.currentBaseline (rows : DeviceRows K) : Option (VibrationBaseline K) :=
  ((rows.condition.bind (·.baselineId)).bind fun id => rows.baselines.find? (·.id = id)).or
    (latestUpdated rows.baselines)

/-- The request the baseline remembers.
SOURCE: vibration_condition.py:221 -/
def VibrationBaseline.isRepeated (baseline : VibrationBaseline K) (requestId : Option Text) :
    Bool :=
  requestId.any (!·.isEmpty) && baseline.lastRelearnRequestId = requestId

/-- SOURCE: vibration_condition.py:228-234 -/
def historyRow (baseline : VibrationBaseline K) (now : ℤ) (reason : Option Text) :
    VibrationBaselineHistory K where
  installationId := baseline.installationId
  baselineVersion := baseline.baselineVersion
  algorithmVersion := baseline.algorithmVersion
  sampleCount := baseline.sampleCount
  minimumSamples := baseline.minimumSamples
  statistics := baseline.statistics
  createdAt := baseline.createdAt
  establishedAt := baseline.establishedAt
  supersededAt := now
  reason

/-- The row of this version is in the history already; without an installation the constraint does
not apply.
SOURCE: models.py:298-299 -/
def DeviceRows.isSuperseded (rows : DeviceRows K) (baseline : VibrationBaseline K) : Bool :=
  baseline.installationId.isSome && rows.history.any fun row =>
    row.installationId = baseline.installationId &&
      row.algorithmVersion = baseline.algorithmVersion &&
      row.baselineVersion = baseline.baselineVersion

/-- SOURCE: vibration_condition.py:235-244 -/
def VibrationBaseline.relearned (baseline : VibrationBaseline K) (now : ℤ)
    (reason requestId : Option Text) : VibrationBaseline K :=
  { baseline with
    baselineVersion := baseline.baselineVersion + 1
    status := .building
    sampleCount := 0
    statistics := .empty
    lastSessionId := none
    lastWindowSequence := none
    createdAt := now
    establishedAt := none
    reason
    lastRelearnRequestId := requestId
    updatedAt := now }

/-- SOURCE: vibration_condition.py:205-268 -/
def relearnBaseline (rows : DeviceRows K) (context : CallContext) (reason requestId : Option Text) :
    Except ServiceError (DeviceRows K × RelearnResult) := do
  require (context.device.any (!·.archived)) (.value "device not found".toList)
  match rows.currentBaseline with
  | none => .error (.value
      "vibration baseline is unavailable until a vibration summary is received".toList)
  | some baseline =>
    if baseline.isRepeated requestId then
      return (rows, {
        status := baseline.status
        baselineVersion := baseline.baselineVersion
        sampleCount := baseline.sampleCount
        minimumSamples := baseline.minimumSamples
        reason := baseline.reason
        duplicate := true })
    else
      require (!context.refused && !rows.isSuperseded baseline) .database
      let relearned := baseline.relearned context.now reason requestId
      return ({
        baselines := rows.saveBaseline relearned
        condition := some {
          installationId := baseline.installationId
          baselineId := some baseline.id
          evaluatedAt := some context.now }
        windows := rows.windows
        history := rows.history ++ [historyRow baseline context.now reason] }, {
        status := relearned.status
        baselineVersion := relearned.baselineVersion
        sampleCount := 0
        minimumSamples := relearned.minimumSamples
        reason
        duplicate := false
        details := some {
          createdAt := relearned.createdAt
          establishedAt := none
          algorithmVersion := relearned.algorithmVersion
          installationId := relearned.installationId
          conditionState := .baselinePending } })

/-- SOURCE: vibration_condition.py:270-272 -/
def resetBaseline (rows : DeviceRows K) (context : CallContext) :
    Except ServiceError (DeviceRows K × RelearnResult) :=
  relearnBaseline rows context (some "Baseline reset through compatibility endpoint".toList) none

/-! ## Runs -/

/-- What a call answers. -/
inductive Answer (K : Type) where
  | processed (result : ProcessResult K)
  | relearned (result : RelearnResult)
  | raised (error : ServiceError)

/-- A call, made when the device has an installation. -/
def attempt (service : VibrationConditionService) (A : Arithmetic K) (rows : DeviceRows K)
    (installationId : Option Text) : Call K → Except ServiceError (DeviceRows K × Answer K)
  | .process delivery => do
    let (rows, result) ← process service A rows installationId delivery
    return (rows, .processed result)
  | .relearnBaseline context reason requestId => do
    let (rows, result) ← relearnBaseline rows context reason requestId
    return (rows, .relearned result)
  | .resetBaseline context => do
    let (rows, result) ← resetBaseline rows context
    return (rows, .relearned result)

/-- The rows after a call, and its answer: what raises changes nothing. -/
def step (service : VibrationConditionService) (A : Arithmetic K) (rows : DeviceRows K)
    (installationId : Option Text) (call : Call K) : DeviceRows K × Answer K :=
  match attempt service A rows installationId call with
  | .ok result => result
  | .error error => (rows, .raised error)

end SeedMg24.Model.ConditionService
