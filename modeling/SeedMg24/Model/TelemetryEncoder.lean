import SeedMg24.Foundation.DecimalNumbers

/-!
# The firmware's writers of telemetry

`telemetry_encoder.cpp` and `vibration_summary.cpp`: records, heartbeats and vibration summaries
printed as JSON into a buffer of a given size.  Products of floats are exact.
-/

set_option autoImplicit false

namespace SeedMg24.Model.TelemetryEncoder

open Foundation

/-- SOURCE: sensor_types.h:8 -/
inductive MeasurementQuality where
  | good | estimated | uncalibrated | invalid | sensorFault
deriving DecidableEq, Repr

/-- SOURCE: sensor_types.h:9 -/
inductive MonitoringState where
  | normal | warningLow | warningHigh | alarmLow | alarmHigh | invalid | sensorFault
deriving DecidableEq, Repr

/-- SOURCE: sensor_types.h:10 -/
inductive RecordType where
  | measurement | alarmTransition | sensorFaultTransition | recovery | configuration | heartbeat
  | burstFragment
deriving DecidableEq, Repr

/-- SOURCE: sensor_types.h:11 -/
inductive RecordPriority where
  | routine | heartbeat | configuration | recovery | sensorFault | alarm
deriving DecidableEq, Repr

/-- SOURCE: sensor_types.h:58-70 -/
structure TelemetryRecord where
  type : RecordType
  priority : RecordPriority
  sequenceNumber : UInt32
  uptimeMs : UInt32
  channelId : Text
  rawValue : Single
  normalizedValue : Single
  quality : MeasurementQuality
  state : MonitoringState
  hasNormalizedValue : Bool
  delayed : Bool
deriving DecidableEq

/-- What `snprintf` leaves in a buffer, and whether all of a text is in it. -/
def written (size : ℕ) (text : Text) : Bool × Text :=
  (0 < text.length && text.length < size, Text.snprintf size text)

/-- SOURCE: telemetry_encoder.cpp:6 -/
def typeName (type : RecordType) : Text :=
  if type = .alarmTransition ∨ type = .sensorFaultTransition ∨ type = .recovery then "e".toList
  else "m".toList

/-- SOURCE: telemetry_encoder.cpp:7 -/
def qualityName (quality : MeasurementQuality) : Text :=
  if quality = .uncalibrated then "uncalibrated".toList
  else if quality = .invalid then "invalid".toList
  else if quality = .sensorFault then "sensor_fault".toList
  else "good".toList

/-- The number of `%d` of a truth value. -/
def flag (b : Bool) : ℕ := if b then 1 else 0

/-- The text of a record.
SOURCE: telemetry_encoder.cpp:9-12 -/
def recordText (r : TelemetryRecord) (id : Text) : Text :=
  "\x7b\"t\":\"".toList ++ typeName r.type ++ "\",\"v\":1,\"id\":\"".toList ++ id ++
    "\",\"s\":".toList ++ Text.decimal r.sequenceNumber.toNat ++
    ",\"ms\":".toList ++ Text.decimal r.uptimeMs.toNat ++
    ",\"c\":\"".toList ++ r.channelId ++ "\",\"rv\":".toList ++ r.rawValue.fixed 3 ++
    ",\"nv\":".toList ++
    (if r.hasNormalizedValue then r.normalizedValue.fixed 3 else "null".toList) ++
    ",\"u\":\"adc_count\",\"q\":\"".toList ++ qualityName r.quality ++ "\",\"d\":".toList ++
    Text.decimal (flag r.delayed) ++ "\x7d".toList

/-- `encode_record`: whether it succeeds, and what is in the buffer.
SOURCE: telemetry_encoder.cpp:5-14 -/
def encodeRecord (r : TelemetryRecord) (id : Text) (size : ℕ) : Bool × Text :=
  written size (recordText r id)

/-- The text of a heartbeat.
SOURCE: telemetry_encoder.cpp:16 -/
def heartbeatText (seq ms : UInt32) (bv : Single) (bu : UInt8) (dr pe se : UInt32) (id : Text) :
    Text :=
  "\x7b\"t\":\"h\",\"v\":1,\"id\":\"".toList ++ id ++ "\",\"s\":".toList ++
    Text.decimal seq.toNat ++ ",\"ms\":".toList ++ Text.decimal ms.toNat ++
    ",\"bv\":".toList ++ bv.fixed 3 ++ ",\"sh\":1,\"bu\":".toList ++ Text.decimal bu.toNat ++
    ",\"dr\":".toList ++ Text.decimal dr.toNat ++ ",\"pe\":".toList ++ Text.decimal pe.toNat ++
    ",\"se\":".toList ++ Text.decimal se.toNat ++ "\x7d".toList

/-- SOURCE: telemetry_encoder.cpp:15-18 -/
def encodeHeartbeat (seq ms : UInt32) (bv : Single) (bu : UInt8) (dr pe se : UInt32) (id : Text)
    (size : ℕ) : Bool × Text :=
  written size (heartbeatText seq ms bv bu dr pe se id)

/-! ## Vibration summaries -/

/-- The fields of the metrics of an axis that a summary shows.
SOURCE: vibration_types.h:30-38 -/
structure AxisVibrationMetrics where
  rms : Single
  peakAbs : Single
  crestFactor : Single
  kurtosis : Single

/-- SOURCE: vibration_types.h:40-44 -/
structure FrequencyMetrics where
  dominantFrequencyHz : Single
  dominantAmplitude : Single

/-- SOURCE: vibration_types.h:46-63 -/
structure VibrationWindowResult where
  effectiveSampleRateHz : Single
  accelX : AxisVibrationMetrics
  accelY : AxisVibrationMetrics
  accelZ : AxisVibrationMetrics
  gyroX : AxisVibrationMetrics
  gyroY : AxisVibrationMetrics
  gyroZ : AxisVibrationMetrics
  accelXFrequency : FrequencyMetrics
  accelYFrequency : FrequencyMetrics
  accelZFrequency : FrequencyMetrics

/-- SOURCE: vibration_summary.h:11-13 -/
def kVibrationSummarySchemaVersion : ℕ := 1
def kVibrationAlgorithmVersion : ℕ := 1
def kVibrationSummaryMaximumBytes : ℕ := 244

/-- A finite float from zero up to a bound. -/
def isBounded (x : Single) (maximum : ℚ) : Bool :=
  x.isFinite && !(x.value < 0) && !(x.value > maximum)

/-- SOURCE: vibration_summary.cpp:12-19 -/
def accelAxisIsBounded (axis : AxisVibrationMetrics) : Bool :=
  isBounded axis.rms 16 && isBounded axis.peakAbs 16 && isBounded axis.crestFactor 100 &&
    isBounded axis.kurtosis 1000

/-- SOURCE: vibration_summary.cpp:31-35 -/
def frequencyIsBounded (frequency : FrequencyMetrics) : Bool :=
  isBounded frequency.dominantFrequencyHz 250 && isBounded frequency.dominantAmplitude 16

/-- SOURCE: vibration_summary.cpp:9-40 -/
def metricsAreBounded (value : VibrationWindowResult) : Bool :=
  [value.accelX, value.accelY, value.accelZ].all accelAxisIsBounded &&
    [value.gyroX, value.gyroY, value.gyroZ].all (fun axis => isBounded axis.rms 2000) &&
    [value.accelXFrequency, value.accelYFrequency, value.accelZFrequency].all frequencyIsBounded &&
    value.effectiveSampleRateHz.isFinite && decide (value.effectiveSampleRateHz.value > 0) &&
    decide (value.effectiveSampleRateHz.value ≤ 500)

/-- `lroundf`: the nearest integer, of two the one farther from zero. -/
def lround (q : ℚ) : ℤ := if q < 0 then -⌊-q + 1 / 2⌋ else ⌊q + 1 / 2⌋

/-- A float in units of a fraction. -/
def scaled (x : Single) (scale : ℕ) : ℕ := (lround (x.value * scale)).toNat

/-- The numbers of three axes. -/
def axesText (x y z : ℕ) : Text :=
  "[".toList ++ Text.decimal x ++ ",".toList ++ Text.decimal y ++ ",".toList ++ Text.decimal z ++
    "]".toList

/-- The text of a summary.
SOURCE: vibration_summary.cpp:50-81 -/
def summaryText (value : VibrationWindowResult) (sequence uptimeMs : UInt32) : Text :=
  "\x7b\"t\":\"v\",\"v\":".toList ++ Text.decimal kVibrationSummarySchemaVersion ++
    ",\"s\":".toList ++ Text.decimal sequence.toNat ++
    ",\"m\":".toList ++ Text.decimal uptimeMs.toNat ++
    ",\"a\":".toList ++ Text.decimal kVibrationAlgorithmVersion ++
    ",\"f\":".toList ++ Text.decimal (scaled value.effectiveSampleRateHz 10) ++
    ",\"q\":1,\"r\":".toList ++
    axesText (scaled value.accelX.rms 1000) (scaled value.accelY.rms 1000)
      (scaled value.accelZ.rms 1000) ++
    ",\"p\":".toList ++
    axesText (scaled value.accelX.peakAbs 1000) (scaled value.accelY.peakAbs 1000)
      (scaled value.accelZ.peakAbs 1000) ++
    ",\"c\":".toList ++
    axesText (scaled value.accelX.crestFactor 10) (scaled value.accelY.crestFactor 10)
      (scaled value.accelZ.crestFactor 10) ++
    ",\"k\":".toList ++
    axesText (scaled value.accelX.kurtosis 10) (scaled value.accelY.kurtosis 10)
      (scaled value.accelZ.kurtosis 10) ++
    ",\"d\":".toList ++
    axesText (scaled value.accelXFrequency.dominantFrequencyHz 10)
      (scaled value.accelYFrequency.dominantFrequencyHz 10)
      (scaled value.accelZFrequency.dominantFrequencyHz 10) ++
    ",\"x\":".toList ++
    axesText (scaled value.accelXFrequency.dominantAmplitude 1000)
      (scaled value.accelYFrequency.dominantAmplitude 1000)
      (scaled value.accelZFrequency.dominantAmplitude 1000) ++
    ",\"g\":".toList ++
    axesText (scaled value.gyroX.rms 10) (scaled value.gyroY.rms 10) (scaled value.gyroZ.rms 10) ++
    "\x7d".toList

/-- `encodeVibrationSummary` into a buffer that is there.
SOURCE: vibration_summary.cpp:45-84 -/
def encodeVibrationSummary (value : VibrationWindowResult) (sequence uptimeMs : UInt32)
    (outputSize : ℕ) : Bool × Text :=
  if outputSize < kVibrationSummaryMaximumBytes ∨ metricsAreBounded value = false then (false, [])
  else
    let text := summaryText value sequence uptimeMs
    (0 < text.length && text.length < outputSize && text.length ≤ kVibrationSummaryMaximumBytes,
      Text.snprintf outputSize text)

end SeedMg24.Model.TelemetryEncoder
