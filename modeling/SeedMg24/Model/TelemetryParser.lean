import SeedMg24.Foundation.DecimalNumbers
import SeedMg24.Model.TelemetryService

/-!
# The gateway's reader of telemetry

`ble/telemetry_parser.py` and the models of `schemas.py` it fills: what arrives from a node is read
as JSON, checked field by field and turned into one record.  Divisions are exact, and a time is a
number of microseconds.
-/

set_option autoImplicit false

namespace SeedMg24.Model.TelemetryParser

open Foundation

/-- What the parser raises. -/
inductive ParseError where
  /-- a `TelemetryParseError` with its message -/
  | telemetry (message : Text)
  /-- a list or a dictionary is looked up in a set -/
  | unhashable
  /-- an integer is too large for a float -/
  | overflow
  /-- a model refuses a field -/
  | validation
deriving DecidableEq

/-- A finite number, an `int` or a `float`. -/
inductive Number where
  | int (z : ℤ)
  | float (q : ℚ)
deriving DecidableEq

def Number.value : Number → ℚ
  | int z => z
  | float q => q

/-- SOURCE: schemas.py:132 -/
inductive Quality where
  | good | estimated | uncalibrated | invalid | sensorFault | stale
deriving DecidableEq, Repr

def Quality.names : List (Text × Quality) := [
  ("good".toList, .good), ("estimated".toList, .estimated), ("uncalibrated".toList, .uncalibrated),
  ("invalid".toList, .invalid), ("sensor_fault".toList, .sensorFault), ("stale".toList, .stale)]

/-- SOURCE: schemas.py:133 -/
inductive ValueKind where
  | raw | filtered | calibrated | derived | state | health
deriving DecidableEq, Repr

def ValueKind.names : List (Text × ValueKind) := [
  ("raw".toList, .raw), ("filtered".toList, .filtered), ("calibrated".toList, .calibrated),
  ("derived".toList, .derived), ("state".toList, .state), ("health".toList, .health)]

/-- SOURCE: schemas.py:128-133 -/
structure ChannelValue where
  value : Option Number
  rawValue : Option Number := none
  unit : Option Text
  quality : Quality := .good
  valueKind : ValueKind

/-- Three axes. -/
structure Axes (α : Type) where
  x : α
  y : α
  z : α
deriving DecidableEq

def Axes.map {α β : Type} (f : α → β) (a : Axes α) : Axes β := ⟨f a.x, f a.y, f a.z⟩

/-- SOURCE: schemas.py:136-149 -/
structure VibrationSummary where
  windowSequence : ℕ
  deviceUptimeMs : ℕ
  effectiveSampleRateHz : ℚ
  valid : Bool
  accelRmsG : Axes ℚ
  accelPeakG : Axes ℚ
  crestFactor : Axes ℚ
  kurtosis : Axes ℚ
  dominantFrequencyHz : Axes ℚ
  dominantAmplitudeG : Axes ℚ
  gyroRmsDps : Axes ℚ

/-- SOURCE: schemas.py:152-165 -/
structure NormalizedTelemetry where
  schemaVersion : ℕ
  deviceId : Option Text := none
  deviceType : Text := "xiao_mg24_sense".toList
  recordType : TelemetryRecordType
  deviceUptimeMs : Option ℕ
  sequenceNumber : Option ℕ
  receivedAt : ℤ
  delayed : Bool := false
  event : Option Text := none
  channels : List (Text × ChannelValue) := []
  metadata : List (Text × Json) := []
  vibration : Option VibrationSummary := none
  originalPayload : Json

/-- `raise` unless something holds. -/
def require (condition : Bool) (error : ParseError) : Except ParseError Unit :=
  if condition then .ok () else .error error

/-- What Python takes for false: nothing, zero and what is empty. -/
def truthy : Option Json → Bool
  | none => false
  | some .null => false
  | some (.bool b) => b
  | some (.int z) => z ≠ 0
  | some (.float x) => x ≠ .finite 0
  | some (.str s) => !s.isEmpty
  | some (.arr items) => !items.isEmpty
  | some (.obj members) => !members.isEmpty

/-- `is None`, of what `get` returns. -/
def isNone : Option Json → Bool
  | none => true
  | some .null => true
  | _ => false

/-- A key looked up in a set of texts. -/
def lookupStr {α : Type} (j : Option Json) (names : List (Text × α)) :
    Except ParseError (Option α) :=
  match j with
  | some (.str s) => .ok (names.lookup s)
  | some (.arr _) => .error .unhashable
  | some (.obj _) => .error .unhashable
  | _ => .ok none

/-- `channels[name] = channel`. -/
def assign {α : Type} (name : Text) (value : α) : List (Text × α) → List (Text × α)
  | [] => [(name, value)]
  | (key, old) :: rest =>
    if key = name then (key, value) :: rest else (key, old) :: assign name value rest

/-- SOURCE: telemetry_parser.py:13-20 -/
def finiteNumber (value : Option Json) (field : Text) (minimum maximum : Option ℚ) :
    Except ParseError Number :=
  let bounded (n : Number) : Except ParseError Number := do
    require (minimum.all (· ≤ n.value) && maximum.all (n.value ≤ ·))
      (.telemetry (field ++ " is outside the permitted range".toList))
    return n
  match value with
  | some (.int z) =>
    match Double.nearest z with
    | .finite _ => bounded (.int z)
    | _ => .error .overflow
  | some (.float (.finite q)) => bounded (.float q)
  | some (.float _) => .error (.telemetry (field ++ " must be finite".toList))
  | _ => .error (.telemetry (field ++ " must be numeric".toList))

/-- SOURCE: telemetry_parser.py:23-24 -/
def uint32 (value : Option Json) (field : Text) : Except ParseError ℕ := do
  let n ← finiteNumber value field (some 0) (some 0xFFFFFFFF)
  return ⌊n.value⌋.toNat

/-- The name of an item of an array. -/
def itemName (field : Text) (index : ℕ) : Text := field ++ '[' :: Text.decimal index ++ [']']

/-- SOURCE: telemetry_parser.py:27-30 -/
def array (value : Option Json) (field : Text) (exact : Option ℕ) (maximum : ℕ) :
    Except ParseError (List Number) :=
  match value with
  | some (.arr items) => do
    require (items.length ≤ maximum && exact.all (items.length == ·))
      (.telemetry (field ++ " has an invalid length".toList))
    (items.zipIdx).mapM fun (item, index) => finiteNumber (some item) (itemName field index) none none
  | _ => .error (.telemetry (field ++ " has an invalid length".toList))

/-- SOURCE: telemetry_parser.py:55-57 -/
def boundedAxis (payload : Json) (name : Text) (maximum : ℚ) : Except ParseError (Axes ℚ) := do
  let values ← array (payload.get? name) name (some 3) 16
  match values with
  | [x, y, z] =>
    let bounded (value : Number) (index : ℕ) : Except ParseError ℚ := do
      require (0 ≤ value.value && value.value ≤ maximum)
        (.telemetry (itemName name index ++ " is outside the permitted range".toList))
      return value.value
    let x ← bounded x 0
    let y ← bounded y 1
    let z ← bounded z 2
    return ⟨x, y, z⟩
  | _ => .error (.telemetry (name ++ " has an invalid length".toList))

/-- The fields of a vibration summary.
SOURCE: telemetry_parser.py:61 -/
def vibrationKeys : List Text :=
  ["t", "v", "s", "m", "a", "f", "q", "r", "p", "c", "k", "d", "x", "g"].map String.toList

/-- Whether an object has exactly the given keys. -/
def hasExactly (payload : Json) (keys : List Text) : Bool :=
  match payload with
  | .obj members => members.all (fun m => m.1 ∈ keys) && keys.all (fun k => k ∈ members.map Prod.fst)
  | _ => false

/-- SOURCE: telemetry_parser.py:60-92 -/
def parseVibration (payload : Json) (receivedAt : ℤ) : Except ParseError NormalizedTelemetry := do
  require (hasExactly payload vibrationKeys)
    (.telemetry "vibration summary has unexpected or missing fields".toList)
  require ((payload.get? "v".toList).isSome && Json.isInt (payload.get? "v".toList) 1 &&
      Json.isInt (payload.get? "a".toList) 1)
    (.telemetry "unsupported vibration schema or algorithm version".toList)
  let quality := payload.get? "q".toList
  let _ ← lookupStr quality ([] : List (Text × Unit))
  require (Json.isInt quality 0 || Json.isInt quality 1)
    (.telemetry "vibration validity is invalid".toList)
  let windowSequence ← uint32 (payload.get? "s".toList) "s".toList
  let deviceUptimeMs ← uint32 (payload.get? "m".toList) "m".toList
  let rate ← finiteNumber (payload.get? "f".toList) "f".toList (some 1) (some 5000)
  let accelRms ← boundedAxis payload "r".toList 16000
  let accelPeak ← boundedAxis payload "p".toList 16000
  let crestFactor ← boundedAxis payload "c".toList 1000
  let kurtosis ← boundedAxis payload "k".toList 10000
  let dominantFrequency ← boundedAxis payload "d".toList 2500
  let dominantAmplitude ← boundedAxis payload "x".toList 16000
  let gyroRms ← boundedAxis payload "g".toList 20000
  -- the bounds of the model: the sequence is at least one, the rate positive and at most 500
  require (1 ≤ windowSequence && 0 < rate.value / 10 && rate.value / 10 ≤ 500) .validation
  let summary : VibrationSummary := {
    windowSequence
    deviceUptimeMs
    effectiveSampleRateHz := rate.value / 10
    valid := Json.isInt quality 1
    accelRmsG := accelRms.map (· / 1000)
    accelPeakG := accelPeak.map (· / 1000)
    crestFactor := crestFactor.map (· / 10)
    kurtosis := kurtosis.map (· / 10)
    dominantFrequencyHz := dominantFrequency.map (· / 10)
    dominantAmplitudeG := dominantAmplitude.map (· / 1000)
    gyroRmsDps := gyroRms.map (· / 10) }
  require (summary.windowSequence ≠ 0)
    (.telemetry "vibration window sequence must be positive".toList)
  return {
    schemaVersion := 1
    recordType := .vibration
    deviceUptimeMs := some summary.deviceUptimeMs
    sequenceNumber := some summary.windowSequence
    receivedAt
    vibration := some summary
    originalPayload := payload }

/-- The long names of the short fields of old packets.
SOURCE: telemetry_parser.py:103 -/
def longMapping : List (Text × Text) := [
  ("m".toList, "mic".toList), ("mp".toList, "mic_pct".toList),
  ("bv".toList, "battery_v".toList), ("l".toList, "led".toList)]

/-- A field of the dictionary `work`: where only the long name is there, it stands for the short.
SOURCE: telemetry_parser.py:104-107 -/
def work (payload : Json) (key : Text) : Option Json :=
  (payload.get? key).or ((longMapping.lookup key).bind payload.get?)

/-- SOURCE: telemetry_parser.py:97-102 -/
def legacyMapping : List (Text × Text × Text × ValueKind × Quality) := [
  ("m".toList, "microphone_raw".toList, "adc_count".toList, .raw, .good),
  ("mp".toList, "microphone_percent".toList, "percent".toList, .derived, .estimated),
  ("bv".toList, "battery_voltage".toList, "V".toList, .calibrated, .good),
  ("l".toList, "led_brightness".toList, "pwm_count".toList, .state, .good)]

/-- The items of a list of three axes, or of a dictionary of them under the long name.
SOURCE: telemetry_parser.py:118-127 -/
def axesOf (payload : Json) (short long : Text) : Option Json :=
  let found := work payload short
  match isNone found, work payload long with
  | true, some (.obj members) =>
    let axis (name : String) := ((Json.obj members).get? name.toList).getD .null
    some (.arr [axis "x", axis "y", axis "z"])
  | _, _ => found

/-- The channels of the axes, one for each letter.
SOURCE: telemetry_parser.py:121-128 -/
def assignAxes (payload : Json) (short long channel unit : Text)
    (channels : List (Text × ChannelValue)) : Except ParseError (List (Text × ChannelValue)) :=
  let found := axesOf payload short long
  if isNone found then .ok channels
  else do
    let values ← array found short (some 3) 16
    return (['x', 'y', 'z'].zip values).foldl (fun channels (axis, value) =>
      assign (channel ++ [axis])
        { value := some value, unit := some unit, valueKind := .calibrated } channels) channels

/-- The channels of single values.
SOURCE: telemetry_parser.py:108-117 -/
def legacyChannels (payload : Json) : Except ParseError (List (Text × ChannelValue)) :=
  legacyMapping.foldlM (fun channels (key, name, unit, valueKind, quality) =>
    match work payload key with
    | none => .ok channels
    | some found => do
      let value ← finiteNumber (some found) key none none
      return assign name {
        value := some value
        rawValue := if valueKind = .raw then some value else none
        unit := some unit
        quality
        valueKind } channels) []

/-- The channels of the analog inputs.
SOURCE: telemetry_parser.py:130-135 -/
def assignAnalog (payload : Json) (channels : List (Text × ChannelValue)) :
    Except ParseError (List (Text × ChannelValue)) :=
  let analog := (payload.get? "n".toList).or (payload.get? "analog".toList)
  if isNone analog then .ok channels
  else do
    let values ← array analog "n".toList none 16
    return values.zipIdx.foldl (fun channels (value, index) =>
      assign ("analog_".toList ++ Text.decimal index) {
        value := some value
        rawValue := some value
        unit := some "adc_count".toList
        quality := .uncalibrated
        valueKind := .raw } channels) channels

/-- A text that may be missing, with bounds on its length. -/
def optionalText (j : Option Json) (minimum maximum : ℕ) (error : ParseError) :
    Except ParseError (Option Text) :=
  match j with
  | none => .ok none
  | some .null => .ok none
  | some (.str s) =>
    if minimum ≤ s.length ∧ s.length ≤ maximum then .ok (some s) else .error error
  | some _ => .error error

/-- A counter that may be missing. -/
def optionalUint32 (payload : Json) (field : Text) : Except ParseError (Option ℕ) :=
  match payload.get? field with
  | none => .ok none
  | some found => (uint32 (some found) field).map some

/-- SOURCE: telemetry_parser.py:95-151 -/
def parseLegacy (payload : Json) (receivedAt : ℤ) : Except ParseError NormalizedTelemetry := do
  let channels ← legacyChannels payload
  let channels ← assignAxes payload "a".toList "accel".toList "acceleration_".toList "g".toList
    channels
  let channels ← assignAxes payload "g".toList "gyro".toList "angular_velocity_".toList
    "dps".toList channels
  let channels ← assignAnalog payload channels
  let deviceUptimeMs ← optionalUint32 payload "ms".toList
  let sequenceNumber ← optionalUint32 payload "s".toList
  let schema ← finiteNumber (some ((payload.get? "v".toList).getD (.int 1))) "v".toList (some 1)
    (some 255)
  let deviceId ← optionalText (payload.get? "id".toList) 0 96 (.telemetry "id is invalid".toList)
  return {
    schemaVersion := ⌊schema.value⌋.toNat
    deviceId
    recordType := .measurement
    deviceUptimeMs
    sequenceNumber
    receivedAt
    channels
    originalPayload := payload }

/-- SOURCE: telemetry_parser.py:156-163 -/
def recordTypes : List (Text × TelemetryRecordType) := [
  ("m".toList, .measurement), ("e".toList, .event), ("h".toList, .heartbeat),
  ("ca".toList, .configAck), ("ce".toList, .configError), ("b".toList, .burstFragment)]

/-- The keys that are kept as they are.
SOURCE: telemetry_parser.py:192 -/
def metadataKeys : List Text :=
  ["fw", "sh", "bu", "dr", "pe", "se", "mi", "fi", "fc", "crc"].map String.toList

/-- The counters of a heartbeat and their channels.
SOURCE: telemetry_parser.py:197-202 -/
def heartbeatCounters : List (Text × Text) := [
  ("bu".toList, "buffer_utilization".toList), ("dr".toList, "dropped_record_count".toList),
  ("pe".toList, "processing_error_count".toList), ("se".toList, "sensor_error_count".toList)]

/-- A number that may be missing. -/
def optionalNumber (j : Option Json) (field : Text) : Except ParseError (Option Number) :=
  if isNone j then .ok none else (finiteNumber j field none none).map some

/-- The value of the channel a packet names.
SOURCE: telemetry_parser.py:178-188 -/
def channelValue (payload : Json) : Except ParseError ChannelValue := do
  let rawValue ← optionalNumber (payload.get? "rv".toList) "rv".toList
  let normalized ← optionalNumber (payload.get? "nv".toList) "nv".toList
  let quality ← lookupStr (some ((payload.get? "q".toList).getD (.str "good".toList))) Quality.names
  match quality with
  | none => .error (.telemetry "quality is invalid".toList)
  | some quality =>
    let default := if normalized.isSome then "calibrated".toList else "raw".toList
    let valueKind ← lookupStr (some ((payload.get? "k".toList).getD (.str default))) ValueKind.names
    match valueKind with
    | none => .error (.telemetry "value kind is invalid".toList)
    | some valueKind =>
      let unit ← optionalText (payload.get? "u".toList) 0 32 .validation
      return { value := normalized.or rawValue, rawValue, unit, quality, valueKind }

/-- The channel a packet names, if it names one.
SOURCE: telemetry_parser.py:173-188 -/
def versionedChannels (payload : Json) : Except ParseError (List (Text × ChannelValue)) := do
  let channel ← optionalText (payload.get? "c".toList) 1 96
    (.telemetry "channel is invalid".toList)
  match channel with
  | none => return []
  | some channel =>
    let value ← channelValue payload
    return [(channel, value)]

/-- The battery of a heartbeat.
SOURCE: telemetry_parser.py:193-195 -/
def assignBattery (payload : Json) (channels : List (Text × ChannelValue)) :
    Except ParseError (List (Text × ChannelValue)) :=
  match payload.get? "bv".toList with
  | none => .ok channels
  | some found => do
    let battery ← finiteNumber (some found) "bv".toList none none
    return assign "battery_voltage".toList
      { value := some battery, unit := some "V".toList, valueKind := .calibrated } channels

/-- The counters of a heartbeat.
SOURCE: telemetry_parser.py:203-206 -/
def assignCounters (payload : Json) (channels : List (Text × ChannelValue)) :
    Except ParseError (List (Text × ChannelValue)) :=
  heartbeatCounters.foldlM (fun channels (shortName, channelName) =>
    match payload.get? shortName with
    | none => .ok channels
    | some found => do
      let counter ← uint32 (some found) shortName
      return assign channelName
        { value := some (.int counter), unit := some "count".toList, valueKind := .health } channels)
    channels

/-- The channels only a heartbeat has.
SOURCE: telemetry_parser.py:193-206 -/
def heartbeatChannels (recordType : TelemetryRecordType) (payload : Json)
    (channels : List (Text × ChannelValue)) : Except ParseError (List (Text × ChannelValue)) :=
  if recordType ≠ .heartbeat then .ok channels
  else (assignBattery payload channels).bind (assignCounters payload)

/-- SOURCE: telemetry_parser.py:154-219 -/
def parseVersioned (payload : Json) (receivedAt : ℤ) : Except ParseError NormalizedTelemetry := do
  let kind ← lookupStr (payload.get? "t".toList) recordTypes
  match kind with
  | none => .error (.telemetry "unsupported message type".toList)
  | some recordType =>
    let version ← finiteNumber (payload.get? "v".toList) "v".toList (some 1) (some 255)
    require (⌊version.value⌋ = 1) (.telemetry "unsupported schema version".toList)
    let deviceId ← optionalText (payload.get? "id".toList) 1 96 (.telemetry "id is invalid".toList)
    let deviceUptimeMs ← optionalUint32 payload "ms".toList
    let sequenceNumber ← optionalUint32 payload "s".toList
    let channels ← versionedChannels payload
    let event ← optionalText (payload.get? "e".toList) 0 96 (.telemetry "event is invalid".toList)
    let metadata := metadataKeys.filterMap fun key => (payload.get? key).map (key, ·)
    let channels ← heartbeatChannels recordType payload channels
    return {
      schemaVersion := 1
      deviceId
      recordType
      deviceUptimeMs
      sequenceNumber
      receivedAt
      delayed := truthy (payload.get? "d".toList)
      event
      channels
      metadata
      originalPayload := payload }

/-- The characters `[\x00\r\n ]` that are stripped.
SOURCE: telemetry_parser.py:40 -/
def isPadding (c : Char) : Bool := c == '\x00' || c == '\r' || c == '\n' || c == ' '

/-- The kinds of old packets.
SOURCE: telemetry_parser.py:48 -/
def legacyKinds : List (Text × Unit) := [("tele".toList, ()), ("telemetry".toList, ())]

/-- What becomes of an object.
SOURCE: telemetry_parser.py:47-52 -/
def parsePayload (payload : Json) (receivedAt : ℤ) : Except ParseError NormalizedTelemetry := do
  let kind :=
    if truthy (payload.get? "t".toList) then payload.get? "t".toList else payload.get? "type".toList
  let legacy ← lookupStr kind legacyKinds
  if legacy.isSome then parseLegacy payload receivedAt
  else if Json.isStr kind "v".toList then parseVibration payload receivedAt
  else parseVersioned payload receivedAt

/-- SOURCE: telemetry_parser.py:34 -/
def defaultMaxPayloadBytes : ℕ := 2048

/-- `parse_telemetry` of bytes.
SOURCE: telemetry_parser.py:33-52 -/
def parseTelemetry (data : List UInt8) (maxPayloadBytes : ℕ) (receivedAt : ℤ) :
    Except ParseError NormalizedTelemetry :=
  if data.length > maxPayloadBytes then
    .error (.telemetry "payload exceeds configured maximum".toList)
  else
    match (Text.decodeUtf8 data).bind fun text =>
        Json.loads ((text.dropWhile isPadding).rdropWhile isPadding) with
    | none => .error (.telemetry "payload is not valid UTF-8 JSON".toList)
    | some (.obj members) => parsePayload (.obj members) receivedAt
    | some _ => .error (.telemetry "payload root must be an object".toList)

end SeedMg24.Model.TelemetryParser
