import SeedMg24.Model.TelemetryParser
import SeedMg24.Model.TelemetryEncoder
import SeedMg24.Model.NodeIdentityStore
import SeedMg24.Analysis.NodeAnswers

/-!
# Telemetry records from the node to the gateway

A record the firmware has printed into its buffer is accepted by the gateway, and what the gateway
makes of it is the record that was printed: its numbers, its channel, its kind and its value to
three decimals.  The quality survives too, except the one the encoder has no name for.
-/

set_option autoImplicit false

namespace SeedMg24.Analysis

open SeedMg24.Model SeedMg24.Model.TelemetryParser SeedMg24.Model.TelemetryEncoder
open Foundation Foundation.Json

/-! ## Objects that arrive -/

/-- An object printed in ASCII arrives as its members. -/
theorem parseTelemetry_fields {fields : List Field} (hne : fields ≠ [])
    (hread : ∀ f ∈ fields, f.IsRead) (hascii : ∀ f ∈ fields, f.IsAscii) {maxPayloadBytes : ℕ}
    (hlength : (fieldsText fields).length ≤ maxPayloadBytes) (receivedAt : ℤ) :
    parseTelemetry (fieldsText fields).toBytes maxPayloadBytes receivedAt =
      parsePayload (fieldsJson fields) receivedAt := by
  have hstrip : ((fieldsText fields).dropWhile isPadding).rdropWhile isPadding =
      fieldsText fields := by
    unfold fieldsText objectText
    rw [List.cons_append, List.dropWhile_cons_of_neg (by decide), ← List.cons_append,
      List.rdropWhile_concat_neg _ _ _ (by decide)]
  have hloads := loads_of_reads (reads_fields hne hread) (List.forall_mem_nil _)
  rw [List.append_nil] at hloads
  unfold parseTelemetry
  rw [if_neg (by rw [Text.length_toBytes]; omega), Text.decodeUtf8_toBytes (isAscii_fieldsText hascii),
    Option.bind_some, hstrip, hloads]
  rfl

/-! ## Fields that are read -/

/-- The counters of a packet fit a float and their range. -/
theorem finiteNumber_natural {n : ℕ} {field : Text} {minimum maximum : Option ℚ}
    (hsmall : (n : ℚ) < 2 ^ 1023) (hmin : ∀ b ∈ minimum, b ≤ n) (hmax : ∀ b ∈ maximum, (n : ℚ) ≤ b) :
    finiteNumber (some (.int n)) field minimum maximum = .ok (.int n) := by
  obtain ⟨v, hv⟩ := Double.nearest_finite (q := ((n : ℤ) : ℚ))
    (by rw [Int.cast_natCast, abs_of_nonneg (Nat.cast_nonneg n)]; exact hsmall)
  have hbounds : (minimum.all (· ≤ (Number.int n).value) &&
      maximum.all ((Number.int n).value ≤ ·)) = true := by
    simp only [Number.value, Int.cast_natCast, Bool.and_eq_true, Option.all_eq_true,
      decide_eq_true_eq]
    exact ⟨fun b hb => hmin b hb, fun b hb => hmax b hb⟩
  unfold finiteNumber
  dsimp only
  rw [hv, require, hbounds]
  rfl

theorem uint32_natural (n : UInt32) (field : Text) :
    uint32 (some (.int n.toNat)) field = .ok n.toNat := by
  have hlt := n.toNat_lt
  have hrange : (n.toNat : ℚ) ≤ 0xFFFFFFFF := by
    have : n.toNat ≤ 0xFFFFFFFF := by omega
    exact_mod_cast this
  have hnumber : finiteNumber (some (.int n.toNat)) field (some 0) (some 0xFFFFFFFF) =
      .ok (.int n.toNat) := by
    apply finiteNumber_natural
    · calc (n.toNat : ℚ) ≤ 0xFFFFFFFF := hrange
        _ < 2 ^ 32 := by norm_num
        _ ≤ 2 ^ 1023 := pow_le_pow_right₀ (by norm_num) (by norm_num)
    · rintro b ⟨⟩
      exact Nat.cast_nonneg _
    · rintro b ⟨⟩
      exact hrange
  unfold uint32
  rw [hnumber]
  simp [bind, Except.bind, pure, Except.pure, Number.value]

theorem optionalUint32_eq {payload : Json} {field : Text} {n : UInt32}
    (h : payload.get? field = some (.int n.toNat)) :
    optionalUint32 payload field = .ok (some n.toNat) := by
  unfold optionalUint32
  rw [h]
  dsimp only
  rw [uint32_natural]
  rfl

theorem optionalText_str {s : Text} {minimum maximum : ℕ} {error : ParseError}
    (h : minimum ≤ s.length ∧ s.length ≤ maximum) :
    optionalText (some (.str s)) minimum maximum error = .ok (some s) := if_pos h

/-! ## The text of a record -/

/-- The members of the object `encode_record` prints. -/
def recordFields (r : TelemetryEncoder.TelemetryRecord) (id : Text) : List Field :=
  [.string "t".toList (typeName r.type), .natural "v".toList 1, .string "id".toList id,
    .natural "s".toList r.sequenceNumber.toNat, .natural "ms".toList r.uptimeMs.toNat,
    .string "c".toList r.channelId, .optionalSingle "rv".toList 3 (some r.rawValue),
    .optionalSingle "nv".toList 3 (if r.hasNormalizedValue then some r.normalizedValue else none),
    .string "u".toList "adc_count".toList, .string "q".toList (qualityName r.quality),
    .natural "d".toList (flag r.delayed)]

theorem recordText_eq (r : TelemetryEncoder.TelemetryRecord) (id : Text) :
    recordText r id = fieldsText (recordFields r id) := by
  have hnormalized :
      (Field.optionalSingle "nv".toList 3
        (if r.hasNormalizedValue then some r.normalizedValue else none)).text =
      if r.hasNormalizedValue then r.normalizedValue.fixed 3 else "null".toList := by
    cases r.hasNormalizedValue <;> rfl
  have hkey :
      (Field.optionalSingle "nv".toList 3
        (if r.hasNormalizedValue then some r.normalizedValue else none)).key = "nv".toList := by
    cases r.hasNormalizedValue <;> rfl
  unfold recordText recordFields
  generalize Field.optionalSingle "nv".toList 3 _ = normalized at hnormalized hkey ⊢
  simp only [fieldsText, objectText, membersText, memberText, Field.string, Field.natural,
    Field.optionalSingle, List.map_cons, List.map_nil, List.append_assoc, List.cons_append,
    hnormalized, hkey]
  rfl

/-- What the channel of a record is called. -/
def IsChannelId (s : Text) : Prop :=
  1 ≤ s.length ∧ s.length ≤ 23 ∧ ∀ c ∈ s, c.isAlphanum = true ∨ c = '_'

theorem IsChannelId.isBare {s : Text} (h : IsChannelId s) : IsBare s := by
  intro c hc
  unfold Json.isBare
  rcases h.2.2 c hc with halphanum | rfl
  · rw [halphanum]
    rfl
  · rfl

/-- The values a record is printed with are finite. -/
def HasFiniteValues (r : TelemetryEncoder.TelemetryRecord) : Prop :=
  r.rawValue.isFinite = true ∧ r.normalizedValue.isFinite = true

theorem optionalSingle_finite {r : TelemetryEncoder.TelemetryRecord} (h : HasFiniteValues r) :
    ∀ x ∈ (if r.hasNormalizedValue then some r.normalizedValue else none), x.isFinite = true := by
  cases r.hasNormalizedValue with
  | false => exact nofun
  | true =>
    rintro x ⟨⟩
    exact h.2

/-- Every member of a record is read as what it stands for. -/
theorem isRead_recordFields {r : TelemetryEncoder.TelemetryRecord} {id : Text}
    (hfinite : HasFiniteValues r) (hchannel : IsChannelId r.channelId) (hid : IsBare id) :
    ∀ f ∈ recordFields r id, f.IsRead := by
  have htype : IsVerbatim (typeName r.type) := by
    cases r.type <;> decide
  have hquality : IsVerbatim (qualityName r.quality) := by
    cases r.quality <;> decide
  intro f hf
  simp only [recordFields, List.mem_cons, List.not_mem_nil, or_false] at hf
  rcases hf with rfl | rfl | rfl | rfl | rfl | rfl | rfl | rfl | rfl | rfl | rfl
  · exact Field.isRead_string (by decide) htype
  · exact Field.isRead_natural (by decide) 1
  · exact Field.isRead_string (by decide) hid.isVerbatim
  · exact Field.isRead_natural (by decide) _
  · exact Field.isRead_natural (by decide) _
  · exact Field.isRead_string (by decide) hchannel.isBare.isVerbatim
  · apply Field.isRead_optionalSingle (by decide) (by decide)
    rintro x ⟨⟩
    exact hfinite.1
  · exact Field.isRead_optionalSingle (by decide) (by decide) (optionalSingle_finite hfinite)
  · exact Field.isRead_string (by decide) (by decide)
  · exact Field.isRead_string (by decide) hquality
  · exact Field.isRead_natural (by decide) _

theorem isAscii_recordFields {r : TelemetryEncoder.TelemetryRecord} {id : Text}
    (hchannel : IsChannelId r.channelId) (hid : IsBare id) :
    ∀ f ∈ recordFields r id, f.IsAscii := by
  have htype : IsAscii (typeName r.type) := by
    cases r.type <;> decide
  have hquality : IsAscii (qualityName r.quality) := by
    cases r.quality <;> decide
  intro f hf
  simp only [recordFields, List.mem_cons, List.not_mem_nil, or_false] at hf
  rcases hf with rfl | rfl | rfl | rfl | rfl | rfl | rfl | rfl | rfl | rfl | rfl
  · exact Field.isAscii_string (by decide) htype
  · exact Field.isAscii_natural (by decide) 1
  · exact Field.isAscii_string (by decide) hid.isAscii
  · exact Field.isAscii_natural (by decide) _
  · exact Field.isAscii_natural (by decide) _
  · exact Field.isAscii_string (by decide) hchannel.isBare.isAscii
  · exact Field.isAscii_optionalSingle (by decide) 3 _
  · exact Field.isAscii_optionalSingle (by decide) 3 _
  · exact Field.isAscii_string (by decide) (by decide)
  · exact Field.isAscii_string (by decide) hquality
  · exact Field.isAscii_natural (by decide) _

/-- No record is longer than a packet may be. -/
theorem length_recordText_le {r : TelemetryEncoder.TelemetryRecord} {id : Text}
    (hfinite : HasFiniteValues r) (hchannel : IsChannelId r.channelId) (hid : id.length ≤ 31) :
    (recordText r id).length ≤ 300 := by
  have htype : (typeName r.type).length = 1 := by
    cases r.type <;> decide
  have hquality : (qualityName r.quality).length ≤ 12 := by
    cases r.quality <;> decide
  have hcounter (n : UInt32) : (Text.decimal n.toNat).length ≤ 10 :=
    Text.length_decimal_le (by decide) (by have := n.toNat_lt; omega)
  have hflag : (Text.decimal (flag r.delayed)).length = 1 := by
    cases r.delayed <;> rfl
  have hraw := Single.length_fixed_le (show 0 < 3 by decide) hfinite.1
  have hnormalized :
      (if r.hasNormalizedValue then r.normalizedValue.fixed 3 else "null".toList).length ≤ 44 := by
    cases r.hasNormalizedValue with
    | false => exact (by decide : "null".toList.length ≤ 44)
    | true => exact Single.length_fixed_le (by decide) hfinite.2
  have hseq := hcounter r.sequenceNumber
  have hms := hcounter r.uptimeMs
  have hlong := hchannel.2.1
  unfold recordText
  simp only [List.length_append, String.length_toList]
  generalize (if r.hasNormalizedValue then r.normalizedValue.fixed 3 else "null".toList) =
    normalized at hnormalized ⊢
  have hliterals : "\x7b\"t\":\"".length = 6 ∧ "\",\"v\":1,\"id\":\"".length = 14 ∧
      "\",\"s\":".length = 6 ∧ ",\"ms\":".length = 6 ∧ ",\"c\":\"".length = 6 ∧
      "\",\"rv\":".length = 7 ∧ ",\"nv\":".length = 6 ∧
      ",\"u\":\"adc_count\",\"q\":\"".length = 22 ∧ "\",\"d\":".length = 6 ∧
      "\x7d".length = 1 := by decide
  omega

/-! ## The record the gateway makes of it -/

/-- Whether a record reports that something has changed. -/
def IsTransition (type : RecordType) : Prop :=
  type = .alarmTransition ∨ type = .sensorFaultTransition ∨ type = .recovery

instance (type : RecordType) : Decidable (IsTransition type) := inferInstanceAs (Decidable (_ ∨ _))

/-- The kind of record a packet of the given type is. -/
def recordTypeOf (type : RecordType) : TelemetryRecordType :=
  if IsTransition type then .event else .measurement

/-- What the gateway calls the quality that the encoder has named. -/
def encodedQuality : MeasurementQuality → Quality
  | .good => .good
  | .estimated => .good
  | .uncalibrated => .uncalibrated
  | .invalid => .invalid
  | .sensorFault => .sensorFault

theorem get?_recordFields (r : TelemetryEncoder.TelemetryRecord) (id : Text) :
    let payload := fieldsJson (recordFields r id)
    payload.get? "t".toList = some (.str (typeName r.type)) ∧
    payload.get? "v".toList = some (.int 1) ∧
    payload.get? "id".toList = some (.str id) ∧
    payload.get? "s".toList = some (.int r.sequenceNumber.toNat) ∧
    payload.get? "ms".toList = some (.int r.uptimeMs.toNat) ∧
    payload.get? "c".toList = some (.str r.channelId) ∧
    payload.get? "rv".toList = some (.float (Double.nearest (r.rawValue.rounded 3))) ∧
    payload.get? "u".toList = some (.str "adc_count".toList) ∧
    payload.get? "q".toList = some (.str (qualityName r.quality)) ∧
    payload.get? "d".toList = some (.int (flag r.delayed)) ∧
    payload.get? "k".toList = none ∧ payload.get? "e".toList = none := by
  cases hhas : r.hasNormalizedValue <;>
    simp only [recordFields, hhas] <;>
    exact ⟨rfl, rfl, rfl, rfl, rfl, rfl, rfl, rfl, rfl, rfl, rfl, rfl⟩

theorem get?_recordFields_normalized (r : TelemetryEncoder.TelemetryRecord) (id : Text) :
    (fieldsJson (recordFields r id)).get? "nv".toList =
      some (if r.hasNormalizedValue then .float (Double.nearest (r.normalizedValue.rounded 3))
        else .null) := by
  cases hhas : r.hasNormalizedValue <;> simp only [recordFields, hhas] <;> rfl

/-- The channel of a record as the gateway reads it. -/
def channelOf (r : TelemetryEncoder.TelemetryRecord) (raw normalized : ℚ) :
    TelemetryParser.ChannelValue where
  value := some (.float (if r.hasNormalizedValue then normalized else raw))
  rawValue := some (.float raw)
  unit := some "adc_count".toList
  quality := encodedQuality r.quality
  valueKind := if r.hasNormalizedValue then .calibrated else .raw

theorem channelValue_record {r : TelemetryEncoder.TelemetryRecord} {id : Text} {raw normalized : ℚ}
    (hraw : Double.nearest (r.rawValue.rounded 3) = .finite raw)
    (hnormalized : Double.nearest (r.normalizedValue.rounded 3) = .finite normalized) :
    channelValue (fieldsJson (recordFields r id)) = .ok (channelOf r raw normalized) := by
  obtain ⟨-, -, -, -, -, -, hrv, hu, hq, -, hk, -⟩ := get?_recordFields r id
  have hnv := get?_recordFields_normalized r id
  unfold channelValue channelOf
  rw [hrv, hnv, hu, hq, hk, hraw, hnormalized]
  cases r.hasNormalizedValue <;> cases r.quality <;> rfl

theorem parsePayload_record {r : TelemetryEncoder.TelemetryRecord} {id : Text} {raw normalized : ℚ}
    (hraw : Double.nearest (r.rawValue.rounded 3) = .finite raw)
    (hnormalized : Double.nearest (r.normalizedValue.rounded 3) = .finite normalized)
    (hchannel : 1 ≤ r.channelId.length ∧ r.channelId.length ≤ 96)
    (hid : 1 ≤ id.length ∧ id.length ≤ 96) (receivedAt : ℤ) :
    parsePayload (fieldsJson (recordFields r id)) receivedAt = .ok {
      schemaVersion := 1
      deviceId := some id
      recordType := recordTypeOf r.type
      deviceUptimeMs := some r.uptimeMs.toNat
      sequenceNumber := some r.sequenceNumber.toNat
      receivedAt
      delayed := r.delayed
      channels := [(r.channelId, channelOf r raw normalized)]
      originalPayload := fieldsJson (recordFields r id) } := by
  obtain ⟨ht, hv, hdevice, hs, hms, hc, -, -, -, hd, -, he⟩ := get?_recordFields r id
  have hvalue := @channelValue_record r id _ _ hraw hnormalized
  have hmetadata : (metadataKeys.filterMap fun key =>
      ((fieldsJson (recordFields r id)).get? key).map (key, ·)) = [] := by
    cases hhas : r.hasNormalizedValue <;> simp only [recordFields, hhas] <;> rfl
  generalize fieldsJson (recordFields r id) = payload at *
  have hversion : finiteNumber (payload.get? "v".toList) "v".toList (some 1) (some 255) =
      .ok (.int 1) := by
    rw [hv]
    exact finiteNumber_natural (by exact_mod_cast Nat.one_lt_two_pow (by decide)) (by simp)
      (by simp)
  have hchannels : versionedChannels payload = .ok [(r.channelId, channelOf r raw normalized)] := by
    unfold versionedChannels
    rw [hc, optionalText_str hchannel]
    simp only [bind, Except.bind, hvalue]
    rfl
  have hdelayed : TelemetryParser.truthy (payload.get? "d".toList) = r.delayed := by
    rw [hd]
    cases r.delayed <;> rfl
  have hversioned : parsePayload payload receivedAt = parseVersioned payload receivedAt := by
    unfold parsePayload
    rw [ht]
    cases r.type <;> rfl
  have hkind : lookupStr (payload.get? "t".toList) recordTypes =
      .ok (some (recordTypeOf r.type)) := by
    rw [ht]
    cases r.type <;> rfl
  have hheartbeat (channels : List (Text × TelemetryParser.ChannelValue)) :
      heartbeatChannels (recordTypeOf r.type) payload channels = .ok channels := by
    cases r.type <;> rfl
  rw [hversioned]
  unfold parseVersioned
  rw [hkind, hversion, optionalUint32_eq hms, optionalUint32_eq hs, hchannels, hdevice, he, hdelayed,
    hmetadata, optionalText_str hid]
  simp only [bind, Except.bind, hheartbeat]
  rfl
/-! ## What becomes of a record -/

/-- The gateway's word for a quality. -/
def gatewayQuality : MeasurementQuality → Quality
  | .good => .good
  | .estimated => .estimated
  | .uncalibrated => .uncalibrated
  | .invalid => .invalid
  | .sensorFault => .sensorFault

/-- The value a record reports. -/
def reportedValue (r : TelemetryEncoder.TelemetryRecord) : Single :=
  if r.hasNormalizedValue then r.normalizedValue else r.rawValue

/-- What the gateway has received is the record: its value is the float nearest to what three
decimals say. -/
structure Survives (r : TelemetryEncoder.TelemetryRecord) (id : Text)
    (t : TelemetryParser.NormalizedTelemetry) : Prop where
  deviceId : t.deviceId = some id
  sequenceNumber : t.sequenceNumber = some r.sequenceNumber.toNat
  deviceUptimeMs : t.deviceUptimeMs = some r.uptimeMs.toNat
  delayed : t.delayed = r.delayed
  recordType : t.recordType = if IsTransition r.type then .event else .measurement
  channel : ∃ c v, t.channels = [(r.channelId, c)] ∧ c.quality = gatewayQuality r.quality ∧
    c.value = some (.float v) ∧ Double.nearest ((reportedValue r).rounded 3) = .finite v

/-- What `encode_record` leaves in the buffer arrives. -/
theorem parseTelemetry_encodeRecord {r : TelemetryEncoder.TelemetryRecord} {id : Text} {size : ℕ}
    (hfinite : HasFiniteValues r) (hchannel : IsChannelId r.channelId)
    (hid : validNodeId id = true) (hsucceeds : (encodeRecord r id size).1 = true)
    (receivedAt : ℤ) :
    ∃ raw normalized, Double.nearest (r.rawValue.rounded 3) = .finite raw ∧
      Double.nearest (r.normalizedValue.rounded 3) = .finite normalized ∧
      parseTelemetry (encodeRecord r id size).2.toBytes defaultMaxPayloadBytes receivedAt = .ok {
        schemaVersion := 1
        deviceId := some id
        recordType := recordTypeOf r.type
        deviceUptimeMs := some r.uptimeMs.toNat
        sequenceNumber := some r.sequenceNumber.toNat
        receivedAt
        delayed := r.delayed
        channels := [(r.channelId, channelOf r raw normalized)]
        originalPayload := fieldsJson (recordFields r id) } := by
  obtain ⟨raw, hraw⟩ := Single.nearest_rounded_finite 3 r.rawValue
  obtain ⟨normalized, hnormalized⟩ := Single.nearest_rounded_finite 3 r.normalizedValue
  have hbare := isBare_of_validNodeId hid
  obtain ⟨⟨hne, hlong, -, -⟩, -⟩ := validNodeId_iff.mp hid
  have hlength : 1 ≤ id.length ∧ id.length ≤ 31 := ⟨List.length_pos_iff.mpr hne, hlong⟩
  have hfits : (recordText r id).length < size := by
    simp only [encodeRecord, written, Bool.and_eq_true, decide_eq_true_eq] at hsucceeds
    exact hsucceeds.2
  have hbuffer : (encodeRecord r id size).2 = fieldsText (recordFields r id) := by
    rw [← recordText_eq]
    exact Text.snprintf_eq_self hfits
  have hshort : (fieldsText (recordFields r id)).length ≤ defaultMaxPayloadBytes := by
    rw [← recordText_eq]
    exact (length_recordText_le hfinite hchannel hlength.2).trans (by decide)
  have hwide : r.channelId.length ≤ 96 := hchannel.2.1.trans (by decide)
  refine ⟨raw, normalized, hraw, hnormalized, ?_⟩
  rw [hbuffer, parseTelemetry_fields (by simp [recordFields])
    (isRead_recordFields hfinite hchannel hbare) (isAscii_recordFields hchannel hbare) hshort,
    parsePayload_record hraw hnormalized ⟨hchannel.1, hwide⟩ ⟨hlength.1, by omega⟩]

/-- The encoder names every quality but one. -/
theorem encodedQuality_eq_iff (quality : MeasurementQuality) :
    encodedQuality quality = gatewayQuality quality ↔ quality ≠ .estimated := by
  cases quality <;> decide

/-- **A record of finite values survives the way to the gateway exactly when its quality is not an
estimate.** -/
theorem survives_iff (r : TelemetryEncoder.TelemetryRecord) (id : Text) (size : ℕ) (receivedAt : ℤ)
    (hfinite : HasFiniteValues r) (hchannel : IsChannelId r.channelId)
    (hid : validNodeId id = true) (hsucceeds : (encodeRecord r id size).1 = true) :
    (∃ t, parseTelemetry (encodeRecord r id size).2.toBytes defaultMaxPayloadBytes receivedAt =
      .ok t ∧ Survives r id t) ↔ r.quality ≠ .estimated := by
  obtain ⟨raw, normalized, hraw, hnormalized, hparsed⟩ :=
    parseTelemetry_encodeRecord hfinite hchannel hid hsucceeds receivedAt
  rw [hparsed, ← encodedQuality_eq_iff]
  constructor
  · rintro ⟨t, ht, hsurvives⟩
    cases ht
    obtain ⟨c, v, hchannels, hquality, -, -⟩ := hsurvives.channel
    cases hchannels
    exact hquality
  · intro hquality
    refine ⟨_, rfl, rfl, rfl, rfl, rfl, rfl, _, _, rfl, hquality, rfl, ?_⟩
    unfold reportedValue
    cases r.hasNormalizedValue with
    | false => exact hraw
    | true => exact hnormalized

/-- A reading of 1834 with nothing to complain about. -/
def alarmRecord : TelemetryEncoder.TelemetryRecord where
  type := .alarmTransition
  priority := .alarm
  sequenceNumber := 99
  uptimeMs := 20
  channelId := "sensor_1".toList
  rawValue := .finite false 1834 149
  normalizedValue := .finite true 1 147
  quality := .uncalibrated
  state := .normal
  hasNormalizedValue := true
  delayed := true

theorem survives_iff_alarmRecord :
    (∃ t, parseTelemetry (encodeRecord alarmRecord "ARM2001-01".toList 244).2.toBytes
      defaultMaxPayloadBytes 0 = .ok t ∧ Survives alarmRecord "ARM2001-01".toList t) ↔
      alarmRecord.quality ≠ .estimated :=
  survives_iff alarmRecord "ARM2001-01".toList 244 0 ⟨rfl, rfl⟩
    ⟨by decide, by decide, by decide⟩ (by decide +kernel) (by decide +kernel)

/-- The same reading, estimated. -/
def estimatedRecord : TelemetryEncoder.TelemetryRecord := { alarmRecord with quality := .estimated }

/-- **An estimate arrives as a good value.** -/
theorem not_survives_estimatedRecord :
    HasFiniteValues estimatedRecord ∧ IsChannelId estimatedRecord.channelId ∧
      validNodeId "ARM2001-01".toList = true ∧
      (encodeRecord estimatedRecord "ARM2001-01".toList 244).1 = true ∧
      ¬ ∃ t, parseTelemetry (encodeRecord estimatedRecord "ARM2001-01".toList 244).2.toBytes
        defaultMaxPayloadBytes 0 = .ok t ∧ Survives estimatedRecord "ARM2001-01".toList t := by
  have hfinite : HasFiniteValues estimatedRecord := ⟨rfl, rfl⟩
  have hchannel : IsChannelId estimatedRecord.channelId := ⟨by decide, by decide, by decide⟩
  have hid : validNodeId "ARM2001-01".toList = true := by decide +kernel
  have hsucceeds : (encodeRecord estimatedRecord "ARM2001-01".toList 244).1 = true := by
    decide +kernel
  refine ⟨hfinite, hchannel, hid, hsucceeds, ?_⟩
  obtain ⟨raw, normalized, -, -, hparsed⟩ :=
    parseTelemetry_encodeRecord hfinite hchannel hid hsucceeds 0
  rw [hparsed]
  rintro ⟨t, ht, hsurvives⟩
  cases ht
  obtain ⟨c, v, hchannels, hquality, -, -⟩ := hsurvives.channel
  cases hchannels
  cases hquality

end SeedMg24.Analysis
