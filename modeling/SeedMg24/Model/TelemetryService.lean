import SeedMg24.Foundation.Text

/-!
# Telemetry ingestion

`TelemetryService.ingest` of `services/telemetry_service.py` and the transaction of
`services/telemetry_persistence.py`, for one registered node: packets come parsed, times are in
microseconds, and a session id is the number of the session.  The installation a reading belongs
to, the broadcast and the vibration counters are left out.
-/

set_option autoImplicit false

namespace SeedMg24.Model

open Foundation

/-- SOURCE: schemas.py:156 -/
inductive TelemetryRecordType where
  | measurement | event | heartbeat | configAck | configError | burstFragment | vibration
deriving DecidableEq, Repr

/-- SOURCE: telemetry_parser.py:214-224 -/
def TelemetryRecordType.name : TelemetryRecordType → Text
  | .measurement => "measurement".toList
  | .event => "event".toList
  | .heartbeat => "heartbeat".toList
  | .configAck => "config_ack".toList
  | .configError => "config_error".toList
  | .burstFragment => "burst_fragment".toList
  | .vibration => "vibration".toList

/-- The parts of a channel value a reading keeps. -/
structure ChannelValue where
  value : Option ℚ
  rawValue : Option ℚ
  unit : Option Text
  quality : Text
deriving DecidableEq

/-- A parsed packet; `channels` is a dictionary, and `digest` stands for the digest of its bytes.
SOURCE: schemas.py:152-165 -/
structure NormalizedTelemetry where
  deviceId : Option Text
  recordType : TelemetryRecordType
  deviceUptimeMs : Option ℕ
  sequenceNumber : Option ℕ
  receivedAt : ℤ
  delayed : Bool
  event : Option Text
  channels : List (Text × ChannelValue)
  /-- whether a vibration packet has a validated summary -/
  hasVibration : Bool
  /-- the length of the payload as it is stored -/
  encodedLength : ℕ
  digest : Text
  channels_nodup : (channels.map Prod.fst).Nodup

/-- A row of `readings`.
SOURCE: models.py:182-222 -/
structure Reading where
  receivedAt : ℤ
  measuredAt : Option ℤ
  deviceUptimeMs : Option ℕ
  sequenceNumber : Option ℕ
  sessionId : ℕ
  recordType : TelemetryRecordType
  channel : Text
  rawValue : Option ℚ
  normalizedValue : Option ℚ
  unit : Option Text
  quality : Text
  delayed : Bool
deriving DecidableEq

/-- SOURCE: telemetry_service.py:55-59 -/
inductive DedupeKey where
  | sequenced (recordType : TelemetryRecordType) (sequenceNumber : ℕ)
  | unsequenced (deviceUptimeMs : Option ℕ) (digest : Text)
deriving DecidableEq

/-- The session of a node: its id, the last uptime seen and the time of the boot.
SOURCE: telemetry_service.py:37 -/
structure SessionEntry where
  sessionId : ℕ
  lastUptime : Option ℕ
  bootTime : Option ℤ
deriving DecidableEq

/-- Why a packet is refused. -/
inductive IngestError where
  /-- the packet names another device -/
  | deviceMismatch
  /-- the packet does not fit the storage -/
  | payloadTooLarge
  /-- there is no summary, or it was not processed -/
  | vibration
  /-- the device is not registered, disabled or removed -/
  | deviceGone
  /-- the database refused the transaction -/
  | persistence
deriving DecidableEq

/-- The service's memory of one node, and the node's rows in the database. -/
structure TelemetryService where
  registeredDeviceId : Text
  maxPayloadJsonBytes : ℕ := 4096
  /-- whether the device is registered, enabled and not removed -/
  deviceActive : Bool := true
  sessions : Option SessionEntry := none
  /-- how many session ids were drawn -/
  sessionsStarted : ℕ := 0
  /-- the remembered keys, oldest first -/
  dedupe : List DedupeKey := []
  readings : List Reading := []

/-- What becomes of a packet: the session and the time it is measured at, if it gets that far, and
the rows stored. -/
structure Ingested where
  assigned : Option (ℕ × Option ℤ)
  rows : Except IngestError (List Reading)

/-- Whether an uptime starts a new session.
SOURCE: telemetry_service.py:46 -/
def startsSession (current : Option SessionEntry) (uptime : Option ℕ) : Bool :=
  match current with
  | none => true
  | some entry =>
    match uptime, entry.lastUptime with
    | some uptime, some last => uptime < last
    | _, _ => false

/-- The session of a packet.
SOURCE: telemetry_service.py:45-51 -/
def sessionEntry (fresh : ℕ) (current : Option SessionEntry) (uptime : Option ℕ) (receivedAt : ℤ) :
    SessionEntry :=
  match current with
  | none => ⟨fresh, uptime, uptime.map fun (u : ℕ) => receivedAt - 1000 * (u : ℤ)⟩
  | some entry =>
    if startsSession current uptime then
      ⟨fresh, uptime, uptime.map fun (u : ℕ) => receivedAt - 1000 * (u : ℤ)⟩
    else { entry with lastUptime := uptime.or entry.lastUptime }

/-- The time a packet is measured at.
SOURCE: telemetry_service.py:52 -/
def SessionEntry.measuredAt (entry : SessionEntry) (uptime : Option ℕ) : Option ℤ :=
  match uptime, entry.bootTime with
  | some uptime, some bootTime => some (bootTime + 1000 * uptime)
  | _, _ => none

namespace TelemetryService

/-- SOURCE: telemetry_service.py:44-53 -/
def sessionFor (s : TelemetryService) (uptime : Option ℕ) (receivedAt : ℤ) :
    TelemetryService × ℕ × Option ℤ :=
  let entry := sessionEntry s.sessionsStarted s.sessions uptime receivedAt
  ({ s with
      sessions := some entry
      sessionsStarted :=
        if startsSession s.sessions uptime then s.sessionsStarted + 1 else s.sessionsStarted },
    entry.sessionId, entry.measuredAt uptime)

/-- SOURCE: telemetry_service.py:55-59 -/
def dedupeKey (payload : NormalizedTelemetry) : DedupeKey :=
  match payload.sequenceNumber with
  | some sequenceNumber => .sequenced payload.recordType sequenceNumber
  | none => .unsequenced payload.deviceUptimeMs payload.digest

/-- How many keys are remembered. -/
def dedupeCapacity : ℕ := 256

/-- A key is only remembered when it is not there yet.
SOURCE: telemetry_service.py:65-69 -/
def remember (s : TelemetryService) (key : DedupeKey) : TelemetryService :=
  { s with dedupe := (s.dedupe ++ [key]).drop (s.dedupe.length + 1 - dedupeCapacity) }

/-- The rows of a packet.
SOURCE: telemetry_persistence.py:58-91 -/
def rowsOf (payload : NormalizedTelemetry) (sessionId : ℕ) (measuredAt : Option ℤ) :
    List Reading :=
  let row (name : Text) (channel : Option ChannelValue) : Reading := {
    receivedAt := payload.receivedAt
    measuredAt := measuredAt
    deviceUptimeMs := payload.deviceUptimeMs
    sequenceNumber := payload.sequenceNumber
    sessionId := sessionId
    recordType := payload.recordType
    channel := name
    rawValue := channel.bind (·.rawValue)
    normalizedValue := channel.bind (·.value)
    unit := channel.bind (·.unit)
    quality := (channel.map (·.quality)).getD "good".toList
    delayed := payload.delayed }
  if payload.channels.isEmpty then
    [row ((payload.event.filter (· ≠ [])).getD payload.recordType.name) none]
  else payload.channels.map fun (name, channel) => row name (some channel)

/-- Two rows the uniqueness constraint does not let stand together; a missing sequence number is
equal to none.
SOURCE: models.py:195 -/
def Clash (a b : Reading) : Prop :=
  a.sessionId = b.sessionId ∧ a.sequenceNumber.isSome ∧ a.sequenceNumber = b.sequenceNumber ∧
    a.channel = b.channel

instance (a b : Reading) : Decidable (Clash a b) := inferInstanceAs (Decidable (_ ∧ _))

/-- One transaction: all rows of the packet, or none.
SOURCE: telemetry_persistence.py:29-118 -/
def persist (s : TelemetryService) (payload : NormalizedTelemetry) (sessionId : ℕ)
    (measuredAt : Option ℤ) : TelemetryService × Except IngestError (List Reading) :=
  if !s.deviceActive then (s, .error .deviceGone)
  else
    let rows := rowsOf payload sessionId measuredAt
    if ∃ row ∈ rows, ∃ old ∈ s.readings, Clash row old then (s, .error .persistence)
    else ({ s with readings := s.readings ++ rows }, .ok rows)

/-- Taking in a packet; `processed` says whether the vibration service took its summary.
SOURCE: telemetry_service.py:71-124 -/
def ingest (s : TelemetryService) (payload : NormalizedTelemetry) (processed : Bool) :
    TelemetryService × Ingested :=
  if payload.deviceId.isSome ∧ payload.deviceId ≠ some s.registeredDeviceId then
    (s, ⟨none, .error .deviceMismatch⟩)
  else if dedupeKey payload ∈ s.dedupe then (s, ⟨none, .ok []⟩)
  else if payload.encodedLength > s.maxPayloadJsonBytes then
    (s, ⟨none, .error .payloadTooLarge⟩)
  else
    let (s, sessionId, measuredAt) := s.sessionFor payload.deviceUptimeMs payload.receivedAt
    if payload.recordType = .vibration then
      if !payload.hasVibration || !processed then
        (s, ⟨some (sessionId, measuredAt), .error .vibration⟩)
      else (s.remember (dedupeKey payload), ⟨some (sessionId, measuredAt), .ok []⟩)
    else
      match s.persist payload sessionId measuredAt with
      | (s, .error e) => (s, ⟨some (sessionId, measuredAt), .error e⟩)
      | (s, .ok rows) =>
        (s.remember (dedupeKey payload), ⟨some (sessionId, measuredAt), .ok rows⟩)

end TelemetryService

end SeedMg24.Model
