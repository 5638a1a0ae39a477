import SeedMg24.Model.TelemetryService

/-!
# What a node sends

The offline buffer of `telemetry_buffer.cpp` and the part of the loop in
`xiao_mg24_sensor_node.ino` that reports, buffers and replays records over BLE.  Of a record only
its kind, sequence number, uptime and delay mark are kept; what is sent is what the gateway's
parser makes of it.
-/

set_option autoImplicit false

namespace SeedMg24.Model

open Foundation

/-- SOURCE: sensor_config.h:28 -/
def TELEMETRY_BUFFER_CAPACITY : ℕ := 24

/-- SOURCE: sensor_types.h:58-70 -/
structure TelemetryRecord where
  priority : ℕ
  sequenceNumber : UInt32
  uptimeMs : UInt32
  delayed : Bool
deriving DecidableEq, Repr

/-- SOURCE: telemetry_buffer.h:5-19 -/
structure TelemetryBuffer where
  records : List TelemetryRecord := []
  droppedCount : UInt32 := 0
deriving DecidableEq, Repr

namespace TelemetryBuffer

/-- The position of the first record of the lowest priority.
SOURCE: telemetry_buffer.cpp:6-7 -/
def lowest (records : List TelemetryRecord) : ℕ :=
  (List.range records.length).foldl (fun lowest i =>
    match records[i]?, records[lowest]? with
    | some record, some least => if record.priority < least.priority then i else lowest
    | _, _ => lowest) 0

/-- SOURCE: telemetry_buffer.cpp:4-11 -/
def push (b : TelemetryBuffer) (record : TelemetryRecord) : TelemetryBuffer :=
  if b.records.length < TELEMETRY_BUFFER_CAPACITY then { b with records := b.records ++ [record] }
  else
    let i := lowest b.records
    match b.records[i]? with
    | none => b
    | some least =>
      if record.priority ≤ least.priority then { b with droppedCount := b.droppedCount + 1 }
      else { records := b.records.eraseIdx i ++ [record], droppedCount := b.droppedCount + 1 }

/-- SOURCE: telemetry_buffer.cpp:12-17 -/
def pop (b : TelemetryBuffer) : Option TelemetryRecord × TelemetryBuffer :=
  match b.records with
  | [] => (none, b)
  | record :: rest => (some { record with delayed := true }, { b with records := rest })

end TelemetryBuffer

/-- A record on its way to the gateway, and the time since the boot at which it was sent. -/
structure SentRecord where
  recordType : TelemetryRecordType
  sequenceNumber : UInt32
  uptimeMs : UInt32
  delayed : Bool
  sentAtMs : ℕ
deriving DecidableEq, Repr

/-- The globals of the loop's telemetry part; `elapsedMs` is the time since the boot, of which
`millis` shows 32 bits.
SOURCE: xiao_mg24_sensor_node.ino:46-62, 88 -/
structure NodeTelemetry where
  elapsedMs : ℕ := 0
  telemetrySequence : UInt32 := 0
  lastSampleMs : UInt32 := 0
  lastHeartbeatMs : UInt32 := 0
  reportIntervalMs : UInt32 := 100
  heartbeatIntervalMs : UInt32 := 30000
  bleEnabled : Bool := true
  bleConnected : Bool := false
  bleNotifyEnabled : Bool := false
  offlineBuffer : TelemetryBuffer := {}
  sent : List SentRecord := []
deriving DecidableEq, Repr

/-- What happens to the telemetry of a node. -/
inductive TelemetryEvent where
  /-- time passes between two passes of the loop -/
  | elapses (ms : ℕ)
  | connects
  | subscribes
  | disconnects
  /-- a pass of the loop that takes so long before it sends its report -/
  | pass (reportTakesMs : ℕ)
  /-- a command is answered with a result -/
  | answers (accepted : Bool)

namespace NodeTelemetry

def millis (n : NodeTelemetry) : UInt32 := UInt32.ofNat n.elapsedMs

/-- SOURCE: sensor_types.h:72-74 -/
def elapsedSince (now previous interval : UInt32) : Bool := now - previous ≥ interval

/-- SOURCE: xiao_mg24_sensor_node.ino:905-916 -/
def bleSendPayload (n : NodeTelemetry) (recordType : TelemetryRecordType)
    (sequenceNumber uptimeMs : UInt32) (delayed : Bool) : NodeTelemetry :=
  if n.bleConnected ∧ n.bleNotifyEnabled then
    { n with sent := n.sent ++ [⟨recordType, sequenceNumber, uptimeMs, delayed, n.elapsedMs⟩] }
  else n

/-- SOURCE: xiao_mg24_sensor_node.ino:873-903 -/
def bleUpdateTelemetry (n : NodeTelemetry) : NodeTelemetry :=
  if !n.bleEnabled then n
  else
    let sequenceNumber := n.telemetrySequence
    let n := { n with telemetrySequence := n.telemetrySequence + 1 }
    if !n.bleConnected then
      { n with offlineBuffer := n.offlineBuffer.push ⟨0, sequenceNumber, n.millis, false⟩ }
    else
      let uptimeMs := n.millis
      let n := match n.offlineBuffer.pop with
        | (none, _) => n
        | (some record, rest) =>
          { n with offlineBuffer := rest }.bleSendPayload .measurement record.sequenceNumber
            record.uptimeMs record.delayed
      n.bleSendPayload .measurement sequenceNumber uptimeMs false

/-- The rest of the loop: the heartbeat shows the time the pass began at.
SOURCE: xiao_mg24_sensor_node.ino:1015-1032 -/
def pass (n : NodeTelemetry) (reportTakesMs : ℕ) : NodeTelemetry :=
  let now := n.millis
  let n :=
    if elapsedSince now n.lastSampleMs n.reportIntervalMs then
      { n with lastSampleMs := now, elapsedMs := n.elapsedMs + reportTakesMs }.bleUpdateTelemetry
    else n
  if n.bleConnected && elapsedSince now n.lastHeartbeatMs n.heartbeatIntervalMs then
    let sequenceNumber := n.telemetrySequence
    { n with lastHeartbeatMs := now, telemetrySequence := n.telemetrySequence + 1 }.bleSendPayload
      .heartbeat sequenceNumber now false
  else n

/-- One event. -/
def next (n : NodeTelemetry) : TelemetryEvent → NodeTelemetry
  | .elapses ms => { n with elapsedMs := n.elapsedMs + ms }
  | .connects => { n with bleConnected := true }
  | .subscribes => { n with bleNotifyEnabled := true }
  | .disconnects => { n with bleConnected := false, bleNotifyEnabled := false }
  | .pass reportTakesMs => n.pass reportTakesMs
  | .answers accepted =>
    let sequenceNumber := n.telemetrySequence
    { n with telemetrySequence := n.telemetrySequence + 1 }.bleSendPayload
      (if accepted then .configAck else .configError) sequenceNumber n.millis false

/-- What a boot sends. -/
def bootSends (events : List TelemetryEvent) : List SentRecord :=
  (events.foldl next {}).sent

end NodeTelemetry

end SeedMg24.Model
