import SeedMg24.Foundation.SingleArithmetic
import SeedMg24.Model.TelemetryBuffer

/-!
# Buffered records on a link

The part of `xiao_mg24_sensor_node.ino` that puts records into the offline buffer while there is no
connection and takes them out again when there is one.  The link may change at any time, also after
a record is taken out and before it is sent.  A run keeps account of what becomes of the records
that are put into the buffer.
-/

set_option autoImplicit false

namespace SeedMg24.Model.OfflineBuffer

open Foundation

/-- SOURCE: xiao_mg24_sensor_node.ino:80 -/
def bleJsonSize : ℕ := 244

/-- The id a node reports: at most `kNodeIdMaxLength` characters.
SOURCE: node_identity_store.h:6, xiao_mg24_sensor_node.ino:103-106 -/
abbrev ReportedId := { id : Text // id.length ≤ 31 }

/-- SOURCE: xiao_mg24_sensor_node.ino:51, 59-61, 72, 88 -/
structure ReplayNode where
  telemetrySequence : UInt32 := 0
  bleEnabled : Bool := true
  bleConnected : Bool := false
  bleNotifyEnabled : Bool := false
  bleTelemetryCharacteristicHandle : UInt16 := 0
  offlineBuffer : TelemetryBuffer

/-- What the stack reports of the link. -/
inductive LinkEvent where
  | connectionOpened
  | connectionClosed
  /-- the client has written the configuration of the telemetry characteristic -/
  | characteristicStatus (notification : Bool)

/-- A pass of the loop that reports: what it measures, what happens on the link between its choice
of a record and the sending of it, and whether the stack takes the notification. -/
structure TelemetryTick where
  nodeId : ReportedId
  micLevel : UInt32
  millis : UInt32
  during : List LinkEvent
  statusOk : Bool

/-- What becomes of a payload: what the call returns, and whether a notification was sent. -/
structure Payload where
  result : Bool
  notified : Bool

/-- What a tick leaves, the record it has put into the buffer, and the one it has taken out with
what has become of it. -/
structure TickOutcome where
  node : ReplayNode
  buffered : Option Record := none
  replayed : Option (Record × Payload) := none

namespace ReplayNode

/-- SOURCE: xiao_mg24_sensor_node.ino:658-679 -/
def onEvent (n : ReplayNode) : LinkEvent → ReplayNode
  | .connectionOpened => { n with bleConnected := true }
  | .connectionClosed => { n with bleConnected := false, bleNotifyEnabled := false }
  | .characteristicStatus notification => { n with bleNotifyEnabled := notification }

/-- SOURCE: xiao_mg24_sensor_node.ino:905-916 -/
def bleSendPayload (n : ReplayNode) (payload : Text) (statusOk : Bool) : Payload :=
  if payload.length = 0 ∨ payload.length ≥ bleJsonSize then ⟨false, false⟩
  else if n.bleConnected && n.bleNotifyEnabled then ⟨statusOk, statusOk⟩
  else ⟨true, false⟩

/-- SOURCE: xiao_mg24_sensor_node.ino:889-894 -/
def telemetryRecord (t : TelemetryTick) (sequenceNumber : UInt32) : Record where
  type := .measurement
  priority := .routine
  sequenceNumber := sequenceNumber
  uptimeMs := t.millis
  channelId := "microphone_raw".toList
  rawValue := .nearest t.micLevel.toNat
  normalizedValue := .zero
  quality := .uncalibrated
  state := .normal
  hasNormalizedValue := false
  delayed := false

/-- A record that is taken out is sent if it can be encoded.
SOURCE: xiao_mg24_sensor_node.ino:898-900 -/
def replay (n : ReplayNode) (t : TelemetryTick) (record : Record) : Payload :=
  let (encoded, json) := TelemetryEncoder.encodeRecord record t.nodeId bleJsonSize
  if encoded then n.bleSendPayload json t.statusOk else ⟨false, false⟩

/-- SOURCE: xiao_mg24_sensor_node.ino:873-903 -/
def bleUpdateTelemetry (n : ReplayNode) (t : TelemetryTick) : TickOutcome :=
  if !n.bleEnabled || n.bleTelemetryCharacteristicHandle = 0 then { node := n }
  else
    let sequenceNumber := n.telemetrySequence
    let n := { n with telemetrySequence := sequenceNumber + 1 }
    if !n.bleConnected then
      let record := telemetryRecord t sequenceNumber
      { node := { n with offlineBuffer := (n.offlineBuffer.push record).2 }
        buffered := some record }
    else
      match n.offlineBuffer.pop with
      | (none, _) => { node := t.during.foldl onEvent n }
      | (some record, offlineBuffer) =>
        let n := t.during.foldl onEvent { n with offlineBuffer }
        { node := n, replayed := some (record, n.replay t record) }

end ReplayNode

/-- What happens to a node. -/
inductive ReplayEvent where
  | link (e : LinkEvent)
  | tick (t : TelemetryTick)
  /-- a heartbeat or an answer takes a sequence number -/
  | counts
  /-- `BLE START` and `BLE STOP` -/
  | enables (on : Bool)
  /-- the database of the stack is set up -/
  | initialises (handle : UInt16)
  /-- a confirmed factory reset clears the buffer and boots the board -/
  | factoryReset

/-- A node, and what has become of the records that were put into its buffer. -/
structure ReplayRun where
  node : ReplayNode
  placed : List Record := []
  evicted : List Record := []
  cleared : List Record := []
  delivered : List Record := []

/-- The record a push gives up.
SOURCE: telemetry_buffer.cpp:5-10 -/
def TelemetryBuffer.evictedBy (b : TelemetryBuffer) (record : Record) : List Record :=
  if b.count < TELEMETRY_BUFFER_CAPACITY then []
  else if rank record.priority ≤ rank (b.records b.lowest).priority then []
  else [b.records b.lowest]

namespace ReplayRun

/-- The account of a tick: a record that the buffer refuses is not placed, and one that is taken
out is delivered if it was handed to a notification. -/
def record (r : ReplayRun) (outcome : TickOutcome) : ReplayRun where
  node := outcome.node
  placed := r.placed ++ outcome.buffered.toList.filter fun record =>
    (r.node.offlineBuffer.push record).1
  evicted := r.evicted ++ outcome.buffered.toList.flatMap r.node.offlineBuffer.evictedBy
  cleared := r.cleared
  delivered := r.delivered ++
    (outcome.replayed.toList.filter fun replayed => replayed.2.notified).map Prod.fst

/-- One event.
SOURCE: xiao_mg24_sensor_node.ino:450, 455, 733-735, 995 -/
def next (r : ReplayRun) : ReplayEvent → ReplayRun
  | .link e => { r with node := r.node.onEvent e }
  | .tick t => r.record (r.node.bleUpdateTelemetry t)
  | .counts => { r with node := { r.node with
      telemetrySequence := r.node.telemetrySequence + 1 } }
  | .enables on => { r with node := { r.node with bleEnabled := on } }
  | .initialises handle => { r with node := { r.node with
      bleTelemetryCharacteristicHandle := handle } }
  | .factoryReset => { r with
      node := { offlineBuffer := r.node.offlineBuffer.clear }
      cleared := r.cleared ++ r.node.offlineBuffer.held }

end ReplayRun

end SeedMg24.Model.OfflineBuffer
