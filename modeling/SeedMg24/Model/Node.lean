import SeedMg24.Model.ConfigurationStore
import SeedMg24.Model.FactoryReset
import SeedMg24.Model.NodeIdentityStore

/-!
# The state of a node

The globals of `xiao_mg24_sensor_node.ino` its boot and its commands read and write, the answers a
command prints, and `setup`.  What a command prints to the serial port and notifies over BLE is
recorded in the state, oldest first.
-/

set_option autoImplicit false

namespace SeedMg24.Model

open Foundation

def MAX_FILTER_WINDOW : ℕ := 9

/-- The part of a `ChannelConfig` that commands change and stores keep.
SOURCE: sensor_types.h:19-45 -/
structure ChannelConfig where
  enabled : Bool
  sampleIntervalMs : UInt32
  processingIntervalMs : UInt32
  reportIntervalMs : UInt32
  heartbeatIntervalMs : UInt32
  filterType : UInt8
  filterWindow : UInt8
deriving DecidableEq, Repr

/-- SOURCE: sensor_config.h:34-42 -/
def MICROPHONE_CHANNEL_CONFIG : ChannelConfig where
  enabled := true
  sampleIntervalMs := 100
  processingIntervalMs := 100
  reportIntervalMs := 100
  heartbeatIntervalMs := 30000
  filterType := FilterType.exponential
  filterWindow := 2

/-- SOURCE: xiao_mg24_sensor_node.ino:46-98 -/
structure Node where
  sampleIntervalMs : UInt32 := 100
  telemetrySequence : UInt32 := 0
  processingErrorCount : UInt32 := 0
  ledBrightness : ℕ := 0
  bleEnabled : Bool := true
  bleConnected : Bool := false
  bleNotifyEnabled : Bool := false
  microphoneRuntimeConfig : ChannelConfig := MICROPHONE_CHANNEL_CONFIG
  factoryResetController : FactoryResetController := {}
  activeIdentity : NodeIdentity := {}
  identityStoreStatus : StoreStatus := .unprovisioned
  configurationStoreStatus : StoreStatus := .notFound
  resetRecoveryStatus : StoreStatus := .ok
  bootstrapOnly : Bool := true
  serialLines : List Text := []
  notifications : List Text := []

namespace Node

/-- SOURCE: xiao_mg24_sensor_node.ino:102-105 -/
def runtimeNodeId (n : Node) : Text :=
  if n.identityStoreStatus = .ok ∨ n.identityStoreStatus = .recoveredFromPrevious then
    n.activeIdentity.nodeId
  else "UNASSIGNED-MG24".toList

/-- `sizeof(ble_json)`. -/
def bleJsonSize : ℕ := 244

/-- A payload that does not fit is counted and dropped; the others are notified to a subscribed
client.
SOURCE: xiao_mg24_sensor_node.ino:905-916 -/
def bleSendPayload (n : Node) (payload : Text) : Node :=
  if payload.length = 0 ∨ payload.length ≥ bleJsonSize then
    { n with processingErrorCount := n.processingErrorCount + 1 }
  else if n.bleConnected ∧ n.bleNotifyEnabled then
    { n with notifications := n.notifications ++ [payload] }
  else n

/-- How every answer of a command leaves the node.
SOURCE: xiao_mg24_sensor_node.ino:181-184, 211-214, 229-232 -/
def answer (n : Node) (response : Text) : Node :=
  let n := { n with serialLines := n.serialLines ++ [response] }
  if n.bleConnected then n.bleSendPayload response else n

/-- SOURCE: xiao_mg24_sensor_node.ino:179-180 -/
def commandResultText (n : Node) (accepted : Bool) (code : Text) (now : UInt32) : Text :=
  Text.snprintf 120 ("\x7b\"t\":\"".toList ++ (if accepted then "ca" else "ce").toList ++
    "\",\"v\":1,\"id\":\"".toList ++ n.runtimeNodeId ++ "\",\"s\":".toList ++
    Text.decimal n.telemetrySequence.toNat ++ ",\"ms\":".toList ++ Text.decimal now.toNat ++
    ",\"code\":\"".toList ++ code ++ "\"\x7d".toList)

/-- SOURCE: xiao_mg24_sensor_node.ino:177-185 -/
def commandResult (n : Node) (accepted : Bool) (code : Text) (now : UInt32) : Node :=
  answer { n with telemetrySequence := n.telemetrySequence + 1 }
    (n.commandResultText accepted code now)

/-- SOURCE: xiao_mg24_sensor_node.ino:187-197 -/
def currentStoredConfiguration (n : Node) : StoredChannelConfiguration where
  sampleIntervalMs := n.microphoneRuntimeConfig.sampleIntervalMs
  processingIntervalMs := n.microphoneRuntimeConfig.processingIntervalMs
  reportIntervalMs := n.microphoneRuntimeConfig.reportIntervalMs
  heartbeatIntervalMs := n.microphoneRuntimeConfig.heartbeatIntervalMs
  filterType := n.microphoneRuntimeConfig.filterType
  filterWindow := n.microphoneRuntimeConfig.filterWindow
  enabled := if n.microphoneRuntimeConfig.enabled then 1 else 0

/-- The seven settings as both reports print them.
SOURCE: xiao_mg24_sensor_node.ino:203-210, 221-228 -/
def settingsText (c : ChannelConfig) : Text :=
  "\"sample\":".toList ++ Text.decimal c.sampleIntervalMs.toNat ++
    ",\"process\":".toList ++ Text.decimal c.processingIntervalMs.toNat ++
    ",\"report\":".toList ++ Text.decimal c.reportIntervalMs.toNat ++
    ",\"heartbeat\":".toList ++ Text.decimal c.heartbeatIntervalMs.toNat ++
    ",\"filter\":".toList ++ Text.decimal c.filterType.toNat ++
    ",\"window\":".toList ++ Text.decimal c.filterWindow.toNat ++
    ",\"enabled\":".toList ++ Text.decimal (if c.enabled then 1 else 0) ++ "\x7d".toList

/-- SOURCE: xiao_mg24_sensor_node.ino:199-215 -/
def reportRuntimeConfiguration (n : Node) (now : UInt32) : Node :=
  answer { n with telemetrySequence := n.telemetrySequence + 1 }
    (Text.snprintf 244 ("\x7b\"t\":\"ca\",\"v\":1,\"id\":\"".toList ++ n.runtimeNodeId ++
      "\",\"s\":".toList ++ Text.decimal n.telemetrySequence.toNat ++ ",\"ms\":".toList ++
      Text.decimal now.toNat ++ ",\"code\":\"readback\",".toList ++
      settingsText n.microphoneRuntimeConfig))

/-- SOURCE: xiao_mg24_sensor_node.ino:218-228 -/
def provisioningStateText (n : Node) (transactionId code : Text) : Text :=
  Text.snprintf 244 ("\x7b\"t\":\"ca\",\"v\":1,\"id\":\"".toList ++ n.runtimeNodeId ++
    "\",\"tx\":\"".toList ++ transactionId ++ "\",\"code\":\"".toList ++ code ++ "\",".toList ++
    settingsText n.microphoneRuntimeConfig)

/-- SOURCE: xiao_mg24_sensor_node.ino:217-233 -/
def reportProvisioningState (n : Node) (transactionId code : Text) : Node :=
  n.answer (n.provisioningStateText transactionId code)

/-- Whether the node only answers provisioning commands after its boot.
SOURCE: xiao_mg24_sensor_node.ino:592-595 -/
def bootstrapNeeded (resetStatus : StoreStatus) (recoveryPending : Bool)
    (identityStatus configurationStatus : StoreStatus) : Bool :=
  let identityValid := identityStatus = .ok ∨ identityStatus = .recoveredFromPrevious
  let configurationValid := configurationStatus = .ok ∨
    configurationStatus = .recoveredFromPrevious ∨ configurationStatus = .notFound
  resetStatus ≠ .ok ∨ recoveryPending ∨ ¬ identityValid ∨ ¬ configurationValid

/-- The settings a loaded configuration brings.
SOURCE: xiao_mg24_sensor_node.ino:579-585 -/
def loadedChannelConfig (stored : StoredChannelConfiguration) : ChannelConfig where
  enabled := stored.enabled == 1
  sampleIntervalMs := stored.sampleIntervalMs
  processingIntervalMs := stored.processingIntervalMs
  reportIntervalMs := stored.reportIntervalMs
  heartbeatIntervalMs := stored.heartbeatIntervalMs
  filterType := stored.filterType
  filterWindow := stored.filterWindow

/-- What the node's boot makes of the storage.  The sensors and BLE, which `setup` also starts, are
left out.
SOURCE: xiao_mg24_sensor_node.ino:571-601 -/
def setup (nvmStatus : StoreStatus) : NvmProgram Node := do
  let n : Node := {}
  if nvmStatus ≠ .ok then
    return { n with
      identityStoreStatus := nvmStatus
      configurationStoreStatus := nvmStatus
      bootstrapOnly := bootstrapNeeded n.resetRecoveryStatus false nvmStatus nvmStatus }
  let (resetStatus, recoveryPending, controller) ← n.factoryResetController.recoverOnBoot
  let (identityStatus, identity) ← identityLoad n.activeIdentity
  let (configurationStatus, stored) ← configurationLoad {}
  let n := { n with
    factoryResetController := controller
    resetRecoveryStatus := resetStatus
    activeIdentity := identity
    identityStoreStatus := identityStatus
    configurationStoreStatus := configurationStatus
    microphoneRuntimeConfig :=
      if configurationStatus = .ok ∨ configurationStatus = .recoveredFromPrevious then
        loadedChannelConfig stored
      else n.microphoneRuntimeConfig
    bootstrapOnly := bootstrapNeeded resetStatus recoveryPending identityStatus configurationStatus }
  if recoveryPending ∧ resetStatus = .ok then
    let (status, controller) ← controller.completeRecoveryOnBoot
      (identityStatus = .unprovisioned ∧ configurationStatus = .notFound)
    return { n with
      factoryResetController := controller, resetRecoveryStatus := status, bootstrapOnly := true }
  return n

end Node

end SeedMg24.Model
