import SeedMg24.Model.Node

/-!
# The commands of a node

The command handlers of `xiao_mg24_sensor_node.ino`.  A handler takes the node, the command and the
time, and returns whether it took the command, and the node after it.  Rebuilding the BLE metadata
texts after a provisioning, and what `VIBRATION STATUS` prints, are left out: nothing here reads
them.
-/

set_option autoImplicit false

namespace SeedMg24.Model

open Foundation

/-- `unsigned long` has 32 bits: `strtoul` saturates.
SOURCE: xiao_mg24_sensor_node.ino:159-166 -/
def parseBoundedUint (text : Text) (minimum maximum : ℕ) : Option UInt32 :=
  if text = [] ∨ !text.all Char.isDigit then none
  else
    let value := min (Text.digitsValue text) 0xFFFFFFFF
    if value < minimum ∨ value > maximum then none else some (UInt32.ofNat value)

/-- The token at an offset and the offset after it.
SOURCE: xiao_mg24_sensor_node.ino:168-176 -/
def nextCommandToken (command : Text) (offset : ℕ) : Option (Text × ℕ) :=
  if offset ≥ command.length then none
  else
    let stop := (Text.indexOf command ' ' offset).getD command.length
    let token := Text.substring command offset stop
    if token.length > 0 then some (token, stop + 1) else none

/-- The seven tokens of a configuration. -/
structure SettingTokens where
  sample : Text
  process : Text
  report : Text
  heartbeat : Text
  filter : Text
  window : Text
  enabled : Text
deriving DecidableEq, Repr

/-- SOURCE: xiao_mg24_sensor_node.ino:250-254, 328-331 -/
def nextSettingTokens (command : Text) (offset : ℕ) : Option (SettingTokens × ℕ) := do
  let (sample, offset) ← nextCommandToken command offset
  let (process, offset) ← nextCommandToken command offset
  let (report, offset) ← nextCommandToken command offset
  let (heartbeat, offset) ← nextCommandToken command offset
  let (filter, offset) ← nextCommandToken command offset
  let (window, offset) ← nextCommandToken command offset
  let (enabled, offset) ← nextCommandToken command offset
  return (⟨sample, process, report, heartbeat, filter, window, enabled⟩, offset)

/-- The configuration to store, if every token is a number within its bounds.
SOURCE: xiao_mg24_sensor_node.ino:268-282, 340-354 -/
def stagedConfiguration (t : SettingTokens) : Option StoredChannelConfiguration := do
  let sample ← parseBoundedUint t.sample 50 5000
  let process ← parseBoundedUint t.process 50 5000
  let report ← parseBoundedUint t.report 50 5000
  let heartbeat ← parseBoundedUint t.heartbeat 1000 3600000
  let filter ← parseBoundedUint t.filter 0 3
  let window ← parseBoundedUint t.window 1 MAX_FILTER_WINDOW
  let enabled ← parseBoundedUint t.enabled 0 1
  return {
    sampleIntervalMs := sample
    processingIntervalMs := process
    reportIntervalMs := report
    heartbeatIntervalMs := heartbeat
    filterType := filter.toUInt8
    filterWindow := window.toUInt8
    enabled := enabled.toUInt8 }

/-- A transaction header: version 1 and an id of 8 to 24 characters.
SOURCE: xiao_mg24_sensor_node.ino:241-242, 332-333 -/
def validTransaction (version transactionId : Text) : Bool :=
  version = "1".toList ∧ 8 ≤ transactionId.length ∧ transactionId.length ≤ 24

/-- SOURCE: usb_bootstrap.h:10 -/
def kBootstrapPrefix : Text := "MG24BOOT1 ".toList

/-- Whether a command reads the provisioning state. -/
def isProvget (command : Text) : Bool := "PROVGET ".toList.isPrefixOf command

/-- The transaction id of a provisioning command and the offset after it.
SOURCE: xiao_mg24_sensor_node.ino:239-244 -/
def provisionHeader (command : Text) : Option (Text × ℕ) := do
  let (version, offset) ← nextCommandToken command (if isProvget command then 8 else 5)
  let (transactionId, offset) ← nextCommandToken command offset
  if validTransaction version transactionId then some (transactionId, offset) else none

/-- The node id and the settings of a provisioning command, when nothing follows them.
SOURCE: xiao_mg24_sensor_node.ino:249-256 -/
def provisionBody (command : Text) (offset : ℕ) : Option (Text × SettingTokens) := do
  let (nodeId, offset) ← nextCommandToken command offset
  let (tokens, offset) ← nextSettingTokens command offset
  if offset ≤ command.length then none else some (nodeId, tokens)

/-- The transaction id and the settings of a configuration transaction.
SOURCE: xiao_mg24_sensor_node.ino:325-334 -/
def configurationHeader (command : Text) : Option (Text × SettingTokens) := do
  let (version, offset) ← nextCommandToken command 7
  let (transactionId, offset) ← nextCommandToken command offset
  let (tokens, offset) ← nextSettingTokens command offset
  if offset ≤ command.length ∨ !validTransaction version transactionId then none
  else some (transactionId, tokens)

/-- The parts of a versioned field update. -/
structure ConfigFields where
  version : Text
  channel : Text
  field : Text
  value : Text
deriving DecidableEq, Repr

/-- SOURCE: xiao_mg24_sensor_node.ino:374-379 -/
def configFields (command : Text) : Option ConfigFields := do
  let p1 ← Text.indexOf command ' ' 4
  let p2 ← Text.indexOf command ' ' (p1 + 1)
  let p3 := Text.indexOf command ' ' (p2 + 1)
  return {
    version := Text.substring command 4 p1
    channel := Text.substring command (p1 + 1) p2
    field := Text.substring command (p2 + 1) (p3.getD command.length)
    value := match p3 with
      | none => []
      | some p3 => Text.substring command (p3 + 1) command.length }

namespace Node

/-- The settings a verified write brings.
SOURCE: xiao_mg24_sensor_node.ino:291-299, 358-366 -/
def adoptConfiguration (n : Node) (verified : StoredChannelConfiguration) : Node :=
  { n with
    microphoneRuntimeConfig := {
      sampleIntervalMs := verified.sampleIntervalMs
      processingIntervalMs := verified.processingIntervalMs
      reportIntervalMs := verified.reportIntervalMs
      heartbeatIntervalMs := verified.heartbeatIntervalMs
      filterType := verified.filterType
      filterWindow := verified.filterWindow
      enabled := verified.enabled != 0 }
    sampleIntervalMs := verified.reportIntervalMs }

/-- The part of the provisioning handler after a complete, well-formed command with a valid id.
SOURCE: xiao_mg24_sensor_node.ino:258-318 -/
def commitProvision (n : Node) (transactionId nodeId : Text) (tokens : SettingTokens)
    (now : UInt32) : NvmProgram Node := do
  let (existingStatus, existing) ← identityLoad {}
  if existingStatus = .ok ∨ existingStatus = .recoveredFromPrevious then
    if existing.nodeId = nodeId then
      let n := { n with activeIdentity := existing, identityStoreStatus := existingStatus }
      return n.reportProvisioningState transactionId "already_committed".toList
    else return n.commandResult false "identity_already_provisioned".toList now
  if existingStatus ≠ .unprovisioned then
    return n.commandResult false (storeStatusName existingStatus) now
  match stagedConfiguration tokens with
  | none => return n.commandResult false "invalid_configuration".toList now
  | some staged =>
    let (stored, verified) ← configurationWrite staged {}
    if stored ≠ .ok then return n.commandResult false (storeStatusName stored) now
    let (stored, provisioned) ← identityProvision nodeId {}
    if stored ≠ .ok then return n.commandResult false (storeStatusName stored) now
    let n := { n with
      activeIdentity := provisioned, identityStoreStatus := .ok, bootstrapOnly := false }
    let n := n.adoptConfiguration verified
    return n.reportProvisioningState transactionId "provisioned".toList

/-- SOURCE: xiao_mg24_sensor_node.ino:235-319 -/
def handleProvisionCommand (n : Node) (command : Text) (now : UInt32) :
    NvmProgram (Bool × Node) := do
  if n.factoryResetController.busy then
    return (true, n.commandResult false "persistent_operation_busy".toList now)
  if !"PROV ".toList.isPrefixOf command && !isProvget command then return (false, n)
  match provisionHeader command with
  | none => return (true, n.commandResult false "invalid_provisioning_header".toList now)
  | some (transactionId, offset) =>
    if isProvget command then
      if offset > command.length then
        return (true, n.reportProvisioningState transactionId "readback".toList)
      return (true, n.commandResult false "invalid_format".toList now)
    match provisionBody command offset with
    | none => return (true, n.commandResult false "invalid_format".toList now)
    | some (nodeId, tokens) =>
      if !validNodeId nodeId then
        return (true, n.commandResult false "invalid_node_id".toList now)
      return (true, ← n.commitProvision transactionId nodeId tokens now)

/-- The part of the configuration handler after a complete, well-formed command.
SOURCE: xiao_mg24_sensor_node.ino:335-367 -/
def commitConfiguration (n : Node) (transactionId : Text) (tokens : SettingTokens)
    (now : UInt32) : NvmProgram Node := do
  let (existingStatus, _) ← identityLoad {}
  if existingStatus ≠ .ok ∧ existingStatus ≠ .recoveredFromPrevious then
    return n.commandResult false "identity_unassigned".toList now
  match stagedConfiguration tokens with
  | none => return n.commandResult false "invalid_configuration".toList now
  | some staged =>
    let (stored, verified) ← configurationWrite staged {}
    if stored ≠ .ok then return n.commandResult false (storeStatusName stored) now
    let n := n.adoptConfiguration verified
    return n.reportProvisioningState transactionId "configured".toList

/-- SOURCE: xiao_mg24_sensor_node.ino:321-369 -/
def handleConfigurationTransaction (n : Node) (command : Text) (now : UInt32) :
    NvmProgram (Bool × Node) := do
  if n.factoryResetController.busy || n.bootstrapOnly then
    return (true, n.commandResult false "bootstrap_only".toList now)
  if !"CFGSET ".toList.isPrefixOf command then return (false, n)
  match configurationHeader command with
  | none => return (true, n.commandResult false "invalid_configuration_header".toList now)
  | some (transactionId, tokens) =>
    return (true, ← n.commitConfiguration transactionId tokens now)

/-- The settings after a field update, if it is a safe one, and the sample interval it sets.
SOURCE: xiao_mg24_sensor_node.ino:386-396 -/
def updatedField (n : Node) (field value : Text) : Option Node :=
  let c := n.microphoneRuntimeConfig
  let set (c : ChannelConfig) : Option Node := some { n with microphoneRuntimeConfig := c }
  let sample := if field = "SAMPLE".toList then parseBoundedUint value 10 5000 else none
  let process := if field = "PROCESS".toList then parseBoundedUint value 10 5000 else none
  let report := if field = "REPORT".toList then parseBoundedUint value 50 5000 else none
  let heartbeat := if field = "HEARTBEAT".toList then parseBoundedUint value 1000 3600000 else none
  let isFilter := field = "FILTER".toList
  match sample, process, report, heartbeat with
  | some numeric, _, _, _ => set { c with sampleIntervalMs := numeric }
  | _, some numeric, _, _ => set { c with processingIntervalMs := numeric }
  | _, _, some numeric, _ =>
    some { n with
      microphoneRuntimeConfig := { c with reportIntervalMs := numeric }, sampleIntervalMs := numeric }
  | _, _, _, some numeric => set { c with heartbeatIntervalMs := numeric }
  | _, _, _, _ =>
    if isFilter ∧ value = "NONE".toList then set { c with filterType := FilterType.none }
    else if isFilter ∧ value = "MOVING_AVERAGE".toList then
      set { c with filterType := FilterType.movingAverage }
    else if isFilter ∧ value = "EXPONENTIAL".toList then
      set { c with filterType := FilterType.exponential }
    else if isFilter ∧ value = "MEDIAN".toList then set { c with filterType := FilterType.median }
    else if field = "ENABLE".toList ∧ (value = "0".toList ∨ value = "1".toList) then
      set { c with enabled := value = "1".toList }
    else none

/-- The end of the field handler: the settings are stored, and the answer says whether they were.
SOURCE: xiao_mg24_sensor_node.ino:397-400 -/
def storeField (n : Node) (now : UInt32) : NvmProgram Node := do
  let (stored, _) ← configurationWrite n.currentStoredConfiguration {}
  return n.commandResult (stored = .ok)
    (if stored = .ok then "applied_persistent".toList else storeStatusName stored) now

/-- SOURCE: xiao_mg24_sensor_node.ino:382-385 -/
def restoreDefaults (n : Node) (now : UInt32) : Node :=
  let n := { n with
    microphoneRuntimeConfig := MICROPHONE_CHANNEL_CONFIG
    sampleIntervalMs := MICROPHONE_CHANNEL_CONFIG.reportIntervalMs }
  n.commandResult true "restored".toList now

/-- SOURCE: xiao_mg24_sensor_node.ino:371-402 -/
def handleConfigCommand (n : Node) (command : Text) (now : UInt32) : NvmProgram (Bool × Node) := do
  if !"CFG ".toList.isPrefixOf command then return (false, n)
  match configFields command with
  | none => return (true, n.commandResult false "invalid_format".toList now)
  | some ⟨version, channel, field, value⟩ =>
    if version ≠ "1".toList then
      return (true, n.commandResult false "unsupported_version".toList now)
    if channel ≠ "MICROPHONE_RAW".toList then
      return (true, n.commandResult false "unknown_channel".toList now)
    if field = "RESTORE".toList ∧ value.length = 0 then return (true, n.restoreDefaults now)
    match n.updatedField field value with
    | none => return (true, n.commandResult false "invalid_or_unsafe_setting".toList now)
    | some n => return (true, ← n.storeField now)

/-- SOURCE: xiao_mg24_sensor_node.ino:431-460 -/
def handleOtherCommand (n : Node) (command : Text) (now : UInt32) : Node :=
  if command = "LED ON".toList then { n with ledBrightness := 255 }
  else if command = "LED OFF".toList then { n with ledBrightness := 0 }
  else if "LED ".toList.isPrefixOf command then
    match parseBoundedUint (Text.substring command 4 command.length) 0 255 with
    | some value => { n with ledBrightness := value.toNat }
    | none => n.commandResult false "invalid_led_value".toList now
  else if "RATE ".toList.isPrefixOf command then
    match parseBoundedUint (Text.substring command 5 command.length) 50 5000 with
    | some value =>
      { n with
        sampleIntervalMs := value
        microphoneRuntimeConfig := { n.microphoneRuntimeConfig with reportIntervalMs := value } }
    | none => n.commandResult false "invalid_rate".toList now
  else if command = "BLE START".toList then { n with bleEnabled := true }
  else if command = "BLE STOP".toList then { n with bleEnabled := false }
  else if command = "PING".toList then
    { n with serialLines := n.serialLines ++ ["\x7b\"type\":\"pong\"\x7d".toList] }
  else n.commandResult false "unknown_command".toList now

/-- SOURCE: xiao_mg24_sensor_node.ino:404-461 -/
def handleCommand (n : Node) (command : Text) (now : UInt32) : NvmProgram Node := do
  let command := Text.trim command
  if kBootstrapPrefix.isPrefixOf command then
    return n.commandResult false "usb_only_command".toList now
  let command := Text.toUpperAscii command
  if n.bootstrapOnly && !"PROV ".toList.isPrefixOf command &&
      !"PROVGET ".toList.isPrefixOf command then
    return n.commandResult false "bootstrap_only".toList now
  let (handled, n) ← n.handleProvisionCommand command now
  if handled then return n
  let (handled, n) ← n.handleConfigurationTransaction command now
  if handled then return n
  if command = "VIBRATION STATUS".toList ∨ command = "VIBRATION_STATUS".toList then return n
  if command = "CFGGET 1 MICROPHONE_RAW".toList then return n.reportRuntimeConfiguration now
  let (handled, n) ← n.handleConfigCommand command now
  if handled then return n
  return n.handleOtherCommand command now

/-- `sizeof(pending_ble_command)`. -/
def pendingBleCommandSize : ℕ := 192

/-- A value written to the command characteristic while no command is pending, up to the end of
the loop's next pass: what does not fit the buffer is ignored, the rest is read as a C string.
SOURCE: xiao_mg24_sensor_node.ino:682-691, 963-971 -/
def writeCommand (n : Node) (value : Text) (now : UInt32) : NvmProgram Node :=
  if value.length ≥ pendingBleCommandSize then return n
  else n.handleCommand (Text.cString value) now

/-- What the loop does after its commands.
SOURCE: xiao_mg24_sensor_node.ino:1005 -/
def afterCommands (n : Node) : Node :=
  if n.factoryResetController.busy then { n with bootstrapOnly := true } else n

end Node

end SeedMg24.Model
