import SeedMg24.Model.Commands

/-!
# The bootstrap protocol on the node

The USB bootstrap protocol of `usb_bootstrap.cpp`, and the loop of `xiao_mg24_sensor_node.ino` that
collects its lines.  A line is a text, one character a byte.  A handler returns what it prints and
the reset controller after it.
-/

set_option autoImplicit false

namespace SeedMg24.Model

open Foundation

/-- SOURCE: usb_bootstrap.h:8-9 -/
def kBootstrapMaxLine : ℕ := 768
def kBootstrapMaxRequestId : ℕ := 40

/-! ## Collecting lines -/

/-- The part of a line received so far, and whether it was too long.
SOURCE: xiao_mg24_sensor_node.ino:973-975 -/
structure SerialReceiver where
  line : Text := []
  overflow : Bool := false
deriving DecidableEq, Repr

/-- What the end of a line makes the loop do. -/
inductive SerialEvent where
  /-- call `handle_line` with the line -/
  | handleLine (line : Text)
  /-- answer that the line was too long -/
  | lineTooLarge
deriving DecidableEq, Repr

/-- One character of the serial loop.
SOURCE: xiao_mg24_sensor_node.ino:976-1003 -/
def SerialReceiver.receive (s : SerialReceiver) (c : Char) : SerialReceiver × Option SerialEvent :=
  let s := if c = 'M' ∧ s.line.length > 0 then {} else s
  if c = '\r' then (s, none)
  else if c = '\n' then
    ({}, if !s.overflow ∧ s.line.length ≠ 0 then some (.handleLine s.line)
      else if s.overflow then some .lineTooLarge else none)
  else if s.line.length < kBootstrapMaxLine then ({ s with line := s.line ++ [c] }, none)
  else ({ s with overflow := true }, none)

/-- The loop over what was received. -/
def SerialReceiver.receiveAll (s : SerialReceiver) : Text → SerialReceiver × List SerialEvent
  | [] => (s, [])
  | c :: input =>
    let (s, event) := s.receive c
    let (s, events) := s.receiveAll input
    (s, event.toList ++ events)

/-- The lines `handle_line` is called with, in order, while some input is received after a boot. -/
def linesHandled (input : Text) : List Text :=
  (SerialReceiver.receiveAll {} input).2.filterMap fun event => match event with
    | .handleLine line => some line
    | .lineTooLarge => none

/-! ## Fields of a request -/

/-- The text up to the closing quote, if it fits a buffer that already holds `n` characters.
SOURCE: usb_bootstrap.cpp:19 -/
def copyString (capacity : ℕ) (n : ℕ) : Text → Option Text
  | [] => none
  | c :: p =>
    if c = '"' then some []
    else if c = '\\' ∨ c.toNat < 0x20 ∨ n + 1 ≥ capacity then none
    else (copyString capacity (n + 1) p).map (c :: ·)

/-- `sizeof(needle)`. -/
def needleSize : ℕ := 48

/-- SOURCE: usb_bootstrap.cpp:17-20 -/
def jsonString (json field : Text) (capacity : ℕ) : Option Text :=
  let needle := Text.snprintf needleSize ("\"".toList ++ field ++ "\":\"".toList)
  match Text.strstr needle json with
  | none => none
  | some p => copyString capacity 0 (p.drop needle.length)

/-- The digits at the start of a text, read into 32 bits.
SOURCE: usb_bootstrap.cpp:22 -/
def readDigits (v : UInt32) : Text → Option UInt32
  | [] => some v
  | c :: p =>
    if c.isDigit then
      let d := UInt32.ofNat (c.toNat - '0'.toNat)
      if v > (0xFFFFFFFF - d) / 10 then none else readDigits (v * 10 + d) p
    else some v

/-- SOURCE: usb_bootstrap.cpp:21-23 -/
def jsonUint (json field : Text) : Option UInt32 :=
  let needle := Text.snprintf needleSize ("\"".toList ++ field ++ "\":".toList)
  match Text.strstr needle json with
  | none => none
  | some p =>
    match p.drop needle.length with
    | [] => none
    | c :: p => if c.isDigit then readDigits 0 (c :: p) else none

/-- The fields every request has.  A confirmation of a reset is sent in a compact form, with short
names. -/
structure RequestHeader where
  compact : Bool
  request : Text
  type : Text
  action : Text
  version : UInt32
deriving DecidableEq, Repr

/-- SOURCE: usb_bootstrap.cpp:31-34 -/
def requestHeader (json : Text) : Option RequestHeader :=
  match jsonString json "id".toList (kBootstrapMaxRequestId + 1) with
  | some request => do
    let type ← jsonString json "t".toList 24
    let action ← jsonString json "a".toList 40
    let version ← jsonUint json "v".toList
    return { compact := true, request, type, action, version }
  | none => do
    let request ← jsonString json "request_id".toList (kBootstrapMaxRequestId + 1)
    let type ← jsonString json "type".toList 24
    let action ← jsonString json "action".toList 40
    let version ← jsonUint json "schema_version".toList
    return { compact := false, request, type, action, version }

/-! ## Responses -/

/-- SOURCE: usb_bootstrap.cpp:25-28 -/
def respond (id action status : Text) (result error : Option Text) : Text :=
  kBootstrapPrefix ++ "\x7b\"type\":\"bootstrap_response\",\"schema_version\":1,\"request_id\":\"".toList ++
    id ++ "\",\"action\":\"".toList ++ action ++ "\",\"status\":\"".toList ++ status ++ "\"".toList ++
    (match error with
      | some error => ",\"error_code\":\"".toList ++ error ++ "\"".toList
      | none => []) ++
    (match result with
      | some result => ",\"result\":".toList ++ result
      | none => []) ++
    "\x7d\r\n".toList

/-- A number in capital hexadecimal digits, of the given width. -/
def hexUpper (width n : ℕ) : Text :=
  (List.range width).reverse.map fun i => (Nat.digitChar (n / 16 ^ i % 16)).toUpper

/-- SOURCE: usb_bootstrap.cpp:10 -/
def hardwareIdText (id : UInt64) : Text :=
  "0x".toList ++ hexUpper 8 (id.toNat / 2 ^ 32) ++ hexUpper 8 (id.toNat % 2 ^ 32)

/-- The values of the default build.
SOURCE: sensor_config.h:9-23 -/
def SENSOR_PACKAGE_VERSION : Text := "0.1.0-dev".toList
def FIRMWARE_VERSION : Text := SENSOR_PACKAGE_VERSION
def PROTOCOL_VERSION : Text := "1.0.0-dev".toList
def CONFIGURATION_SCHEMA_VERSION : ℕ := 1
def BUILD_IDENTIFIER : Text := "development".toList

/-- `sizeof(result)`. -/
def resultSize : ℕ := 700

/-- Whether a store returned something. -/
def isLoaded (status : StoreStatus) : Bool := status = .ok ∨ status = .recoveredFromPrevious

/-- A node id, if one was loaded, as JSON. -/
def nodeIdJson (status : StoreStatus) (nodeId : Text) : Text :=
  if isLoaded status then "\"".toList ++ nodeId ++ "\"".toList else "null".toList

/-- The seven settings of a stored configuration.
SOURCE: usb_bootstrap.cpp:38, 43 -/
def configurationJson (c : StoredChannelConfiguration) : Text :=
  "\"sample_interval_ms\":".toList ++ Text.decimal c.sampleIntervalMs.toNat ++
    ",\"processing_interval_ms\":".toList ++ Text.decimal c.processingIntervalMs.toNat ++
    ",\"report_interval_ms\":".toList ++ Text.decimal c.reportIntervalMs.toNat ++
    ",\"heartbeat_interval_ms\":".toList ++ Text.decimal c.heartbeatIntervalMs.toNat ++
    ",\"filter_type\":".toList ++ Text.decimal c.filterType.toNat ++
    ",\"filter_window\":".toList ++ Text.decimal c.filterWindow.toNat ++
    ",\"enabled\":".toList ++ Text.decimal c.enabled.toNat ++
    ",\"calibration_enabled\":false,\"alarms_enabled\":false,\"unit\":\"adc_count\"\x7d".toList

/-- The result of the three actions that read a node's whole state.
SOURCE: usb_bootstrap.cpp:38-39 -/
def nodeStateJson (hardware : Text) (identityStatus : StoreStatus) (identity : NodeIdentity)
    (configurationStatus : StoreStatus) (configuration : StoredChannelConfiguration) : Text :=
  Text.snprintf resultSize ("\x7b\"hardware_id\":\"".toList ++ hardware ++
    "\",\"provisioning_state\":\"".toList ++
    (if isLoaded identityStatus then "provisioned" else "unprovisioned").toList ++
    "\",\"node_id\":".toList ++ nodeIdJson identityStatus identity.nodeId ++
    ",\"identity_status\":\"".toList ++ storeStatusName identityStatus ++
    "\",\"identity_generation\":".toList ++ Text.decimal identity.generation.toNat ++
    ",\"configuration_status\":\"".toList ++ storeStatusName configurationStatus ++
    "\",\"configuration_generation\":".toList ++ Text.decimal configuration.generation.toNat ++
    ",\"sensor_package_version\":\"".toList ++ SENSOR_PACKAGE_VERSION ++
    "\",\"firmware_version\":\"".toList ++ FIRMWARE_VERSION ++
    "\",\"protocol_version\":\"".toList ++ PROTOCOL_VERSION ++
    "\",\"configuration_schema_version\":".toList ++ Text.decimal CONFIGURATION_SCHEMA_VERSION ++
    ",\"build_identifier\":\"".toList ++ BUILD_IDENTIFIER ++
    "\",\"configuration\":\x7b".toList ++ configurationJson configuration ++ "\x7d".toList)

/-- SOURCE: usb_bootstrap.cpp:41 -/
def identityJson (hardware : Text) (status : StoreStatus) (identity : NodeIdentity) : Text :=
  Text.snprintf resultSize ("\x7b\"hardware_id\":\"".toList ++ hardware ++
    "\",\"identity_status\":\"".toList ++ storeStatusName status ++
    "\",\"node_id\":".toList ++ nodeIdJson status identity.nodeId ++
    ",\"generation\":".toList ++ Text.decimal identity.generation.toNat ++ "\x7d".toList)

/-- SOURCE: usb_bootstrap.cpp:42 -/
def provisionedJson (identity : NodeIdentity) : Text :=
  Text.snprintf resultSize ("\x7b\"node_id\":\"".toList ++ identity.nodeId ++
    "\",\"generation\":".toList ++ Text.decimal identity.generation.toNat ++
    ",\"verified\":true\x7d".toList)

/-- SOURCE: usb_bootstrap.cpp:43 -/
def storedConfigurationJson (status : StoreStatus) (c : StoredChannelConfiguration) : Text :=
  Text.snprintf resultSize ("\x7b\"configuration_status\":\"".toList ++ storeStatusName status ++
    "\",\"generation\":".toList ++ Text.decimal c.generation.toNat ++ ",".toList ++
    configurationJson c)

/-- SOURCE: usb_bootstrap.cpp:44 -/
def restoredJson (c : StoredChannelConfiguration) : Text :=
  Text.snprintf resultSize ("\x7b\"generation\":".toList ++ Text.decimal c.generation.toNat ++
    ",\"verified\":true\x7d".toList)

/-- SOURCE: usb_bootstrap.cpp:45 -/
def preparedJson (hardware : Text) (challenge : ResetChallenge) : Text :=
  Text.snprintf resultSize
    ("\x7b\"reset_protocol_version\":2,\"scope\":\"application_factory\",\"hardware_id\":\"".toList ++
      hardware ++ "\",\"operation_id\":\"".toList ++ challenge.operationId ++
      "\",\"challenge\":\"".toList ++ challenge.challenge ++
      "\",\"expires_in_ms\":60000,\"identity_preserved\":false,".toList ++
      "\"reboot_required_after_confirm\":true\x7d".toList)

/-- SOURCE: usb_bootstrap.cpp:46 -/
def confirmedJson (hardware operation : Text) (result : ResetResult) : Text :=
  Text.snprintf resultSize
    ("\x7b\"reset_protocol_version\":2,\"scope\":\"application_factory\",\"hardware_id\":\"".toList ++
      hardware ++ "\",\"operation_id\":\"".toList ++ operation ++
      "\",\"stage\":\"keys_cleared\",\"deleted_count\":".toList ++
      Text.decimal result.deletedCount ++
      ",\"verified\":true,\"reboot_required\":true\x7d".toList)

/-! ## Requests -/

/-- What a request meets on the device besides its stores: the id of the hardware, and the bytes
`secure_hex` finds for an operation id and for a challenge.
SOURCE: usb_bootstrap.cpp:10-15 -/
structure BootstrapDevice where
  hardware : UInt64
  operation : Option (Fin 16 → UInt8)
  challenge : Option (Fin 16 → UInt8)

/-- SOURCE: usb_bootstrap.cpp:14 -/
def secureHex (bytes : Fin 16 → UInt8) : Text :=
  (List.ofFn bytes).flatMap fun byte => hexUpper 2 byte.toNat

namespace RequestHeader

/-- The answer of an action that succeeds. -/
def success (h : RequestHeader) (result : Text) : Text :=
  respond h.request h.action "success".toList (some result) none

/-- The answer of an action that fails. -/
def failure (h : RequestHeader) (error : Text) : Text :=
  respond h.request h.action "error".toList none (some error)

end RequestHeader

/-- SOURCE: usb_bootstrap.cpp:42 -/
def provisionIdentity (h : RequestHeader) (c : FactoryResetController) (json : Text) :
    NvmProgram Text := do
  if c.busy then return h.failure "persistent_operation_busy".toList
  match jsonString json "node_id".toList (kNodeIdMaxLength + 1) with
  | none => return h.failure "invalid_node_id".toList
  | some node =>
    let (status, identity) ← identityProvision node {}
    if status ≠ .ok then
      return h.failure (if status = .invalidArgument then
        "identity_already_provisioned_or_invalid".toList else storeStatusName status)
    return h.success (provisionedJson identity)

/-- The configuration to restore, when every setting is a number.
SOURCE: usb_bootstrap.cpp:44 -/
def proposedConfiguration (json : Text) : Option StoredChannelConfiguration := do
  let sample ← jsonUint json "sample_interval_ms".toList
  let process ← jsonUint json "processing_interval_ms".toList
  let report ← jsonUint json "report_interval_ms".toList
  let heartbeat ← jsonUint json "heartbeat_interval_ms".toList
  let filter ← jsonUint json "filter_type".toList
  let window ← jsonUint json "filter_window".toList
  let enabled ← jsonUint json "enabled".toList
  return {
    sampleIntervalMs := sample
    processingIntervalMs := process
    reportIntervalMs := report
    heartbeatIntervalMs := heartbeat
    filterType := filter.toUInt8
    filterWindow := window.toUInt8
    enabled := enabled.toUInt8 }

/-- SOURCE: usb_bootstrap.cpp:44 -/
def restoreConfiguration (h : RequestHeader) (c : FactoryResetController) (json : Text) :
    NvmProgram Text := do
  if c.busy then return h.failure "persistent_operation_busy".toList
  match proposedConfiguration json with
  | none => return h.failure "invalid_configuration".toList
  | some proposed =>
    let (status, configuration) ← configurationWrite proposed {}
    if status ≠ .ok then return h.failure (storeStatusName status)
    return h.success (restoredJson configuration)

/-- The hardware a reset is prepared for, if the request is one of the second protocol.
SOURCE: usb_bootstrap.cpp:45 -/
def resetTarget (json : Text) : Option Text := do
  let version ← jsonUint json "reset_protocol_version".toList
  if version ≠ 2 then none
  let scope ← jsonString json "scope".toList 32
  let expected ← jsonString json "expected_hardware_id".toList 19
  if scope ≠ "application_factory".toList then none
  return expected

/-- SOURCE: usb_bootstrap.cpp:45 -/
def prepareFactoryReset (d : BootstrapDevice) (h : RequestHeader) (c : FactoryResetController)
    (json : Text) (now : UInt32) : Text × FactoryResetController :=
  let hardware := hardwareIdText d.hardware
  let c := c.cancel
  match resetTarget json with
  | none => (h.failure "secure_reset_v2_required".toList, c)
  | some expected =>
    if expected ≠ hardware then (h.failure "hardware_identity_mismatch".toList, c)
    else match d.operation, d.challenge with
      | some operation, some challenge =>
        let (status, c) := c.prepare .applicationFactory hardware expected (secureHex operation)
          (secureHex challenge) now 60000
        if status ≠ .ok then (h.failure (storeStatusName status), c)
        else (h.success (preparedJson hardware c.challenge), c)
      | _, _ => (h.failure "secure_random_unavailable".toList, c)

/-- The hardware, the operation and the challenge a reset is confirmed with, under the short names
of the compact form or the long ones.
SOURCE: usb_bootstrap.cpp:46 -/
def resetConfirmation (compact : Bool) (json : Text) : Option (Text × Text × Text) := do
  let version ← jsonUint json (if compact then "rv" else "reset_protocol_version").toList
  if version ≠ 2 then none
  let scope ← jsonString json (if compact then "s" else "scope").toList 32
  let expected ← jsonString json (if compact then "h" else "expected_hardware_id").toList 19
  let operation ← jsonString json (if compact then "op" else "operation_id").toList 33
  let challenge ← jsonString json (if compact then "c" else "challenge").toList 33
  if scope ≠ "application_factory".toList then none
  return (expected, operation, challenge)

/-- SOURCE: usb_bootstrap.cpp:46 -/
def confirmFactoryReset (d : BootstrapDevice) (h : RequestHeader) (c : FactoryResetController)
    (json : Text) (now : UInt32) : NvmProgram (Text × FactoryResetController) := do
  match resetConfirmation h.compact json with
  | none => return (h.failure "invalid_confirmation".toList, c.cancel)
  | some (expected, operation, challenge) =>
    let (result, c) ← c.confirm .applicationFactory expected operation challenge now
    if result.status ≠ .ok then return (h.failure (storeStatusName result.status), c)
    return (h.success (confirmedJson (hardwareIdText d.hardware) operation result), c)

/-- The three actions that read a node's whole state.
SOURCE: usb_bootstrap.cpp:37 -/
def stateActions : List Text :=
  ["read_node_state".toList, "backup_state".toList, "verify_state".toList]

/-- SOURCE: usb_bootstrap.cpp:36-48 -/
def handleAction (d : BootstrapDevice) (h : RequestHeader) (c : FactoryResetController)
    (json : Text) (now : UInt32) : NvmProgram (Text × FactoryResetController) := do
  let hardware := hardwareIdText d.hardware
  if h.action ∈ stateActions then
    let (identityStatus, identity) ← identityLoad {}
    let (configurationStatus, configuration) ← configurationLoad {}
    return (h.success
      (nodeStateJson hardware identityStatus identity configurationStatus configuration), c)
  else if h.action = "read_identity".toList then
    let (status, identity) ← identityLoad {}
    return (h.success (identityJson hardware status identity), c)
  else if h.action = "provision_identity".toList then
    return (← provisionIdentity h c json, c)
  else if h.action = "read_configuration".toList then
    let (status, configuration) ← configurationLoad {}
    return (h.success (storedConfigurationJson status configuration), c)
  else if h.action = "restore_configuration".toList then
    return (← restoreConfiguration h c json, c)
  else if h.action = "prepare_factory_reset".toList then
    return prepareFactoryReset d h c json now
  else if h.action = "confirm_factory_reset".toList then
    confirmFactoryReset d h c json now
  else if h.action = "cancel_factory_reset".toList then
    return (h.success "\x7b\"cancelled\":true\x7d".toList, c.cancel)
  else return (h.failure "unknown_action".toList, c)

/-- `UsbBootstrapProtocol::handle_line`: what it prints and the controller after it, or nothing if
the line is no bootstrap request.
SOURCE: usb_bootstrap.cpp:30-49 -/
def handleLine (d : BootstrapDevice) (c : FactoryResetController) (line : Text) (now : UInt32) :
    NvmProgram (Option (Text × FactoryResetController)) := do
  let line := Text.cString line
  if !kBootstrapPrefix.isPrefixOf line then return none
  let json := line.drop kBootstrapPrefix.length
  match requestHeader json with
  | none =>
    return some (respond "unknown".toList "unknown".toList "error".toList none
      (some "malformed_request".toList), c)
  | some h =>
    if h.type ≠ "bootstrap_request".toList ∨ h.version ≠ 1 then
      return some (h.failure "unsupported_schema_version".toList, c)
    return some (← handleAction d h c json now)

end SeedMg24.Model
