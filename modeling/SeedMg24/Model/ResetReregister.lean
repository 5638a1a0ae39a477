import SeedMg24.Model.UsbFactoryReset

/-!
# The reset-and-re-register workflow

The endpoints of `api/reset_reregister.py` over the rows of `services/reset_reregister_workflow.py`.
A call runs from one `await` to the next in one event; after an `await` it goes on with the copy of
the row it has read before, and writes the columns it has changed.  What the sensor, the device
table and the other services answer comes with each event.
-/

set_option autoImplicit false

namespace SeedMg24.Model

open Foundation

/-! ## The rows -/

/-- SOURCE: reset_reregister_workflow.py:17-23 -/
inductive WorkflowState where
  | sensorSelected
  | usbConnectionRequired
  | physicalIdentityVerified
  | configurationBackupReady
  | resetConfirmationRequired
  | resetInProgress
  | waitingForUsbReenumeration
  | postResetVerification
  | unprovisionedReadyForRegistration
  | registrationDetailsRequired
  | searchingForResetSensorBle
  | bleIdentityMatched
  | provisioningInProgress
  | gatewayRegistrationInProgress
  | networkVerificationInProgress
  | complete
  | recoverableError
  | manualRecoveryRequired
deriving DecidableEq, Repr

/-- SOURCE: reset_reregister_workflow.py:11-14 -/
structure WorkflowError where
  code : Text
  message : Text
deriving DecidableEq, Repr

/-- The read-back after a reset, as it is recorded.
SOURCE: reset_reregister.py:318-321, 390-393 -/
structure PostReset where
  hardwareId : Text
  firmwareVersion : Option Text
  unprovisioned : Bool
  resetMarkerComplete : Bool
  telemetryDisabled : Bool
  bootstrapAvailable : Bool
deriving DecidableEq, Repr

/-- The members of `result_json` the workflow works with. -/
structure WorkflowResult where
  postReset : Option PostReset := none
  sensorProvisioned : Bool := false
  registeredRecordId : Option ℕ := none
  gatewayRegistrationActive : Bool := false
deriving DecidableEq, Repr

/-- SOURCE: reset_reregister.py:64 -/
inductive RegistrationChoice where
  | restore
  | new
deriving DecidableEq, Repr

/-- A row of `sensor_reregistration_workflows`, with configurations of type `κ`.
SOURCE: models.py:138-165 -/
structure Workflow (κ : Type) where
  sourceRecordId : ℕ
  sourceDeviceId : Text
  sourceDisplayName : Text
  hardwareId : Text
  state : WorkflowState
  selectedPort : Option Text := none
  resetOperationId : Option ℕ := none
  backupComplete : Bool := false
  registrationChoice : Option RegistrationChoice := none
  targetDeviceId : Option Text := none
  targetDisplayName : Option Text := none
  targetLocation : Option Text := none
  targetBleAddress : Option Text := none
  configuration : Option κ := none
  progress : List Text := []
  result : WorkflowResult := {}
  errorCode : Option Text := none
  errorMessage : Option Text := none
deriving DecidableEq, Repr

namespace Workflow

variable {κ : Type}

/-- SOURCE: reset_reregister_workflow.py:56-66 -/
def transition (item : Workflow κ) (state : WorkflowState) (progress : Text)
    (error : Option WorkflowError := none) : Workflow κ :=
  let entries := if item.progress.getLast? = some progress then item.progress
    else item.progress ++ [progress]
  { item with
    progress := entries.drop (entries.length - 40)
    state := state
    errorCode := error.map (·.code)
    errorMessage := error.map (·.message) }

/-- A commit after an `await`: the columns that differ from what the session has loaded are written
into the row.  These are the columns such a commit can change. -/
def flush (loaded item row : Workflow κ) : Workflow κ :=
  { row with
    state := if item.state = loaded.state then row.state else item.state
    targetBleAddress := if item.targetBleAddress = loaded.targetBleAddress then row.targetBleAddress
      else item.targetBleAddress
    progress := if item.progress = loaded.progress then row.progress else item.progress
    result := if item.result = loaded.result then row.result else item.result
    errorCode := if item.errorCode = loaded.errorCode then row.errorCode else item.errorCode
    errorMessage := if item.errorMessage = loaded.errorMessage then row.errorMessage
      else item.errorMessage }

end Workflow

/-! ## What the calls bring and find -/

/-- What the workflow reads of a row of `registered_devices`. -/
structure DeviceRecord where
  recordId : ℕ
  deviceId : Text
  displayName : Text
  hardwareId : Option Text
  archived : Bool := false
  enabled : Bool := true
  connected : Bool := false
deriving DecidableEq, Repr

/-- SOURCE: reset_reregister.py:50-52 -/
structure UsbSelection where
  port : Text
  expectedHardwareId : Text
deriving DecidableEq, Repr

/-- SOURCE: reset_reregister.py:59-60 -/
structure ConfirmReset extends UsbSelection where
  typedHardwareId : Text
deriving DecidableEq, Repr

/-- SOURCE: reset_reregister.py:63-68 -/
structure RegistrationRequest (κ : Type) where
  choice : RegistrationChoice
  deviceId : Text
  displayName : Text
  location : Option Text
  configuration : κ
deriving DecidableEq, Repr

/-- What a sensor shows over BLE before it is provisioned; `supported` is about its protocol
version. -/
structure OnboardingReading where
  supported : Bool
  identity : Option Text
deriving DecidableEq, Repr

/-- A discovery of a scan, and what reading its identity leads to. -/
structure BleCandidate where
  address : Text
  compatible : Bool
  reading : Option OnboardingReading
deriving DecidableEq, Repr

/-- What the node provisioner leads to. -/
inductive ProvisionerOutcome where
  /-- the id in the read-back; `duplicate` is the message when the event of the provisioning exists
  already -/
  | readback (id : Option Text) (duplicate : Option Text)
  /-- a `BleProvisioningError` -/
  | refused (message : Text)
  /-- an exception the endpoint does not expect -/
  | raises
deriving DecidableEq, Repr

/-- What the registration with the gateway leads to. -/
inductive RegistrationOutcome where
  | registered (recordId : ℕ)
  /-- a `DeviceValidationError`, a `DuplicateDeviceError` or an `IntegrityError` -/
  | refused (message : Text)
  /-- an exception the endpoint does not expect, such as a `LifecycleError` -/
  | raises
deriving DecidableEq, Repr

namespace Workflow

variable {κ : Type}

/-! ## Before the reset -/

/-- SOURCE: reset_reregister.py:167-187 -/
def selectUsb (item : Workflow κ) (body : UsbSelection) (inspection : Except Text SensorState) :
    Except WorkflowError (Workflow κ) :=
  if body.expectedHardwareId ≠ item.hardwareId then
    .error ⟨"hardware_identity_mismatch".toList,
      "Selected gateway and physical identities do not match.".toList⟩
  else match inspection with
    | .error message => .error ⟨"usb_inspection_failed".toList, message⟩
    | .ok state =>
      if state.hardwareId ≠ some item.hardwareId then
        .error ⟨"hardware_identity_mismatch".toList,
          "The sensor on this USB port is not the selected sensor.".toList⟩
      else .ok ({ item with selectedPort := some body.port }.transition .physicalIdentityVerified
        "Immutable USB hardware identity verified".toList)

/-- SOURCE: reset_reregister.py:190-205; reset_reregister_workflow.py:85-101 -/
def backup (item : Workflow κ) (inspection : Except Text SensorState) :
    Except WorkflowError (Workflow κ) :=
  if item.selectedPort.getD [] = [] then
    .error ⟨"usb_not_verified".toList, "Verify the USB-connected sensor first.".toList⟩
  else match inspection with
    | .error message => .error ⟨"backup_failed".toList, message⟩
    | .ok state =>
      if state.hardwareId ≠ some item.hardwareId then
        .error ⟨"hardware_identity_mismatch".toList, "USB identity changed before backup.".toList⟩
      else .ok ({ item with backupComplete := true }.transition .configurationBackupReady
        "Application configuration backup verified".toList)

/-- SOURCE: reset_reregister.py:208-231 -/
def prepareReset (item : Workflow κ) (usb : UsbFactoryReset) (body : ConfirmReset)
    (inspection : Except Text SensorState) (now : ℕ) :
    Except WorkflowError (Workflow κ × UsbFactoryReset × ℕ) :=
  if !item.backupComplete then
    .error ⟨"backup_required".toList,
      "A verified application configuration backup is required.".toList⟩
  else if body.expectedHardwareId ≠ item.hardwareId ∨ body.typedHardwareId ≠ item.hardwareId then
    .error ⟨"hardware_identity_mismatch".toList, "Type the exact immutable hardware ID.".toList⟩
  else if some body.port ≠ item.selectedPort then
    .error ⟨"usb_port_mismatch".toList,
      "The confirmed USB port changed; detect the sensor again.".toList⟩
  else match usb.prepare item.sourceRecordId item.sourceDeviceId item.hardwareId body.port inspection
      now with
    | .error message => .error ⟨"reset_prepare_failed".toList, message⟩
    | .ok (usb, token) => .ok (item.transition .resetConfirmationRequired
        "Device-bound reset confirmation prepared".toList, usb, token)

/-- Whether a confirmation is for this row.
SOURCE: reset_reregister.py:242-243, 267-268 -/
def confirmedBy (item : Workflow κ) (body : ConfirmReset) : Bool :=
  body.expectedHardwareId = item.hardwareId && body.typedHardwareId = item.hardwareId &&
    some body.port = item.selectedPort

/-- The failure of a confirmation. -/
def invalidConfirmation : WorkflowError :=
  ⟨"invalid_confirmation".toList,
    "Reset confirmation is missing, expired, used, or mismatched.".toList⟩

/-- The failure of a confirmation the USB service does not accept.
SOURCE: usb_factory_reset.py:96, 103 -/
def refusedConfirmation : Text :=
  "factory-reset confirmation is missing, expired, reused, or mismatched".toList

/-- A reset with the token of the operation: the USB service in any case, and the row with the id
of the reset.
SOURCE: reset_reregister.py:240-256 -/
def executeReset (item : Workflow κ) (usb : UsbFactoryReset) (token : Option ℕ)
    (body : ConfirmReset) (now : ℕ) :
    UsbFactoryReset × Except WorkflowError (Workflow κ × ℕ) :=
  match token with
  | none => (usb, .error invalidConfirmation)
  | some token =>
    if !item.confirmedBy body then (usb, .error invalidConfirmation)
    else
      let (usb, authorized) := usb.authorize token item.sourceRecordId item.sourceDeviceId
        item.hardwareId body.port now
      if !authorized then (usb, .error ⟨"reset_execution_failed".toList, refusedConfirmation⟩)
      else match usb.launch item.sourceRecordId item.sourceDeviceId item.hardwareId body.port with
        | .error message => (usb, .error ⟨"reset_execution_failed".toList, message⟩)
        | .ok (usb, reset) =>
          (usb, .ok ({ item with resetOperationId := some reset }.transition .resetInProgress
            "Factory reset accepted by the USB service".toList, reset))

/-- SOURCE: reset_reregister.py:265-275 -/
def cancelReset (item : Workflow κ) (usb : UsbFactoryReset) (token : Option ℕ)
    (body : ConfirmReset) : UsbFactoryReset × Except WorkflowError (Workflow κ) :=
  match token with
  | none => (usb, .error invalidConfirmation)
  | some token =>
    if !item.confirmedBy body then (usb, .error invalidConfirmation)
    else
      let (usb, cancelled) := usb.cancel token item.sourceRecordId item.sourceDeviceId
        item.hardwareId body.port
      if !cancelled then (usb, .error ⟨"cancel_failed".toList, refusedConfirmation⟩)
      else (usb, .ok (item.transition .configurationBackupReady
        "Prepared reset was cancelled safely".toList))

/-! ## The reset -/

/-- SOURCE: reset_reregister.py:282 -/
def monitoredState (reset : UsbResetOperation) : WorkflowState :=
  if reset.state = .rebooting then .waitingForUsbReenumeration else .resetInProgress

/-- What the monitor reports while a reset runs.
SOURCE: reset_reregister.py:284-290 -/
def monitored (item : Workflow κ) (reset : UsbResetOperation) : Workflow κ :=
  item.transition (monitoredState reset)
    (match reset.state with
      | .queued => "Preparing reset".toList
      | .preparing => "Writing recovery marker and clearing application configuration".toList
      | .rebooting => "Waiting for USB reboot and re-enumeration".toList
      | _ => "Factory reset is in progress".toList)

/-- SOURCE: reset_reregister.py:296-306 -/
def resetFailed (item : Workflow κ) (reset : UsbResetOperation) : Workflow κ :=
  let message := if reset.error.getD [] = [] then "Physical reset did not complete.".toList
    else reset.error.getD []
  if reset.resetCommandAccepted then
    item.transition .recoverableError
      "Reset accepted; reconnect USB and reconcile read-only".toList
      (some ⟨"usb_reenumeration_timeout".toList, message⟩)
  else
    item.transition .recoverableError "Factory reset failed".toList
      (some ⟨"reset_failed".toList, message⟩)

/-- SOURCE: reset_reregister.py:307 -/
def verifying (item : Workflow κ) : Workflow κ :=
  item.transition .postResetVerification "Verifying factory-default state after reboot".toList

/-- SOURCE: reset_reregister.py:325-327 -/
def cleanupFailed (item : Workflow κ) (message : Text) : Workflow κ :=
  item.transition .recoverableError "Physical reset verified; gateway cleanup failed".toList
    (some ⟨"gateway_cleanup_failed".toList, message.take 500⟩)

/-- SOURCE: reset_reregister.py:317-324 -/
def resetVerified (item : Workflow κ) (reset : UsbResetOperation) : Workflow κ :=
  let postReset : PostReset :=
    { hardwareId := reset.hardwareId
      firmwareVersion := reset.postReset.bind (·.firmwareVersion)
      unprovisioned := true
      resetMarkerComplete := true
      telemetryDisabled := true
      bootstrapAvailable := true }
  { item with result := { item.result with postReset := some postReset } }.transition
    .unprovisionedReadyForRegistration "Post-reboot unprovisioned state verified".toList

/-- A sensor that kept its identity: the reset was not applied.
SOURCE: reset_reregister.py:351-355 -/
def resetNotApplied (item : Workflow κ) (state : SensorState) : Bool :=
  state.nodeId = some item.sourceDeviceId && state.identityStatus = some "ok".toList &&
    state.provisioningState = some "provisioned".toList

/-- A sensor as it comes out of its box.
SOURCE: reset_reregister.py:375-379 -/
def outOfBox (state : SensorState) : Bool :=
  state.nodeId = none && state.identityStatus = some "unprovisioned".toList &&
    (state.resetMarkerState = none || state.resetMarkerState = some "complete".toList ||
      state.resetMarkerState = some "absent".toList) && state.telemetryEnabled ≠ some true

/-- A reconciliation with the sensors that could be inspected: the row, and whether the reset is
verified.
SOURCE: reset_reregister.py:330-400 -/
def reconcileReset (item : Workflow κ) (expectedHardwareId : Text) (states : List SensorState)
    (device : Option DeviceRecord) : Except WorkflowError (Workflow κ × Bool) :=
  if expectedHardwareId ≠ item.hardwareId then
    .error ⟨"hardware_identity_mismatch".toList,
      "Recovery identity does not match this operation.".toList⟩
  else match states.filter (fun state => state.hardwareId = some item.hardwareId) with
    | [state] =>
      if item.resetNotApplied state then
        if device.any fun device => !device.archived && device.hardwareId = some item.hardwareId then
          .ok ({ item with resetOperationId := none }.transition .configurationBackupReady
            "Read-back verified that reset was not applied; explicit retry is safe".toList, false)
        else .error ⟨"gateway_identity_changed".toList,
          "Gateway identity changed during reset reconciliation.".toList⟩
      else if !outOfBox state then
        .error ⟨"post_reset_unverified".toList,
          "Sensor is not yet in the verified out-of-box state.".toList⟩
      else
        let postReset : PostReset :=
          { hardwareId := item.hardwareId
            firmwareVersion := state.firmwareVersion
            unprovisioned := true
            resetMarkerComplete := true
            telemetryDisabled := true
            bootstrapAvailable := state.bootstrapAvailable.getD true }
        .ok ({ item with result := { item.result with postReset := some postReset } }.transition
          .unprovisionedReadyForRegistration
          "Gateway restart recovery verified from physical read-back".toList, true)
    | _ => .error ⟨"usb_recovery_ambiguous".toList,
        "Connect exactly one USB sensor matching this operation.".toList⟩

/-! ## The registration -/

/-- Whether the ids of a registration collide with others: `existing` is the record that has the id
already, and `activeHardware` says whether another active record has the hardware id.
SOURCE: reset_reregister.py:413-425 -/
def collision (item : Workflow κ) (body : RegistrationRequest κ) (existing : Option ℕ)
    (activeHardware : Bool) : Option WorkflowError :=
  if body.choice = .restore ∧
      (body.deviceId ≠ item.sourceDeviceId ∨ body.displayName ≠ item.sourceDisplayName) then
    some ⟨"restore_identity_mismatch".toList,
      "Restore must use the explicitly confirmed prior identity.".toList⟩
  else if body.choice ≠ .restore ∧ existing.any (· ≠ item.sourceRecordId) then
    some ⟨"duplicate_sensor_id".toList, "That sensor ID already belongs to another record.".toList⟩
  else if body.choice = .new ∧ existing.isSome then
    some ⟨"new_identity_requires_new_id".toList,
      "A new registration must use a new unused sensor ID.".toList⟩
  else if activeHardware then
    some ⟨"hardware_identity_collision".toList, "This hardware identity is already active.".toList⟩
  else none

/-- SOURCE: reset_reregister.py:403-438 -/
def registration (item : Workflow κ) (body : RegistrationRequest κ) (existing : Option ℕ)
    (activeHardware : Bool) : Except WorkflowError (Workflow κ) :=
  if item.state ∉ [.unprovisionedReadyForRegistration, .registrationDetailsRequired,
      .recoverableError] then
    .error ⟨"invalid_workflow_state".toList,
      "Physical reset verification must complete first.".toList⟩
  else match item.collision body existing activeHardware with
    | some error => .error error
    | none => .ok ({ item with
        registrationChoice := some body.choice
        targetDeviceId := some body.deviceId
        targetDisplayName := some (Text.strip body.displayName)
        targetLocation := body.location
        configuration := some body.configuration }.transition .searchingForResetSensorBle
          "Registration choice validated".toList)

/-- SOURCE: reset_reregister.py:441-460 -/
def editRegistration (item : Workflow κ) : Except WorkflowError (Workflow κ) :=
  if item.state ∉ [.searchingForResetSensorBle, .bleIdentityMatched] then
    .error ⟨"registration_edit_not_allowed".toList,
      "Registration details can change only before provisioning starts.".toList⟩
  else .ok ({ item with
    registrationChoice := none
    targetDeviceId := none
    targetDisplayName := none
    targetLocation := none
    targetBleAddress := none
    configuration := none }.transition .registrationDetailsRequired
      "Registration details reopened for editing".toList)

/-! ## BLE -/

/-- Whether a candidate is the sensor.
SOURCE: reset_reregister.py:475-508 -/
def matchesIdentity (expected : Text) (candidate : BleCandidate) : Bool :=
  candidate.compatible && candidate.reading.any fun reading =>
    reading.supported && reading.identity = some expected

/-- The end of a scan.
SOURCE: reset_reregister.py:511-519 -/
def scanned (item : Workflow κ) (expected : Text) (candidates : List BleCandidate) : Workflow κ :=
  match candidates.filter (matchesIdentity expected) with
  | [] => item
  | [candidate] => { item with targetBleAddress := some candidate.address }.transition
      .bleIdentityMatched "BLE identity matched the USB-verified sensor".toList
  | _ => item.transition .searchingForResetSensorBle "Duplicate BLE identity claims blocked".toList

/-- The end of a selection by hand.
SOURCE: reset_reregister.py:547-553 -/
def selected (item : Workflow κ) (expected address : Text) (reading : OnboardingReading) :
    Except WorkflowError (Workflow κ) :=
  if !reading.supported then
    .error ⟨"ble_protocol_incompatible".toList,
      "The sensor onboarding identity protocol is incompatible.".toList⟩
  else if reading.identity ≠ some expected then
    .error ⟨"ble_identity_mismatch".toList,
      "Manual selection cannot bypass physical identity mismatch.".toList⟩
  else .ok ({ item with targetBleAddress := some address }.transition .bleIdentityMatched
    "BLE identity matched the USB-verified sensor".toList)

/-! ## The provisioning -/

/-- What a failed provisioning records, on a fresh row.
SOURCE: reset_reregister.py:632-638 -/
def provisionFailed (item : Workflow κ) (message : Text) : Workflow κ :=
  if item.result.sensorProvisioned then
    item.transition .recoverableError
      "Sensor provisioned; gateway registration requires retry".toList
      (some ⟨"gateway_registration_failed".toList, message.take 500⟩)
  else
    item.transition .recoverableError "BLE provisioning requires retry".toList
      (some ⟨"ble_provisioning_failed".toList, message.take 500⟩)

/-- Whether there is something to provision, and where.
SOURCE: reset_reregister.py:564 -/
def provisionable (item : Workflow κ) : Bool :=
  item.targetBleAddress.getD [] ≠ [] && item.configuration.isSome

/-- SOURCE: reset_reregister.py:566 -/
def provisioning (item : Workflow κ) : Workflow κ :=
  item.transition .provisioningInProgress "BLE provisioning started".toList

/-- SOURCE: reset_reregister.py:578-579, 587 -/
def provisioned (item : Workflow κ) : Workflow κ :=
  { item with result := { item.result with sensorProvisioned := true } }.transition
    .gatewayRegistrationInProgress "BLE provisioning read-back verified".toList

/-- SOURCE: reset_reregister.py:624-627 -/
def registered (item : Workflow κ) (recordId : ℕ) : Workflow κ :=
  { item with result := { item.result with
      registeredRecordId := some recordId, gatewayRegistrationActive := true } }.transition
    .networkVerificationInProgress "Gateway registration is active".toList

/-- Whether the provisioning is read back.
SOURCE: reset_reregister.py:576, 587 -/
def readsBack (item : Workflow κ) : ProvisionerOutcome → Bool
  | .readback id duplicate =>
    id = item.targetDeviceId && (item.result.sensorProvisioned || duplicate.isNone)
  | _ => false

/-- The rest of a provisioning after its `await`: `item` is the copy it goes on with, and `row` the
row as it is by then.
SOURCE: reset_reregister.py:576-641 -/
def provisionRest (item row : Workflow κ) (outcome : ProvisionerOutcome)
    (registration : RegistrationOutcome) : Workflow κ :=
  match outcome with
  | .raises => row
  | .refused message => row.provisionFailed message
  | .readback id duplicate =>
    if id ≠ item.targetDeviceId then
      row.provisionFailed "Provisioned identity did not pass read-back.".toList
    else if !item.result.sensorProvisioned && duplicate.isSome then
      row.provisionFailed (duplicate.getD [])
    else
      let row := flush item item.provisioned row
      match registration with
      | .raises => row
      | .refused message => row.provisionFailed message
      | .registered recordId =>
        flush item.provisioned (item.provisioned.registered recordId) row

/-! ## The end -/

/-- Whether the target is registered and active.
SOURCE: reset_reregister.py:651 -/
def isTarget (item : Workflow κ) (device : DeviceRecord) : Bool :=
  !device.archived && device.enabled && device.hardwareId = some item.hardwareId

/-- `device` is the record with the target's id, and `reading` says whether it has a reading since
the start of the operation.
SOURCE: reset_reregister.py:644-667 -/
def verifyNetwork (item : Workflow κ) (device : Option DeviceRecord) (reading : Bool) :
    Except WorkflowError (Workflow κ) :=
  match device.filter item.isTarget with
  | none => .error ⟨"gateway_registration_unverified".toList,
      "Active gateway identity has not been verified.".toList⟩
  | some device =>
    let item := { item with result := { item.result with gatewayRegistrationActive := true } }
    .ok (if device.connected && reading then
        item.transition .complete "First telemetry verified".toList
      else
        item.transition .networkVerificationInProgress
          "Registered—waiting for first telemetry".toList)

end Workflow

/-! ## The calls -/

/-- What the history of an operation is asked about. -/
inductive Milestone where
  /-- the read-back of a sensor that is reset is recorded -/
  | resetVerified
  /-- the read-back of a provisioned sensor succeeds -/
  | provisioned
deriving DecidableEq, Repr

/-- A row, and what was reached within its operation, in order. -/
structure WorkflowOperation (κ : Type) where
  item : Workflow κ
  milestones : List Milestone := []
deriving DecidableEq, Repr

/-- A call that awaits something, with the copy of the row it goes on with. -/
inductive WorkflowTask (κ : Type) where
  /-- `_monitor_reset`, and the state it has reported -/
  | monitoring (operation reset : ℕ) (reported : Option WorkflowState)
  /-- `_monitor_reset`, while the connection of the sensor is removed -/
  | cleaning (operation reset : ℕ) (item : Workflow κ)
  | scanning (operation : ℕ) (item : Workflow κ)
  | selecting (operation : ℕ) (address : Text) (item : Workflow κ)
  | provisioning (operation : ℕ) (item : Workflow κ)
  | done
deriving DecidableEq, Repr

/-- The rows, the resets, the tokens of the operations and the calls that await something. -/
structure ResetReregister (κ : Type) where
  operations : List (WorkflowOperation κ) := []
  usb : UsbFactoryReset := {}
  /-- `app.state.reregister_confirmations` -/
  confirmations : List (ℕ × ℕ) := []
  tasks : List (WorkflowTask κ) := []
deriving DecidableEq, Repr

/-- What happens to the workflow: the calls, and what the calls that wait and the resets get. -/
inductive ReregisterEvent (κ : Type) where
  | start (device : Option DeviceRecord)
  | selectUsb (operation : ℕ) (body : UsbSelection) (reading : Except Text SensorState)
  | backup (operation : ℕ) (reading : Except Text SensorState)
  | prepareReset (operation : ℕ) (body : ConfirmReset) (reading : Except Text SensorState) (now : ℕ)
  | executeReset (operation : ℕ) (body : ConfirmReset) (now : ℕ)
  | cancelReset (operation : ℕ) (body : ConfirmReset)
  | reconcileReset (operation : ℕ) (expectedHardwareId : Text)
      (readings : List (Except Text SensorState)) (device : Option DeviceRecord)
  | registration (operation : ℕ) (body : RegistrationRequest κ) (existing : Option ℕ)
      (activeHardware : Bool)
  | editRegistration (operation : ℕ)
  | scanBle (operation : ℕ)
  | selectBle (operation : ℕ) (address : Text) (compatible : Bool)
  | provision (operation : ℕ)
  | verifyNetwork (operation : ℕ) (device : Option DeviceRecord) (reading : Bool)
  /-- a reset takes its lock and runs up to the reboot -/
  | resetRuns (reset : ℕ) (exchange : ResetExchange)
  /-- a reset reads its sensor back -/
  | resetReadsBack (reset : ℕ) (reading : Option SensorState)
  /-- a monitor looks at its reset; `removal` is what the exception of the removal says -/
  | monitorLooks (task : ℕ) (removal : Option Text)
  /-- the connection is removed, or its removal raises -/
  | connectionRemoved (task : ℕ) (raised : Option Text)
  | scanEnds (task : ℕ) (candidates : List BleCandidate)
  /-- the identity of the selected sensor is read, or reading it raises -/
  | identityRead (task : ℕ) (reading : Option OnboardingReading)
  | provisionerEnds (task : ℕ) (outcome : ProvisionerOutcome) (registration : RegistrationOutcome)

namespace ResetReregister

variable {κ : Type}

/-- Commits a row, with what it has reached. -/
def commit (s : ResetReregister κ) (id : ℕ) (item : Workflow κ) (reached : List Milestone) :
    ResetReregister κ :=
  { s with operations := s.operations.modify id fun operation =>
      ⟨item, operation.milestones ++ reached⟩ }

def startTask (s : ResetReregister κ) (t : WorkflowTask κ) : ResetReregister κ :=
  { s with tasks := s.tasks ++ [t] }

def setTask (s : ResetReregister κ) (task : ℕ) (t : WorkflowTask κ) : ResetReregister κ :=
  { s with tasks := s.tasks.set task t }

/-- A call that changes a row, or fails and leaves it as it is.
SOURCE: reset_reregister_workflow.py:50-54 -/
def update (s : ResetReregister κ) (id : ℕ)
    (call : Workflow κ → Except WorkflowError (Workflow κ)) : ResetReregister κ :=
  match s.operations[id]? with
  | none => s
  | some operation =>
    match call operation.item with
    | .error _ => s
    | .ok item => s.commit id item []

/-- SOURCE: reset_reregister.py:79-89; reset_reregister_workflow.py:30-48 -/
def start (s : ResetReregister κ) (device : Option DeviceRecord) : ResetReregister κ :=
  match device with
  | none => s
  | some device =>
    let hardwareId := device.hardwareId.getD []
    if device.archived || hardwareId = [] || s.operations.any (fun operation =>
        operation.item.sourceRecordId = device.recordId && operation.item.state ≠ .complete &&
          operation.item.state ≠ .manualRecoveryRequired) then s
    else
      let item : Workflow κ :=
        { sourceRecordId := device.recordId
          sourceDeviceId := device.deviceId
          sourceDisplayName := device.displayName
          hardwareId := hardwareId
          state := .usbConnectionRequired }
      { s with operations := s.operations ++ [⟨item, []⟩] }

/-- The token of an operation, which is gone afterwards. -/
def popToken (s : ResetReregister κ) (id : ℕ) : ResetReregister κ × Option ℕ :=
  ({ s with confirmations := s.confirmations.filter (·.1 ≠ id) },
    (s.confirmations.find? (·.1 = id)).map (·.2))

/-- SOURCE: reset_reregister.py:208-231 -/
def prepareReset (s : ResetReregister κ) (id : ℕ) (body : ConfirmReset)
    (reading : Except Text SensorState) (now : ℕ) : ResetReregister κ :=
  match s.operations[id]? with
  | none => (s.popToken id).1
  | some operation =>
    match operation.item.prepareReset s.usb body (inspectSensor reading) now with
    | .error _ => (s.popToken id).1
    | .ok (item, usb, token) =>
      let s := (s.popToken id).1
      { s with usb := usb, confirmations := s.confirmations ++ [(id, token)] }.commit id item []

/-- SOURCE: reset_reregister.py:234-256 -/
def executeReset (s : ResetReregister κ) (id : ℕ) (body : ConfirmReset) (now : ℕ) :
    ResetReregister κ :=
  let (s, token) := s.popToken id
  match s.operations[id]? with
  | none => s
  | some operation =>
    match operation.item.executeReset s.usb token body now with
    | (usb, .error _) => { s with usb := usb }
    | (usb, .ok (item, reset)) =>
      ({ s with usb := usb }.commit id item []).startTask (.monitoring id reset none)

/-- SOURCE: reset_reregister.py:259-275 -/
def cancelReset (s : ResetReregister κ) (id : ℕ) (body : ConfirmReset) : ResetReregister κ :=
  let (s, token) := s.popToken id
  match s.operations[id]? with
  | none => s
  | some operation =>
    match operation.item.cancelReset s.usb token body with
    | (usb, .error _) => { s with usb := usb }
    | (usb, .ok item) => { s with usb := usb }.commit id item []

/-- SOURCE: reset_reregister.py:330-400 -/
def reconcileReset (s : ResetReregister κ) (id : ℕ) (expectedHardwareId : Text)
    (readings : List (Except Text SensorState)) (device : Option DeviceRecord) :
    ResetReregister κ :=
  match s.operations[id]? with
  | none => s
  | some operation =>
    let states := readings.filterMap fun reading => (inspectSensor reading).toOption
    match operation.item.reconcileReset expectedHardwareId states device with
    | .error _ => s
    | .ok (item, verified) => s.commit id item (if verified then [.resetVerified] else [])

/-- SOURCE: reset_reregister.py:463-472 -/
def scanBle (s : ResetReregister κ) (id : ℕ) : ResetReregister κ :=
  match s.operations[id]? with
  | none => s
  | some operation => s.startTask (.scanning id operation.item)

variable (derive : Text → Except Onboarding.OnboardingIdentityError Text)

/-- SOURCE: reset_reregister.py:526-540 -/
def selectBle (s : ResetReregister κ) (id : ℕ) (address : Text) (compatible : Bool) :
    ResetReregister κ :=
  match s.operations[id]? with
  | none => s
  | some operation =>
    match derive operation.item.hardwareId with
    | .error _ => s
    | .ok _ => if compatible then s.startTask (.selecting id address operation.item) else s

/-- A provisioning up to its `await`; an identity that cannot be derived is an exception the
endpoint does not expect.
SOURCE: reset_reregister.py:558-575 -/
def provision (s : ResetReregister κ) (id : ℕ) : ResetReregister κ :=
  match s.operations[id]? with
  | none => s
  | some operation =>
    let item := operation.item
    if !item.provisionable then
      s.commit id
        (item.provisionFailed "Select a verified unprovisioned BLE candidate first.".toList) []
    else
      let s := s.commit id item.provisioning []
      match derive item.hardwareId with
      | .ok _ => s.startTask (.provisioning id item.provisioning)
      | .error _ =>
        if item.result.sensorProvisioned then s.startTask (.provisioning id item.provisioning)
        else s

/-! ## What comes after an `await` -/

/-- SOURCE: reset_reregister.py:278-327 -/
def monitorLooks (s : ResetReregister κ) (task : ℕ) (removal : Option Text) : ResetReregister κ :=
  match s.tasks[task]? with
  | some (.monitoring id reset reported) =>
    match s.operations[id]?, s.usb.operations[reset]? with
    | some operation, some usbReset =>
      if usbReset.state ≠ .failed ∧ usbReset.state ≠ .physicalComplete then
        if reported = some (Workflow.monitoredState usbReset) then s
        else (s.commit id (operation.item.monitored usbReset) []).setTask task
          (.monitoring id reset (some (Workflow.monitoredState usbReset)))
      else if !usbReset.physicalResetComplete then
        (s.commit id (operation.item.resetFailed usbReset) []).setTask task .done
      else match removal with
        | some message =>
          (s.commit id (operation.item.verifying.cleanupFailed message) []).setTask task .done
        | none => (s.commit id operation.item.verifying []).setTask task
            (.cleaning id reset operation.item.verifying)
    | _, _ => s
  | _ => s

/-- SOURCE: reset_reregister.py:316-327 -/
def connectionRemoved (s : ResetReregister κ) (task : ℕ) (raised : Option Text) :
    ResetReregister κ :=
  match s.tasks[task]? with
  | some (.cleaning id reset item) =>
    match s.operations[id]?, s.usb.operations[reset]? with
    | some operation, some usbReset =>
      match raised with
      | some message =>
        (s.commit id (Workflow.flush item (item.cleanupFailed message) operation.item) []).setTask
          task .done
      | none =>
        (s.commit id (Workflow.flush item (item.resetVerified usbReset) operation.item)
          [.resetVerified]).setTask task .done
    | _, _ => s
  | _ => s

/-- SOURCE: reset_reregister.py:472, 510-519 -/
def scanEnds (s : ResetReregister κ) (task : ℕ) (candidates : List BleCandidate) :
    ResetReregister κ :=
  match s.tasks[task]? with
  | some (.scanning id item) =>
    match s.operations[id]?, derive item.hardwareId with
    | some operation, .ok expected =>
      (s.commit id (Workflow.flush item (item.scanned expected candidates) operation.item) []).setTask
        task .done
    | _, _ => s.setTask task .done
  | _ => s

/-- SOURCE: reset_reregister.py:536-553 -/
def identityRead (s : ResetReregister κ) (task : ℕ) (reading : Option OnboardingReading) :
    ResetReregister κ :=
  match s.tasks[task]? with
  | some (.selecting id address item) =>
    match s.operations[id]?, derive item.hardwareId, reading with
    | some operation, .ok expected, some reading =>
      match item.selected expected address reading with
      | .error _ => s.setTask task .done
      | .ok item' => (s.commit id (Workflow.flush item item' operation.item) []).setTask task .done
    | _, _, _ => s.setTask task .done
  | _ => s

/-- SOURCE: reset_reregister.py:576-641 -/
def provisionerEnds (s : ResetReregister κ) (task : ℕ) (outcome : ProvisionerOutcome)
    (registration : RegistrationOutcome) : ResetReregister κ :=
  match s.tasks[task]? with
  | some (.provisioning id item) =>
    match s.operations[id]? with
    | none => s
    | some operation =>
      (s.commit id (item.provisionRest operation.item outcome registration)
        (if item.readsBack outcome then [.provisioned] else [])).setTask task .done
  | _ => s

/-- One event. -/
def next (s : ResetReregister κ) : ReregisterEvent κ → ResetReregister κ
  | .start device => s.start device
  | .selectUsb id body reading => s.update id (·.selectUsb body (inspectSensor reading))
  | .backup id reading => s.update id (·.backup (inspectSensor reading))
  | .prepareReset id body reading now => s.prepareReset id body reading now
  | .executeReset id body now => s.executeReset id body now
  | .cancelReset id body => s.cancelReset id body
  | .reconcileReset id expectedHardwareId readings device =>
    s.reconcileReset id expectedHardwareId readings device
  | .registration id body existing activeHardware =>
    s.update id (·.registration body existing activeHardware)
  | .editRegistration id => s.update id (·.editRegistration)
  | .scanBle id => s.scanBle id
  | .selectBle id address compatible => s.selectBle derive id address compatible
  | .provision id => s.provision derive id
  | .verifyNetwork id device reading => s.update id (·.verifyNetwork device reading)
  | .resetRuns reset exchange => { s with usb := s.usb.run reset exchange }
  | .resetReadsBack reset reading => { s with usb := s.usb.readBack reset reading }
  | .monitorLooks task removal => s.monitorLooks task removal
  | .connectionRemoved task raised => s.connectionRemoved task raised
  | .scanEnds task candidates => s.scanEnds derive task candidates
  | .identityRead task reading => s.identityRead derive task reading
  | .provisionerEnds task outcome registration => s.provisionerEnds task outcome registration

end ResetReregister

end SeedMg24.Model
