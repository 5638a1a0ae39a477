import SeedMg24.Foundation.Places
import SeedMg24.Model.LifecycleConfirmation
import SeedMg24.Model.UsbFactoryReset

/-!
# The device registry

The rows of `registered_devices` with the triggers of `database.py`, and everything that writes
them: `repositories/device_repository.py`, `services/device_service.py`,
`services/device_lifecycle_service.py` and the endpoints of `api/devices.py`,
`api/device_lifecycle.py`, `api/factory_reset.py`, `api/commissioning.py` and
`api/reset_reregister.py` that use them.  An endpoint on the event loop runs from one `await` to the
next in one event.  An endpoint in a thread reads in one event and writes in another.
-/

set_option autoImplicit false

namespace SeedMg24.Model

open Foundation

namespace Registry

/-! ## Rows -/

/-- SOURCE: models.py:42; device_lifecycle_service.py:53, 100 -/
inductive LifecycleState where
  | active | removed
deriving DecidableEq, Repr

/-- SOURCE: models.py:45; factory_reset.py:94, 102, 127, 151 -/
inductive FactoryResetStatus where
  | notRequested | resetPending | resetFailed | complete
deriving DecidableEq, Repr

/-- A row of `registered_devices`.
SOURCE: models.py:14-45 -/
structure DeviceRow where
  recordId : ℕ
  deviceId : Text
  displayName : Text
  deviceType : Text := "xiao_mg24_sense".toList
  bleAddress : Option Text
  bleAdvertisedName : Option Text := none
  enabled : Bool := true
  archived : Bool := false
  location : Option Text := none
  description : Option Text := none
  hardwareId : Option Text := none
  lifecycleState : LifecycleState := .active
  removedAt : Option ℕ := none
  removalReason : Option Text := none
  factoryResetStatus : FactoryResetStatus := .notRequested
deriving DecidableEq, Repr

/-- What the triggers look at: the hardware id of a row that is not archived.
SOURCE: database.py:142-144, 152-154 -/
def DeviceRow.activeHardwareId (row : DeviceRow) : Option Text :=
  if row.archived then none else row.hardwareId.filter (· ≠ [])

/-- SOURCE: device_lifecycle_service.py:51-55 -/
def DeviceRow.removed (row : DeviceRow) (reason : Option Text) (now : ℕ) :
    DeviceRow :=
  { row with
    archived := true
    enabled := false
    lifecycleState := .removed
    removedAt := some now
    removalReason := reason }

/-- SOURCE: device_lifecycle_service.py:98-102 -/
def DeviceRow.restored (row : DeviceRow) : DeviceRow :=
  { row with
    archived := false
    enabled := true
    lifecycleState := .active
    removedAt := none
    removalReason := none }

/-- SOURCE: device_lifecycle_service.py:64, 105 -/
inductive EventType where
  | gatewayRemoved | gatewayRestored
deriving DecidableEq, Repr

/-- SOURCE: models.py:118-134 -/
structure DeviceLifecycleEvent where
  eventType : EventType
  deviceId : Text
  displayName : Text
  hardwareId : Option Text
  bleAddress : Option Text
  connectivityState : Text
  method : Text
  factoryResetRequested : Bool
  result : Text
deriving DecidableEq, Repr

/-- SOURCE: device_lifecycle_service.py:11-15; sqlalchemy's `IntegrityError` -/
inductive RegistryError where
  | lifecycle (code message : Text)
  | integrity
deriving DecidableEq, Repr

/-- SOURCE: device_lifecycle_service.py:18-26 -/
structure LifecycleResult where
  status : Text
  deviceId : Text
  lifecycleState : Text
  alreadyApplied : Bool
  telemetryPreserved : Bool := true
  physicalSensorChanged : Bool := false
deriving DecidableEq, Repr

/-! ## Requests -/

/-- A request that has been validated.
SOURCE: schemas.py:24-39 -/
structure DeviceCreate where
  deviceId : Text
  displayName : Text
  discoveryAddress : Text
  deviceType : Text := "xiao_mg24_sense".toList
  location : Option Text := none
  description : Option Text := none
  allowIncompatible : Bool := false
deriving DecidableEq, Repr

/-- What a registration reads of a discovery. -/
structure Discovery where
  address : Text
  name : Option Text
  compatible : Bool
  stableDeviceId : Option Text
deriving DecidableEq, Repr

/-- The members that are set, each with its value or null.
SOURCE: schemas.py:42-53 -/
structure DeviceUpdate where
  displayName : Option (Option Text) := none
  location : Option (Option Text) := none
  description : Option (Option Text) := none
  enabled : Option (Option Bool) := none
deriving DecidableEq, Repr

/-- SOURCE: schemas.py:109-115 -/
structure LifecycleExecuteRequest where
  confirmationToken : ℕ
  restores : Bool
  deviceId : Text
  expectedHardwareId : Option Text := none
  expectedBleAddress : Option Text := none
  reason : Option Text := none
deriving DecidableEq, Repr

/-- The text of an operation. -/
def operationText (restores : Bool) : Text :=
  if restores then "restore".toList else "remove".toList

/-- SOURCE: factory_reset.py:25-28 -/
structure ResetTarget where
  deviceId : Text
  hardwareId : Text
  port : Text
deriving DecidableEq, Repr

/-- SOURCE: device_service.py:7-8; device_repository.py:10-11 -/
inductive RegistrationError where
  | validation (message : Text)
  | duplicate (message : Text)
deriving DecidableEq, Repr

/-- What the registry is configured with and relies on: the pattern of device ids, the case folding
of Python, and what an `IntegrityError` says. -/
structure Settings where
  deviceIdPattern : Text → Bool
  casefold : Text → Text
  integrityText : Text

/-! ## The registry -/

/-- A request that has not ended. -/
inductive RegistryTask where
  /-- an endpoint in a thread: the write of a hardware id; the confirmation of a reset, with its
  token, that is taken back if the write is aborted -/
  | associating (recordId : ℕ) (hardwareId : Text) (confirmation : Option (ℕ × Text × Text))
  /-- `finalize_when_ready`: the end of a reset -/
  | finalizing (operation : ℕ)
  /-- `_monitor_reset`: the end of a reset -/
  | monitoring (operation recordId : ℕ)
  /-- `cleanup_gateway`: the end of a connection -/
  | cleaningUp (operation : ℕ)
  | done
deriving DecidableEq, Repr

/-- The tables, the stores of the process and its tasks.  What `cleanup_gateway` notes of an
operation is kept beside it: the operations whose cleanup is complete, and what went wrong. -/
structure DeviceRegistry where
  devices : List DeviceRow := []
  events : List DeviceLifecycleEvent := []
  confirmations : LifecycleConfirmationStore := {}
  usb : UsbFactoryReset := {}
  cleanedUp : List ℕ := []
  cleanupErrors : List (ℕ × Text) := []
  tasks : List RegistryTask := []

namespace DeviceRegistry

variable (S : Settings)

/-! ## Statements -/

/-- Whether a trigger aborts a statement that makes a row.
SOURCE: database.py:139-157 -/
def aborts (s : DeviceRegistry) (row : DeviceRow) : Bool :=
  Places.isTaken DeviceRow.recordId DeviceRow.activeHardwareId s.devices row

/-- An `INSERT`.
SOURCE: models.py:18; database.py:139-146 -/
def insert (s : DeviceRegistry) (row : DeviceRow) : Option DeviceRegistry :=
  if s.devices.any (·.deviceId = row.deviceId) || s.aborts row then none
  else some { s with devices := s.devices ++ [row] }

/-- An `UPDATE` of one row; `guarded` says whether it names a column of the trigger.
SOURCE: database.py:149-156 -/
def updateRow (s : DeviceRegistry) (recordId : ℕ) (guarded : Bool)
    (f : DeviceRow → DeviceRow) : Option DeviceRegistry :=
  if guarded && (s.devices.any fun row => row.recordId = recordId && s.aborts (f row)) then none
  else some { s with devices := Places.modify DeviceRow.recordId s.devices recordId f }

/-- The id of the next row. -/
def nextRecordId (s : DeviceRegistry) : ℕ :=
  (s.devices.map (·.recordId)).foldr max 0 + 1

/-! ## The repository -/

/-- SOURCE: device_repository.py:24-25 -/
def get (s : DeviceRegistry) (deviceId : Text) : Option DeviceRow :=
  s.devices.find? (·.deviceId = deviceId)

/-- The row of an id. -/
def getRecord (s : DeviceRegistry) (recordId : ℕ) : Option DeviceRow :=
  s.devices.find? (·.recordId = recordId)

/-- SOURCE: device_repository.py:27-30 -/
def getByBleAddress (s : DeviceRegistry) (address : Text) : Option DeviceRow :=
  s.devices.find? fun row => row.bleAddress = some address && !row.archived

/-- SOURCE: device_repository.py:35-40 -/
def getOtherByHardwareId (s : DeviceRegistry) (hardwareId : Text) (recordId : ℕ) :
    Option DeviceRow :=
  s.devices.find? fun row => row.hardwareId = some hardwareId && row.recordId ≠ recordId

/-- SOURCE: device_repository.py:42-51 -/
def create (s : DeviceRegistry) (row : DeviceRow) :
    Except RegistrationError DeviceRegistry :=
  match s.insert row with
  | none => .error (.duplicate "device_id is already registered".toList)
  | some s => .ok s

/-! ## Registrations -/

/-- SOURCE: device_service.py:16-41 -/
def register (s : DeviceRegistry) (request : DeviceCreate) (discovery : Discovery) :
    Except RegistrationError DeviceRegistry :=
  if !S.deviceIdPattern request.deviceId then
    .error (.validation
      "device_id does not match the configured equipment identifier pattern".toList)
  else if request.discoveryAddress ≠ discovery.address then
    .error (.validation "selected discovery no longer matches the request".toList)
  else if !discovery.compatible && !request.allowIncompatible then
    .error (.validation "device is not confirmed compatible; explicit override is required".toList)
  else match s.getByBleAddress discovery.address with
    | some existing =>
      .error (.duplicate ("BLE address is already associated with ".toList ++ existing.deviceId))
    | none =>
      let stable := discovery.stableDeviceId.filter (· ≠ [])
      if (stable.bind s.get).isSome then
        .error (.duplicate "firmware identity is already registered".toList)
      else if stable.any (· ≠ request.deviceId) then
        .error (.validation "entered device_id does not match the stable firmware identity".toList)
      else s.create {
        recordId := s.nextRecordId
        deviceId := request.deviceId
        displayName := request.displayName
        deviceType := request.deviceType
        bleAddress := some discovery.address
        bleAdvertisedName := discovery.name
        location := request.location
        description := request.description }

/-- The columns an update sets; a column that may not be null takes no null.
SOURCE: device_service.py:43-44; device_repository.py:53-61 -/
def updated (row : DeviceRow) (body : DeviceUpdate) : Option DeviceRow :=
  if body.displayName = some none ∨ body.enabled = some none then none
  else some { row with
    displayName := (body.displayName.bind id).getD row.displayName
    location := body.location.getD row.location
    description := body.description.getD row.description
    enabled := (body.enabled.bind id).getD row.enabled }

/-- SOURCE: devices.py:73-79 -/
def patch (s : DeviceRegistry) (deviceId : Text) (body : DeviceUpdate) : DeviceRegistry :=
  match s.get deviceId with
  | none => s
  | some device =>
    if device.archived then s
    else if (updated device body).isNone then s
    else (s.updateRow device.recordId false fun row => (updated row body).getD row).getD s

/-! ## Removal and restoration -/

/-- SOURCE: device_lifecycle_service.py:34-76 -/
def remove (s : DeviceRegistry) (deviceId : Text) (reason : Option Text)
    (connectivityState method : Text) (factoryResetRequested : Bool) (now : ℕ) :
    Except RegistryError (DeviceRegistry × LifecycleResult) :=
  match s.get deviceId with
  | none => .error (.lifecycle "device_not_found".toList
      "Sensor registration was not found.".toList)
  | some device =>
    if device.archived || device.lifecycleState = .removed then
      .ok (s, ⟨"removed".toList, deviceId, "removed".toList, true, true, false⟩)
    else match s.updateRow device.recordId true (·.removed reason now) with
      | none => .error .integrity
      | some s =>
        let event : DeviceLifecycleEvent := {
          eventType := .gatewayRemoved
          deviceId := device.deviceId
          displayName := device.displayName
          hardwareId := device.hardwareId
          bleAddress := device.bleAddress
          connectivityState := connectivityState
          method := method
          factoryResetRequested := factoryResetRequested
          result := "success".toList }
        .ok ({ s with events := s.events ++ [event] },
          ⟨"removed".toList, deviceId, "removed".toList, false, true, false⟩)

/-- Whether the address of a restoration is that of the row.
SOURCE: device_lifecycle_service.py:86-88 -/
def sameBleAddress (device : DeviceRow) (expected : Option Text) : Bool :=
  match device.bleAddress.filter (· ≠ []), expected.filter (· ≠ []) with
  | none, _ => true
  | some _, none => false
  | some address, some expected => S.casefold expected = S.casefold address

/-- SOURCE: device_lifecycle_service.py:78-115 -/
def restore (s : DeviceRegistry) (deviceId : Text)
    (expectedHardwareId expectedBleAddress : Option Text) :
    Except RegistryError (DeviceRegistry × LifecycleResult) :=
  match s.get deviceId with
  | none => .error (.lifecycle "device_not_found".toList
      "Removed sensor registration was not found.".toList)
  | some device =>
    let hardwareId := device.hardwareId.filter (· ≠ [])
    if !device.archived && device.lifecycleState = .active then
      .ok (s, ⟨"active".toList, deviceId, "active".toList, true, true, false⟩)
    else if hardwareId.isSome && expectedHardwareId ≠ device.hardwareId then
      .error (.lifecycle "hardware_identity_mismatch".toList
        "Physical hardware identity does not match the removed sensor.".toList)
    else if !sameBleAddress S device expectedBleAddress then
      .error (.lifecycle "ble_identity_mismatch".toList
        "BLE address does not match the removed sensor registration.".toList)
    else if (hardwareId.bind fun h => s.getOtherByHardwareId h device.recordId).isSome then
      .error (.lifecycle "hardware_identity_conflict".toList
        "Hardware identity is associated with another sensor record; resolve it first.".toList)
    else match s.updateRow device.recordId true (·.restored) with
      | none => .error .integrity
      | some s =>
        let event : DeviceLifecycleEvent := {
          eventType := .gatewayRestored
          deviceId := device.deviceId
          displayName := device.displayName
          hardwareId := device.hardwareId
          bleAddress := device.bleAddress
          connectivityState := "disconnected".toList
          method := "dashboard_confirmed".toList
          factoryResetRequested := false
          result := "success".toList }
        .ok ({ s with events := s.events ++ [event] },
          ⟨"active".toList, deviceId, "active".toList, false, true, false⟩)

/-! ## Lifecycle endpoints -/

/-- SOURCE: device_lifecycle.py:37-68 -/
def confirmLifecycle (s : DeviceRegistry) (restores : Bool) (deviceId : Text)
    (expectedHardwareId expectedBleAddress : Option Text) (purgedAt now : ℕ) : DeviceRegistry :=
  match s.get deviceId with
  | none => s
  | some device =>
    let hardwareId := device.hardwareId.filter (· ≠ [])
    if expectedHardwareId.isSome && hardwareId.isSome && expectedHardwareId ≠ hardwareId then s
    else if restores && hardwareId.isSome && expectedHardwareId ≠ hardwareId then s
    else if restores && (device.bleAddress.filter (· ≠ [])).isSome &&
        expectedBleAddress ≠ device.bleAddress then s
    else { s with confirmations := (s.confirmations.issue (operationText restores) device.recordId
      deviceId (hardwareId.or expectedHardwareId) device.bleAddress purgedAt now).1 }

/-- A use of a token.
SOURCE: device_lifecycle.py:74-82, 106-117 -/
def consumeLifecycle (s : DeviceRegistry) (body : LifecycleExecuteRequest) (now : ℕ) :
    DeviceRegistry × Bool :=
  match s.get body.deviceId with
  | none => (s, false)
  | some device =>
    let (confirmations, answer) := s.confirmations.consume body.confirmationToken
      (operationText body.restores) device.recordId body.deviceId
      ((device.hardwareId.filter (· ≠ [])).or body.expectedHardwareId) device.bleAddress now
    ({ s with confirmations := confirmations }, answer.toBool)

/-- SOURCE: device_lifecycle.py:71-103 -/
def executeLifecycle (s : DeviceRegistry) (body : LifecycleExecuteRequest)
    (connectivityState : Text) (now : ℕ) : DeviceRegistry :=
  let (s, accepted) := s.consumeLifecycle body now
  if !accepted then s
  else
    let outcome := if body.restores then
        s.restore S body.deviceId body.expectedHardwareId body.expectedBleAddress
      else s.remove body.deviceId body.reason connectivityState "dashboard_confirmed".toList false
        now
    match outcome with
    | .error _ => s
    | .ok (s, _) => s

/-! ## Tasks -/

def startTask (s : DeviceRegistry) (t : RegistryTask) : DeviceRegistry :=
  { s with tasks := s.tasks ++ [t] }

def setTask (s : DeviceRegistry) (task : ℕ) (t : RegistryTask) : DeviceRegistry :=
  { s with tasks := s.tasks.set task t }

/-- The status of a reset is written to a row. -/
def setResetStatus (s : DeviceRegistry) (recordId : ℕ) (status : FactoryResetStatus) :
    DeviceRegistry :=
  (s.updateRow recordId false fun row => { row with factoryResetStatus := status }).getD s

/-! ## Hardware ids -/

/-- A confirmation of a reset, up to the write of the hardware id.
SOURCE: factory_reset.py:50-61 -/
def confirmReset (s : DeviceRegistry) (body : ResetTarget) (inspection : Except Text SensorState)
    (now : ℕ) : DeviceRegistry :=
  match s.get body.deviceId with
  | none => s
  | some device =>
    let hardwareId := device.hardwareId.filter (· ≠ [])
    if device.archived || (hardwareId.isSome && hardwareId ≠ some body.hardwareId) then s
    else match s.usb.prepare device.recordId body.deviceId body.hardwareId body.port inspection
        now with
      | .error _ => s
      | .ok (usb, token) =>
        let s := { s with usb := usb }
        if hardwareId.isSome then s
        else s.startTask (.associating device.recordId body.hardwareId
          (some (token, body.deviceId, body.port)))

/-- An association over USB, up to the write of the hardware id.
SOURCE: reset_reregister.py:92-121 -/
def associateUsb (s : DeviceRegistry) (deviceId expectedHardwareId : Text)
    (inspection : Except Text SensorState) : DeviceRegistry :=
  match s.get deviceId, inspection with
  | some device, .ok state =>
    let hardwareId := device.hardwareId.filter (· ≠ [])
    if device.archived then s
    else if state.identityStatus ≠ some "ok".toList ∨ state.nodeId ≠ some device.deviceId ∨
        state.hardwareId ≠ some expectedHardwareId then s
    else if (s.getOtherByHardwareId expectedHardwareId device.recordId).isSome then s
    else if hardwareId.isSome && hardwareId ≠ some expectedHardwareId then s
    else if device.hardwareId = some expectedHardwareId then s
    else s.startTask (.associating device.recordId expectedHardwareId none)
  | _, _ => s

/-- The write of a hardware id.
SOURCE: factory_reset.py:62-71; reset_reregister.py:121-128 -/
def writes (s : DeviceRegistry) (task : ℕ) : DeviceRegistry :=
  match s.tasks[task]? with
  | some (.associating recordId hardwareId confirmation) =>
    let s := s.setTask task .done
    match s.updateRow recordId true fun row => { row with hardwareId := some hardwareId } with
    | some s => s
    | none => match confirmation with
      | none => s
      | some (token, deviceId, port) =>
        { s with usb := (s.usb.cancel token recordId deviceId hardwareId port).1 }
  | _ => s

/-! ## Factory resets -/

/-- SOURCE: factory_reset.py:78-104 -/
def executeReset (s : DeviceRegistry) (token : ℕ) (body : ResetTarget) (now : ℕ) : DeviceRegistry :=
  match s.get body.deviceId with
  | none => s
  | some device =>
    if device.archived then s
    else
      let (usb, authorized) := s.usb.authorize token device.recordId body.deviceId body.hardwareId
        body.port now
      let s := { s with usb := usb }
      if !authorized then s
      else
        let s := s.setResetStatus device.recordId .resetPending
        match s.usb.launch device.recordId body.deviceId body.hardwareId body.port with
        | .error _ => s.setResetStatus device.recordId .resetFailed
        | .ok (usb, operation) => { s with usb := usb }.startTask (.finalizing operation)

/-- SOURCE: factory_reset.py:107-120 -/
def cancelReset (s : DeviceRegistry) (token : ℕ) (body : ResetTarget) : DeviceRegistry :=
  match s.get body.deviceId with
  | none => s
  | some device =>
    { s with usb :=
        (s.usb.cancel token device.recordId body.deviceId body.hardwareId body.port).1 }

/-- What an exception says. -/
def errorText : RegistryError → Text
  | .lifecycle _ message => message
  | .integrity => S.integrityText

/-- SOURCE: factory_reset.py:140-142 -/
def cleanupFails (s : DeviceRegistry) (operation : ℕ) (error : Text) : DeviceRegistry :=
  { s with cleanupErrors := s.cleanupErrors ++ [(operation,
      "Physical reset verified; gateway cleanup requires retry: ".toList ++ error.take 300)] }

/-- Whether an operation has ended, and no cleanup has written another state over that yet.
SOURCE: factory_reset.py:136, 141, 147; reset_reregister.py:282 -/
def hasEnded (s : DeviceRegistry) (operation : ℕ) (item : UsbResetOperation) : Bool :=
  (item.state = .failed || item.state = .physicalComplete) && operation ∉ s.cleanedUp &&
    s.cleanupErrors.all (·.1 ≠ operation)

/-- `cleanup_gateway` up to its `await`: the registry it leaves, and whether it gets there.
SOURCE: factory_reset.py:123-134 -/
def cleanupGateway (s : DeviceRegistry) (operation now : ℕ) : DeviceRegistry × Bool :=
  match s.usb.operations[operation]? with
  | none => (s, false)
  | some item =>
    let changed := (s.cleanupFails operation
      "gateway sensor record changed during physical reset".toList, false)
    match s.get item.deviceId with
    | none => changed
    | some device =>
      if device.recordId ≠ item.recordId ∨ device.hardwareId ≠ some item.hardwareId then
        changed
      else match s.remove item.deviceId (some "physical_factory_reset_verified".toList)
          "resetting".toList "usb_factory_reset".toList true now with
        | .error error => (s.cleanupFails operation (errorText S error), false)
        | .ok (s, _) => (s.setResetStatus device.recordId .complete, true)

/-- SOURCE: factory_reset.py:145-155 -/
def finalizerLooks (s : DeviceRegistry) (task now : ℕ) : DeviceRegistry :=
  match s.tasks[task]? with
  | some (.finalizing operation) => match s.usb.operations[operation]? with
    | none => s
    | some item =>
      if !s.hasEnded operation item then s
      else if item.physicalResetComplete then
        let (s, reached) := s.cleanupGateway S operation now
        s.setTask task (if reached then .cleaningUp operation else .done)
      else match s.get item.deviceId with
        | none => s.setTask task .done
        | some device =>
          (if device.recordId = item.recordId then s.setResetStatus device.recordId .resetFailed
            else s).setTask task .done
  | _ => s

/-- The connection has ended, or its end has raised an exception.
SOURCE: factory_reset.py:134-142 -/
def cleanupEnds (s : DeviceRegistry) (task : ℕ) (raised : Option Text) : DeviceRegistry :=
  match s.tasks[task]? with
  | some (.cleaningUp operation) =>
    let s := s.setTask task .done
    match raised with
    | some error => s.cleanupFails operation error
    | none => { s with
        cleanedUp := s.cleanedUp ++ [operation]
        cleanupErrors := s.cleanupErrors.filter (·.1 ≠ operation) }
  | _ => s

/-- SOURCE: factory_reset.py:163-174 -/
def retryCleanup (s : DeviceRegistry) (operation : ℕ) (body : ResetTarget) (now : ℕ) :
    DeviceRegistry :=
  match s.usb.operations[operation]? with
  | none => s
  | some item =>
    if body.deviceId ≠ item.deviceId ∨ body.hardwareId ≠ item.hardwareId ∨ body.port ≠ item.port ∨
        item.physicalResetComplete = false then s
    else if operation ∈ s.cleanedUp then s
    else
      let (s, reached) := s.cleanupGateway S operation now
      if reached then s.startTask (.cleaningUp operation) else s

/-! ## The reset-and-re-register workflow -/

/-- What a workflow holds of the sensor it is about comes with the call.
SOURCE: reset_reregister.py:244-256 -/
def workflowExecutes (s : DeviceRegistry) (token recordId : ℕ) (deviceId hardwareId port : Text)
    (now : ℕ) : DeviceRegistry :=
  let (usb, authorized) := s.usb.authorize token recordId deviceId hardwareId port now
  let s := { s with usb := usb }
  if !authorized then s
  else match s.usb.launch recordId deviceId hardwareId port with
    | .error _ => s
    | .ok (usb, operation) =>
      ({ s with usb := usb }.setResetStatus recordId .resetPending).startTask
        (.monitoring operation recordId)

/-- A removal after a reset, and the status of the row.
SOURCE: reset_reregister.py:308-315, 382-388 -/
def workflowRemoves (s : DeviceRegistry) (recordId : ℕ) (method : Text) (now : ℕ) :
    DeviceRegistry :=
  match s.getRecord recordId with
  | none => s
  | some device => match s.remove device.deviceId (some "physical_factory_reset_verified".toList)
      "resetting".toList method true now with
    | .error _ => s
    | .ok (s, _) => s.setResetStatus recordId .complete

/-- SOURCE: reset_reregister.py:279-315 -/
def monitorLooks (s : DeviceRegistry) (task now : ℕ) : DeviceRegistry :=
  match s.tasks[task]? with
  | some (.monitoring operation recordId) => match s.usb.operations[operation]? with
    | none => s
    | some item =>
      if !s.hasEnded operation item then s
      else (if item.physicalResetComplete then
          s.workflowRemoves recordId "reset_reregister_workflow".toList now
        else s).setTask task .done
  | _ => s

/-- A reconciliation; `verified` says whether the sensor was read back out of the box.
SOURCE: reset_reregister.py:375-388 -/
def workflowRecovers (s : DeviceRegistry) (recordId : ℕ) (verified : Bool) (now : ℕ) :
    DeviceRegistry :=
  if verified then s.workflowRemoves recordId "reset_reregister_recovery".toList now else s

/-- SOURCE: reset_reregister.py:588-592 -/
def workflowRestores (s : DeviceRegistry) (recordId : ℕ) (hardwareId bleAddress displayName : Text)
    (location : Option Text) : DeviceRegistry :=
  match s.getRecord recordId with
  | none => s
  | some source => match s.restore S source.deviceId (some hardwareId) (some bleAddress) with
    | .error _ => s
    | .ok (s, _) => (s.updateRow recordId false fun row => { row with
        displayName := displayName
        location := location
        factoryResetStatus := .complete }).getD s

/-- The row is committed before it gets its hardware id.
SOURCE: reset_reregister.py:599-614 -/
def workflowRegisters (s : DeviceRegistry) (body : DeviceCreate) (discovery : Discovery)
    (hardwareId : Text) : DeviceRegistry :=
  match s.register S body { discovery with stableDeviceId := some body.deviceId } with
  | .error _ => s
  | .ok registered => (registered.updateRow s.nextRecordId true fun row =>
      { row with hardwareId := some hardwareId, factoryResetStatus := .complete }).getD registered

/-! ## Commissioning -/

/-- SOURCE: commissioning.py:117-125 -/
def commissionEnds (s : DeviceRegistry) (body : DeviceCreate) (discovery : Discovery) :
    DeviceRegistry :=
  match s.register S body { discovery with stableDeviceId := some body.deviceId } with
  | .error _ => s
  | .ok s => s

/-- SOURCE: commissioning.py:153-187 -/
def importEnds (s : DeviceRegistry) (address nodeId : Text)
    (displayName location name : Option Text) : DeviceRegistry :=
  if (s.get nodeId).isSome || (s.getByBleAddress address).isSome then s
  else match s.create {
      recordId := s.nextRecordId
      deviceId := nodeId
      displayName := Text.strip ((displayName.filter (· ≠ [])).getD nodeId)
      bleAddress := some address
      bleAdvertisedName := name
      location := location } with
    | .error _ => s
    | .ok s => s

end DeviceRegistry

/-! ## Events -/

/-- What happens to the registry. -/
inductive RegistryEvent where
  /-- with what the scanner knows of the address -/
  | register (body : DeviceCreate) (discovery : Option Discovery)
  | patch (deviceId : Text) (body : DeviceUpdate)
  | confirmLifecycle (restores : Bool) (deviceId : Text)
      (expectedHardwareId expectedBleAddress : Option Text) (purgedAt now : ℕ)
  | executeLifecycle (body : LifecycleExecuteRequest) (connectivityState : Text) (now : ℕ)
  | cancelLifecycle (body : LifecycleExecuteRequest) (now : ℕ)
  | confirmReset (body : ResetTarget) (inspection : Except Text SensorState) (now : ℕ)
  | associateUsb (deviceId expectedHardwareId : Text) (inspection : Except Text SensorState)
  | writes (task : ℕ)
  | executeReset (token : ℕ) (body : ResetTarget) (now : ℕ)
  | cancelReset (token : ℕ) (body : ResetTarget)
  | usbRuns (operation : ℕ) (exchange : ResetExchange)
  | usbReadsBack (operation : ℕ) (reading : Option SensorState)
  | finalizerLooks (task now : ℕ)
  | cleanupEnds (task : ℕ) (raised : Option Text)
  | retryCleanup (operation : ℕ) (body : ResetTarget) (now : ℕ)
  | workflowPrepares (recordId : ℕ) (deviceId hardwareId port : Text)
      (inspection : Except Text SensorState) (now : ℕ)
  | workflowExecutes (token recordId : ℕ) (deviceId hardwareId port : Text) (now : ℕ)
  | workflowCancels (token recordId : ℕ) (deviceId hardwareId port : Text)
  | monitorLooks (task now : ℕ)
  | workflowRecovers (recordId : ℕ) (verified : Bool) (now : ℕ)
  | workflowRestores (recordId : ℕ) (hardwareId bleAddress displayName : Text)
      (location : Option Text)
  | workflowRegisters (body : DeviceCreate) (discovery : Discovery) (hardwareId : Text)
  | commissionEnds (body : DeviceCreate) (discovery : Discovery)
  | importEnds (address nodeId : Text) (displayName location name : Option Text)

namespace DeviceRegistry

variable (S : Settings)

/-- One event. -/
def next (s : DeviceRegistry) : RegistryEvent → DeviceRegistry
  | .register _ none => s
  | .register body (some discovery) => match s.register S body discovery with
    | .error _ => s
    | .ok s => s
  | .patch deviceId body => s.patch deviceId body
  | .confirmLifecycle restores deviceId hardwareId address purgedAt now =>
    s.confirmLifecycle restores deviceId hardwareId address purgedAt now
  | .executeLifecycle body connectivityState now => s.executeLifecycle S body connectivityState now
  | .cancelLifecycle body now => (s.consumeLifecycle body now).1
  | .confirmReset body inspection now => s.confirmReset body inspection now
  | .associateUsb deviceId hardwareId inspection => s.associateUsb deviceId hardwareId inspection
  | .writes task => s.writes task
  | .executeReset token body now => s.executeReset token body now
  | .cancelReset token body => s.cancelReset token body
  | .usbRuns operation exchange => { s with usb := s.usb.run operation exchange }
  | .usbReadsBack operation reading => { s with usb := s.usb.readBack operation reading }
  | .finalizerLooks task now => s.finalizerLooks S task now
  | .cleanupEnds task raised => s.cleanupEnds task raised
  | .retryCleanup operation body now => s.retryCleanup S operation body now
  | .workflowPrepares recordId deviceId hardwareId port inspection now =>
    match s.usb.prepare recordId deviceId hardwareId port inspection now with
    | .error _ => s
    | .ok (usb, _) => { s with usb := usb }
  | .workflowExecutes token recordId deviceId hardwareId port now =>
    s.workflowExecutes token recordId deviceId hardwareId port now
  | .workflowCancels token recordId deviceId hardwareId port =>
    { s with usb := (s.usb.cancel token recordId deviceId hardwareId port).1 }
  | .monitorLooks task now => s.monitorLooks task now
  | .workflowRecovers recordId verified now => s.workflowRecovers recordId verified now
  | .workflowRestores recordId hardwareId bleAddress displayName location =>
    s.workflowRestores S recordId hardwareId bleAddress displayName location
  | .workflowRegisters body discovery hardwareId => s.workflowRegisters S body discovery hardwareId
  | .commissionEnds body discovery => s.commissionEnds S body discovery
  | .importEnds address nodeId displayName location name =>
    s.importEnds address nodeId displayName location name

end DeviceRegistry

end Registry

end SeedMg24.Model
