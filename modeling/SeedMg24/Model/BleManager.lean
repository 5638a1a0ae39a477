import SeedMg24.Model.Installations

/-!
# The managed connections

`BleManager` of `ble/manager.py` and the operations that schedule and remove connections: the
endpoints of `api/devices.py`, `api/nodes.py` and `api/device_lifecycle.py`, the configurator of
`services/provisioning_service.py` and the scan of `api/reset_reregister.py`.  An operation runs from
one `await` to the next in one event.  The connections themselves are left out, but for the time a
connection takes to stop.
-/

set_option autoImplicit false

namespace SeedMg24.Model

open Foundation

/-- An operation, by what it awaits. -/
inductive ManagerTask where
  /-- the end of a connection that was removed; a lifecycle removal then forgets the configuration
  results of the device -/
  | stopping (forgets : Option Text)
  /-- a configuration read or write, or the configurator's `apply`: what comes before its `try`;
  `result` is the key a write stores its result under -/
  | clearing (nodeId address : Text) (result : Option (Text × Text))
  /-- the same: the provisioner -/
  | working (nodeId address : Text) (result : Option (Text × Text))
  /-- a scan: the pause lock -/
  | waitingToPause
  /-- a scan: the end of one of the connections it stops -/
  | pausing (remaining : List Text) (scheduled : List (Text × Text))
  /-- a scan: the scan itself -/
  | scanning (scheduled : List (Text × Text))
  | done
deriving DecidableEq, Repr

/-- An update of `enabled`.
SOURCE: device_service.py:43-44 -/
def RegisteredDevice.withEnabled (d : RegisteredDevice) (enabled : Bool) : RegisteredDevice :=
  { d with enabled := enabled }

/-- The rows of `registered_devices`, with one row for an id.
SOURCE: models.py:18 -/
structure DeviceTable where
  rows : List RegisteredDevice
  distinct : (rows.map (·.deviceId)).Nodup

/-- The rows of the devices, the connections and the operations.
SOURCE: manager.py:21-28; main.py:195 -/
structure BleManager where
  devices : List RegisteredDevice
  /-- the keys of `connections` with their addresses, oldest first -/
  connections : List (Text × Text) := []
  pauseLocked : Bool := false
  /-- the keys of `device_configuration_results` -/
  configurationResults : List (Text × Text) := []
  tasks : List ManagerTask := []
deriving DecidableEq, Repr

/-- What happens to the managed connections. -/
inductive ManagerEvent where
  /-- `accepted` says whether the other checks of the registration pass -/
  | register (deviceId address : Text) (accepted : Bool)
  /-- a PATCH, with the `enabled` it sets -/
  | patch (deviceId : Text) (enabled : Option Bool)
  | connect (deviceId : Text)
  | readConfiguration (nodeId : Text)
  | configure (nodeId transactionId : Text)
  /-- the configurator's `apply` -/
  | applyConfiguration (nodeId interfaceId : Text)
  | lifecycleRemove (deviceId : Text)
  /-- `identified` says whether the identities are those of the removed registration -/
  | lifecycleRestore (deviceId : Text) (identified : Bool)
  /-- a scan that pauses the connections -/
  | scan
  /-- what a task awaits comes about -/
  | resumes (task : ℕ)
  /-- it raises an exception, or the task is cancelled -/
  | raises (task : ℕ)
deriving DecidableEq, Repr

namespace BleManager

/-! ## The manager -/

/-- SOURCE: device_repository.py:24-25 -/
def getDevice (s : BleManager) (deviceId : Text) : Option RegisteredDevice :=
  s.devices.find? (·.deviceId = deviceId)

/-- SOURCE: device_repository.py:53-61 -/
def updateDevice (s : BleManager) (deviceId : Text)
    (f : RegisteredDevice → RegisteredDevice) : BleManager :=
  { s with devices := s.devices.map fun device =>
      if device.deviceId = deviceId then f device else device }

/-- SOURCE: manager.py:30-55 -/
def schedule (s : BleManager) (deviceId address : Text) : BleManager :=
  if s.connections.any (·.1 = deviceId) then
    { s with connections := s.connections.map fun connection =>
        if connection.1 = deviceId then (deviceId, address) else connection }
  else { s with connections := s.connections ++ [(deviceId, address)] }

/-- Several connections, one after the other. -/
def scheduleAll (s : BleManager) (scheduled : List (Text × Text)) : BleManager :=
  scheduled.foldl (fun s connection => s.schedule connection.1 connection.2) s

/-- Whether a connection is managed: the removal of one that is not does not suspend. -/
def manages (s : BleManager) (deviceId : Text) : Bool := s.connections.any (·.1 = deviceId)

/-- The part of a removal before it suspends.
SOURCE: manager.py:63 -/
def pop (s : BleManager) (deviceId : Text) : BleManager :=
  { s with connections := s.connections.filter (·.1 ≠ deviceId) }

/-! ## Tasks -/

def startTask (s : BleManager) (t : ManagerTask) : BleManager := { s with tasks := s.tasks ++ [t] }

def setTask (s : BleManager) (task : ℕ) (t : ManagerTask) : BleManager :=
  { s with tasks := s.tasks.set task t }

/-- A lifecycle removal after its connection was stopped.
SOURCE: device_lifecycle.py:89-91 -/
def forget (s : BleManager) (forgets : Option Text) : BleManager :=
  match forgets with
  | none => s
  | some deviceId => { s with
      configurationResults := s.configurationResults.filter (·.1 ≠ deviceId) }

/-- A removal and what follows it, up to the next `await` or to the end. -/
def removeThen (s : BleManager) (deviceId : Text) (forgets : Option Text) : BleManager :=
  if s.manages deviceId then (s.pop deviceId).startTask (.stopping forgets)
  else s.forget forgets

/-- The removals of a pause, up to the first connection that is stopped; the rest of the list is
empty when all are gone.
SOURCE: manager.py:62-65, 72-73 -/
def popFirst (s : BleManager) : List Text → BleManager × Option (List Text)
  | [] => (s, none)
  | deviceId :: remaining =>
    if s.manages deviceId then (s.pop deviceId, some remaining) else s.popFirst remaining

/-- A pause goes on with the connections that remain.
SOURCE: manager.py:72-75 -/
def pauseRest (s : BleManager) (task : ℕ) (remaining : List Text)
    (scheduled : List (Text × Text)) : BleManager :=
  match s.popFirst remaining with
  | (s, some remaining) => s.setTask task (.pausing remaining scheduled)
  | (s, none) => s.setTask task (.scanning scheduled)

/-- What comes after a pause.
SOURCE: manager.py:74-78 -/
def unpause (s : BleManager) (task : ℕ) (scheduled : List (Text × Text)) : BleManager :=
  ({ s with pauseLocked := false }.scheduleAll scheduled).setTask task .done

/-! ## Operations -/

/-- SOURCE: devices.py:48-62; device_service.py:16-41 -/
def register (s : BleManager) (deviceId address : Text) (accepted : Bool) : BleManager :=
  if !accepted || (s.getDevice deviceId).isSome ||
      s.devices.any (fun device => device.bleAddress = some address && !device.archived) then s
  else
    let device : RegisteredDevice := { deviceId := deviceId, bleAddress := some address }
    { s with devices := s.devices ++ [device] }.schedule deviceId address

/-- SOURCE: devices.py:73-84 -/
def patch (s : BleManager) (deviceId : Text) (enabled : Option Bool) : BleManager :=
  match s.getDevice deviceId with
  | none => s
  | some device =>
    if device.archived then s
    else match enabled with
      | none => s
      | some false => (s.updateDevice deviceId (·.withEnabled false)).removeThen deviceId none
      | some true =>
        let s := s.updateDevice deviceId (·.withEnabled true)
        match device.bleAddress with
        | none => s
        | some address => s.schedule deviceId address

/-- SOURCE: devices.py:95-105 -/
def connect (s : BleManager) (deviceId : Text) : BleManager :=
  match s.getDevice deviceId with
  | none => s
  | some device =>
    if device.archived || !device.enabled then s
    else match device.bleAddress with
      | none => s
      | some address => s.schedule deviceId address

/-- The connection of a node makes way for the provisioner.
SOURCE: nodes.py:88-92, 125-137 -/
def clearTheWay (s : BleManager) (nodeId address : Text) (result : Option (Text × Text)) :
    BleManager :=
  if s.manages nodeId then (s.pop nodeId).startTask (.clearing nodeId address result)
  else s.startTask (.working nodeId address result)

/-- SOURCE: nodes.py:83-92 -/
def readConfiguration (s : BleManager) (nodeId : Text) : BleManager :=
  match (s.getDevice nodeId).bind (·.bleAddress) with
  | none => s
  | some address => s.clearTheWay nodeId address none

/-- SOURCE: nodes.py:114-140 -/
def configure (s : BleManager) (nodeId transactionId : Text) : BleManager :=
  match (s.getDevice nodeId).bind (·.bleAddress) with
  | none => s
  | some address =>
    if (nodeId, transactionId) ∈ s.configurationResults then s
    else s.clearTheWay nodeId address (some (nodeId, transactionId))

/-- The configurator waits for half a second in any case.
SOURCE: provisioning_service.py:59-75 -/
def applyConfiguration (s : BleManager) (nodeId interfaceId : Text) : BleManager :=
  if interfaceId ≠ "MIC".toList then s
  else match (s.getDevice nodeId).bind (·.bleAddress) with
    | none => s
    | some address => (s.pop nodeId).startTask (.clearing nodeId address none)

/-- SOURCE: device_lifecycle.py:85-91; device_lifecycle_service.py:43-57 -/
def lifecycleRemove (s : BleManager) (deviceId : Text) : BleManager :=
  match s.getDevice deviceId with
  | none => s
  | some device =>
    let s := if device.archived then s else s.updateDevice deviceId (·.removed)
    s.removeThen deviceId (some deviceId)

/-- SOURCE: device_lifecycle.py:92-99; device_lifecycle_service.py:78-103 -/
def lifecycleRestore (s : BleManager) (deviceId : Text) (identified : Bool) : BleManager :=
  match s.getDevice deviceId with
  | none => s
  | some device =>
    if device.archived && !identified then s
    else
      let s := if device.archived then s.updateDevice deviceId (·.restored) else s
      match device.bleAddress with
      | none => s
      | some address => s.schedule deviceId address

/-- What a task awaits comes about. -/
def resumes (s : BleManager) (task : ℕ) : BleManager :=
  match s.tasks[task]? with
  | some (.stopping forgets) => (s.forget forgets).setTask task .done
  | some (.clearing nodeId address result) => s.setTask task (.working nodeId address result)
  | some (.working nodeId address result) =>
    let s := (s.schedule nodeId address).setTask task .done
    { s with configurationResults := s.configurationResults ++ result.toList }
  | some .waitingToPause =>
    if s.pauseLocked then s
    else { s with pauseLocked := true }.pauseRest task (s.connections.map Prod.fst) s.connections
  | some (.pausing remaining scheduled) => s.pauseRest task remaining scheduled
  | some (.scanning scheduled) => s.unpause task scheduled
  | _ => s

/-- It raises: only what is in a `try` schedules its connections again. -/
def raises (s : BleManager) (task : ℕ) : BleManager :=
  match s.tasks[task]? with
  | some (.working nodeId address _) => (s.schedule nodeId address).setTask task .done
  | some (.pausing _ _) => { s with pauseLocked := false }.setTask task .done
  | some (.scanning scheduled) => s.unpause task scheduled
  | some _ => s.setTask task .done
  | none => s

/-- One event. -/
def next (s : BleManager) : ManagerEvent → BleManager
  | .register deviceId address accepted => s.register deviceId address accepted
  | .patch deviceId enabled => s.patch deviceId enabled
  | .connect deviceId => s.connect deviceId
  | .readConfiguration nodeId => s.readConfiguration nodeId
  | .configure nodeId transactionId => s.configure nodeId transactionId
  | .applyConfiguration nodeId interfaceId => s.applyConfiguration nodeId interfaceId
  | .lifecycleRemove deviceId => s.lifecycleRemove deviceId
  | .lifecycleRestore deviceId identified => s.lifecycleRestore deviceId identified
  | .scan => s.startTask .waitingToPause
  | .resumes task => s.resumes task
  | .raises task => s.raises task

/-- The gateway after its start.
SOURCE: main.py:139-142 -/
def start (devices : DeviceTable) : BleManager where
  devices := devices.rows
  connections := devices.rows.filterMap fun device =>
    if device.archived || !device.enabled then none
    else device.bleAddress.map fun address => (device.deviceId, address)

end BleManager

end SeedMg24.Model
