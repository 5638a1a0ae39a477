import SeedMg24.Model.Installations

/-!
# The provisioning service

`SensorProvisioningService` of `services/provisioning_service.py` and the other writers of
installations, as a machine.  An endpoint without an `await` is one event.  A call of `apply` or
`verify` is a task that moves on when what it awaits comes about: a lock, or the end of a call of
the configurator.  Ids are the numbers of the rows; what the calls return to their callers is left
out.
-/

set_option autoImplicit false

namespace SeedMg24.Model

open Foundation

/-- A call of `apply` or `verify`, by what it awaits. -/
inductive ProvisioningTask (κ : Type) where
  /-- `apply`: the lock of the node -/
  | waitingForNode (installationId : ℕ) (nodeId interfaceId : Text)
  /-- `apply`: the lock of the interface -/
  | waitingForInterface (installationId : ℕ) (nodeId interfaceId : Text)
  /-- `apply`: the configurator's `apply` -/
  | applying (installationId : ℕ) (nodeId interfaceId : Text) (transactionId : ℕ) (requested : κ)
  /-- `verify`: the configurator's `read_back`, with the locks of the `apply` it is part of -/
  | readingBack (installationId : ℕ) (transactionId : ℕ) (requested : κ)
      (locks : Option (Text × Text))
  | done
deriving DecidableEq, Repr

namespace ProvisioningTask

variable {κ : Type}

/-- The node whose lock a task holds. -/
def nodeLock : ProvisioningTask κ → Option Text
  | waitingForInterface _ nodeId _ => some nodeId
  | applying _ nodeId _ _ _ => some nodeId
  | readingBack _ _ _ locks => locks.map Prod.fst
  | _ => none

/-- The interface whose lock a task holds. -/
def interfaceLock : ProvisioningTask κ → Option (Text × Text)
  | applying _ nodeId interfaceId _ _ => some (nodeId, interfaceId)
  | readingBack _ _ _ locks => locks
  | _ => none

end ProvisioningTask

/-- What passed between the service and the configurator. -/
inductive ConfiguratorCall (κ : Type) where
  /-- `apply` was called -/
  | applies (installationId : ℕ) (requested : κ)
  /-- `apply` returned -/
  | applied (installationId : ℕ) (applied : κ)
  /-- `apply` ended in a timeout or a transport failure -/
  | lost (installationId : ℕ)
  /-- `read_back` returned -/
  | readBack (installationId : ℕ) (value : κ)
deriving DecidableEq, Repr

/-- The database, the locks and the tasks of the service; `calls` is what passed between it and the
configurator so far.
SOURCE: provisioning_service.py:88-94 -/
structure ProvisioningService (κ : Type) where
  devices : List RegisteredDevice
  installations : List (Installation κ) := []
  attempts : List (ProvisioningAttempt κ) := []
  nodeLocks : List Text := []
  interfaceLocks : List (Text × Text) := []
  tasks : List (ProvisioningTask κ) := []
  calls : List (ConfiguratorCall κ) := []

/-- What happens to the service. -/
inductive ProvisioningEvent (κ : Type) where
  /-- `accepted` says whether the other checks of the request pass -/
  | create (nodeId interfaceId sensorProfileVersion : Text) (configuration : κ) (accepted : Bool)
  | update (installationId : ℕ) (configuration : κ) (accepted : Bool)
  /-- `failure` is the text of the check that fails -/
  | validate (installationId : ℕ) (failure : Option Text)
  | disable (installationId : ℕ)
  | archive (installationId : ℕ)
  | upgradeProfile (installationId : ℕ) (version : Text) (accepted : Bool)
  | removeDevice (nodeId : Text)
  /-- `identified` says whether the identities are those of the removed registration -/
  | restoreDevice (nodeId : Text) (identified : Bool)
  /-- the registration step of reset-reregister, with the choice to restore -/
  | reregister (nodeId : Text) (identified : Bool)
  /-- a node reports its firmware -/
  | reportCompatibility (nodeId status : Text)
  /-- `apply` is called, up to its first `await` -/
  | apply (installationId : ℕ)
  /-- `verify` is called, up to its first `await` -/
  | verify (installationId : ℕ)
  /-- a task gets the lock of its node -/
  | acquireNode (task : ℕ)
  /-- a task gets the lock of its interface, and goes on -/
  | acquireInterface (task : ℕ)
  /-- the configurator's `apply` returns -/
  | applyReturns (task : ℕ) (applied : κ)
  /-- it times out or raises a `ConnectionError` -/
  | applyIsLost (task : ℕ) (timedOut : Bool)
  /-- it raises a `ValueError` -/
  | applyRejects (task : ℕ) (error : Text)
  /-- the configurator's `read_back` returns, and there is recent telemetry or not -/
  | readBackReturns (task : ℕ) (value : κ) (recentReading : Bool)
  /-- it raises an error that is handled -/
  | readBackFails (task : ℕ) (error : Text)
  /-- a task is cancelled, or what it awaits raises any other exception -/
  | interrupt (task : ℕ)

namespace ProvisioningService

variable {κ : Type}

/-! ## Repositories -/

/-- SOURCE: device_repository.py:24-25 -/
def getDevice (s : ProvisioningService κ) (nodeId : Text) : Option RegisteredDevice :=
  s.devices.find? (·.deviceId = nodeId)

/-- Whether the capabilities of a node can be had.
SOURCE: node_capability_service.py:17-20 -/
def hasCapabilities (s : ProvisioningService κ) (nodeId : Text) : Bool :=
  (s.getDevice nodeId).any fun device => !device.archived

/-- SOURCE: installation_repository.py:25-26 -/
def get (s : ProvisioningService κ) (installationId : ℕ) : Option (Installation κ) :=
  s.installations[installationId]?

/-- The id of an installation that takes up an interface, other than the one excluded.
SOURCE: installation_repository.py:28-37 -/
def occupiedInterface (s : ProvisioningService κ) (nodeId interfaceId : Text)
    (excluded : Option ℕ) : Option ℕ :=
  (List.range s.installations.length).find? fun i =>
    decide (some i ≠ excluded) && (s.get i).any fun row =>
      decide (row.nodeId = nodeId) && decide (row.interfaceId = interfaceId) && row.occupies

/-- SOURCE: installation_repository.py:50-58 -/
def updateInstallation (s : ProvisioningService κ) (installationId : ℕ)
    (f : Installation κ → Installation κ) : ProvisioningService κ :=
  { s with installations := s.installations.modify installationId f }

/-- SOURCE: installation_repository.py:70-75 -/
def updateAttempt (s : ProvisioningService κ) (transactionId : ℕ)
    (f : ProvisioningAttempt κ → ProvisioningAttempt κ) : ProvisioningService κ :=
  { s with attempts := s.attempts.modify transactionId f }

/-- Every installation of a node. -/
def updateInstallationsOf (s : ProvisioningService κ) (nodeId : Text)
    (f : Installation κ → Installation κ) : ProvisioningService κ :=
  { s with installations := s.installations.map fun row => if row.nodeId = nodeId then f row else row }

def updateDevice (s : ProvisioningService κ) (nodeId : Text)
    (f : RegisteredDevice → RegisteredDevice) : ProvisioningService κ :=
  { s with devices := s.devices.map fun device => if device.deviceId = nodeId then f device else device }

/-- A call, or its end, is noted. -/
def note (s : ProvisioningService κ) (call : ConfiguratorCall κ) : ProvisioningService κ :=
  { s with calls := s.calls ++ [call] }

/-! ## Endpoints without an `await` -/

/-- SOURCE: installation_service.py:28-63 -/
def create (s : ProvisioningService κ) (nodeId interfaceId sensorProfileVersion : Text)
    (configuration : κ) (accepted : Bool) : ProvisioningService κ :=
  if !accepted || !s.hasCapabilities nodeId || (interfaceOf interfaceId).isNone then s
  else if isExclusive interfaceId && (s.occupiedInterface nodeId interfaceId none).isSome then s
  else { s with installations := s.installations ++ [{
    nodeId := nodeId
    interfaceId := interfaceId
    sensorProfileVersion := sensorProfileVersion
    configuration := configuration }] }

/-- SOURCE: installations.py:59-70; installation_service.py:65-79 -/
def update (s : ProvisioningService κ) (installationId : ℕ) (configuration : κ)
    (accepted : Bool) : ProvisioningService κ :=
  match s.get installationId with
  | none => s
  | some row =>
    if row.archived || !s.hasCapabilities row.nodeId || !accepted then s
    else s.updateInstallation installationId (·.updated configuration)

/-- SOURCE: provisioning_service.py:96-128 -/
def validate (s : ProvisioningService κ) (installationId : ℕ) (failure : Option Text) :
    ProvisioningService κ :=
  match s.get installationId with
  | none => s
  | some row =>
    if row.archived then s
    else s.updateInstallation installationId (·.validated <| failure.or <|
      if s.hasCapabilities row.nodeId then none else some "MG24 node not found".toList)

/-- SOURCE: installations.py:97-103 -/
def disable (s : ProvisioningService κ) (installationId : ℕ) : ProvisioningService κ :=
  s.updateInstallation installationId (·.disabled)

/-- SOURCE: installations.py:203-214 -/
def archive (s : ProvisioningService κ) (installationId : ℕ) : ProvisioningService κ :=
  s.updateInstallation installationId (·.archive)

/-- SOURCE: installations.py:106-134 -/
def upgradeProfile (s : ProvisioningService κ) (installationId : ℕ) (version : Text)
    (accepted : Bool) : ProvisioningService κ :=
  match s.get installationId with
  | none => s
  | some row =>
    if row.sensorProfileVersion = version then s
    else if !s.hasCapabilities row.nodeId || !accepted then s
    else s.updateInstallation installationId (·.upgraded version)

/-- SOURCE: device_lifecycle_service.py:34-76 -/
def removeDevice (s : ProvisioningService κ) (nodeId : Text) : ProvisioningService κ :=
  match s.getDevice nodeId with
  | none => s
  | some device =>
    if device.archived then s
    else (s.updateDevice nodeId (·.removed)).updateInstallationsOf nodeId (·.removed)

/-- Whether a restoration goes through.
SOURCE: device_lifecycle_service.py:79-95 -/
def canRestore (s : ProvisioningService κ) (nodeId : Text) (identified : Bool) : Bool :=
  (s.getDevice nodeId).any fun device => !device.archived || identified

/-- SOURCE: device_lifecycle_service.py:78-115 -/
def restoreDevice (s : ProvisioningService κ) (nodeId : Text) (identified : Bool) :
    ProvisioningService κ :=
  match s.getDevice nodeId with
  | none => s
  | some device =>
    if !device.archived then s
    else if identified then s.updateDevice nodeId (·.restored)
    else s

/-- SOURCE: reset_reregister.py:589-598 -/
def reregister (s : ProvisioningService κ) (nodeId : Text) (identified : Bool) :
    ProvisioningService κ :=
  if s.canRestore nodeId identified then
    (s.restoreDevice nodeId identified).updateInstallationsOf nodeId (·.restored)
  else s

/-- SOURCE: main.py:98-118 -/
def reportCompatibility (s : ProvisioningService κ) (nodeId status : Text) :
    ProvisioningService κ :=
  s.updateDevice nodeId fun device =>
    if device.archived || !device.enabled then device
    else { device with compatibilityStatus := status }

/-! ## Tasks -/

/-- A task moves on. -/
def setTask (s : ProvisioningService κ) (task : ℕ) (t : ProvisioningTask κ) :
    ProvisioningService κ :=
  { s with tasks := s.tasks.set task t }

/-- A task ends, and its locks are released. -/
def finish (s : ProvisioningService κ) (task : ℕ) : ProvisioningService κ :=
  match s.tasks[task]? with
  | none => s
  | some t =>
    { s with
      tasks := s.tasks.set task .done
      nodeLocks := s.nodeLocks.diff t.nodeLock.toList
      interfaceLocks := s.interfaceLocks.diff t.interfaceLock.toList }

/-- SOURCE: provisioning_service.py:263-290 -/
def fail (s : ProvisioningService κ) (installationId transactionId : ℕ) (error : Text) :
    ProvisioningService κ :=
  (s.updateAttempt transactionId fun attempt =>
    { attempt with state := .failed, error := some error }).updateInstallation installationId
      (·.fail error)

/-- SOURCE: provisioning_service.py:292-319 -/
def uncertain (s : ProvisioningService κ) (installationId transactionId : ℕ) (error : Text) :
    ProvisioningService κ :=
  (s.updateAttempt transactionId fun attempt =>
    { attempt with state := .reconciling, error := some error }).updateInstallation installationId
      (·.uncertain transactionId error)

/-- SOURCE: provisioning_service.py:130-138 -/
def apply (s : ProvisioningService κ) (installationId : ℕ) : ProvisioningService κ :=
  match s.get installationId with
  | none => s
  | some row =>
    if row.archived || decide (row.provisioningState = .active) then s
    else { s with
      tasks := s.tasks ++ [.waitingForNode installationId row.nodeId row.interfaceId] }

/-- SOURCE: provisioning_service.py:139 -/
def acquireNode (s : ProvisioningService κ) (task : ℕ) : ProvisioningService κ :=
  match s.tasks[task]? with
  | some (.waitingForNode installationId nodeId interfaceId) =>
    if nodeId ∈ s.nodeLocks then s
    else { s with nodeLocks := nodeId :: s.nodeLocks }.setTask task
      (.waitingForInterface installationId nodeId interfaceId)
  | _ => s

/-- Whether the transaction of a row is one that needs no new attempt.
SOURCE: provisioning_service.py:156-159 -/
def underWay (s : ProvisioningService κ) (transactionId : Option ℕ) : Bool :=
  (transactionId.bind (s.attempts[·]?)).any fun attempt =>
    attempt.state ∈ [.applying, .verifying, .active]

/-- The checks under the locks: the requested configuration, if there is something to apply.
SOURCE: provisioning_service.py:140-163 -/
def checkApply (s : ProvisioningService κ) (installationId : ℕ) (nodeId interfaceId : Text) :
    Option κ :=
  match s.get installationId with
  | none => none
  | some row =>
    if row.archived || decide (row.provisioningState = .active) then none
    else if (s.getDevice nodeId).all (·.compatibilityStatus ≠ "compatible".toList) then none
    else if !s.hasCapabilities nodeId then none
    else if isExclusive interfaceId &&
        (s.occupiedInterface nodeId interfaceId (some installationId)).isSome then none
    else if s.underWay row.activeTransactionId then none
    else if row.provisioningState ≠ .readyToApply then none
    else some row.configuration

/-- SOURCE: provisioning_service.py:139-181 -/
def acquireInterface (s : ProvisioningService κ) (task : ℕ) : ProvisioningService κ :=
  match s.tasks[task]? with
  | some (.waitingForInterface installationId nodeId interfaceId) =>
    if (nodeId, interfaceId) ∈ s.interfaceLocks then s
    else match s.checkApply installationId nodeId interfaceId with
      | none => s.finish task
      | some requested =>
        let transactionId := s.attempts.length
        let attempt : ProvisioningAttempt κ := {
          installationId := installationId
          requestedConfiguration := requested
          state := .applying }
        let s := { s with
          interfaceLocks := (nodeId, interfaceId) :: s.interfaceLocks
          attempts := s.attempts ++ [attempt] }
        let s := s.updateInstallation installationId (·.applying transactionId)
        let s := s.note (.applies installationId requested)
        s.setTask task (.applying installationId nodeId interfaceId transactionId requested)
  | _ => s

/-- What a call of `verify` does before it awaits: `none` if there is no transaction to verify.
SOURCE: provisioning_service.py:210-221 -/
def beginVerify (s : ProvisioningService κ) (installationId : ℕ) (locks : Option (Text × Text)) :
    Option (ProvisioningTask κ) :=
  (s.get installationId).bind fun row => row.activeTransactionId.map fun transactionId =>
    .readingBack installationId transactionId row.configuration locks

def verify (s : ProvisioningService κ) (installationId : ℕ) : ProvisioningService κ :=
  match s.beginVerify installationId none with
  | none => s
  | some t => { s with tasks := s.tasks ++ [t] }

/-- SOURCE: provisioning_service.py:202-208 -/
def applyReturns (s : ProvisioningService κ) (task : ℕ) (applied : κ) : ProvisioningService κ :=
  match s.tasks[task]? with
  | some (.applying installationId nodeId interfaceId transactionId _) =>
    let s := ((s.note (.applied installationId applied)).updateAttempt transactionId fun attempt =>
      { attempt with state := .verifying, appliedConfiguration := some applied }).updateInstallation
        installationId (·.verifying)
    match s.beginVerify installationId (some (nodeId, interfaceId)) with
    | none => s.finish task
    | some t => s.setTask task t
  | _ => s

/-- SOURCE: provisioning_service.py:182-195 -/
def applyIsLost (s : ProvisioningService κ) (task : ℕ) (timedOut : Bool) :
    ProvisioningService κ :=
  match s.tasks[task]? with
  | some (.applying installationId _ _ transactionId _) =>
    let error := if timedOut then "acknowledgement_timeout" else "transport_failure"
    ((s.note (.lost installationId)).uncertain installationId transactionId error.toList).finish task
  | _ => s

/-- SOURCE: provisioning_service.py:196-201 -/
def applyRejects (s : ProvisioningService κ) (task : ℕ) (error : Text) : ProvisioningService κ :=
  match s.tasks[task]? with
  | some (.applying installationId _ _ transactionId _) =>
    (s.fail installationId transactionId error).finish task
  | _ => s

/-- SOURCE: provisioning_service.py:223-225 -/
def readBackFails (s : ProvisioningService κ) (task : ℕ) (error : Text) : ProvisioningService κ :=
  match s.tasks[task]? with
  | some (.readingBack installationId transactionId _ _) =>
    (s.fail installationId transactionId error).finish task
  | _ => s

/-- How a read-back that returned is judged. -/
inductive Judgement where
  | mismatch
  /-- the capabilities of the node cannot be had any more: the exception is not handled -/
  | raises
  | noTelemetry
  | succeeds
deriving DecidableEq, Repr

/-- SOURCE: provisioning_service.py:226-248 -/
def judge [DecidableEq κ] (s : ProvisioningService κ) (installationId : ℕ)
    (requested value : κ) (recentReading : Bool) : Judgement :=
  if value ≠ requested then .mismatch
  else if !((s.get installationId).any fun row => s.hasCapabilities row.nodeId) then .raises
  else if recentReading then .succeeds
  else .noTelemetry

/-- SOURCE: provisioning_service.py:226-261 -/
def readBackReturns [DecidableEq κ] (s : ProvisioningService κ) (task : ℕ) (value : κ)
    (recentReading : Bool) : ProvisioningService κ :=
  match s.tasks[task]? with
  | some (.readingBack installationId transactionId requested _) =>
    let s := s.note (.readBack installationId value)
    match s.judge installationId requested value recentReading with
    | .mismatch =>
      (s.fail installationId transactionId "configuration_readback_mismatch".toList).finish task
    | .raises => s.finish task
    | .noTelemetry =>
      (s.fail installationId transactionId "no_recent_valid_telemetry".toList).finish task
    | .succeeds =>
      ((s.updateAttempt transactionId fun attempt =>
        { attempt with state := .active }).updateInstallation installationId
          (·.activated)).finish task
  | _ => s

/-- One event. -/
def next [DecidableEq κ] (s : ProvisioningService κ) :
    ProvisioningEvent κ → ProvisioningService κ
  | .create nodeId interfaceId version configuration accepted =>
    s.create nodeId interfaceId version configuration accepted
  | .update installationId configuration accepted => s.update installationId configuration accepted
  | .validate installationId failure => s.validate installationId failure
  | .disable installationId => s.disable installationId
  | .archive installationId => s.archive installationId
  | .upgradeProfile installationId version accepted =>
    s.upgradeProfile installationId version accepted
  | .removeDevice nodeId => s.removeDevice nodeId
  | .restoreDevice nodeId identified => s.restoreDevice nodeId identified
  | .reregister nodeId identified => s.reregister nodeId identified
  | .reportCompatibility nodeId status => s.reportCompatibility nodeId status
  | .apply installationId => s.apply installationId
  | .verify installationId => s.verify installationId
  | .acquireNode task => s.acquireNode task
  | .acquireInterface task => s.acquireInterface task
  | .applyReturns task applied => s.applyReturns task applied
  | .applyIsLost task timedOut => s.applyIsLost task timedOut
  | .applyRejects task error => s.applyRejects task error
  | .readBackReturns task value recentReading => s.readBackReturns task value recentReading
  | .readBackFails task error => s.readBackFails task error
  | .interrupt task => s.finish task

end ProvisioningService

end SeedMg24.Model
