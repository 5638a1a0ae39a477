import SeedMg24.Foundation.Text
import SeedMg24.Model.NvmBackend

/-!
# The factory reset controller

The reset transaction of `factory_reset.h` and `factory_reset.cpp`: a marker record is written
before the first key is removed and cleared only on a later boot, after all keys were found
absent.  A method of the controller takes its state and returns the state after it.
-/

set_option autoImplicit false

namespace SeedMg24.Model

open Foundation

/-- SOURCE: factory_reset.h:4 -/
inductive ResetScope where
  | configurationOnly | applicationFactory
deriving DecidableEq, Repr

/-- SOURCE: factory_reset.h:5 -/
inductive ResetStage where
  | markerWritten | keysCleared
deriving DecidableEq, Repr

/-- The byte a stage is stored as. -/
def ResetStage.code : ResetStage → UInt8
  | .markerWritten => 1
  | .keysCleared => 2

/-- A zeroed challenge is the default; its scope byte names no scope.
SOURCE: factory_reset.h:6-13 -/
structure ResetChallenge where
  pending : Bool := false
  scope : Option ResetScope := none
  challenge : Text := []
  operationId : Text := []
  hardwareId : Text := []
  expiresAtMs : UInt32 := 0
deriving DecidableEq, Repr

/-- SOURCE: factory_reset.h:14 -/
structure ResetResult where
  status : StoreStatus
  deletedCount : ℕ := 0
  failedCount : ℕ := 0
deriving DecidableEq, Repr

/-- SOURCE: factory_reset.h:16-43 -/
structure FactoryResetController where
  challenge : ResetChallenge := {}
  busyFlag : Bool := false
  markerActive : Bool := false
  rebootRequired : Bool := false
deriving DecidableEq, Repr

def FactoryResetController.busy (c : FactoryResetController) : Bool := c.busyFlag || c.markerActive

/-- SOURCE: factory_reset.cpp:7 -/
def kMarkerVersion : UInt8 := 1

/-- SOURCE: factory_reset.cpp:12-15 -/
def markerPayload (operationId : Text) (stage : ResetStage) : List UInt8 :=
  [kMarkerVersion, stage.code, UInt8.ofNat operationId.length] ++ operationId.toBytes

/-- What the bytes read under the marker key mean.
SOURCE: factory_reset.cpp:33-40 -/
def parseMarker (record : List UInt8) : Except StoreStatus (Text × ResetStage) :=
  match decodePersistentRecord record .storeMetadata with
  | .error s => .error s
  | .ok view =>
    if view.payload.length ≠ 35 ∨ byteAt view.payload 0 ≠ kMarkerVersion ∨
        byteAt view.payload 2 ≠ 32 ∨ byteAt view.payload 1 < ResetStage.markerWritten.code ∨
        byteAt view.payload 1 > ResetStage.keysCleared.code then
      .error .corrupt
    else
      .ok ((Text.ofBytes ((view.payload.drop 3).take 32)).cString,
        if byteAt view.payload 1 = ResetStage.markerWritten.code then .markerWritten
        else .keysCleared)

/-- SOURCE: factory_reset.cpp:28-41 -/
def readMarker : NvmProgram (Except StoreStatus (Text × ResetStage)) := do
  match ← backendRead kResetTransactionMarker kPersistentMaxRecord with
  | .error s => return .error s
  | .ok record => return parseMarker record

/-- SOURCE: factory_reset.cpp:11-26 -/
def writeMarker (operationId : Text) (stage : ResetStage) : NvmProgram StoreStatus := do
  if operationId.length ≠ 32 then return .invalidArgument
  match encodePersistentRecord .storeMetadata 1 0 (markerPayload operationId stage)
      kPersistentMaxRecord with
  | .error s => return s
  | .ok record =>
    let s ← backendWrite kResetTransactionMarker record
    if s ≠ .ok then return s
    match ← readMarker with
    | .error _ => return .readbackFailed
    | .ok (verified, verifiedStage) =>
      return if verified = operationId ∧ verifiedStage = stage then .ok else .readbackFailed

/-- The loop of `reset_keys_absent` over the keys not yet looked at.
SOURCE: factory_reset.cpp:45-48 -/
def keysAbsent : List UInt32 → NvmProgram Bool
  | [] => return true
  | key :: keys => do
    match ← backendRead key 1 with
    | .error .notFound => keysAbsent keys
    | _ => return false

/-- SOURCE: factory_reset.cpp:43-49 -/
def resetKeysAbsent : NvmProgram Bool := keysAbsent kApplicationFactoryReset

/-- SOURCE: factory_reset.cpp:51-57 -/
def clearMarker : NvmProgram StoreStatus := do
  let s ← backendRemove kResetTransactionMarker
  if s ≠ .ok then return s
  match ← backendRead kResetTransactionMarker 1 with
  | .error .notFound => return .ok
  | _ => return .readbackFailed

/-- The erase loop of `confirm`: every key is removed and looked at, and counted.
SOURCE: factory_reset.cpp:78-82, 90-94 -/
def eraseKeys : List UInt32 → ResetResult → NvmProgram ResetResult
  | [], result => return result
  | key :: keys, result => do
    let removed ← backendRemove key
    match removed, ← backendRead key 1 with
    | .ok, .error .notFound => eraseKeys keys { result with deletedCount := result.deletedCount + 1 }
    | _, _ => eraseKeys keys { result with failedCount := result.failedCount + 1 }

namespace FactoryResetController

/-- The texts are those behind the source's pointers, none of them null; the output receives the
new challenge.
SOURCE: factory_reset.cpp:59-67 -/
def prepare (c : FactoryResetController) (scope : ResetScope)
    (hardwareId expectedHardwareId operationId challenge : Text) (now ttl : UInt32) :
    StoreStatus × FactoryResetController :=
  if ttl < 1000 ∨ ttl > 300000 ∨ c.challenge.pending ∨ c.markerActive ∨
      hardwareId ≠ expectedHardwareId ∨ operationId.length ≠ 32 ∨ challenge.length ≠ 32 then
    (.invalidArgument, c)
  else
    (.ok, { c with challenge := {
      pending := true, scope := some scope, challenge, operationId, hardwareId,
      expiresAtMs := now + ttl } })

/-- The checks of `confirm` on the consumed challenge.
SOURCE: factory_reset.cpp:74-75 -/
def confirmable (pending : ResetChallenge) (scope : ResetScope)
    (expectedHardwareId operationId challenge : Text) (now : UInt32) : Bool :=
  pending.scope = some scope ∧ pending.hardwareId = expectedHardwareId ∧
    pending.operationId = operationId ∧ pending.challenge = challenge ∧
    ¬ now - pending.expiresAtMs < 0x80000000

/-- SOURCE: factory_reset.cpp:69-100 -/
def confirm (c : FactoryResetController) (scope : ResetScope)
    (expectedHardwareId operationId challenge : Text) (now : UInt32) :
    NvmProgram (ResetResult × FactoryResetController) := do
  if !c.challenge.pending then return ({ status := .invalidArgument }, c)
  let pending := c.challenge
  let c := { c with challenge := { c.challenge with pending := false } }
  if !confirmable pending scope expectedHardwareId operationId challenge now then
    return ({ status := .invalidArgument }, c)
  match scope with
  | .configurationOnly =>
    let result ← eraseKeys kConfigurationReset { status := .invalidArgument }
    return ({ result with status := if result.failedCount ≠ 0 then .writeFailed else .ok },
      { c with busyFlag := false })
  | .applicationFactory =>
    let status ← writeMarker operationId .markerWritten
    if status ≠ .ok then return ({ status }, { c with busyFlag := false })
    let c := { c with markerActive := true }
    let result ← eraseKeys kApplicationFactoryReset { status := .invalidArgument }
    if result.failedCount ≠ 0 then
      return ({ result with status := .writeFailed }, { c with busyFlag := false })
    let status ← writeMarker operationId .keysCleared
    return ({ result with status },
      { c with busyFlag := false, rebootRequired := c.rebootRequired || status = .ok })

/-- The removal loop of `recover_on_boot`: it stops at the first removal that fails.
SOURCE: factory_reset.cpp:111-114 -/
def removeKeys : List UInt32 → NvmProgram StoreStatus
  | [] => return .ok
  | key :: keys => do
    let s ← backendRemove key
    if s ≠ .ok then return s
    removeKeys keys

/-- Returns the status, `recovery_pending` and the controller.
SOURCE: factory_reset.cpp:102-123 -/
def recoverOnBoot (c : FactoryResetController) :
    NvmProgram (StoreStatus × Bool × FactoryResetController) := do
  let marker ← readMarker
  match marker with
  | .error .notFound => return (.ok, false, { c with markerActive := false })
  | marker =>
    let c := { c with markerActive := true }
    let giveUp := match marker with
      | .ok _ => none
      | .error .corrupt => none
      | .error .integrityFailed => none
      | .error s => some s
    match giveUp with
    | some s => return (s, false, c)
    | none =>
      if ← resetKeysAbsent then return (.ok, true, c)
      let s ← removeKeys kApplicationFactoryReset
      if s ≠ .ok then return (s, false, c)
      if !(← resetKeysAbsent) then return (.integrityFailed, false, c)
      match marker with
      | .error _ => return (.ok, true, c)
      | .ok (operationId, _) =>
        let s ← writeMarker operationId .keysCleared
        if s ≠ .ok then return (s, false, c)
        return (.ok, true, c)

/-- The conditions are tried in the source's order: the keys are only read when the first two
hold.
SOURCE: factory_reset.cpp:125-130 -/
def completeRecoveryOnBoot (c : FactoryResetController) (unprovisionedBootstrapReady : Bool) :
    NvmProgram (StoreStatus × FactoryResetController) := do
  if !c.markerActive || !unprovisionedBootstrapReady then return (.integrityFailed, c)
  if !(← resetKeysAbsent) then return (.integrityFailed, c)
  let status ← clearMarker
  return (status, if status = .ok then { c with markerActive := false } else c)

/-- SOURCE: factory_reset.cpp:132 -/
def cancel (c : FactoryResetController) : FactoryResetController :=
  { c with challenge := { c.challenge with pending := false } }

end FactoryResetController

end SeedMg24.Model
