import SeedMg24.Model.OnboardingIdentity

/-!
# Factory resets over USB

`UsbFactoryResetService` of `services/usb_factory_reset.py`: the confirmations it hands out, and the
operations that reset a sensor and read it back.  What the sensor answers comes with each call.
-/

set_option autoImplicit false

namespace SeedMg24.Model

open Foundation

/-- What a sensor tells about itself over USB. -/
structure SensorState where
  hardwareId : Option Text
  nodeId : Option Text
  identityStatus : Option Text
  provisioningState : Option Text := none
  resetMarkerState : Option Text := none
  telemetryEnabled : Option Bool := none
  bootstrapAvailable : Option Bool := none
  firmwareVersion : Option Text := none
deriving DecidableEq, Repr

/-- `inspect`, from what the two attempts at a port lead to.
SOURCE: usb_factory_reset.py:58-79 -/
def inspectSensor (reading : Except Text SensorState) : Except Text SensorState :=
  match reading with
  | .error message => .error message
  | .ok state =>
    if !Onboarding.hardwareIdPattern (state.hardwareId.getD []) then
      .error "sensor did not report a valid immutable hardware identity".toList
    else .ok state

/-- SOURCE: usb_factory_reset.py:25, 121, 168, 193, 196 -/
inductive ResetState where
  | queued
  | preparing
  | rebooting
  | physicalComplete
  | failed
deriving DecidableEq, Repr

/-- SOURCE: usb_factory_reset.py:18-31 -/
structure UsbResetOperation where
  recordId : ℕ
  deviceId : Text
  hardwareId : Text
  port : Text
  state : ResetState := .queued
  error : Option Text := none
  physicalResetComplete : Bool := false
  postReset : Option SensorState := none
  resetCommandAccepted : Bool := false
  /-- the local variable `before` of `_run` -/
  before : Option SensorState := none
deriving DecidableEq, Repr

/-- The challenge of a sensor.
SOURCE: usb_factory_reset.py:144-147 -/
structure PreparedReset where
  hardwareId : Option Text
  operationId : Option Text
  challenge : Option Text
deriving DecidableEq, Repr

/-- What a sensor answers while it is reset: each answer with what the exception of the call says,
and nothing where both attempts were protocol errors. -/
structure ResetExchange where
  /-- exactly one supported board is on the port -/
  connected : Bool
  before : Except Text (Option SensorState)
  prepared : Except Text (Option PreparedReset)
  /-- the operation id of the confirmed reset -/
  accepted : Except Text (Option Text)
deriving DecidableEq

/-- What a confirmation is bound to.
SOURCE: usb_factory_reset.py:87-89 -/
structure ResetConfirmation where
  recordId : ℕ
  deviceId : Text
  hardwareId : Text
  port : Text
  expires : ℕ
deriving DecidableEq, Repr

namespace UsbResetOperation

/-- The exchange with the sensor up to its reboot: the state before.
SOURCE: usb_factory_reset.py:122-166 -/
def exchange (operation : UsbResetOperation) (e : ResetExchange) : Except Text SensorState :=
  if !e.connected then
    .error "exactly one supported board on the explicit port is required".toList
  else match e.before with
    | .error message => .error message
    | .ok none => .error "sensor USB identity read failed after retry".toList
    | .ok (some before) =>
      if before.hardwareId ≠ some operation.hardwareId ∨ before.nodeId ≠ some operation.deviceId then
        .error "connected physical sensor does not match the selected gateway sensor".toList
      else match e.prepared with
        | .error message => .error message
        | .ok none => .error "device reset challenge timed out after retry".toList
        | .ok (some prepared) =>
          if prepared.hardwareId ≠ some operation.hardwareId then
            .error "device reset challenge identity mismatch".toList
          else if prepared.operationId = none then .error "'operation_id'".toList
          else if prepared.challenge = none then .error "'challenge'".toList
          else match e.accepted with
            | .error message => .error message
            | .ok accepted =>
              if accepted ≠ prepared.operationId then
                .error "reset operation correlation mismatch".toList
              else .ok before

/-- SOURCE: usb_factory_reset.py:195-197 -/
def fails (operation : UsbResetOperation) (message : Text) : UsbResetOperation :=
  { operation with state := .failed, error := some (message.take 500) }

/-- `_run` up to its first `await`.
SOURCE: usb_factory_reset.py:120-170 -/
def run (operation : UsbResetOperation) (e : ResetExchange) : UsbResetOperation :=
  match operation.exchange e with
  | .error message => operation.fails message
  | .ok before =>
    { operation with before := some before, resetCommandAccepted := true, state := .rebooting }

/-- One read-back of a sensor after the reboot, or the end of the time for it.
SOURCE: usb_factory_reset.py:172-194 -/
def readBack (operation : UsbResetOperation) (reading : Option SensorState) : UsbResetOperation :=
  match reading with
  | none => operation.fails
      ("reset was accepted, but the same physical sensor did not become readable over USB; ".toList ++
        "unplug and reconnect it, then use read-only USB reconciliation".toList)
  | some verified =>
    let firmware := operation.before.bind (·.firmwareVersion)
    if verified.hardwareId ≠ some operation.hardwareId then operation
    else if verified.nodeId ≠ none ∨ verified.identityStatus ≠ some "unprovisioned".toList then
      operation.fails "post-reset sensor is not unprovisioned".toList
    else if firmware.getD [] = [] ∨ verified.firmwareVersion ≠ firmware then
      operation.fails "installed firmware changed during reset".toList
    else { operation with
      postReset := some verified, physicalResetComplete := true, state := .physicalComplete }

end UsbResetOperation

/-- The confirmations by their tokens, and the operations by their ids.
SOURCE: usb_factory_reset.py:37-46 -/
structure UsbFactoryReset where
  operations : List UsbResetOperation := []
  confirmations : List (ℕ × ResetConfirmation) := []
  /-- how many tokens were handed out: the next one -/
  tokens : ℕ := 0
deriving DecidableEq, Repr

namespace UsbFactoryReset

/-- SOURCE: usb_factory_reset.py:81-90 -/
def prepare (s : UsbFactoryReset) (recordId : ℕ) (deviceId hardwareId port : Text)
    (inspection : Except Text SensorState) (now : ℕ) : Except Text (UsbFactoryReset × ℕ) :=
  match inspection with
  | .error message => .error message
  | .ok state =>
    if state.hardwareId ≠ some hardwareId ∨ state.nodeId ≠ some deviceId then
      .error "connected physical sensor does not match the selected gateway sensor".toList
    else
      let confirmation : ResetConfirmation := ⟨recordId, deviceId, hardwareId, port, now + 120⟩
      .ok ({ s with confirmations := s.confirmations ++ [(s.tokens, confirmation)]
                    tokens := s.tokens + 1 }, s.tokens)

/-- The confirmation of a token, which it is good for once. -/
def popConfirmation (s : UsbFactoryReset) (token : ℕ) :
    UsbFactoryReset × Option ResetConfirmation :=
  ({ s with confirmations := s.confirmations.filter (·.1 ≠ token) },
    (s.confirmations.find? (·.1 = token)).map (·.2))

/-- Whether a confirmation is for a reset. -/
def confirms (pending : Option ResetConfirmation) (recordId : ℕ)
    (deviceId hardwareId port : Text) : Bool :=
  pending.any fun pending => pending.recordId = recordId && pending.deviceId = deviceId &&
    pending.hardwareId = hardwareId && pending.port = port

/-- SOURCE: usb_factory_reset.py:92-96 -/
def cancel (s : UsbFactoryReset) (token recordId : ℕ) (deviceId hardwareId port : Text) :
    UsbFactoryReset × Bool :=
  let (s, pending) := s.popConfirmation token
  (s, confirms pending recordId deviceId hardwareId port)

/-- SOURCE: usb_factory_reset.py:98-103 -/
def authorize (s : UsbFactoryReset) (token recordId : ℕ) (deviceId hardwareId port : Text)
    (now : ℕ) : UsbFactoryReset × Bool :=
  let (s, pending) := s.popConfirmation token
  (s, confirms pending recordId deviceId hardwareId port && pending.any fun pending => now < pending.expires)

/-- Whether the lock of a sensor is held: an operation holds it while it runs.
SOURCE: usb_factory_reset.py:106-107, 119 -/
def locked (s : UsbFactoryReset) (hardwareId : Text) : Bool :=
  s.operations.any fun operation => operation.hardwareId = hardwareId &&
    (operation.state = .preparing || operation.state = .rebooting)

/-- SOURCE: usb_factory_reset.py:105-112 -/
def launch (s : UsbFactoryReset) (recordId : ℕ) (deviceId hardwareId port : Text) :
    Except Text (UsbFactoryReset × ℕ) :=
  if s.locked hardwareId then
    .error "a reset operation is already active for this physical sensor".toList
  else
    let operation : UsbResetOperation :=
      { recordId := recordId, deviceId := deviceId, hardwareId := hardwareId, port := port }
    .ok ({ s with operations := s.operations ++ [operation] }, s.operations.length)

/-- An operation that waits for the lock takes it and runs.
SOURCE: usb_factory_reset.py:118-170 -/
def run (s : UsbFactoryReset) (id : ℕ) (e : ResetExchange) : UsbFactoryReset :=
  match s.operations[id]? with
  | none => s
  | some operation =>
    if operation.state ≠ .queued ∨ s.locked operation.hardwareId then s
    else { s with operations := s.operations.set id (operation.run e) }

/-- An operation whose sensor reboots reads it back. -/
def readBack (s : UsbFactoryReset) (id : ℕ) (reading : Option SensorState) : UsbFactoryReset :=
  match s.operations[id]? with
  | none => s
  | some operation =>
    if operation.state ≠ .rebooting then s
    else { s with operations := s.operations.set id (operation.readBack reading) }

end UsbFactoryReset

end SeedMg24.Model
