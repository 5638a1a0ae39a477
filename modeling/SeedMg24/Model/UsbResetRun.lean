import SeedMg24.Model.BootstrapClient
import SeedMg24.Model.UsbFactoryReset

/-!
# A factory reset over USB, call by call

`_run` and `inspect` of `services/usb_factory_reset.py` as programs over the calls of the serial
client.  The loop that waits for the sensor is followed for a number of rounds.  The progress of an
operation and the locks of the ports are left out.
-/

set_option autoImplicit false

namespace SeedMg24.Model

open Foundation Foundation.Json

namespace UsbResetRun

open BootstrapClient

/-! ## Ports -/

/-- SOURCE: usb_factory_reset.py:35 -/
def VID : ℕ := 0x2886
def PID : ℕ := 0x0062

/-- SOURCE: usb_factory_reset.py:54 -/
structure UsbPort where
  port : Text
  usbSerial : Option Text
deriving DecidableEq, Repr

/-- The item as a dictionary. -/
def UsbPort.members (item : UsbPort) : List (Text × Json) := [
  ("port".toList, .str item.port),
  ("usb_serial".toList, match item.usbSerial with | none => .null | some serial => .str serial),
  ("usb_vid_pid".toList, .str "2886:0062".toList)]

/-- SOURCE: usb_factory_reset.py:52-56 -/
def ports : Session (List UsbPort) := do
  let items ← Call.listPorts
  return (items.filter fun item => item.vid = some VID && item.pid = some PID).map fun item =>
    ⟨item.device, item.serialNumber⟩

/-- `UsbResetError`, which is a `ValueError`. -/
def usbResetError (message : Text) : Raised := ⟨.valueError, message⟩

/-- The only item with a port.
SOURCE: usb_factory_reset.py:60-62, 122-124 -/
def onlyPort (port : Text) : Session UsbPort := do
  match (← ports).filter (·.port = port) with
  | [item] => return item
  | _ => throw (usbResetError "exactly one supported board on the explicit port is required".toList)

/-! ## Reading -/

/-- The name of a type. -/
def typeName : Json → Text
  | .null => "NoneType".toList
  | .bool _ => "bool".toList
  | .int _ => "int".toList
  | .float _ => "float".toList
  | .str _ => "str".toList
  | .arr _ => "list".toList
  | .obj _ => "dict".toList

/-- `get` of a value, which only a dictionary has. -/
def getOf (j : Json) (key : Text) : Session Json :=
  match j with
  | .obj _ => return j.get key
  | _ => throw ⟨.attributeError, "'".toList ++ typeName j ++ "' object has no attribute 'get'".toList⟩

/-- The value of a key, which has to be there. -/
def itemOf (j : Json) (key : Text) : Session Json :=
  match j.get? key with
  | some value => return value
  | none => throw ⟨.keyError, "'".toList ++ key ++ "'".toList⟩

def isNull : Json → Bool
  | .null => true
  | _ => false

/-- The exceptions after which a sensor is asked once more, and after which it is passed over.
SOURCE: usb_factory_reset.py:70, 177 -/
def isPassedOver (e : Raised) : Bool :=
  e.kind = .osError || e.kind = .protocolError || e.kind = .runtimeError || e.kind = .valueError

/-- SOURCE: usb_factory_reset.py:132, 149 -/
def isProtocolError (e : Raised) : Bool := e.kind = .protocolError

/-- Two attempts: what the first that does not raise gives, or nothing, and the last exception.
SOURCE: usb_factory_reset.py:63-73, 127-134, 141-152 -/
def twice (isCaught : Raised → Bool) (block : Session Json) : Session (Json × Option Raised) := do
  match ← attempt block with
  | .ok value => return (value, none)
  | .error first =>
    if !isCaught first then throw first
    else match ← attempt block with
      | .ok value => return (value, some first)
      | .error second => if !isCaught second then throw second else return (.null, some second)

def readNodeState (printing : Printing) : Session Json :=
  requestResult printing "read_node_state".toList []

/-- SOURCE: usb_factory_reset.py:77 -/
def isHardwareId : Json → Bool
  | .str s => Onboarding.hardwareIdPattern s
  | _ => false

/-- The item of a port with the members of a state.
SOURCE: usb_factory_reset.py:79 -/
def merged (item : UsbPort) : Json → Json
  | .obj members => .obj (item.members ++ members)
  | _ => .obj item.members

/-- SOURCE: usb_factory_reset.py:58-79 -/
def inspect (printing : Printing) (port : Text) : Session Json := do
  let item ← onlyPort port
  let (state, lastError) ← twice isPassedOver (withClient port (readNodeState printing))
  if isNull state then
    throw (usbResetError ("sensor USB identity read failed after retry: ".toList ++
      match lastError with
      | none => "None".toList
      | some e => e.message))
  else
    let hardwareId ← getOf state "hardware_id".toList
    if !isHardwareId hardwareId then
      throw (usbResetError "sensor did not report a valid immutable hardware identity".toList)
    else return merged item state

/-! ## The operation -/

/-- SOURCE: usb_factory_reset.py:18-31 -/
structure ResetOperation where
  deviceId : Text
  hardwareId : Text
  port : Text
  state : ResetState := .queued
  error : Option Text := none
  physicalResetComplete : Bool := false
  postReset : Option Json := none
  resetCommandAccepted : Bool := false

/-- SOURCE: usb_factory_reset.py:195-197 -/
def ResetOperation.fails (operation : ResetOperation) (e : Raised) : ResetOperation :=
  { operation with state := .failed, error := some (e.message.take 500) }

/-- SOURCE: usb_factory_reset.py:144-147 -/
def prepareFields (operation : ResetOperation) : List (Text × Json) := [
  ("reset_protocol_version".toList, .int 2), ("scope".toList, .str "application_factory".toList),
  ("expected_hardware_id".toList, .str operation.hardwareId)]

/-- SOURCE: usb_factory_reset.py:160-164 -/
def confirmFields (operation : ResetOperation) (operationId challenge : Json) : List (Text × Json) := [
  ("reset_protocol_version".toList, .int 2), ("scope".toList, .str "application_factory".toList),
  ("expected_hardware_id".toList, .str operation.hardwareId),
  ("operation_id".toList, operationId), ("challenge".toList, challenge)]

/-- The state of the sensor that is to be reset.
SOURCE: usb_factory_reset.py:127-138 -/
def identify (printing : Printing) (operation : ResetOperation) : Session Json := do
  let (before, _) ← twice isProtocolError (readNodeState printing)
  if isNull before then throw (usbResetError "sensor USB identity read failed after retry".toList)
  else
    let hardwareId ← getOf before "hardware_id".toList
    if !isStr (some hardwareId) operation.hardwareId ||
        !isStr (some (before.get "node_id".toList)) operation.deviceId then
      throw (usbResetError "connected physical sensor does not match the selected gateway sensor".toList)
    else return before

/-- The challenge of the sensor.
SOURCE: usb_factory_reset.py:141-157 -/
def challenge (printing : Printing) (operation : ResetOperation) : Session Json := do
  let (prepared, _) ← twice isProtocolError
    (requestResult printing "prepare_factory_reset".toList (prepareFields operation))
  if isNull prepared then throw (usbResetError "device reset challenge timed out after retry".toList)
  else
    let hardwareId ← getOf prepared "hardware_id".toList
    if !isStr (some hardwareId) operation.hardwareId then
      throw (usbResetError "device reset challenge identity mismatch".toList)
    else return prepared

/-- The reset itself.
SOURCE: usb_factory_reset.py:160-164 -/
def confirm (printing : Printing) (operation : ResetOperation) (prepared : Json) : Session Json := do
  let operationId ← itemOf prepared "operation_id".toList
  let challenge ← itemOf prepared "challenge".toList
  requestResult printing "confirm_factory_reset".toList (confirmFields operation operationId challenge)

/-- The exchange on one connection: the state before, the challenge and the answer to its
confirmation.
SOURCE: usb_factory_reset.py:127-164 -/
def exchange (printing : Printing) (operation : ResetOperation) : Session (Json × Json × Json) := do
  let before ← identify printing operation
  let prepared ← challenge printing operation
  let accepted ← confirm printing operation prepared
  return (before, prepared, accepted)

/-- The operation up to the reboot of the sensor: the state before.
SOURCE: usb_factory_reset.py:122-166 -/
def resetSensor (printing : Printing) (operation : ResetOperation) : Session Json := do
  let _ ← onlyPort operation.port
  let (before, prepared, accepted) ← withClient operation.port (exchange printing operation)
  let operationId ← getOf accepted "operation_id".toList
  if !same operationId (prepared.get "operation_id".toList) then
    throw (usbResetError "reset operation correlation mismatch".toList)
  else return before

/-- The first of the ports with the sensor on it.
SOURCE: usb_factory_reset.py:174-181 -/
def findSensor (printing : Printing) (hardwareId : Text) : List UsbPort → Session (Option Json)
  | [] => return none
  | candidate :: candidates => do
    match ← attempt (inspect printing candidate.port) with
    | .error e => if isPassedOver e then findSensor printing hardwareId candidates else throw e
    | .ok state =>
      if isStr (some (state.get "hardware_id".toList)) hardwareId then return some state
      else findSensor printing hardwareId candidates

/-- Rounds of waiting for the sensor: what was found, if the rounds are enough to say.
SOURCE: usb_factory_reset.py:172-181 -/
def poll (printing : Printing) (hardwareId : Text) (deadline : ℚ) : ℕ → Session (Option (Option Json))
  | 0 => return none
  | rounds + 1 => do
    if (← Call.now) < deadline then
      match ← findSensor printing hardwareId (← ports) with
      | some verified =>
        -- the condition of the loop reads the clock once more
        let _ ← Call.now
        return some (some verified)
      | none => poll printing hardwareId deadline rounds
    else return some none

/-- The sensor after its reboot, if the rounds are enough.
SOURCE: usb_factory_reset.py:170-190 -/
def verifySensor (printing : Printing) (rebootTimeout : ℚ) (rounds : ℕ) (operation : ResetOperation)
    (before : Json) : Session (Option Json) := do
  let deadline := (← Call.now) + rebootTimeout
  match ← poll printing operation.hardwareId deadline rounds with
  | none => return none
  | some none => throw (usbResetError
      ("reset was accepted, but the same physical sensor did not become readable over USB; ".toList ++
        "unplug and reconnect it, then use read-only USB reconciliation".toList))
  | some (some verified) =>
    if !isNull (verified.get "node_id".toList) ||
        !isStr (some (verified.get "identity_status".toList)) "unprovisioned".toList then
      throw (usbResetError "post-reset sensor is not unprovisioned".toList)
    else if !countsAsTrue (before.get "firmware_version".toList) ||
        !same (verified.get "firmware_version".toList) (before.get "firmware_version".toList) then
      throw (usbResetError "installed firmware changed during reset".toList)
    else return some verified

/-- `_run`: an operation at its end, or while it waits if the rounds are not enough.
SOURCE: usb_factory_reset.py:118-197 -/
def run (printing : Printing) (rebootTimeout : ℚ) (rounds : ℕ) (operation : ResetOperation) :
    Program Answer ResetOperation := do
  match ← (resetSensor printing operation).run with
  | .error e => return operation.fails e
  | .ok before =>
    let operation := { operation with resetCommandAccepted := true, state := .rebooting }
    match ← (verifySensor printing rebootTimeout rounds operation before).run with
    | .error e => return operation.fails e
    | .ok none => return operation
    | .ok (some verified) => return { operation with
        postReset := some verified, physicalResetComplete := true, state := .physicalComplete }

end UsbResetRun

end SeedMg24.Model
