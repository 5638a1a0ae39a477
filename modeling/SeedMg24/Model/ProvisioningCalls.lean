import SeedMg24.Foundation.Json
import SeedMg24.Model.BleProvisioning

/-!
# The gateway's BLE provisioner: its calls

`provision` and `configure` of `services/ble_provisioning.py`, over a node as a client of its GATT
server meets it.  Everything a write is answered with is notified before the client looks at its
queue, in order and without loss; when the queue is empty, the call waits until its timeout.  A
characteristic and a notification are given as the texts their bytes decode to.
-/

set_option autoImplicit false

namespace SeedMg24.Model

open Foundation Foundation.Json

/-- A GATT server whose state is `σ`. -/
structure GattServer (σ : Type) where
  metadata : σ → Text
  capabilities : σ → Text
  onboardingIdentity : σ → Text
  startNotify : σ → σ
  stopNotify : σ → σ
  /-- a write of the command characteristic: what is notified in answer, and the state after it -/
  writeCommand : σ → Text → List Text × σ

/-- How a call fails. -/
inductive CallFailure where
  /-- `BleProvisioningError` -/
  | raised (error : BleProvisioningError)
  /-- `BleProvisioningError` with `str` of a code the node sent -/
  | rejected (code : Json)
  /-- `TimeoutError` -/
  | timedOut
  /-- a characteristic that cannot be read: `UnicodeDecodeError`, `JSONDecodeError` or
  `AttributeError` -/
  | malformed

/-- A connected client, with the messages that wait in its queue.  `answered` records the commands
written and what was notified in answer, for statements about calls. -/
structure ProvisioningSession (σ : Type) where
  server : σ
  queue : List Json := []
  answered : List (Text × List Text) := []

/-- A call in progress. -/
abbrev ProvisioningCall (σ : Type) := ExceptT CallFailure (StateM (ProvisioningSession σ))

/-- How a call ends, and the session after it. -/
def ProvisioningCall.outcome {σ α : Type} (call : ProvisioningCall σ α)
    (s : ProvisioningSession σ) : Except CallFailure α × ProvisioningSession σ :=
  call.run.run s

/-- A check of a call, in the call. -/
def checked {σ α : Type} : Except BleProvisioningError α → ProvisioningCall σ α
  | .ok a => pure a
  | .error e => throw (.raised e)

/-! ## Payloads -/

/-- The truth value of what `get` returns. -/
def truthy : Option Json → Bool
  | none => false
  | some .null => false
  | some (.bool b) => b
  | some (.int z) => z ≠ 0
  | some (.float x) => x ≠ .finite 0
  | some (.str s) => !s.isEmpty
  | some (.arr items) => !items.isEmpty
  | some (.obj members) => !members.isEmpty

/-- SOURCE: ble/onboarding_identity.py:31-56 -/
def parseOnboardingPayload (raw : Text) : Except Text Json :=
  if raw.isEmpty ∨ raw.length > 192 then
    throw "onboarding identity payload is empty or oversized".toList
  else match loads (raw.rdropWhile (· = '\x00')) with
    | none => throw "onboarding identity payload is malformed".toList
    | some payload =>
      let identity := payload.get? "onboarding_identity".toList
      let state := payload.get? "provisioning_state".toList
      let isText : Option Json → Bool := fun j => match j with
        | some (.str _) => true
        | _ => false
      if !isInt (payload.get? "schema_version".toList) 1 then
        throw "onboarding identity schema is unsupported".toList
      else if isStr state "provisioned".toList then
        if identity.isSome then
          throw "provisioned response exposed a bootstrap identity".toList
        else return payload
      else if !isStr state "unprovisioned".toList && !isStr state "recovery".toList then
        throw "onboarding identity is unavailable".toList
      else match identity with
        | some (.str s) =>
          if s.length ≠ 32 ∨ !s.all (fun c => ('0' ≤ c && c ≤ '9') || ('a' ≤ c && c ≤ 'f')) then
            throw "onboarding identity encoding is invalid".toList
          else if !isText (payload.get? "protocol_version".toList) ||
              !isText (payload.get? "firmware_version".toList) then
            throw "onboarding compatibility versions are missing".toList
          else return payload
        | _ => throw "onboarding identity encoding is invalid".toList

/-- The names of the values of a read-back, in their order.
SOURCE: ble_provisioning.py:161 -/
def readbackKeys : List Text :=
  ["sample".toList, "process".toList, "report".toList, "heartbeat".toList, "filter".toList,
    "window".toList, "enabled".toList]

/-- SOURCE: ble_provisioning.py:159-162 -/
def readbackMatches (readback : Json) (values : List ℤ) : Bool :=
  (readbackKeys.zip values).all fun (key, value) => isInt (readback.get? key) value

/-! ## Messages -/

/-- `maxsize` of the queue. -/
def provisioningQueueSize : ℕ := 16

/-- The callback of a notification.
SOURCE: ble_provisioning.py:123-129, 168-174 -/
def notification (queue : List Json) (data : Text) : List Json :=
  match loads data with
  | none => queue
  | some payload =>
    let type := payload.get? "t".toList
    if (isStr type "ca".toList || isStr type "ce".toList) ∧ queue.length < provisioningQueueSize then
      queue ++ [payload]
    else queue

/-- What waiting for an answer comes to, and what is left in the queue.  A code that is no string is
none of the accepted ones.
SOURCE: ble_provisioning.py:227-235 -/
def takeAnswer (transactionId : Text) (acceptedCodes : List Text) :
    List Json → Except CallFailure Json × List Json
  | [] => (.error .timedOut, [])
  | result :: queue =>
    let code := result.get? "code".toList
    if !isStr (result.get? "tx".toList) transactionId then
      takeAnswer transactionId acceptedCodes queue
    else if isStr (result.get? "t".toList) "ce".toList then
      (.error (.rejected (code.getD (.str "device_rejected".toList))), queue)
    else if acceptedCodes.any (isStr code) then (.ok result, queue)
    else takeAnswer transactionId acceptedCodes queue

namespace BleNodeProvisioner

variable {σ : Type} (server : GattServer σ)

/-- A write of the command characteristic. -/
def writeCommand (command : Text) : ProvisioningCall σ Unit :=
  modify fun s =>
    let (notifications, state) := server.writeCommand s.server command
    { server := state
      queue := notifications.foldl notification s.queue
      answered := s.answered ++ [(command, notifications)] }

/-- SOURCE: ble_provisioning.py:227-235 -/
def waitFor (transactionId : Text) (acceptedCodes : List Text) : ProvisioningCall σ Json := do
  let (answer, queue) := takeAnswer transactionId acceptedCodes (← get).queue
  modify fun s => { s with queue := queue }
  match answer with
  | .ok result => return result
  | .error failure => throw failure

def startNotify : ProvisioningCall σ Unit :=
  modify fun s => { s with server := server.startNotify s.server }

def stopNotify : ProvisioningCall σ Unit :=
  modify fun s => { s with server := server.stopNotify s.server }

/-- A characteristic read as JSON. -/
def readJson (characteristic : σ → Text) : ProvisioningCall σ Json := do
  match loads (characteristic (← get).server) with
  | some j => return j
  | none => throw .malformed

/-- `get` of what should be a dictionary. -/
def getFrom (j : Json) (key : Text) : ProvisioningCall σ (Option Json) :=
  match j with
  | .obj _ => return j.get? key
  | _ => throw .malformed

/-- The command that reads a node's provisioning state. -/
def provgetCommand (transactionId : Text) : Text := "PROVGET 1 ".toList ++ transactionId

/-- `_configure`: the acknowledgement and the read-back.
SOURCE: ble_provisioning.py:120-147 -/
def configureConnected (nodeId transactionId command : Text) (values : List ℤ) :
    ProvisioningCall σ (Json × Json) := do
  startNotify server
  writeCommand server (provgetCommand transactionId)
  let before ← waitFor transactionId ["readback".toList]
  if !isStr (before.get? "id".toList) nodeId then
    throw (.raised ⟨"authoritative identity changed; no configuration was written".toList⟩)
  if readbackMatches before values then
    stopNotify server
    return (.obj [("code".toList, .str "already_applied".toList),
      ("tx".toList, .str transactionId)], before)
  writeCommand server command
  let acknowledgement ← waitFor transactionId ["configured".toList]
  writeCommand server (provgetCommand transactionId)
  let readback ← waitFor transactionId ["readback".toList]
  stopNotify server
  if !readbackMatches readback values then
    throw (.raised ⟨"device configuration readback does not match the requested values".toList⟩)
  return (acknowledgement, readback)

/-- A call for a node another call is `locked` on is refused.
SOURCE: ble_provisioning.py:103-118 -/
def configure (locked : Bool) (nodeId transactionId : Text) (configuration : DeviceConfiguration) :
    ProvisioningCall σ (Json × Json) := do
  let command ← checked (configureCommand transactionId configuration)
  let values ← checked (configurationValues configuration)
  if locked then
    throw (.raised ⟨"another dashboard operation is already using this sensor".toList⟩)
  configureConnected server nodeId (Text.toUpperAscii transactionId) command values

/-- What a provisioning returns. -/
structure ProvisioningResult where
  acknowledgement : Json
  readback : Json
  metadata : Json
  capabilities : Json
  onboardingAfter : Option Json

/-- The onboarding identity of a node. -/
def readOnboarding : ProvisioningCall σ Json := do
  match parseOnboardingPayload (server.onboardingIdentity (← get).server) with
  | .ok payload => return payload
  | .error message => throw (.raised ⟨message⟩)

/-- The node is the one verified over USB.
SOURCE: ble_provisioning.py:181-188 -/
def expectIdentity : Option Text → ProvisioningCall σ Unit
  | none => return ()
  | some expected => do
    let onboardingBefore ← readOnboarding server
    if !isStr (onboardingBefore.get? "onboarding_identity".toList) expected then
      throw (.raised ⟨"BLE candidate no longer matches the USB-verified physical sensor".toList⟩)

/-- The metadata and the capabilities of a node that can be provisioned.
SOURCE: ble_provisioning.py:189-194 -/
def readSupport : ProvisioningCall σ (Json × Json) := do
  let metadata ← readJson server.metadata
  let capabilities ← readJson server.capabilities
  let protocolVersion ← getFrom metadata "protocol_version".toList
  if !isStr protocolVersion "1.0.0".toList && !isStr protocolVersion "1.1.0".toList then
    throw (.raised ⟨"node protocol version is unsupported".toList⟩)
  let configuration ← getFrom capabilities "configuration".toList
  let supported ← getFrom (configuration.getD (.obj [])) "readback".toList
  if !truthy supported then
    throw (.raised ⟨"node does not support persistent configuration readback".toList⟩)
  return (metadata, capabilities)

/-- The command is only sent to a node without an identity.
SOURCE: ble_provisioning.py:196-202 -/
def acknowledge (metadata : Json) (nodeId transactionId command : Text) :
    ProvisioningCall σ Json := do
  if isStr (metadata.get? "node_id".toList) "UNASSIGNED-MG24".toList then
    writeCommand server command
    waitFor transactionId ["provisioned".toList, "already_committed".toList]
  else if isStr (metadata.get? "node_id".toList) nodeId then
    return .obj [("t".toList, .str "ca".toList), ("v".toList, .int 1), ("id".toList, .str nodeId),
      ("tx".toList, .str transactionId), ("code".toList, .str "resume_readback".toList)]
  else throw (.raised ⟨"node is already assigned to a different identity".toList⟩)

/-- The onboarding identity after a provisioning, if one was expected before.
SOURCE: ble_provisioning.py:205-211 -/
def readOnboardingAfter : Option Text → ProvisioningCall σ (Option Json)
  | none => return none
  | some _ => some <$> readOnboarding server

/-- The node shows no onboarding identity any more.
SOURCE: ble_provisioning.py:219-223 -/
def expectHidden : Option Json → ProvisioningCall σ Unit
  | none => return ()
  | some onboardingAfter => do
    if !isStr (onboardingAfter.get? "provisioning_state".toList) "provisioned".toList ||
        (onboardingAfter.get? "onboarding_identity".toList).isSome then
      throw (.raised ⟨"bootstrap identity remained exposed after provisioning".toList⟩)

/-- `_provision`.
SOURCE: ble_provisioning.py:180-225 -/
def provisionConnected (nodeId transactionId command : Text) (values : List ℤ)
    (expectedOnboardingIdentity : Option Text) : ProvisioningCall σ ProvisioningResult := do
  expectIdentity server expectedOnboardingIdentity
  let (metadata, capabilities) ← readSupport server
  startNotify server
  let acknowledgement ← acknowledge server metadata nodeId transactionId command
  writeCommand server (provgetCommand transactionId)
  let readback ← waitFor transactionId ["readback".toList]
  let onboardingAfter ← readOnboardingAfter server expectedOnboardingIdentity
  stopNotify server
  if !isStr (readback.get? "id".toList) nodeId || !readbackMatches readback values then
    throw (.raised
      ⟨"device readback does not match requested identity and configuration".toList⟩)
  expectHidden onboardingAfter
  return { acknowledgement, readback, metadata, capabilities, onboardingAfter }

/-- SOURCE: ble_provisioning.py:87-101, 176-179 -/
def provision (locked : Bool) (nodeId transactionId : Text) (configuration : DeviceConfiguration)
    (expectedOnboardingIdentity : Option Text) : ProvisioningCall σ ProvisioningResult := do
  if !nodeIdPattern nodeId || nodeId.length > 31 then
    throw (.raised ⟨"node_id is invalid".toList⟩)
  if !transactionIdPattern transactionId then
    throw (.raised ⟨"transaction_id is invalid".toList⟩)
  if locked then
    throw (.raised ⟨"a provisioning operation is already active for this node".toList⟩)
  let command ← checked (provisionCommand nodeId transactionId configuration)
  let values ← checked (configurationValues configuration)
  provisionConnected server nodeId (Text.toUpperAscii transactionId) command values
    expectedOnboardingIdentity

end BleNodeProvisioner

end SeedMg24.Model
