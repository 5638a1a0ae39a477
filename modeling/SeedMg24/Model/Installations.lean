import SeedMg24.Foundation.Runs
import SeedMg24.Foundation.Text

/-!
# Installations

The rows of `sensor_installations`, `provisioning_attempts` and `registered_devices`, and what
`services/installation_service.py`, `services/provisioning_service.py`, `api/installations.py`,
`services/device_lifecycle_service.py` and the restoring part of `api/reset_reregister.py` make of
one row.  A configuration is a value of any type.
-/

set_option autoImplicit false

namespace SeedMg24.Model

open Foundation

/-! ## Nodes and their interfaces -/

/-- SOURCE: models.py:14-45 -/
structure RegisteredDevice where
  deviceId : Text
  bleAddress : Option Text
  enabled : Bool := true
  archived : Bool := false
  compatibilityStatus : Text := "metadata_missing".toList
deriving DecidableEq, Repr

/-- `LifecycleService.remove` of a device that is not removed.
SOURCE: device_lifecycle_service.py:51-56 -/
def RegisteredDevice.removed (d : RegisteredDevice) : RegisteredDevice :=
  { d with archived := true, enabled := false }

/-- `LifecycleService.restore` of a device that is removed.
SOURCE: device_lifecycle_service.py:98-103 -/
def RegisteredDevice.restored (d : RegisteredDevice) : RegisteredDevice :=
  { d with archived := false, enabled := true }

/-- SOURCE: node_capability_service.py:21-58 -/
structure NodeInterface where
  interfaceId : Text
  exclusive : Bool
deriving DecidableEq, Repr

/-- The interfaces of every node.
SOURCE: node_capability_service.py:21-58 -/
def nodeInterfaces : List NodeInterface :=
  [⟨"MIC".toList, true⟩, ⟨"IMU0".toList, false⟩, ⟨"VBAT".toList, true⟩] ++
    (List.range 6).map fun index => ⟨'D' :: Text.decimal index, true⟩

/-- The interface of an id. -/
def interfaceOf (interfaceId : Text) : Option NodeInterface :=
  nodeInterfaces.find? (·.interfaceId = interfaceId)

/-- Whether an interface takes one installation only. -/
def isExclusive (interfaceId : Text) : Bool := (interfaceOf interfaceId).any (·.exclusive)

/-! ## Rows -/

/-- SOURCE: models.py:85; provisioning_service.py:102-318; installations.py:103, 213 -/
inductive ProvisioningState where
  | draft | readyToApply | applying | verifying | active | reconciling | failed | disabled | removed
deriving DecidableEq, Repr

/-- SOURCE: models.py:84 -/
inductive VerificationStatus where
  | pending | verified | failed
deriving DecidableEq, Repr

/-- SOURCE: models.py:103 -/
inductive AttemptState where
  | applying | verifying | active | failed | reconciling
deriving DecidableEq, Repr

/-- SOURCE: models.py:62-91 -/
structure Installation (κ : Type) where
  nodeId : Text
  interfaceId : Text
  sensorProfileVersion : Text
  configuration : κ
  previousConfiguration : Option κ := none
  enabled : Bool := false
  archived : Bool := false
  verificationStatus : VerificationStatus := .pending
  provisioningState : ProvisioningState := .draft
  provisioningError : Option Text := none
  activeTransactionId : Option ℕ := none
deriving DecidableEq, Repr

/-- SOURCE: models.py:94-106 -/
structure ProvisioningAttempt (κ : Type) where
  installationId : ℕ
  requestedConfiguration : κ
  appliedConfiguration : Option κ := none
  state : AttemptState
  error : Option Text := none
deriving DecidableEq, Repr

namespace Installation

variable {κ : Type}

/-- Whether the row takes up its interface.
SOURCE: installation_repository.py:28-37 -/
def occupies (row : Installation κ) : Bool := row.enabled && !row.archived

/-- An update with a configuration.
SOURCE: installation_service.py:71-79 -/
def updated (row : Installation κ) (configuration : κ) : Installation κ :=
  if row.provisioningState = .active then
    { row with
      configuration := configuration
      previousConfiguration := some row.configuration
      provisioningState := .readyToApply
      verificationStatus := .pending
      enabled := false }
  else { row with configuration := configuration }

/-- A validation, with the text of the check that fails.
SOURCE: provisioning_service.py:117-128 -/
def validated (row : Installation κ) (failure : Option Text) : Installation κ :=
  match failure with
  | some error =>
    { row with
      provisioningState := .failed
      verificationStatus := .failed
      provisioningError := some (error.take 500)
      enabled := false }
  | none => { row with provisioningState := .readyToApply, provisioningError := none }

/-- SOURCE: installations.py:103 -/
def disabled (row : Installation κ) : Installation κ :=
  { row with enabled := false, provisioningState := .disabled }

/-- SOURCE: installations.py:213 -/
def archive (row : Installation κ) : Installation κ :=
  { row with archived := true, enabled := false, provisioningState := .disabled }

/-- SOURCE: installations.py:125-133 -/
def upgraded (row : Installation κ) (version : Text) : Installation κ :=
  { row with
    sensorProfileVersion := version
    previousConfiguration := some row.configuration
    provisioningState := .readyToApply
    verificationStatus := .pending
    enabled := false }

/-- SOURCE: device_lifecycle_service.py:58-62 -/
def removed (row : Installation κ) : Installation κ :=
  { row with archived := true, enabled := false, provisioningState := .removed }

/-- SOURCE: reset_reregister.py:595-597 -/
def restored (row : Installation κ) : Installation κ :=
  { row with archived := false, enabled := true, provisioningState := .active }

/-- SOURCE: provisioning_service.py:171-177 -/
def applying (row : Installation κ) (transactionId : ℕ) : Installation κ :=
  { row with
    provisioningState := .applying
    activeTransactionId := some transactionId
    provisioningError := none
    enabled := false }

/-- SOURCE: provisioning_service.py:207 -/
def verifying (row : Installation κ) : Installation κ :=
  { row with provisioningState := .verifying }

/-- SOURCE: provisioning_service.py:249-261 -/
def activated (row : Installation κ) : Installation κ :=
  { row with
    previousConfiguration := some row.configuration
    provisioningState := .active
    verificationStatus := .verified
    enabled := true
    provisioningError := none
    activeTransactionId := none }

/-- The row with its previous configuration in force again.
SOURCE: provisioning_service.py:272-280, 301-309 -/
def handedBack (row : Installation κ) (previous : κ) (error : Text)
    (activeTransactionId : Option ℕ) : Installation κ :=
  { row with
    configuration := previous
    previousConfiguration := none
    provisioningState := .active
    verificationStatus := .verified
    provisioningError := some error
    activeTransactionId := activeTransactionId
    enabled := true }

/-- SOURCE: provisioning_service.py:263-290 -/
def fail (row : Installation κ) (error : Text) : Installation κ :=
  match row.previousConfiguration with
  | some previous => row.handedBack previous ("replacement_failed:".toList ++ error) none
  | none =>
    { row with
      provisioningState := .failed
      verificationStatus := .failed
      provisioningError := some error
      activeTransactionId := none
      enabled := false }

/-- SOURCE: provisioning_service.py:292-319 -/
def uncertain (row : Installation κ) (transactionId : ℕ) (error : Text) : Installation κ :=
  match row.previousConfiguration with
  | some previous =>
    row.handedBack previous ("replacement_uncertain:".toList ++ error) (some transactionId)
  | none =>
    { row with
      provisioningState := .reconciling
      verificationStatus := .pending
      provisioningError := some error
      activeTransactionId := some transactionId
      enabled := false }

end Installation

end SeedMg24.Model
