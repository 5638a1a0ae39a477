import SeedMg24.Model.BleManager
import SeedMg24.Model.ProvisioningCalls

/-!
# The persistent configurator

`BlePersistentConfigurator` of `services/provisioning_service.py`, which hands an installation's
configuration to the BLE provisioner.  The half second between the end of the managed connection and
the call is left out.
-/

set_option autoImplicit false

namespace SeedMg24.Model

open Foundation

/-- How a call of the configurator fails. -/
inductive ConfiguratorFailure where
  | valueError (message : Text)
  | connectionError (message : Text)
  /-- what the provisioner raised -/
  | provisioner (failure : CallFailure)

/-- The rows it looks addresses up in, the connections it makes way in, and `_verified`, the
configurations of the transactions that returned.
SOURCE: provisioning_service.py:47-53 -/
structure BlePersistentConfigurator where
  devices : List RegisteredDevice
  manager : Option BleManager := none
  verified : List (Text × DeviceConfiguration) := []

/-- What a call of `apply` comes to: what it returns or raises, and the configurator and the node's
session after it. -/
structure ConfiguratorApply (σ : Type) where
  result : Except ConfiguratorFailure DeviceConfiguration
  configurator : BlePersistentConfigurator
  session : ProvisioningSession σ

namespace BlePersistentConfigurator

/-- SOURCE: provisioning_service.py:55-57 -/
def supportsInterface (interfaceId : Text) : Bool := interfaceId = "MIC".toList

/-- The address of a node, if its row has one.
SOURCE: provisioning_service.py:62-66 -/
def bleAddress (c : BlePersistentConfigurator) (nodeId : Text) : Option Text :=
  ((c.devices.find? (·.deviceId = nodeId)).bind (·.bleAddress)).filter (!·.isEmpty)

/-- The managed connection of the node ends before the call of the provisioner and is scheduled
again after it, however it ended.
SOURCE: provisioning_service.py:67-75 -/
def makeWay (c : BlePersistentConfigurator) (nodeId address : Text) : BlePersistentConfigurator :=
  { c with manager := c.manager.map fun manager => (manager.pop nodeId).schedule nodeId address }

/-- SOURCE: provisioning_service.py:77-78 -/
def verify (c : BlePersistentConfigurator) (transactionId : Text)
    (configuration : DeviceConfiguration) : BlePersistentConfigurator :=
  { c with verified := (transactionId, configuration) ::
      c.verified.filter (·.1 ≠ transactionId) }

/-- SOURCE: provisioning_service.py:59-79 -/
def apply {σ : Type} (server : GattServer σ) (locked : Bool) (c : BlePersistentConfigurator)
    (nodeId interfaceId transactionId : Text) (configuration : DeviceConfiguration)
    (session : ProvisioningSession σ) : ConfiguratorApply σ :=
  if !supportsInterface interfaceId then
    ⟨.error (.valueError
      "firmware persistence currently supports the built-in microphone interface".toList),
      c, session⟩
  else match c.bleAddress nodeId with
    | none => ⟨.error (.connectionError "node BLE address is unavailable".toList), c, session⟩
    | some address =>
      match (BleNodeProvisioner.provision server locked nodeId (transactionId.take 16)
          configuration none).outcome session with
      | (.error failure, session) =>
        ⟨.error (.provisioner failure), c.makeWay nodeId address, session⟩
      | (.ok _, session) =>
        ⟨.ok configuration, (c.makeWay nodeId address).verify transactionId configuration, session⟩

/-- SOURCE: provisioning_service.py:81-84 -/
def readBack (c : BlePersistentConfigurator) (transactionId : Text) :
    Except ConfiguratorFailure DeviceConfiguration :=
  match c.verified.find? (·.1 = transactionId) with
  | none => .error (.valueError
      "no verified device acknowledgement exists for this transaction".toList)
  | some entry => .ok entry.2

end BlePersistentConfigurator

end SeedMg24.Model
