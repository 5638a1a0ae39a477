import SeedMg24.Foundation.Words

/-!
# The gateway's BLE provisioner: the commands

The checks and the command texts of `BleNodeProvisioner` in `services/ble_provisioning.py`, and
the part of the schema its values come from.  A Python string is a text, an `int` an integer.
-/

set_option autoImplicit false

namespace SeedMg24.Model

open Foundation

/-- The values of `InstallationConfiguration.filter_type`.
SOURCE: schemas.py:259 -/
inductive FilterName where
  | none | ema | movingAverage | median | digitalDebounce
deriving DecidableEq, Repr

/-- The entries of a configuration dictionary the provisioner reads; only `enabled` may be missing.
SOURCE: ble_provisioning.py:149-157 -/
structure DeviceConfiguration where
  sampleIntervalMs : ℤ
  processingIntervalMs : ℤ
  reportIntervalMs : ℤ
  heartbeatIntervalMs : ℤ
  filterType : FilterName
  filterWindow : ℤ
  enabled : Option Bool := Option.none
deriving DecidableEq, Repr

/-- A validated configuration: its device-level fields, with the bounds of the schema.
SOURCE: schemas.py:254-260 -/
structure InstallationConfiguration where
  sampleIntervalMs : ℤ
  processingIntervalMs : ℤ
  reportIntervalMs : ℤ
  heartbeatIntervalMs : ℤ
  filterType : FilterName
  filterWindow : ℤ
  sample_bounds : 50 ≤ sampleIntervalMs ∧ sampleIntervalMs ≤ 5000
  process_bounds : 50 ≤ processingIntervalMs ∧ processingIntervalMs ≤ 5000
  report_bounds : 50 ≤ reportIntervalMs ∧ reportIntervalMs ≤ 5000
  heartbeat_bounds : 1000 ≤ heartbeatIntervalMs ∧ heartbeatIntervalMs ≤ 3600000
  window_bounds : 1 ≤ filterWindow ∧ filterWindow ≤ 9

/-- `model_dump`: the schema has no `enabled`. -/
def InstallationConfiguration.modelDump (c : InstallationConfiguration) : DeviceConfiguration where
  sampleIntervalMs := c.sampleIntervalMs
  processingIntervalMs := c.processingIntervalMs
  reportIntervalMs := c.reportIntervalMs
  heartbeatIntervalMs := c.heartbeatIntervalMs
  filterType := c.filterType
  filterWindow := c.filterWindow

/-- `BleProvisioningError` with its message. -/
structure BleProvisioningError where
  message : Text
deriving DecidableEq, Repr

/-- SOURCE: ble_provisioning.py:24 -/
def FILTERS : FilterName → Option ℤ
  | .none => some 0
  | .movingAverage => some 1
  | .ema => some 2
  | .median => some 3
  | .digitalDebounce => Option.none

/-- `str` of an integer. -/
def str (z : ℤ) : Text := if z < 0 then '-' :: Text.decimal z.natAbs else Text.decimal z.natAbs

/-- SOURCE: ble_provisioning.py:149-157 -/
def configurationValues (configuration : DeviceConfiguration) :
    Except BleProvisioningError (List ℤ) :=
  match FILTERS configuration.filterType with
  | Option.none => throw ⟨"unsupported filter type".toList⟩
  | some filterValue => return [
      configuration.sampleIntervalMs, configuration.processingIntervalMs,
      configuration.reportIntervalMs, configuration.heartbeatIntervalMs,
      filterValue, configuration.filterWindow,
      if configuration.enabled.getD true then 1 else 0]

/-- `[A-Z0-9]+(?:-[A-Z0-9]+)*`, matched in full.
SOURCE: ble_provisioning.py:89 -/
def nodeIdPattern (s : Text) : Bool :=
  (s.splitOn '-').all fun part =>
    !part.isEmpty && part.all fun c => ('A' ≤ c && c ≤ 'Z') || ('0' ≤ c && c ≤ '9')

/-- `[0-9a-f]{16,24}`, matched in full.
SOURCE: ble_provisioning.py:91, 105 -/
def transactionIdPattern (s : Text) : Bool :=
  16 ≤ s.length && s.length ≤ 24 &&
    s.all fun c => ('0' ≤ c && c ≤ '9') || ('a' ≤ c && c ≤ 'f')

/-- The longest command the provisioner sends.
SOURCE: ble_provisioning.py:110, 178 -/
def maximumCommandLength : ℕ := 191

/-- The `PROV` command of a request, or why there is none.
SOURCE: ble_provisioning.py:87-93, 176-179 -/
def provisionCommand (nodeId transactionId : Text) (configuration : DeviceConfiguration) :
    Except BleProvisioningError Text := do
  if !nodeIdPattern nodeId || nodeId.length > 31 then throw ⟨"node_id is invalid".toList⟩
  if !transactionIdPattern transactionId then throw ⟨"transaction_id is invalid".toList⟩
  let transactionId := Text.toUpperAscii transactionId
  let values ← configurationValues configuration
  let command := "PROV 1 ".toList ++ transactionId ++ " ".toList ++ nodeId ++ " ".toList ++
    [' '].intercalate (values.map str)
  if command.length > maximumCommandLength then
    throw ⟨"provisioning command exceeds firmware limit".toList⟩
  return command

/-- The `CFGSET` command of a request, or why there is none.
SOURCE: ble_provisioning.py:103-111 -/
def configureCommand (transactionId : Text) (configuration : DeviceConfiguration) :
    Except BleProvisioningError Text := do
  if !transactionIdPattern transactionId then throw ⟨"transaction_id is invalid".toList⟩
  let transactionId := Text.toUpperAscii transactionId
  let values ← configurationValues configuration
  let command := "CFGSET 1 ".toList ++ transactionId ++ " ".toList ++
    [' '].intercalate (values.map str)
  if command.length > maximumCommandLength then
    throw ⟨"configuration command exceeds firmware limit".toList⟩
  return command

end SeedMg24.Model
