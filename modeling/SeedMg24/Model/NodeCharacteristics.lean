import SeedMg24.Model.Node

/-!
# What a node shows of itself

The metadata and the capabilities characteristic of a node, as `ble_initialize_gatt_db` and a
provisioning print them.  The strings of the build are parameters: the production script sets them.
-/

set_option autoImplicit false

namespace SeedMg24.Model

open Foundation

/-- The strings a build is compiled with.
SOURCE: sensor_config.h:9-26; compile.ps1:14 -/
structure FirmwareBuild where
  sensorPackageVersion : Text
  firmwareVersion : Text
  protocolVersion : Text
  configurationSchemaVersion : ℕ := 1
  buildIdentifier : Text
  gitCommit : Text

/-- `sizeof(metadata_json)`. -/
def metadataSize : ℕ := 384

/-- `sizeof(capabilities_json)`. -/
def capabilitiesSize : ℕ := 1280

/-- SOURCE: xiao_mg24_sensor_node.ino:302-306, 784-788 -/
def metadataJson (build : FirmwareBuild) (nodeId : Text) : Text :=
  Text.snprintf metadataSize ("\x7b\"node_id\":\"".toList ++ nodeId ++
    "\",\"sensor_package_version\":\"".toList ++ build.sensorPackageVersion ++
    "\",\"firmware_version\":\"".toList ++ build.firmwareVersion ++
    "\",\"protocol_version\":\"".toList ++ build.protocolVersion ++
    "\",\"configuration_schema_version\":".toList ++
    Text.decimal build.configurationSchemaVersion ++
    ",\"build_identifier\":\"".toList ++ build.buildIdentifier ++
    "\",\"git_commit\":\"".toList ++ build.gitCommit ++ "\"\x7d".toList)

/-- The interfaces of every node, as the capabilities list them.
SOURCE: xiao_mg24_sensor_node.ino:763-771 -/
def interfacesText : Text :=
  ("[\x7b\"interface_id\":\"MIC\",\"type\":\"built_in\"," ++
    "\"capabilities\":[\"built_in_microphone\"]\x7d," ++
    "\x7b\"interface_id\":\"IMU0\",\"type\":\"built_in\"," ++
    "\"capabilities\":[\"built_in_imu_accelerometer\",\"built_in_imu_gyroscope\"]\x7d," ++
    "\x7b\"interface_id\":\"VBAT\",\"type\":\"built_in\"," ++
    "\"capabilities\":[\"built_in_battery\"]\x7d," ++
    "\x7b\"interface_id\":\"D0\",\"type\":\"analog\",\"capabilities\":[\"raw_adc\"]\x7d," ++
    "\x7b\"interface_id\":\"D1\",\"type\":\"analog\",\"capabilities\":[\"raw_adc\"]\x7d," ++
    "\x7b\"interface_id\":\"D2\",\"type\":\"analog\",\"capabilities\":[\"raw_adc\"]\x7d," ++
    "\x7b\"interface_id\":\"D3\",\"type\":\"analog\",\"capabilities\":[\"raw_adc\"]\x7d," ++
    "\x7b\"interface_id\":\"D4\",\"type\":\"analog\",\"capabilities\":[\"raw_adc\"]\x7d," ++
    "\x7b\"interface_id\":\"D5\",\"type\":\"analog\",\"capabilities\":[\"raw_adc\"]\x7d]").toList

/-- What every node can process.
SOURCE: xiao_mg24_sensor_node.ino:772-773 -/
def processingText : Text :=
  ("\x7b\"filters\":[\"none\",\"ema\",\"moving_average\",\"median\",\"digital_debounce\"]," ++
    "\"reporting_modes\":[\"periodic\",\"change\",\"event\",\"heartbeat\"]\x7d").toList

/-- How every node keeps its configuration.
SOURCE: xiao_mg24_sensor_node.ino:774 -/
def persistenceText : Text :=
  "\x7b\"persistence\":\"nvm3_redundant_crc32\",\"readback\":true\x7d".toList

/-- SOURCE: xiao_mg24_sensor_node.ino:761-775 -/
def capabilitiesJson (build : FirmwareBuild) (nodeId : Text) : Text :=
  Text.snprintf capabilitiesSize ("\x7b\"schema_version\":1,\"node_id\":\"".toList ++ nodeId ++
    "\",\"firmware_version\":\"".toList ++ build.firmwareVersion ++
    "\",\"interfaces\":".toList ++ interfacesText ++ ",\"processing\":".toList ++ processingText ++
    ",\"configuration\":".toList ++ persistenceText ++ "\x7d".toList)

end SeedMg24.Model
