import SeedMg24.Analysis.CommandEffects
import SeedMg24.Analysis.DurableConfiguration
import SeedMg24.Foundation.DecimalNumbers
import SeedMg24.Model.NodeCharacteristics
import SeedMg24.Model.OnboardingIdentity
import SeedMg24.Model.PersistentConfigurator

/-!
# Applying a configuration to a provisioned node

The configurator hands every configuration to the provisioner, and the provisioner only writes to a
node that shows no identity.  A node that shows its own is read back and nothing else, and one whose
identity is stored but not shown yet answers the command with `already_committed` and keeps its
settings.  An apply to a provisioned node therefore changes no setting, and takes effect exactly when
there was nothing to do.
-/

set_option autoImplicit false

namespace SeedMg24.Analysis

open Foundation Foundation.Json Foundation.Text Model
open ProvisioningCall BleNodeProvisioner

/-! ## Provisioned nodes -/

/-- The identity store holds the id. -/
def StoredUnder (s : NodeState) (nodeId : Text) : Prop :=
  ∃ identity, storedIdentity s.storage = some identity ∧ identity.nodeId = nodeId

/-- A node that is provisioned under an id runs under it, or without one. -/
theorem StoredUnder.runtimeNodeId {s : NodeState} (h : NodeInvariant StorageInvariant s)
    {nodeId : Text} (hstored : StoredUnder s nodeId) :
    s.node.runtimeNodeId = nodeId ∨ s.node.runtimeNodeId = "UNASSIGNED-MG24".toList := by
  obtain ⟨identity, hidentity, rfl⟩ := hstored
  unfold Node.runtimeNodeId
  split
  · rename_i hstatus
    obtain ⟨active, hactive, hid⟩ := h.identified hstatus
    cases hidentity.symm.trans hactive
    exact .inl hid.symm
  · exact .inr rfl

/-- What the characteristics of a node of a supported version show.  The id is the one the node runs
under, or still that of a node without one: the metadata is only renewed by a boot and by a complete
provisioning.
SOURCE: xiao_mg24_sensor_node.ino:302-315, 758-789; ble_provisioning.py:189-194 -/
structure ShowsSupport (texts : NodeTexts) (s : NodeState) : Prop where
  metadata : ∃ members version shown, loads (texts.metadata s) = some (.obj members) ∧
    (Json.obj members).get? "protocol_version".toList = some (.str version) ∧
    (version = "1.0.0".toList ∨ version = "1.1.0".toList) ∧
    (Json.obj members).get? "node_id".toList = some (.str shown) ∧
    (shown = s.node.runtimeNodeId ∨ shown = "UNASSIGNED-MG24".toList)
  capabilities : ∃ members configuration, loads (texts.capabilities s) = some (.obj members) ∧
    (Json.obj members).get? "configuration".toList = some (.obj configuration) ∧
    truthy ((Json.obj configuration).get? "readback".toList) = true

/-! ## The characteristics of the firmware -/

/-- The members of a node's metadata. -/
def metadataFields (build : FirmwareBuild) (nodeId : Text) : List Field := [
  .string "node_id".toList nodeId,
  .string "sensor_package_version".toList build.sensorPackageVersion,
  .string "firmware_version".toList build.firmwareVersion,
  .string "protocol_version".toList build.protocolVersion,
  .natural "configuration_schema_version".toList build.configurationSchemaVersion,
  .string "build_identifier".toList build.buildIdentifier,
  .string "git_commit".toList build.gitCommit]

/-- The members of an interface. -/
def interfaceFields (interfaceId type : String) (capabilities : List String) : List Field := [
  .string "interface_id".toList interfaceId.toList, .string "type".toList type.toList,
  .strings "capabilities".toList (capabilities.map String.toList)]

/-- The interfaces of every node. -/
def interfacesFields : List (List Field) := [
  interfaceFields "MIC" "built_in" ["built_in_microphone"],
  interfaceFields "IMU0" "built_in" ["built_in_imu_accelerometer", "built_in_imu_gyroscope"],
  interfaceFields "VBAT" "built_in" ["built_in_battery"],
  interfaceFields "D0" "analog" ["raw_adc"], interfaceFields "D1" "analog" ["raw_adc"],
  interfaceFields "D2" "analog" ["raw_adc"], interfaceFields "D3" "analog" ["raw_adc"],
  interfaceFields "D4" "analog" ["raw_adc"], interfaceFields "D5" "analog" ["raw_adc"]]

/-- What every node can process. -/
def processingFields : List Field := [
  .strings "filters".toList
    (["none", "ema", "moving_average", "median", "digital_debounce"].map String.toList),
  .strings "reporting_modes".toList
    (["periodic", "change", "event", "heartbeat"].map String.toList)]

/-- How every node keeps its configuration. -/
def persistenceFields : List Field := [
  .string "persistence".toList "nvm3_redundant_crc32".toList, .bool "readback".toList true]

/-- The members of a node's capabilities. -/
def capabilitiesFields (build : FirmwareBuild) (nodeId : Text) : List Field := [
  .natural "schema_version".toList 1, .string "node_id".toList nodeId,
  .string "firmware_version".toList build.firmwareVersion,
  .objects "interfaces".toList interfacesFields, .object "processing".toList processingFields,
  .object "configuration".toList persistenceFields]

/-- A build whose strings are printed as they are, and not too long. -/
structure PrintableBuild (build : FirmwareBuild) : Prop where
  strings : ∀ s ∈ [build.sensorPackageVersion, build.firmwareVersion, build.protocolVersion,
    build.buildIdentifier, build.gitCommit], IsVerbatim s ∧ s.length ≤ 32
  schema : build.configurationSchemaVersion < 100000

theorem interfacesText_eq : interfacesText = arrayText (interfacesFields.map fieldsText) := by
  unfold interfacesText
  simp only [String.toList_append]
  decide +kernel

theorem processingText_eq : processingText = fieldsText processingFields := by
  unfold processingText
  simp only [String.toList_append]
  decide +kernel

theorem persistenceText_eq : persistenceText = fieldsText persistenceFields := by
  decide +kernel

/-- The metadata, member by member. -/
theorem metadataJson_eq (build : FirmwareBuild) (nodeId : Text) :
    metadataJson build nodeId =
      Text.snprintf metadataSize (fieldsText (metadataFields build nodeId)) := by
  unfold metadataJson metadataFields
  simp only [fieldsText, objectText, membersText, memberText, Field.string, Field.natural,
    List.map_cons, List.map_nil, List.append_assoc, List.cons_append]
  rfl

/-- The capabilities, member by member. -/
theorem capabilitiesJson_eq (build : FirmwareBuild) (nodeId : Text) :
    capabilitiesJson build nodeId =
      Text.snprintf capabilitiesSize (fieldsText (capabilitiesFields build nodeId)) := by
  unfold capabilitiesJson capabilitiesFields Field.object Field.objects
  rw [interfacesText_eq, processingText_eq, persistenceText_eq]
  generalize arrayText (interfacesFields.map fieldsText) = interfaces
  generalize fieldsText processingFields = processing
  generalize fieldsText persistenceFields = persistence
  generalize Json.arr _ = a
  generalize fieldsJson _ = b
  generalize fieldsJson _ = c
  simp only [fieldsText, objectText, membersText, memberText, Field.string, Field.natural,
    List.map_cons, List.map_nil, List.append_assoc, List.cons_append]
  rfl

theorem isRead_interfaceFields {interfaceId type : String} {capabilities : List String}
    (hid : IsVerbatim interfaceId.toList) (htype : IsVerbatim type.toList)
    (hne : capabilities ≠ [])
    (hcapabilities : ∀ s ∈ capabilities.map String.toList, IsVerbatim s) :
    interfaceFields interfaceId type capabilities ≠ [] ∧
      ∀ f ∈ interfaceFields interfaceId type capabilities, f.IsRead := by
  refine ⟨by simp [interfaceFields], ?_⟩
  simp only [interfaceFields, List.forall_mem_cons]
  exact ⟨Field.isRead_string (by decide) hid, Field.isRead_string (by decide) htype,
    Field.isRead_strings (by decide) (by simpa using hne) hcapabilities, by simp⟩

section Characteristics

variable {build : FirmwareBuild} (hbuild : PrintableBuild build) {nodeId : Text}
  (hid : IsBare nodeId) (hlength : nodeId.length ≤ kNodeIdMaxLength)
include hbuild hid hlength

/-- The metadata is printed whole. -/
theorem loads_metadataJson :
    loads (metadataJson build nodeId) = some (fieldsJson (metadataFields build nodeId)) := by
  obtain ⟨hstrings, hschema⟩ := hbuild
  simp only [List.forall_mem_cons, List.not_mem_nil, false_implies, implies_true, and_true]
    at hstrings
  obtain ⟨hpackage, hfirmware, hprotocol, hidentifier, hcommit⟩ := hstrings
  have hdigits : (decimal build.configurationSchemaVersion).length ≤ 5 :=
    length_decimal_le (by decide) hschema
  have hfits : (fieldsText (metadataFields build nodeId)).length < metadataSize := by
    have h1 := hpackage.2
    have h2 := hfirmware.2
    have h3 := hprotocol.2
    have h4 := hidentifier.2
    have h5 := hcommit.2
    rw [length_fieldsText (by simp [metadataFields])]
    rw [kNodeIdMaxLength] at hlength
    simp only [metadataFields, Field.string, Field.natural, metadataSize, List.map_cons,
      List.map_nil, List.sum_cons, List.sum_nil, List.length_append, List.length_cons,
      List.length_nil, String.reduceToList]
    omega
  have hread : ∀ f ∈ metadataFields build nodeId, f.IsRead := by
    simp only [metadataFields, List.forall_mem_cons]
    exact ⟨Field.isRead_string (by decide) hid.isVerbatim,
      Field.isRead_string (by decide) hpackage.1, Field.isRead_string (by decide) hfirmware.1,
      Field.isRead_string (by decide) hprotocol.1, Field.isRead_natural (by decide) _,
      Field.isRead_string (by decide) hidentifier.1, Field.isRead_string (by decide) hcommit.1,
      by simp⟩
  have hloads := loads_of_reads (reads_fields (by simp [metadataFields]) hread)
    (List.forall_mem_nil _)
  rwa [List.append_nil, ← snprintf_eq_self hfits, ← metadataJson_eq] at hloads

/-- The capabilities are printed whole. -/
theorem loads_capabilitiesJson :
    loads (capabilitiesJson build nodeId) = some (fieldsJson (capabilitiesFields build nodeId)) := by
  obtain ⟨hstrings, -⟩ := hbuild
  have hfirmware := hstrings build.firmwareVersion (by simp)
  have hfits : (fieldsText (capabilitiesFields build nodeId)).length < capabilitiesSize := by
    have h1 := hfirmware.2
    have hinterfaces : (arrayText (interfacesFields.map fieldsText)).length ≤ 700 := by
      decide +kernel
    have hprocessing : (fieldsText processingFields).length ≤ 160 := by decide +kernel
    have hpersistence : (fieldsText persistenceFields).length ≤ 60 := by decide +kernel
    have hone : (decimal 1).length = 1 := by decide
    rw [length_fieldsText (by simp [capabilitiesFields])]
    rw [kNodeIdMaxLength] at hlength
    simp only [capabilitiesFields, Field.string, Field.natural, Field.objects, Field.object,
      capabilitiesSize, List.map_cons, List.map_nil, List.sum_cons, List.sum_nil,
      List.length_append, List.length_cons, List.length_nil, String.reduceToList]
    omega
  have hinterface : ∀ fields ∈ interfacesFields, fields ≠ [] ∧ ∀ f ∈ fields, f.IsRead := by
    simp only [interfacesFields, List.forall_mem_cons]
    refine ⟨?_, ?_, ?_, ?_, ?_, ?_, ?_, ?_, ?_, by simp⟩
    all_goals exact isRead_interfaceFields (by decide) (by decide) (by decide) (by decide)
  have hprocess : ∀ f ∈ processingFields, f.IsRead := by
    simp only [processingFields, List.forall_mem_cons]
    exact ⟨Field.isRead_strings (by decide) (by simp) (by decide),
      Field.isRead_strings (by decide) (by simp) (by decide), by simp⟩
  have hpersist : ∀ f ∈ persistenceFields, f.IsRead := by
    simp only [persistenceFields, List.forall_mem_cons]
    exact ⟨Field.isRead_string (by decide) (by decide), Field.isRead_bool (by decide) true, by simp⟩
  have hread : ∀ f ∈ capabilitiesFields build nodeId, f.IsRead := by
    simp only [capabilitiesFields, List.forall_mem_cons]
    exact ⟨Field.isRead_natural (by decide) 1, Field.isRead_string (by decide) hid.isVerbatim,
      Field.isRead_string (by decide) hfirmware.1,
      Field.isRead_objects (by decide) (by simp [interfacesFields]) hinterface,
      Field.isRead_object (by decide) (by simp [processingFields]) hprocess,
      Field.isRead_object (by decide) (by simp [persistenceFields]) hpersist, by simp⟩
  have hloads := loads_of_reads (reads_fields (by simp [capabilitiesFields]) hread)
    (List.forall_mem_nil _)
  rwa [List.append_nil, ← snprintf_eq_self hfits, ← capabilitiesJson_eq] at hloads

end Characteristics

/-- The characteristics of a node with an onboarding identity made from its hardware id. -/
def firmwareTexts (build : FirmwareBuild) (hardwareId : UInt64) : NodeTexts where
  metadata s := metadataJson build s.node.runtimeNodeId
  capabilities s := capabilitiesJson build s.node.runtimeNodeId
  onboardingIdentity s :=
    onboardingIdentityJson s.node.bootstrapOnly hardwareId s.node.resetRecoveryStatus

/-- **The firmware shows that it is supported**, when its protocol version is. -/
theorem showsSupport_firmwareTexts {build : FirmwareBuild} (hbuild : PrintableBuild build)
    (hversion : build.protocolVersion = "1.0.0".toList ∨ build.protocolVersion = "1.1.0".toList)
    (hardwareId : UInt64) {s : NodeState} (h : NodeInvariant StorageInvariant s)
    (hnamed : NamedBare s.node) : ShowsSupport (firmwareTexts build hardwareId) s where
  metadata := ⟨_, build.protocolVersion, s.node.runtimeNodeId,
    loads_metadataJson hbuild hnamed.runtimeNodeId h.length_runtimeNodeId, rfl, hversion, rfl,
    .inl rfl⟩
  capabilities := ⟨_, _,
    loads_capabilitiesJson hbuild hnamed.runtimeNodeId h.length_runtimeNodeId, rfl, rfl⟩

/-- A node neither stores nor runs other settings than before. -/
structure SameSettings (before after : NodeState) : Prop where
  storage : after.storage = before.storage
  running : after.node.microphoneRuntimeConfig = before.node.microphoneRuntimeConfig

theorem SameSettings.refl (s : NodeState) : SameSettings s s := ⟨rfl, rfl⟩

theorem SameSettings.trans {s t u : NodeState} (h : SameSettings s t) (h' : SameSettings t u) :
    SameSettings s u :=
  ⟨h'.storage.trans h.storage, h'.running.trans h.running⟩

/-! ## The calls -/

section Calls

variable {s : ProvisioningSession (LinkedNode WriteFault)} {texts : NodeTexts}

theorem outcome_readJson {characteristic : LinkedNode WriteFault → Text} {j : Json}
    (h : loads (characteristic s.server) = some j) :
    (readJson characteristic).outcome s = (.ok j, s) := by
  have hget : (get : ProvisioningCall (LinkedNode WriteFault) _).outcome s = (.ok s, s) := rfl
  rw [readJson, outcome_bind, hget]
  dsimp only
  rw [h, outcome_pure]

/-- The characteristics are read, and nothing else happens. -/
theorem outcome_readSupport (h : ShowsSupport texts s.server.state) :
    ∃ metadata capabilities shown,
      (readSupport (nodeServer tearing texts)).outcome s = (.ok (metadata, capabilities), s) ∧
      metadata.get? "node_id".toList = some (.str shown) ∧
      (shown = s.server.state.node.runtimeNodeId ∨ shown = "UNASSIGNED-MG24".toList) := by
  obtain ⟨members, version, shown, hmetadata, hprotocol, hversion, hshown, hid⟩ := h.metadata
  obtain ⟨capabilities, configuration, hcapabilities, hconfiguration, hreadback⟩ := h.capabilities
  refine ⟨.obj members, .obj capabilities, shown, ?_, hshown, hid⟩
  have hsupported : (!isStr (some (.str version)) "1.0.0".toList &&
      !isStr (some (.str version)) "1.1.0".toList) = false := by
    rcases hversion with rfl | rfl <;> decide
  have hget (j : List (Text × Json)) (key : Text) :
      (getFrom (.obj j) key : ProvisioningCall (LinkedNode WriteFault) _).outcome s =
        (.ok ((Json.obj j).get? key), s) := rfl
  unfold readSupport
  rw [outcome_bind, outcome_readJson (show loads ((nodeServer tearing texts).metadata s.server) = _
    from hmetadata)]
  dsimp only
  rw [outcome_bind, outcome_readJson (show loads ((nodeServer tearing texts).capabilities s.server) =
    _ from hcapabilities)]
  dsimp only
  rw [outcome_bind, hget, hprotocol]
  dsimp only
  rw [hsupported, if_neg Bool.false_ne_true, outcome_bind, hget, hconfiguration]
  dsimp only [Option.getD_some]
  rw [outcome_bind, hget]
  dsimp only
  rw [hreadback]
  rfl

/-- A client is subscribed after a report, if it was before. -/
theorem subscribed_reported {server : LinkedNode WriteFault} {n : Node}
    (h : NodeInvariant StorageInvariant ⟨server.state.storage, n⟩) (hnamed : NamedBare n)
    (hlink : n.bleConnected = true ∧ n.bleNotifyEnabled = true) (transactionId code : Text)
    (answered : List (Text × List Text)) :
    Subscribed { server := reported server n transactionId code, answered := answered } := by
  refine ⟨h.reportProvisioningState _ _, ?_, ?_, ?_, rfl⟩
  · simpa [NamedBare, reported, Node.reportProvisioningState] using hnamed
  · simpa [reported, Node.reportProvisioningState] using hlink.1
  · simpa [reported, Node.reportProvisioningState] using hlink.2

/-- What a node makes of a provisioning command for the id it has stored: it takes the identity over
and reports that there is nothing to commit. -/
theorem handle_alreadyCommitted {server : LinkedNode WriteFault}
    (h : NodeInvariant StorageInvariant server.state) {identity : NodeIdentity}
    (hidentity : storedIdentity server.state.storage = some identity) {command transactionId : Text}
    {values : List ℤ} (hreads : ReadsProvision command transactionId identity.nodeId values) :
    ∃ status, (status = .ok ∨ status = .recoveredFromPrevious) ∧
      server.handle tearing command = reported server
        (reidentified server.state.node identity status) transactionId
          "already_committed".toList := by
  obtain ⟨k, tokens, staged, -, -, -, -, -, hcommit⟩ := hreads
  obtain ⟨hstorage, hvalue⟩ := commitProvision_identified tearing_faithful hidentity transactionId
    identity.nodeId tokens (server.passes 0).now (server.passes 0).faults
  rw [if_pos rfl] at hvalue
  obtain ⟨status, hstatus, hvalue⟩ := hvalue
  have hidle : ((reidentified server.state.node identity status).reportProvisioningState
      transactionId "already_committed".toList).factoryResetController.busy = false := by
    simpa [Node.reportProvisioningState, reidentified] using h.idle
  refine ⟨status, hstatus, ?_⟩
  unfold LinkedNode.handle reported
  dsimp only
  rw [hcommit _ _ h.idle, hstorage, hvalue, afterCommands_eq hidle]

variable (texts) in
/-- **Before the read-back** of a provisioned node, no setting changes: the command is not sent, or
there is nothing to commit. -/
theorem outcome_acknowledge (h : Subscribed s) {nodeId transactionId command : Text}
    (hstored : StoredUnder s.server.state nodeId)
    (htransaction : transactionIdPattern transactionId = true) {values : List ℤ}
    (hreads : ReadsProvision command (toUpperAscii transactionId) nodeId values)
    {metadata : Json} {shown : Text}
    (hshown : metadata.get? "node_id".toList = some (.str shown))
    (hid : shown = s.server.state.node.runtimeNodeId ∨ shown = "UNASSIGNED-MG24".toList) :
    ∃ acknowledgement t, (acknowledge (nodeServer tearing texts) metadata nodeId
        (toUpperAscii transactionId) command).outcome s = (.ok acknowledgement, t) ∧
      Subscribed t ∧ SameSettings s.server.state t.server.state ∧
      t.server.state.node.runtimeNodeId = nodeId := by
  have hstr (text : Text) : isStr (some (.str shown)) text = decide (shown = text) := rfl
  unfold acknowledge
  rw [hshown, hstr, hstr]
  by_cases hunassigned : shown = "UNASSIGNED-MG24".toList
  · obtain ⟨identity, hidentity, rfl⟩ := hstored
    obtain ⟨status, hstatus, hhandle⟩ := handle_alreadyCommitted h.invariant hidentity hreads
    have hinvariant : NodeInvariant StorageInvariant ⟨s.server.state.storage,
        reidentified s.server.state.node identity status⟩ :=
      { storage := h.invariant.storage
        idle := h.invariant.idle
        inRange := h.invariant.inRange
        identified := fun _ => ⟨identity, hidentity, rfl⟩
        active := fun _ => hstatus }
    have hnamed : NamedBare (reidentified s.server.state.node identity status) :=
      isBare_of_validNodeId (validNodeId_of_storedIdentity hidentity)
    have hupper := (plain_of_transactionIdPattern htransaction).1
    have hexchange := exchange_report h.quiet hhandle hinvariant hnamed ⟨h.connected, h.notified⟩ rfl
      ⟨isBare_toUpperAscii htransaction, hupper.2⟩ ⟨by decide +kernel, by decide⟩
      (show "already_committed".toList ∈ ["provisioned".toList, "already_committed".toList] by simp)
      texts
    rw [hunassigned, decide_eq_true rfl, if_pos rfl]
    refine ⟨_, _, hexchange, subscribed_reported hinvariant hnamed ⟨h.connected, h.notified⟩ _ _ _,
      ⟨rfl, ?_⟩, ?_⟩
    · simp [reported, Node.reportProvisioningState, reidentified]
    · simp [reported, Node.reportProvisioningState, reidentified, Node.runtimeNodeId, hstatus]
  · have hruntime : shown = s.server.state.node.runtimeNodeId := hid.resolve_right hunassigned
    have hnode : s.server.state.node.runtimeNodeId = nodeId :=
      (hstored.runtimeNodeId h.invariant).resolve_right (hruntime ▸ hunassigned)
    rw [decide_eq_false hunassigned, if_neg Bool.false_ne_true, decide_eq_true (hruntime.trans hnode),
      if_pos rfl]
    exact ⟨_, s, rfl, h, .refl _, hnode⟩

/-- **A provisioning of a provisioned node** changes no setting, and returns exactly when the node
already runs the values. -/
theorem outcome_provisionConnected (h : Subscribed (subscribed texts s))
    (hsupport : ShowsSupport texts s.server.state) {nodeId transactionId command : Text}
    (hstored : StoredUnder s.server.state nodeId)
    (htransaction : transactionIdPattern transactionId = true) {values : List ℤ}
    (hlength : values.length = 7)
    (hreads : ReadsProvision command (toUpperAscii transactionId) nodeId values) :
    let call := (provisionConnected (nodeServer tearing texts) nodeId (toUpperAscii transactionId)
      command values none).outcome s
    SameSettings s.server.state call.2.server.state ∧
      ((∃ result, call.1 = .ok result) ↔
        values = settingsValues s.server.state.node.microphoneRuntimeConfig) := by
  obtain ⟨metadata, capabilities, shown, hread, hshown, hid⟩ := outcome_readSupport hsupport
  obtain ⟨acknowledgement, t, hacknowledged, ht, hsame, hnode⟩ :=
    outcome_acknowledge texts h hstored htransaction hreads hshown hid
  have hfirst := exchange_readback ht htransaction texts
  have hmatch := readbackMatches_report t.server.state.node.runtimeNodeId
    (toUpperAscii transactionId) "readback".toList t.server.state.node.microphoneRuntimeConfig hlength
  have hnamed : isStr ((fieldsJson (reportFields t.server.state.node.runtimeNodeId
      (toUpperAscii transactionId) "readback".toList
      t.server.state.node.microphoneRuntimeConfig)).get? "id".toList) nodeId =
        decide (t.server.state.node.runtimeNodeId = nodeId) := rfl
  have hafter := afterReadback_settings t (toUpperAscii transactionId)
  have hrunning : t.server.state.node.microphoneRuntimeConfig =
      s.server.state.node.microphoneRuntimeConfig := hsame.running
  rw [hnode, hrunning] at hmatch hnamed
  rw [decide_eq_true rfl] at hnamed
  dsimp only
  unfold provisionConnected
  rw [outcome_bind, show (expectIdentity (nodeServer tearing texts) none).outcome s = (.ok (), s)
    from rfl]
  dsimp only
  rw [outcome_bind, hread]
  dsimp only
  rw [outcome_startNotify_bind, outcome_bind, hacknowledged]
  dsimp only
  rw [outcome_exchange_bind, hfirst]
  dsimp only
  rw [hnode, hrunning]
  generalize fieldsJson (reportFields nodeId (toUpperAscii transactionId) "readback".toList
    s.server.state.node.microphoneRuntimeConfig) = readback at hmatch hnamed ⊢
  rw [outcome_bind, show (readOnboardingAfter (nodeServer tearing texts) none).outcome
    (afterReadback t (toUpperAscii transactionId)) =
      (.ok none, afterReadback t (toUpperAscii transactionId)) from rfl]
  dsimp only
  rw [outcome_stopNotify_bind]
  have hsettings : SameSettings s.server.state
      ((nodeServer tearing texts).stopNotify (afterReadback t (toUpperAscii transactionId)).server).state :=
    ⟨hafter.1.trans hsame.storage, hafter.2.trans hrunning⟩
  rw [hnamed]
  by_cases hmatches : readbackMatches readback values = true
  · rw [hmatches, if_neg (by decide)]
    exact ⟨hsettings, iff_of_true ⟨_, rfl⟩ (hmatch.mp hmatches)⟩
  · rw [Bool.eq_false_iff.mpr hmatches, if_pos (by decide)]
    refine ⟨hsettings, iff_of_false ?_ fun hvalues => hmatches (hmatch.mpr hvalues)⟩
    rintro ⟨result, hresult⟩
    cases hresult

/-- A valid request of a provisioner that nobody uses for the node. -/
theorem outcome_provision {nodeId transactionId command : Text} {configuration : DeviceConfiguration}
    {values : List ℤ} (hpattern : nodeIdPattern nodeId = true ∧ nodeId.length ≤ 31)
    (htransaction : transactionIdPattern transactionId = true)
    (hcommand : provisionCommand nodeId transactionId configuration = .ok command)
    (hvalues : configurationValues configuration = .ok values) :
    (provision (nodeServer tearing texts) false nodeId transactionId configuration none).outcome s =
      (provisionConnected (nodeServer tearing texts) nodeId (toUpperAscii transactionId) command values
        none).outcome s := by
  have hlong : decide (nodeId.length > 31) = false := decide_eq_false (by omega)
  unfold provision
  rw [hpattern.1, hlong, htransaction, hcommand, hvalues]
  rfl

/-- A request for a node another call is active on. -/
theorem outcome_provision_locked (nodeId transactionId : Text) (configuration : DeviceConfiguration) :
    ∃ failure, (provision (nodeServer tearing texts) true nodeId transactionId configuration
      none).outcome s = (.error failure, s) := by
  unfold provision
  dsimp only
  split
  · exact ⟨_, rfl⟩
  split
  · exact ⟨_, rfl⟩
  · exact ⟨_, rfl⟩

end Calls

/-! ## The configurator -/

/-- 32 hexadecimal digits: the `hex` of a `uuid4`.
SOURCE: provisioning_service.py:163 -/
def isUuidHex (s : Text) : Bool :=
  s.length = 32 && s.all fun c => ('0' ≤ c && c ≤ '9') || ('a' ≤ c && c ≤ 'f')

/-- The first half of one is a transaction id. -/
theorem transactionIdPattern_take {s : Text} (h : isUuidHex s = true) :
    transactionIdPattern (s.take 16) = true := by
  simp only [isUuidHex, Bool.and_eq_true, decide_eq_true_eq, List.all_eq_true] at h
  have hlength : (s.take 16).length = 16 := by
    rw [List.length_take]
    omega
  simp only [transactionIdPattern, Bool.and_eq_true, decide_eq_true_eq, List.all_eq_true]
  exact ⟨by omega, fun c hc => h.2 c (List.mem_of_mem_take hc)⟩

/-- A call of `apply` returned, and afterwards the node runs and stores the requested values. -/
structure TakesEffect (call : ConfiguratorApply (LinkedNode WriteFault))
    (configuration : DeviceConfiguration) : Prop where
  returned : ∃ applied, call.result = .ok applied
  running : configurationValues configuration =
    .ok (settingsValues call.session.server.state.node.microphoneRuntimeConfig)
  stored : ∃ c, storedSettings call.session.server.state.storage = some c ∧
    configurationValues configuration = .ok (settingsValues c)

/-- The provisioner reaches the node, and there is nothing to do: the node runs and stores the
requested values already. -/
structure InForceAlready (c : BlePersistentConfigurator) (locked : Bool) (s : NodeState)
    (nodeId : Text) (configuration : DeviceConfiguration) : Prop where
  addressed : (c.bleAddress nodeId).isSome = true
  free : locked = false
  running : configurationValues configuration =
    .ok (settingsValues s.node.microphoneRuntimeConfig)
  stored : storedSettings s.storage = some s.node.microphoneRuntimeConfig

section Configurator

variable {s : ProvisioningSession (LinkedNode WriteFault)} {texts : NodeTexts}

/-- **An apply to a provisioned node** changes no setting, and returns exactly when the provisioner
reaches the node and finds it running the values. -/
theorem apply_outcome (h : Subscribed (subscribed texts s))
    (hsupport : ShowsSupport texts s.server.state) {nodeId transactionId : Text}
    (hstored : StoredUnder s.server.state nodeId) (htransaction : isUuidHex transactionId = true)
    (installation : InstallationConfiguration) {filter : ℤ}
    (hfilter : FILTERS installation.filterType = some filter) (c : BlePersistentConfigurator)
    (locked : Bool) :
    let call := c.apply (nodeServer tearing texts) locked nodeId "MIC".toList transactionId
      installation.modelDump s
    SameSettings s.server.state call.session.server.state ∧
      ((∃ applied, call.result = .ok applied) ↔
        (c.bleAddress nodeId).isSome = true ∧ locked = false ∧
          configurationValues installation.modelDump =
            .ok (settingsValues s.server.state.node.microphoneRuntimeConfig)) := by
  have hvalid : validNodeId nodeId = true := by
    obtain ⟨identity, hidentity, rfl⟩ := hstored
    exact validNodeId_of_storedIdentity hidentity
  have hpattern := pattern_of_validNodeId hvalid
  have hhalf := transactionIdPattern_take htransaction
  have hvalues := configurationValues_modelDump installation hfilter
  have hlength := length_configurationValues hvalues
  obtain ⟨command, -, hcommand, -, -, -, hreads, -⟩ :=
    commandText_agrees installation hfilter hpattern.1 hpattern.2 hhalf
  dsimp only
  unfold BlePersistentConfigurator.apply
  rw [show BlePersistentConfigurator.supportsInterface "MIC".toList = true by decide]
  simp only [Bool.not_true, Bool.false_eq_true, if_false]
  cases haddress : c.bleAddress nodeId with
  | none => exact ⟨.refl _, iff_of_false (by rintro ⟨_, happlied⟩; cases happlied) (by simp)⟩
  | some address =>
    dsimp only
    cases locked with
    | true =>
      obtain ⟨failure, hcall⟩ := @outcome_provision_locked s texts nodeId
        (transactionId.take 16) installation.modelDump
      rw [hcall]
      exact ⟨.refl _, iff_of_false (by rintro ⟨_, happlied⟩; cases happlied) (by simp)⟩
    | false =>
      have hcall := outcome_provisionConnected h hsupport hstored hhalf hlength hreads
      rw [outcome_provision hpattern hhalf hcommand hvalues, hvalues]
      generalize (provisionConnected (nodeServer tearing texts) nodeId
        (toUpperAscii (transactionId.take 16)) command (installationValues installation filter)
          none).outcome s = outcome at hcall ⊢
      obtain ⟨result, t⟩ := outcome
      dsimp only at hcall
      obtain ⟨hsame, hreturns⟩ := hcall
      cases result with
      | error failure =>
        refine ⟨hsame, iff_of_false (by rintro ⟨_, happlied⟩; cases happlied) ?_⟩
        rintro ⟨-, -, hrunning⟩
        obtain ⟨_, hresult⟩ := hreturns.mpr (Except.ok.inj hrunning)
        cases hresult
      | ok result =>
        exact ⟨hsame, iff_of_true ⟨_, rfl⟩ ⟨rfl, rfl, congrArg _ (hreturns.mp ⟨_, rfl⟩)⟩⟩

end Configurator

/-- **When an apply to a provisioned node takes effect.**  For every node a run leads to whose
identity store holds the id, whatever it runs and stores, and every requested configuration: `apply`
returns and leaves the node running and storing the requested values if and only if it runs and
stores them already.
SOURCE: provisioning_service.py:59-79; ble_provisioning.py:164-225;
xiao_mg24_sensor_node.ino:258-266 -/
theorem apply_takesEffect_iff (events : List (NodeEvent WriteFault))
    (passes : ℕ → LoopPass WriteFault) {texts : NodeTexts} {nodeId transactionId : Text}
    (hstored : StoredUnder (nodeAfter tearing events) nodeId)
    (hsupport : ShowsSupport texts (nodeAfter tearing events))
    (htransaction : isUuidHex transactionId = true) (installation : InstallationConfiguration)
    {filter : ℤ} (hfilter : FILTERS installation.filterType = some filter)
    (c : BlePersistentConfigurator) (locked : Bool) :
    TakesEffect (c.apply (nodeServer tearing texts) locked nodeId "MIC".toList transactionId
        installation.modelDump (callAfter tearing events passes)) installation.modelDump ↔
      InForceAlready c locked (nodeAfter tearing events) nodeId installation.modelDump := by
  have hcall := apply_outcome (s := callAfter tearing events passes)
    (subscribed_callAfter texts events passes) hsupport hstored htransaction installation hfilter c
    locked
  dsimp only at hcall
  obtain ⟨hsame, hreturns⟩ := hcall
  have hrunning : _ = (nodeAfter tearing events).node.microphoneRuntimeConfig := hsame.running
  have hstorage : _ = (nodeAfter tearing events).storage := hsame.storage
  constructor
  · rintro ⟨hreturned, hruns, settings, hsettings, hvalues⟩
    obtain ⟨haddressed, hfree, -⟩ := hreturns.mp hreturned
    rw [hrunning] at hruns
    rw [hstorage] at hsettings
    have hequal := settingsValues_inj (Except.ok.inj (hvalues.symm.trans hruns))
    exact ⟨haddressed, hfree, hruns, hequal ▸ hsettings⟩
  · rintro ⟨haddressed, hfree, hruns, hstores⟩
    refine ⟨hreturns.mpr ⟨haddressed, hfree, hruns⟩, ?_, _, ?_, hruns⟩
    · rw [hrunning]
      exact hruns
    · rw [hstorage]
      exact hstores

/-- What `read_back` returns after an `apply` that returned is what was requested, whatever the node
does meanwhile.
SOURCE: provisioning_service.py:77-84 -/
theorem readBack_apply {σ : Type} (server : GattServer σ) (locked : Bool)
    (c : BlePersistentConfigurator) (nodeId interfaceId transactionId : Text)
    (configuration : DeviceConfiguration) (s : ProvisioningSession σ) {applied : DeviceConfiguration}
    (h : (c.apply server locked nodeId interfaceId transactionId configuration s).result =
      .ok applied) :
    (c.apply server locked nodeId interfaceId transactionId configuration s).configurator.readBack
      transactionId = .ok configuration := by
  unfold BlePersistentConfigurator.apply at h ⊢
  split at h
  · cases h
  rename_i hinterface
  rw [if_neg hinterface]
  cases haddress : c.bleAddress nodeId with
  | none => rw [haddress] at h; cases h
  | some address =>
    rw [haddress] at h
    dsimp only at h ⊢
    cases hcall : (provision server locked nodeId (transactionId.take 16) configuration
        none).outcome s with
    | mk result t =>
      rw [hcall] at h
      cases result with
      | error failure => cases h
      | ok result => simp [BlePersistentConfigurator.readBack, BlePersistentConfigurator.verify]

/-- The strings of a release build.
SOURCE: compile.ps1:1, 11-14 -/
def releaseBuild : FirmwareBuild where
  sensorPackageVersion := "0.1.0".toList
  firmwareVersion := "0.1.0".toList
  protocolVersion := "1.1.0".toList
  buildIdentifier := "local".toList
  gitCommit := "unknown".toList

/-- A node that is provisioned with the schema's defaults. -/
def defaultNode : List (NodeEvent WriteFault) := [
  .command "PROV 1 TRANSACTION NODE-1 100 100 100 30000 1 1 1".toList 10 fun _ => .completes .ok]

/-- A configurator that knows the address of the node. -/
def knowingConfigurator : BlePersistentConfigurator where
  devices := [{ deviceId := "NODE-1".toList, bleAddress := some "AA:BB:CC:DD:EE:FF".toList }]

/-- The defaults with a report every half second. -/
def slowInstallation : InstallationConfiguration :=
  { defaultInstallation with reportIntervalMs := 500, report_bounds := by decide }

/-- An apply to that node, on a node whose loop goes on and whose storage works. -/
def defaultApply (installation : InstallationConfiguration) :
    ConfiguratorApply (LinkedNode WriteFault) :=
  knowingConfigurator.apply (nodeServer tearing (firmwareTexts releaseBuild 1)) false
    "NODE-1".toList "MIC".toList "0123456789abcdef0123456789abcdef".toList installation.modelDump
    (callAfter tearing defaultNode fun _ => ⟨30, fun _ => .completes .ok⟩)

theorem storedUnder_defaultNode : StoredUnder (nodeAfter tearing defaultNode) "NODE-1".toList :=
  ⟨sealIdentity "NODE-1".toList 2, by decide +kernel, rfl⟩

theorem showsSupport_defaultNode :
    ShowsSupport (firmwareTexts releaseBuild 1) (nodeAfter tearing defaultNode) :=
  showsSupport_firmwareTexts ⟨by decide, by decide⟩ (.inr rfl) 1
    (nodeInvariant_nodeAfter tearing_guarantees storageInvariant_empty defaultNode)
    (namedBare_nodeAfter tearing defaultNode)

/-- Applying the defaults to it takes effect. -/
theorem apply_takesEffect_defaultNode :
    TakesEffect (defaultApply defaultInstallation) defaultInstallation.modelDump :=
  (apply_takesEffect_iff defaultNode (fun _ => ⟨30, fun _ => .completes .ok⟩)
    storedUnder_defaultNode showsSupport_defaultNode (by decide +kernel) defaultInstallation
    (show FILTERS .movingAverage = some 1 by rfl) knowingConfigurator false).mpr
    ⟨by decide +kernel, rfl, by decide +kernel, by decide +kernel⟩

/-- Applying anything else raises, and the node keeps the defaults. -/
theorem not_takesEffect_slowInstallation :
    StoredUnder (nodeAfter tearing defaultNode) "NODE-1".toList ∧
      ShowsSupport (firmwareTexts releaseBuild 1) (nodeAfter tearing defaultNode) ∧
      FILTERS slowInstallation.filterType = some 1 ∧
      ¬ TakesEffect (defaultApply slowInstallation) slowInstallation.modelDump := by
  refine ⟨storedUnder_defaultNode, showsSupport_defaultNode, rfl, fun heffect => ?_⟩
  obtain ⟨-, hreturns⟩ := apply_outcome (s := callAfter tearing defaultNode
      fun _ => ⟨30, fun _ => .completes .ok⟩)
    (subscribed_callAfter (firmwareTexts releaseBuild 1) defaultNode _) showsSupport_defaultNode
    storedUnder_defaultNode
    (show isUuidHex "0123456789abcdef0123456789abcdef".toList = true by decide +kernel)
    slowInstallation (show FILTERS .movingAverage = some 1 by rfl) knowingConfigurator false
  obtain ⟨-, -, hrunning⟩ := hreturns.mp heffect.returned
  exact absurd hrunning (by decide +kernel)

end SeedMg24.Analysis
