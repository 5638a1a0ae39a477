import SeedMg24.Analysis.NodeAnswers
import SeedMg24.Model.BootstrapHost
import SeedMg24.Model.UsbBootstrap

/-!
# The node's state on the host

The line a node answers a request for its state with, member by member.  It is one JSON object the
host reads back, unless the host refuses it for its length: the longest one is 864 bytes, and the
host takes 768.
-/

set_option autoImplicit false

namespace SeedMg24.Analysis

open Foundation Foundation.Json Foundation.Text Model Model.BootstrapHost

/-! ## The members of a response -/

/-- The members of a stored configuration. -/
def configurationFields (c : StoredChannelConfiguration) : List Field := [
  .natural "sample_interval_ms".toList c.sampleIntervalMs.toNat,
  .natural "processing_interval_ms".toList c.processingIntervalMs.toNat,
  .natural "report_interval_ms".toList c.reportIntervalMs.toNat,
  .natural "heartbeat_interval_ms".toList c.heartbeatIntervalMs.toNat,
  .natural "filter_type".toList c.filterType.toNat,
  .natural "filter_window".toList c.filterWindow.toNat,
  .natural "enabled".toList c.enabled.toNat,
  .bool "calibration_enabled".toList false,
  .bool "alarms_enabled".toList false,
  .string "unit".toList "adc_count".toList]

section State

variable (requestId action : Text) (hardware : UInt64) (identityStatus : StoreStatus)
  (identity : NodeIdentity) (configurationStatus : StoreStatus)
  (configuration : StoredChannelConfiguration)

/-- The members of a node's state. -/
def stateFields : List Field := [
  .string "hardware_id".toList (hardwareIdText hardware),
  .string "provisioning_state".toList
    (if isLoaded identityStatus then "provisioned" else "unprovisioned").toList,
  .optionalString "node_id".toList
    (if isLoaded identityStatus then some identity.nodeId else none),
  .string "identity_status".toList (storeStatusName identityStatus),
  .natural "identity_generation".toList identity.generation.toNat,
  .string "configuration_status".toList (storeStatusName configurationStatus),
  .natural "configuration_generation".toList configuration.generation.toNat,
  .string "sensor_package_version".toList SENSOR_PACKAGE_VERSION,
  .string "firmware_version".toList FIRMWARE_VERSION,
  .string "protocol_version".toList PROTOCOL_VERSION,
  .natural "configuration_schema_version".toList CONFIGURATION_SCHEMA_VERSION,
  .string "build_identifier".toList BUILD_IDENTIFIER,
  .object "configuration".toList (configurationFields configuration)]

/-- The members of the response to a request for a node's state. -/
def stateResponseFields : List Field := [
  .string "type".toList "bootstrap_response".toList,
  .natural "schema_version".toList SCHEMA_VERSION,
  .string "request_id".toList requestId,
  .string "action".toList action,
  .string "status".toList "success".toList,
  .object "result".toList
    (stateFields hardware identityStatus identity configurationStatus configuration)]

/-- The line a node answers a request for its state with. -/
def stateResponse : Text :=
  respond requestId action "success".toList
    (some (nodeStateJson (hardwareIdText hardware) identityStatus identity configurationStatus
      configuration)) none

/-- How much room the values of a response take that are not of one length. -/
def stateWidth : ℕ :=
  requestId.length + action.length + (nodeIdJson identityStatus identity.nodeId).length +
    (if isLoaded identityStatus then 11 else 13) +
    (storeStatusName identityStatus).length + (decimal identity.generation.toNat).length +
    (storeStatusName configurationStatus).length +
    (decimal configuration.generation.toNat).length +
    (decimal configuration.sampleIntervalMs.toNat).length +
    (decimal configuration.processingIntervalMs.toNat).length +
    (decimal configuration.reportIntervalMs.toNat).length +
    (decimal configuration.heartbeatIntervalMs.toNat).length +
    (decimal configuration.filterType.toNat).length +
    (decimal configuration.filterWindow.toNat).length +
    (decimal configuration.enabled.toNat).length

end State

/-! ## The texts of a response -/

set_option maxRecDepth 4000 in
theorem configurationJson_eq (c : StoredChannelConfiguration) :
    '\x7b' :: configurationJson c = fieldsText (configurationFields c) := by
  unfold fieldsText configurationFields objectText configurationJson
  simp only [membersText, memberText, Field.string, Field.natural, Field.bool, List.map_cons,
    List.map_nil, List.append_assoc, List.cons_append, List.nil_append, String.reduceToList,
    Bool.false_eq_true, if_false]

section State

variable {requestId action : Text} {hardware : UInt64} {identityStatus : StoreStatus}
  {identity : NodeIdentity} {configurationStatus : StoreStatus}
  {configuration : StoredChannelConfiguration}

/-- The node id, if one was loaded. -/
theorem nodeIdField_eq (status : StoreStatus) (nodeId : Text) :
    ∃ json, Field.optionalString "node_id".toList (if isLoaded status then some nodeId else none) =
      ⟨"node_id".toList, nodeIdJson status nodeId, json⟩ := by
  unfold nodeIdJson
  split
  · exact ⟨.str nodeId, rfl⟩
  · exact ⟨.null, rfl⟩

set_option maxRecDepth 8000 in
/-- The text of a node's state, before it is cut to the size of its buffer. -/
theorem nodeStateJson_eq :
    nodeStateJson (hardwareIdText hardware) identityStatus identity configurationStatus
      configuration = snprintf resultSize (fieldsText
        (stateFields hardware identityStatus identity configurationStatus configuration)) := by
  obtain ⟨json, hnode⟩ := nodeIdField_eq identityStatus identity.nodeId
  unfold nodeStateJson stateFields Field.object
  rw [hnode, ← configurationJson_eq]
  generalize fieldsJson (configurationFields configuration) = configurationValue
  unfold fieldsText objectText
  simp only [membersText, memberText, Field.string, Field.natural, List.map_cons, List.map_nil,
    List.append_assoc, List.cons_append, List.nil_append, String.reduceToList]

/-! ## How long a response is -/

theorem length_hardwareIdText (hardware : UInt64) : (hardwareIdText hardware).length = 18 := by
  unfold hardwareIdText hexUpper
  simp only [List.length_append, List.length_map, List.length_reverse, List.length_range]
  rfl

theorem length_configurationFields (c : StoredChannelConfiguration) :
    (fieldsText (configurationFields c)).length = 209 +
      ((decimal c.sampleIntervalMs.toNat).length + (decimal c.processingIntervalMs.toNat).length +
      (decimal c.reportIntervalMs.toNat).length + (decimal c.heartbeatIntervalMs.toNat).length +
      (decimal c.filterType.toNat).length + (decimal c.filterWindow.toNat).length +
      (decimal c.enabled.toNat).length) := by
  rw [length_fieldsText (by simp [configurationFields])]
  simp only [configurationFields, Field.string, Field.natural, Field.bool, List.map_cons,
    List.map_nil, List.sum_cons, List.sum_nil, String.reduceToList, Bool.false_eq_true, if_false,
    List.length_cons, List.length_nil, List.length_append]
  omega

variable (requestId action hardware identityStatus identity configurationStatus configuration) in
/-- How long a node's state is. -/
theorem length_stateFields :
    (fieldsText (stateFields hardware identityStatus identity configurationStatus
      configuration)).length + requestId.length + action.length =
      560 + stateWidth requestId action identityStatus identity configurationStatus
        configuration := by
  obtain ⟨json, hnode⟩ := nodeIdField_eq identityStatus identity.nodeId
  have hstate : (if isLoaded identityStatus then "provisioned" else "unprovisioned").toList.length =
      if isLoaded identityStatus then 11 else 13 := by
    split <;> rfl
  rw [length_fieldsText (by simp [stateFields])]
  unfold stateFields
  rw [hnode]
  simp only [Field.string, Field.natural, Field.object, List.map_cons, List.map_nil, List.sum_cons,
    List.sum_nil, List.length_append, List.length_cons, List.length_nil, hstate,
    length_hardwareIdText, length_configurationFields]
  unfold stateWidth FIRMWARE_VERSION SENSOR_PACKAGE_VERSION PROTOCOL_VERSION BUILD_IDENTIFIER
    CONFIGURATION_SCHEMA_VERSION
  simp only [String.reduceToList, List.length_cons, List.length_nil, show (decimal 1).length = 1 from rfl]
  omega

/-- No state is cut. -/
theorem length_stateFields_lt (hnode : identity.nodeId.length ≤ kNodeIdMaxLength)
    (hconfiguration : validateStoredConfiguration configuration) :
    (fieldsText (stateFields hardware identityStatus identity configurationStatus
      configuration)).length < resultSize := by
  have hlength := length_stateFields [] [] hardware identityStatus identity configurationStatus
    configuration
  have hname : ∀ status, (storeStatusName status).length ≤ 23 := by
    intro status
    cases status <;> decide
  have hword (v : UInt32) : (decimal v.toNat).length ≤ 10 :=
    length_decimal_le (by decide) (lt_trans v.toNat_lt (by decide))
  have hdigits {k : ℕ} (hk : 0 < k) {v bound : UInt32} (h : v ≤ bound) (hbound : bound.toNat < 10 ^ k) :
      (decimal v.toNat).length ≤ k :=
    length_decimal_le hk (lt_of_le_of_lt (UInt32.le_iff_toNat_le.mp h) hbound)
  have hbyte {v bound : UInt8} (h : v ≤ bound) (hbound : bound.toNat < 10) :
      (decimal v.toNat).length ≤ 1 :=
    length_decimal_le (by decide) (lt_of_le_of_lt (UInt8.le_iff_toNat_le.mp h) hbound)
  have hrange := ((validateStoredConfiguration_iff configuration).mp hconfiguration).2.2.2
  simp only [settingsInRange, Bool.and_eq_true, decide_eq_true_eq] at hrange
  have hloaded : (nodeIdJson identityStatus identity.nodeId).length +
      (if isLoaded identityStatus then 11 else 13) ≤ 44 := by
    unfold nodeIdJson
    unfold kNodeIdMaxLength at hnode
    split
    · simp only [List.length_append, String.reduceToList, List.length_cons, List.length_nil]
      omega
    · decide
  have hsample : (decimal configuration.sampleIntervalMs.toNat).length ≤ 4 :=
    hdigits (by decide) hrange.1.1.1.1.1.1.1.1.1.2 (by decide)
  have hprocessing : (decimal configuration.processingIntervalMs.toNat).length ≤ 4 :=
    hdigits (by decide) hrange.1.1.1.1.1.1.1.2 (by decide)
  have hreport : (decimal configuration.reportIntervalMs.toNat).length ≤ 4 :=
    hdigits (by decide) hrange.1.1.1.1.1.2 (by decide)
  have hheartbeat : (decimal configuration.heartbeatIntervalMs.toNat).length ≤ 7 :=
    hdigits (by decide) hrange.1.1.1.2 (by decide)
  have hfilter : (decimal configuration.filterType.toNat).length ≤ 1 :=
    hbyte hrange.1.1.2 (by decide)
  have hwindow : (decimal configuration.filterWindow.toNat).length ≤ 1 :=
    hbyte hrange.2 (by decide)
  have henabled : (decimal configuration.enabled.toNat).length ≤ 1 :=
    hbyte hrange.1.1.1.1.1.1.1.1.1.1.1 (by decide)
  have hidentityName := hname identityStatus
  have hconfigurationName := hname configurationStatus
  have hidentity := hword identity.generation
  have hgeneration := hword configuration.generation
  unfold stateWidth at hlength
  simp only [List.length_nil] at hlength
  unfold resultSize
  omega

/-! ## The host reads the state -/

theorem isVerbatim_hardwareIdText (hardware : UInt64) : IsVerbatim (hardwareIdText hardware) := by
  have hhex (width n : ℕ) : IsVerbatim (hexUpper width n) := by
    intro c hc
    obtain ⟨i, -, rfl⟩ := List.mem_map.mp hc
    have hdigit : ∀ d < 16, 32 ≤ (Nat.digitChar d).toUpper.toNat ∧
        (Nat.digitChar d).toUpper ≠ '"' ∧ (Nat.digitChar d).toUpper ≠ '\\' := by decide
    exact hdigit _ (Nat.mod_lt _ (by decide))
  unfold hardwareIdText
  exact isVerbatim_append (isVerbatim_append (by decide) (hhex 8 _)) (hhex 8 _)

theorem isVerbatim_storeStatusName (status : StoreStatus) : IsVerbatim (storeStatusName status) := by
  cases status <;> decide

theorem isRead_configurationFields (c : StoredChannelConfiguration) :
    ∀ f ∈ configurationFields c, f.IsRead := by
  simp only [configurationFields, List.forall_mem_cons]
  refine ⟨?_, ?_, ?_, ?_, ?_, ?_, ?_, ?_, ?_, ?_, by simp⟩
  all_goals first
    | exact Field.isRead_natural (by decide) _
    | exact Field.isRead_bool (by decide) _
    | exact Field.isRead_string (by decide) (by decide)

theorem isRead_stateFields (hnode : validNodeId identity.nodeId) :
    ∀ f ∈ stateFields hardware identityStatus identity configurationStatus configuration,
      f.IsRead := by
  simp only [stateFields, List.forall_mem_cons]
  refine ⟨Field.isRead_string (by decide) (isVerbatim_hardwareIdText hardware),
    Field.isRead_string (by decide) ?_, Field.isRead_optionalString (by decide) ?_,
    Field.isRead_string (by decide) (isVerbatim_storeStatusName identityStatus),
    Field.isRead_natural (by decide) _,
    Field.isRead_string (by decide) (isVerbatim_storeStatusName configurationStatus),
    Field.isRead_natural (by decide) _, Field.isRead_string (by decide) (by decide),
    Field.isRead_string (by decide) (by decide), Field.isRead_string (by decide) (by decide),
    Field.isRead_natural (by decide) _, Field.isRead_string (by decide) (by decide),
    Field.isRead_object (by decide) (by simp [configurationFields])
      (isRead_configurationFields configuration), by simp⟩
  · split <;> decide
  · intro t ht
    split at ht
    · cases ht
      exact (isBare_of_validNodeId hnode).isVerbatim
    · cases ht

theorem isRead_stateResponseFields (hid : IsBare requestId) (haction : action ∈ stateActions)
    (hnode : validNodeId identity.nodeId) :
    ∀ f ∈ stateResponseFields requestId action hardware identityStatus identity
      configurationStatus configuration, f.IsRead := by
  have hbare : ∀ action ∈ stateActions, IsVerbatim action := by decide
  simp only [stateResponseFields, List.forall_mem_cons]
  exact ⟨Field.isRead_string (by decide) (by decide), Field.isRead_natural (by decide) _,
    Field.isRead_string (by decide) hid.isVerbatim,
    Field.isRead_string (by decide) (hbare action haction),
    Field.isRead_string (by decide) (by decide),
    Field.isRead_object (by decide) (by simp [stateFields]) (isRead_stateFields hnode), by simp⟩

set_option maxRecDepth 4000 in
/-- The line is its prefix, one JSON object and the end of the line. -/
theorem stateResponse_eq (hnode : validNodeId identity.nodeId)
    (hconfiguration : validateStoredConfiguration configuration) :
    stateResponse requestId action hardware identityStatus identity configurationStatus
      configuration = PREFIX ++ (fieldsText (stateResponseFields requestId action hardware
        identityStatus identity configurationStatus configuration) ++ "\r\n".toList) := by
  have hlength : identity.nodeId.length ≤ kNodeIdMaxLength := (validNodeId_iff.mp hnode).1.2.1
  unfold stateResponse respond stateResponseFields Field.object
  rw [nodeStateJson_eq, snprintf_eq_self (length_stateFields_lt hlength hconfiguration)]
  generalize fieldsText (stateFields hardware identityStatus identity configurationStatus
    configuration) = result
  generalize fieldsJson (stateFields hardware identityStatus identity configurationStatus
    configuration) = value
  unfold fieldsText objectText PREFIX kBootstrapPrefix SCHEMA_VERSION
  simp only [membersText, memberText, Field.string, Field.natural, List.map_cons, List.map_nil,
    List.append_assoc, List.cons_append, List.nil_append, String.reduceToList]
  rfl

variable (requestId action hardware identityStatus identity configurationStatus configuration) in
/-- How long the line is. -/
theorem length_stateResponse (hnode : validNodeId identity.nodeId)
    (hconfiguration : validateStoredConfiguration configuration) :
    (stateResponse requestId action hardware identityStatus identity configurationStatus
      configuration).length = 677 + stateWidth requestId action identityStatus identity
        configurationStatus configuration := by
  have hstate := length_stateFields requestId action hardware identityStatus identity
    configurationStatus configuration
  have hresponse : (fieldsText (stateResponseFields requestId action hardware identityStatus
      identity configurationStatus configuration)).length = 105 + (requestId.length +
        action.length + (fieldsText (stateFields hardware identityStatus identity
          configurationStatus configuration)).length) := by
    rw [length_fieldsText (by simp [stateResponseFields])]
    simp only [stateResponseFields, Field.string, Field.natural, Field.object, List.map_cons,
      List.map_nil, List.sum_cons, List.sum_nil, List.length_append, List.length_cons,
      List.length_nil, String.reduceToList, show (decimal SCHEMA_VERSION).length = 1 from rfl]
    omega
  rw [stateResponse_eq hnode hconfiguration, List.length_append, List.length_append, hresponse,
    show PREFIX.length = 10 from rfl, show "\r\n".toList.length = 2 from rfl]
  omega

end State

/-! ## Responses with a result -/

/-- The members of a response with a result. -/
def resultFields (requestId action : Text) (result : List Field) : List Field := [
  .string "type".toList "bootstrap_response".toList,
  .natural "schema_version".toList SCHEMA_VERSION,
  .string "request_id".toList requestId,
  .string "action".toList action,
  .string "status".toList "success".toList,
  .object "result".toList result]

/-- The host takes a line that is not too long as what its members stand for. -/
theorem decodeResponse_resultFields {requestId action line space : Text} {result : List Field}
    (hline : line = PREFIX ++ (fieldsText (resultFields requestId action result) ++ space))
    (hspace : ∀ c ∈ space, isSpace c = true) (hlength : line.length ≤ MAX_LINE_BYTES)
    (hread : ∀ f ∈ resultFields requestId action result, f.IsRead) :
    decodeResponse line requestId action = .ok (fieldsJson (resultFields requestId action result)) := by
  have hframing : PREFIX.isPrefixOf line = true := by
    rw [hline, List.isPrefixOf_iff_prefix]
    exact List.prefix_append _ _
  have hdrop : line.drop PREFIX.length =
      fieldsText (resultFields requestId action result) ++ space := by
    rw [hline, List.drop_left]
  have hloads := loads_of_reads (reads_fields (by simp [resultFields]) hread) hspace
  generalize hbody : fieldsJson (resultFields requestId action result) = body at hloads ⊢
  have htype : body.get? "type".toList = some (.str "bootstrap_response".toList) := hbody ▸ rfl
  have hversion : body.get? "schema_version".toList = some (.int SCHEMA_VERSION) := hbody ▸ rfl
  have hrequest : body.get? "request_id".toList = some (.str requestId) := hbody ▸ rfl
  have haction : body.get? "action".toList = some (.str action) := hbody ▸ rfl
  have hstatus : body.get? "status".toList = some (.str "success".toList) := hbody ▸ rfl
  have hkeys : requiredKeys.all (fun key => (body.get? key).isSome) = true := by
    unfold requiredKeys
    simp only [List.all_cons, List.all_nil, htype, hversion, hrequest, haction, hstatus]
    rfl
  have hframed : ¬ (line.length > MAX_LINE_BYTES ∨ (!PREFIX.isPrefixOf line) = true) := by
    rw [hframing]
    simp only [Bool.not_true, Bool.false_eq_true, or_false]
    omega
  unfold decodeResponse
  rw [if_neg hframed, hdrop, hloads]
  dsimp only
  rw [hkeys, htype, hversion, hrequest, haction, hstatus]
  simp [isStr, isInt]
  rfl

section State

variable {requestId action : Text} {hardware : UInt64} {identityStatus : StoreStatus}
  {identity : NodeIdentity} {configurationStatus : StoreStatus}
  {configuration : StoredChannelConfiguration}

/-- **The host reads a node's state back exactly when its values take no more than 91 bytes.**  The
node never cuts a state, and every line is one JSON object; the host refuses the lines that are
longer than its own limit. -/
theorem state_response_decoded_iff (hid : validRequestId requestId) (haction : action ∈ stateActions)
    (hnode : validNodeId identity.nodeId)
    (hconfiguration : validateStoredConfiguration configuration) :
    decodeResponse (stateResponse requestId action hardware identityStatus identity
      configurationStatus configuration) requestId action =
        .ok (fieldsJson (stateResponseFields requestId action hardware identityStatus identity
          configurationStatus configuration)) ↔
    stateWidth requestId action identityStatus identity configurationStatus configuration ≤ 91 := by
  have hbare : IsBare requestId := by
    unfold validRequestId at hid
    simp only [Bool.and_eq_true, List.all_eq_true] at hid
    exact fun c hc => hid.2 c hc
  have hlength := length_stateResponse requestId action hardware identityStatus identity
    configurationStatus configuration hnode hconfiguration
  constructor
  · intro hdecoded
    by_contra hwide
    have hlong : (stateResponse requestId action hardware identityStatus identity
        configurationStatus configuration).length > MAX_LINE_BYTES := by
      unfold MAX_LINE_BYTES
      omega
    unfold decodeResponse at hdecoded
    rw [if_pos (Or.inl hlong)] at hdecoded
    cases hdecoded
  · intro hnarrow
    refine decodeResponse_resultFields (stateResponse_eq hnode hconfiguration) (by decide) ?_
      (isRead_stateResponseFields hbare haction hnode)
    unfold MAX_LINE_BYTES
    omega

end State

/-- The valid configuration that takes the most room. -/
def widestConfiguration : StoredChannelConfiguration :=
  sealConfiguration {
    sampleIntervalMs := 5000, processingIntervalMs := 5000, reportIntervalMs := 5000
    heartbeatIntervalMs := 3600000, filterType := 4, filterWindow := 9, enabled := 1 } 1

/-- With a short node id the host reads it back. -/
theorem state_response_decoded_short :
    decodeResponse (stateResponse "req-1".toList "read_node_state".toList 0 .ok
      { nodeId := "MG24-0001".toList, generation := 2 } .ok widestConfiguration)
      "req-1".toList "read_node_state".toList =
        .ok (fieldsJson (stateResponseFields "req-1".toList "read_node_state".toList 0 .ok
          { nodeId := "MG24-0001".toList, generation := 2 } .ok widestConfiguration)) :=
  (state_response_decoded_iff (by decide) (by decide) (by decide +kernel) (by decide +kernel)).mpr
    (by decide +kernel)

/-- **With a node id of 31 characters, and a request id of 16 hexadecimal digits as the client
makes them, it does not:** the line has 780 bytes. -/
theorem state_response_refused_long :
    validNodeId "MG24-0001-NODE-WITH-A-LONG-NAME".toList = true ∧
    validateStoredConfiguration widestConfiguration = true ∧
    (stateResponse "0123456789abcdef".toList "read_node_state".toList 0 .ok
      { nodeId := "MG24-0001-NODE-WITH-A-LONG-NAME".toList, generation := 2 } .ok
      widestConfiguration).length = 780 ∧
    ∀ body, decodeResponse (stateResponse "0123456789abcdef".toList "read_node_state".toList 0 .ok
      { nodeId := "MG24-0001-NODE-WITH-A-LONG-NAME".toList, generation := 2 } .ok
      widestConfiguration) "0123456789abcdef".toList "read_node_state".toList ≠ .ok body := by
  have hnode : validNodeId "MG24-0001-NODE-WITH-A-LONG-NAME".toList = true := by decide +kernel
  have hconfiguration : validateStoredConfiguration widestConfiguration = true := by decide +kernel
  have hlength := length_stateResponse "0123456789abcdef".toList "read_node_state".toList 0 .ok
    { nodeId := "MG24-0001-NODE-WITH-A-LONG-NAME".toList, generation := 2 } .ok
    widestConfiguration hnode hconfiguration
  have hwidth : stateWidth "0123456789abcdef".toList "read_node_state".toList .ok
      { nodeId := "MG24-0001-NODE-WITH-A-LONG-NAME".toList, generation := 2 } .ok
      widestConfiguration = 103 := by decide +kernel
  rw [hwidth] at hlength
  refine ⟨hnode, hconfiguration, hlength, fun body hdecoded => ?_⟩
  unfold decodeResponse at hdecoded
  rw [if_pos (Or.inl (by rw [hlength]; decide))] at hdecoded
  cases hdecoded

end SeedMg24.Analysis
