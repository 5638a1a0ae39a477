import SeedMg24.Analysis.ProvisioningReports
import SeedMg24.Analysis.NodeAnswers

/-!
# Which answers are printed whole

The two reports fit their buffers whatever they say.  The result of a command is printed into a
smaller buffer, which a long node id, sequence number, uptime and code together overflow; the text
that is sent then has no end.
-/

set_option autoImplicit false

namespace SeedMg24.Analysis

open Foundation Model

/-! ## Whole texts -/

/-- The whole result of a command.
SOURCE: xiao_mg24_sensor_node.ino:179-180 -/
def resultText (n : Node) (accepted : Bool) (code : Text) (now : UInt32) : Text :=
  "\x7b\"t\":\"".toList ++ (if accepted then "ca" else "ce").toList ++
    "\",\"v\":1,\"id\":\"".toList ++ n.runtimeNodeId ++ "\",\"s\":".toList ++
    Text.decimal n.telemetrySequence.toNat ++ ",\"ms\":".toList ++ Text.decimal now.toNat ++
    ",\"code\":\"".toList ++ code ++ "\"\x7d".toList

/-- The whole report of the runtime configuration.
SOURCE: xiao_mg24_sensor_node.ino:201-210 -/
def runtimeText (n : Node) (now : UInt32) : Text :=
  "\x7b\"t\":\"ca\",\"v\":1,\"id\":\"".toList ++ n.runtimeNodeId ++ "\",\"s\":".toList ++
    Text.decimal n.telemetrySequence.toNat ++ ",\"ms\":".toList ++ Text.decimal now.toNat ++
    ",\"code\":\"readback\",".toList ++ Node.settingsText n.microphoneRuntimeConfig

/-- The node has printed the whole text, and `ble_send_payload` takes it. -/
structure AnsweredWhole (n after : Node) (text : Text) : Prop where
  printed : after.serialLines = n.serialLines ++ [text]
  taken : text.length ≠ 0 ∧ text.length < Node.bleJsonSize

/-- A text printed into a buffer is whole exactly when it leaves room for the terminator. -/
theorem snprintf_eq_self_iff {size : ℕ} {s : Text} (hsize : 0 < size) :
    Text.snprintf size s = s ↔ s.length < size := by
  constructor
  · intro h
    have hlength := congrArg List.length h
    rw [Text.snprintf, List.length_take] at hlength
    omega
  · exact Text.snprintf_eq_self

/-! ## Nodes -/

/-- A node with an id it can have and settings it can run. -/
structure Reports (n : Node) : Prop where
  named : validNodeId n.runtimeNodeId = true ∨ n.runtimeNodeId = "UNASSIGNED-MG24".toList
  inRange : settingsInRange (storedOf n.microphoneRuntimeConfig) = true

/-- Every node a run leads to is one. -/
theorem NodeInvariant.reports {C : Nvm → Prop} {s : NodeState} (h : NodeInvariant C s) :
    Reports s.node := by
  refine ⟨?_, h.inRange⟩
  unfold Node.runtimeNodeId
  split
  · rename_i hstatus
    obtain ⟨identity, hstored, hid⟩ := h.identified hstatus
    rw [← hid]
    exact .inl (validNodeId_of_storedIdentity hstored)
  · exact .inr rfl

theorem Reports.length_runtimeNodeId {n : Node} (h : Reports n) : n.runtimeNodeId.length ≤ 31 := by
  rcases h.named with hvalid | hunassigned
  · exact (validNodeId_iff.mp hvalid).1.2.1
  · rw [hunassigned]
    decide

/-! ## The three answers -/

/-- A report of the runtime configuration is printed whole. -/
theorem answeredWhole_runtimeConfiguration {n : Node} (h : Reports n) (now : UInt32) :
    AnsweredWhole n (n.reportRuntimeConfiguration now) (runtimeText n now) := by
  have hlength : (runtimeText n now).length ≠ 0 ∧ (runtimeText n now).length < 244 := by
    have hid := h.length_runtimeNodeId
    have hsettings := length_settingsText h.inRange
    have hdecimal (m : UInt32) : (Text.decimal m.toNat).length ≤ 10 :=
      Text.length_decimal_le (by decide) (by have := m.toNat_lt; omega)
    have hsequence := hdecimal n.telemetrySequence
    have hnow := hdecimal now
    unfold runtimeText
    generalize Node.settingsText n.microphoneRuntimeConfig = settings at hsettings ⊢
    simp +ground only [List.length_append]
    omega
  have hprinted : Text.snprintf 244 (runtimeText n now) = runtimeText n now :=
    Text.snprintf_eq_self hlength.2
  refine ⟨?_, hlength⟩
  unfold Node.reportRuntimeConfiguration
  rw [answer_serialLines]
  exact congrArg (n.serialLines ++ [·]) hprinted

/-- So is a report of the provisioning state. -/
theorem answeredWhole_provisioningState {n : Node} (h : Reports n) {transactionId code : Text}
    (htransaction : transactionId.length ≤ 24) (hcode : code.length ≤ 17) :
    AnsweredWhole n (n.reportProvisioningState transactionId code)
      (reportText n.runtimeNodeId transactionId code n.microphoneRuntimeConfig) := by
  have hlength := length_reportText h.length_runtimeNodeId htransaction hcode h.inRange
  refine ⟨?_, ?_, hlength⟩
  · rw [Node.reportProvisioningState, answer_serialLines]
    exact congrArg (n.serialLines ++ [·]) (Text.snprintf_eq_self hlength)
  · intro hzero
    unfold reportText at hzero
    generalize Node.settingsText n.microphoneRuntimeConfig = settings at hzero
    simp +ground only [List.length_append] at hzero
    omega

/-- How long a result is. -/
theorem length_resultText (n : Node) (accepted : Bool) (code : Text) (now : UInt32) :
    (resultText n accepted code now).length = 45 + n.runtimeNodeId.length +
      (Text.decimal n.telemetrySequence.toNat).length + (Text.decimal now.toNat).length +
      code.length := by
  have hkind : ((if accepted then "ca" else "ce").toList).length = 2 := by cases accepted <;> rfl
  unfold resultText
  generalize (if accepted then "ca" else "ce").toList = kind at hkind ⊢
  simp +ground only [List.length_append]
  omega

/-- The longest code is `identity_already_provisioned`. -/
theorem ResultCode.length_le {code : Text} (h : ResultCode code) : code.length ≤ 28 := by
  cases h with
  | named h =>
    have hall : ∀ code ∈ resultCodes, code.toList.length ≤ 28 := by decide +kernel
    exact hall _ h
  | status status => cases status <;> decide +kernel

/-- The result of a command is printed whole exactly when it is short. -/
theorem answeredWhole_commandResult_iff {n : Node} (h : Reports n) (accepted : Bool) {code : Text}
    (hcode : ResultCode code) (now : UInt32) :
    AnsweredWhole n (n.commandResult accepted code now) (resultText n accepted code now) ↔
      n.runtimeNodeId.length + (Text.decimal n.telemetrySequence.toNat).length +
        (Text.decimal now.toNat).length + code.length ≤ 74 := by
  have hlength := length_resultText n accepted code now
  have hid := h.length_runtimeNodeId
  have hcodeLength := hcode.length_le
  have hprinted : (n.commandResult accepted code now).serialLines =
      n.serialLines ++ [Text.snprintf 120 (resultText n accepted code now)] := by
    unfold Node.commandResult
    rw [answer_serialLines]
    rfl
  constructor
  · intro hwhole
    have hsame := hwhole.printed
    rw [hprinted, List.append_cancel_left_eq, List.cons.injEq, and_iff_left rfl,
      snprintf_eq_self_iff (by decide)] at hsame
    omega
  · intro hshort
    refine ⟨?_, by omega, by rw [Node.bleJsonSize]; omega⟩
    rw [hprinted, Text.snprintf_eq_self (by omega)]

/-- The codes of a provisioning report.
SOURCE: xiao_mg24_sensor_node.ino:246, 263, 317, 367 -/
def reportCodes : List String := ["readback", "already_committed", "provisioned", "configured"]

/-- **When the answers of a node are whole.**  For every node with an id it can have and settings it
can run, whatever its sequence number and uptime, every code and every transaction: the result of
the command and both reports are printed whole and taken by `ble_send_payload` if and only if the
id, the digits of the sequence number and of the uptime and the code have at most 74 characters.
SOURCE: xiao_mg24_sensor_node.ino:177-233, 905-916 -/
theorem answeredWhole_iff {n : Node} (h : Reports n) (accepted : Bool) {code : Text}
    (hcode : ResultCode code) (now : UInt32) {transactionId : Text}
    (htransaction : transactionId.length ≤ 24) {reportCode : String}
    (hreport : reportCode ∈ reportCodes) :
    (AnsweredWhole n (n.commandResult accepted code now) (resultText n accepted code now) ∧
      AnsweredWhole n (n.reportRuntimeConfiguration now) (runtimeText n now) ∧
      AnsweredWhole n (n.reportProvisioningState transactionId reportCode.toList)
        (reportText n.runtimeNodeId transactionId reportCode.toList n.microphoneRuntimeConfig)) ↔
      n.runtimeNodeId.length + (Text.decimal n.telemetrySequence.toNat).length +
        (Text.decimal now.toNat).length + code.length ≤ 74 := by
  have hlength : ∀ code ∈ reportCodes, code.toList.length ≤ 17 := by decide
  rw [answeredWhole_commandResult_iff h accepted hcode now]
  exact and_iff_left ⟨answeredWhole_runtimeConfiguration h now,
    answeredWhole_provisioningState h htransaction (hlength _ hreport)⟩

/-- A node with the given sequence number and an id of 31 characters. -/
def longNamed (sequence : UInt32) : Node where
  telemetrySequence := sequence
  activeIdentity := { nodeId := "MG24-0001-NODE-WITH-A-LONG-NAME".toList }
  identityStoreStatus := .ok

theorem reports_longNamed (sequence : UInt32) : Reports (longNamed sequence) :=
  ⟨.inl (show validNodeId "MG24-0001-NODE-WITH-A-LONG-NAME".toList = true by decide), by
    show settingsInRange (storedOf MICROPHONE_CHANNEL_CONFIG) = true
    decide⟩

/-- Two minutes after its boot its answers are whole. -/
theorem answeredWhole_early :
    AnsweredWhole (longNamed 1200) ((longNamed 1200).commandResult false
        "identity_already_provisioned".toList 120000)
      (resultText (longNamed 1200) false "identity_already_provisioned".toList 120000) :=
  ((answeredWhole_iff (reports_longNamed 1200) false
    (.named (by simp [resultCodes])) 120000 (show "TRANSACTION".toList.length ≤ 24 by decide)
    (show "readback" ∈ reportCodes by decide)).mpr (by decide)).1

/-- Twelve days after it, its sequence number and its uptime are too long for the buffer. -/
theorem not_answeredWhole_late :
    Reports (longNamed 10000000) ∧ ResultCode "identity_already_provisioned".toList ∧
      ¬ AnsweredWhole (longNamed 10000000) ((longNamed 10000000).commandResult false
          "identity_already_provisioned".toList 1036800000)
        (resultText (longNamed 10000000) false "identity_already_provisioned".toList
          1036800000) := by
  have hcode : ResultCode "identity_already_provisioned".toList := .named (by simp [resultCodes])
  refine ⟨reports_longNamed 10000000, hcode, ?_⟩
  rw [answeredWhole_commandResult_iff (reports_longNamed 10000000) false hcode]
  decide

end SeedMg24.Analysis
