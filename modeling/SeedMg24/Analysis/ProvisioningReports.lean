import SeedMg24.Analysis.NodeRuns

/-!
# Provisioning reports

The report of a provisioning is never cut short: whatever the node id, the transaction and the
settings, it is shorter than the buffer it is printed into and the notification it is sent in.
Reading the provisioning state back prints one such report.
-/

set_option autoImplicit false

namespace SeedMg24.Analysis

open Foundation Foundation.TwoSlot Model

/-! ## Their text -/

/-- A whole report. -/
def reportText (nodeId transactionId code : Text) (c : ChannelConfig) : Text :=
  "\x7b\"t\":\"ca\",\"v\":1,\"id\":\"".toList ++ nodeId ++ "\",\"tx\":\"".toList ++ transactionId ++
    "\",\"code\":\"".toList ++ code ++ "\",".toList ++ Node.settingsText c

/-- The longest settings take 97 characters. -/
theorem length_settingsText {c : ChannelConfig} (h : settingsInRange (storedOf c) = true) :
    (Node.settingsText c).length ≤ 97 := by
  rw [settingsInRange_storedOf] at h
  have hsample := Text.length_decimal_le (n := c.sampleIntervalMs.toNat) (k := 4)
    (by decide) (by omega)
  have hprocess := Text.length_decimal_le (n := c.processingIntervalMs.toNat) (k := 4)
    (by decide) (by omega)
  have hreport := Text.length_decimal_le (n := c.reportIntervalMs.toNat) (k := 4)
    (by decide) (by omega)
  have hheartbeat := Text.length_decimal_le (n := c.heartbeatIntervalMs.toNat) (k := 7)
    (by decide) (by omega)
  have hfilter := Text.length_decimal_le (n := c.filterType.toNat) (k := 1) (by decide) (by omega)
  have hwindow := Text.length_decimal_le (n := c.filterWindow.toNat) (k := 1) (by decide) (by omega)
  have henabled := Text.length_decimal_le (n := if c.enabled then 1 else 0) (k := 1)
    (by decide) (by split <;> decide)
  unfold Node.settingsText
  simp +ground only [List.length_append]
  omega

/-- The texts a report is printed from fit its buffer and a notification. -/
theorem length_reportText {nodeId transactionId code : Text} {c : ChannelConfig}
    (hid : nodeId.length ≤ kNodeIdMaxLength) (htransaction : transactionId.length ≤ 24)
    (hcode : code.length ≤ 17) (h : settingsInRange (storedOf c) = true) :
    (reportText nodeId transactionId code c).length < Node.bleJsonSize := by
  have hsettings := length_settingsText h
  rw [kNodeIdMaxLength] at hid
  unfold reportText
  rw [Node.bleJsonSize]
  generalize Node.settingsText c = settings at hsettings ⊢
  simp +ground only [List.length_append]
  omega

/-- A stored identity has a valid id. -/
theorem validNodeId_of_storedIdentity {nvm : Nvm} {identity : NodeIdentity}
    (h : storedIdentity nvm = some identity) : validNodeId identity.nodeId = true := by
  rw [storedIdentity, identityLoadedFrom_eq] at h
  cases hl : (identityStore nvm).load with
  | found g v r =>
    have hvalid : validNodeId v.nodeId = true := by
      rcases Store.holds_of_load hl with ho | he
      · exact (holds_identitySlotOf ho).2
      · exact (holds_identitySlotOf he).2
    have hv : v = identity := by
      rw [hl] at h
      cases r <;> exact Option.some.inj h
    exact hv ▸ hvalid
  | _ => rw [hl] at h; cases h

/-- The id a node runs under is short. -/
theorem NodeInvariant.length_runtimeNodeId {C : Nvm → Prop} {s : NodeState}
    (h : NodeInvariant C s) : s.node.runtimeNodeId.length ≤ kNodeIdMaxLength := by
  unfold Node.runtimeNodeId
  split
  · rename_i hstatus
    obtain ⟨identity, hstored, hid⟩ := h.identified hstatus
    rw [← hid]
    exact (validNodeId_iff.mp (validNodeId_of_storedIdentity hstored)).1.2.1
  · decide

/-- A report is printed whole. -/
theorem NodeInvariant.provisioningStateText_eq {C : Nvm → Prop} {s : NodeState}
    (h : NodeInvariant C s) {transactionId code : Text} (htransaction : transactionId.length ≤ 24)
    (hcode : code.length ≤ 17) :
    s.node.provisioningStateText transactionId code =
      reportText s.node.runtimeNodeId transactionId code s.node.microphoneRuntimeConfig :=
  Text.snprintf_eq_self (length_reportText h.length_runtimeNodeId htransaction hcode h.inRange)

/-! ## Reading the state back -/

/-- A command as the dispatcher reads it. -/
def dispatched (text : Text) : Text := Text.toUpperAscii (Text.trim text)

/-- A command that starts as a provisioning one is not taken for a bootstrap request. -/
theorem not_bootstrap {text word : Text} (hword : word.isPrefixOf (dispatched text) = true)
    (hne : kBootstrapPrefix.isPrefixOf word = false ∧ word.isPrefixOf kBootstrapPrefix = false) :
    kBootstrapPrefix.isPrefixOf (Text.trim text) = false := by
  rw [Bool.eq_false_iff]
  intro hboot
  have hupper : kBootstrapPrefix.isPrefixOf (dispatched text) = true := by
    rw [List.isPrefixOf_iff_prefix] at hboot ⊢
    have hmap := hboot.map Char.toUpper
    rwa [show kBootstrapPrefix.map Char.toUpper = kBootstrapPrefix by decide] at hmap
  rcases isPrefixOf_of_isPrefixOf hupper hword with h | h
  · rw [hne.1] at h
    cases h
  · rw [hne.2] at h
    cases h

/-- The transaction id of a well-formed command to read the provisioning state back. -/
def readbackRequest (text : Text) : Option Text := do
  let command := dispatched text
  let (transactionId, offset) ← provisionHeader command
  if isProvget command ∧ command.length < offset then some transactionId else none

theorem readbackRequest_iff {text transactionId : Text} :
    readbackRequest text = some transactionId ↔ isProvget (dispatched text) = true ∧
      ∃ offset, provisionHeader (dispatched text) = some (transactionId, offset) ∧
        (dispatched text).length < offset := by
  unfold readbackRequest
  simp only [Option.bind_eq_bind, Option.bind_eq_some_iff]
  constructor
  · rintro ⟨⟨transaction, offset⟩, hheader, hread⟩
    dsimp only at hread
    split at hread
    · rename_i hcommand
      cases hread
      exact ⟨hcommand.1, offset, hheader, hcommand.2⟩
    · cases hread
  · rintro ⟨hget, offset, hheader, hend⟩
    exact ⟨_, hheader, if_pos ⟨hget, hend⟩⟩

/-- A transaction id has 8 to 24 characters. -/
theorem length_of_provisionHeader {command transactionId : Text} {offset : ℕ}
    (h : provisionHeader command = some (transactionId, offset)) :
    8 ≤ transactionId.length ∧ transactionId.length ≤ 24 := by
  unfold provisionHeader at h
  simp only [Option.bind_eq_bind, Option.bind_eq_some_iff] at h
  obtain ⟨⟨version, o₁⟩, -, ⟨transaction, o₂⟩, -, h⟩ := h
  dsimp only at h
  split at h
  · rename_i hvalid
    cases h
    simp only [validTransaction, decide_eq_true_eq] at hvalid
    exact hvalid.2
  · cases h

/-- A node that is not being reset reads its state back when asked. -/
theorem commandAction_readback {n : Node} (hidle : n.factoryResetController.busy = false)
    {text transactionId : Text} (h : readbackRequest text = some transactionId) (now : UInt32) :
    commandAction n text now = .readback transactionId := by
  obtain ⟨hget, offset, hheader, hend⟩ := readbackRequest_iff.mp h
  have hword : "PROVGET ".toList.isPrefixOf (dispatched text) = true := hget
  have hboot := not_bootstrap hword (by decide)
  unfold commandAction
  dsimp only
  rw [hboot, show Text.toUpperAscii (Text.trim text) = dispatched text from rfl, hword]
  simp only [Bool.not_true, Bool.and_false, Bool.false_eq_true, if_false]
  have haction : provisionAction n (dispatched text) = some (.readback transactionId) := by
    unfold provisionAction
    simp [hidle, hget, hheader, hend]
  rw [haction]

/-- **What a read-back prints.** -/
theorem NodeInvariant.printed_readback {C : Nvm → Prop} {s : NodeState} (h : NodeInvariant C s)
    {text transactionId : Text} (hrequest : readbackRequest text = some transactionId)
    (now : UInt32) (faults : ℕ → Unit) :
    printedSince s.node (s.handle healthy text now faults).node =
      [reportText s.node.runtimeNodeId transactionId "readback".toList
        s.node.microphoneRuntimeConfig] := by
  obtain ⟨-, offset, hheader, -⟩ := readbackRequest_iff.mp hrequest
  have haction := commandAction_readback h.idle hrequest now
  have hbusy : (s.node.reportProvisioningState transactionId
      "readback".toList).factoryResetController.busy = false := by
    simp [Node.reportProvisioningState, h.idle]
  have hhandle : s.handle healthy text now faults =
      ⟨s.storage, s.node.reportProvisioningState transactionId "readback".toList⟩ := by
    rw [NodeState.handle, handleCommand_eq, haction]
    exact congrArg (NodeState.mk s.storage) (afterCommands_eq hbusy)
  rw [hhandle, ← h.provisioningStateText_eq (length_of_provisionHeader hheader).2 (by decide)]
  simp [printedSince, Node.reportProvisioningState]

end SeedMg24.Analysis
