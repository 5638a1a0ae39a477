import SeedMg24.Analysis.CommandText
import SeedMg24.Analysis.DeviceRejections
import SeedMg24.Analysis.ProvisioningReports

/-!
# Configurations and what is stored of them

A configuration call goes by the settings a node reports, which are the ones it runs.  A written
configuration is stored and running; the call that finds its values running already writes nothing,
and its values need not be stored.
-/

set_option autoImplicit false

namespace SeedMg24.Analysis

open Foundation Foundation.Json Foundation.Text Foundation.TwoSlot Model
open ProvisioningCall BleNodeProvisioner

/-! ## Settings as requested values -/

/-- Settings as the values of a request, in their order.
SOURCE: ble_provisioning.py:149-162 -/
def settingsValues (c : ChannelConfig) : List ℤ :=
  [c.sampleIntervalMs.toNat, c.processingIntervalMs.toNat, c.reportIntervalMs.toNat,
    c.heartbeatIntervalMs.toNat, c.filterType.toNat, c.filterWindow.toNat,
    (if c.enabled then 1 else 0 : ℕ)]

/-- Settings with the same values are the same. -/
theorem settingsValues_inj {c d : ChannelConfig} (h : settingsValues c = settingsValues d) :
    c = d := by
  obtain ⟨enabled, sample, process, report, heartbeat, filter, window⟩ := c
  obtain ⟨enabled', sample', process', report', heartbeat', filter', window'⟩ := d
  simp only [settingsValues, List.cons.injEq, Nat.cast_inj, UInt32.toNat_inj, UInt8.toNat_inj,
    and_true] at h
  obtain ⟨rfl, rfl, rfl, rfl, rfl, rfl, henabled⟩ := h
  cases enabled <;> cases enabled' <;> first | rfl | cases henabled

/-- The values of a request are seven numbers. -/
theorem length_configurationValues {configuration : DeviceConfiguration} {values : List ℤ}
    (h : configurationValues configuration = .ok values) : values.length = 7 := by
  unfold configurationValues at h
  split at h
  · cases h
  · cases h
    rfl

/-! ## Reports as JSON -/

/-- The members of a report. -/
def reportFields (nodeId transactionId code : Text) (c : ChannelConfig) : List Field :=
  [.string "t".toList "ca".toList, .natural "v".toList 1, .string "id".toList nodeId,
    .string "tx".toList transactionId, .string "code".toList code,
    .natural "sample".toList c.sampleIntervalMs.toNat,
    .natural "process".toList c.processingIntervalMs.toNat,
    .natural "report".toList c.reportIntervalMs.toNat,
    .natural "heartbeat".toList c.heartbeatIntervalMs.toNat,
    .natural "filter".toList c.filterType.toNat, .natural "window".toList c.filterWindow.toNat,
    .natural "enabled".toList (if c.enabled then 1 else 0)]

theorem reportText_eq (nodeId transactionId code : Text) (c : ChannelConfig) :
    reportText nodeId transactionId code c =
      fieldsText (reportFields nodeId transactionId code c) := by
  unfold reportText Node.settingsText reportFields
  simp only [fieldsText, objectText, membersText, memberText, Field.string, Field.natural,
    List.map_cons, List.map_nil, List.append_assoc, List.cons_append]
  rfl

/-- A report is loaded as its members. -/
theorem loads_reportText {nodeId transactionId code : Text} (hid : IsBare nodeId)
    (htransaction : IsBare transactionId) (hcode : IsBare code) (c : ChannelConfig) :
    loads (reportText nodeId transactionId code c) =
      some (fieldsJson (reportFields nodeId transactionId code c)) := by
  have hread : ∀ f ∈ reportFields nodeId transactionId code c, f.IsRead := by
    intro f hf
    simp only [reportFields, List.mem_cons, List.not_mem_nil, or_false] at hf
    rcases hf with rfl | rfl | rfl | rfl | rfl | rfl | rfl | rfl | rfl | rfl | rfl | rfl
    · exact Field.isRead_string (by decide +kernel) (by decide +kernel)
    · exact Field.isRead_natural (by decide +kernel) 1
    · exact Field.isRead_string (by decide +kernel) hid.isVerbatim
    · exact Field.isRead_string (by decide +kernel) htransaction.isVerbatim
    · exact Field.isRead_string (by decide +kernel) hcode.isVerbatim
    all_goals exact Field.isRead_natural (by decide +kernel) _
  have hloads := loads_of_reads (reads_fields (by simp [reportFields]) hread)
    (List.forall_mem_nil _)
  rwa [List.append_nil, ← reportText_eq] at hloads

/-- A report shows the requested values exactly when they are those of its settings. -/
theorem readbackMatches_report (nodeId transactionId code : Text) (c : ChannelConfig)
    {values : List ℤ} (h : values.length = 7) :
    readbackMatches (fieldsJson (reportFields nodeId transactionId code c)) values = true ↔
      values = settingsValues c := by
  obtain ⟨sample, process, report, heartbeat, filter, window, enabled, rfl⟩ :
      ∃ sample process report heartbeat filter window enabled, values =
        [sample, process, report, heartbeat, filter, window, enabled] := by
    rcases values with _ | ⟨_, _ | ⟨_, _ | ⟨_, _ | ⟨_, _ | ⟨_, _ | ⟨_, _ | ⟨_, _ | _⟩⟩⟩⟩⟩⟩⟩ <;>
      simp_all
  have hint (n : ℕ) (z : ℤ) : isInt (some (.int n)) z = decide ((n : ℤ) = z) := rfl
  show (isInt (some (.int c.sampleIntervalMs.toNat)) sample &&
    (isInt (some (.int c.processingIntervalMs.toNat)) process &&
    (isInt (some (.int c.reportIntervalMs.toNat)) report &&
    (isInt (some (.int c.heartbeatIntervalMs.toNat)) heartbeat &&
    (isInt (some (.int c.filterType.toNat)) filter &&
    (isInt (some (.int c.filterWindow.toNat)) window &&
    (isInt (some (.int (if c.enabled then 1 else 0 : ℕ))) enabled && true))))))) = true ↔ _
  simp only [hint, settingsValues, Bool.and_eq_true, decide_eq_true_eq, Bool.and_true,
    List.cons.injEq, and_true]
  constructor <;> rintro ⟨h1, h2, h3, h4, h5, h6, h7⟩ <;>
    exact ⟨h1.symm, h2.symm, h3.symm, h4.symm, h5.symm, h6.symm, h7.symm⟩

/-! ## The commands of a call -/

/-- A transaction id in capitals needs no escape. -/
theorem isBare_toUpperAscii {transactionId : Text} (h : transactionIdPattern transactionId = true) :
    IsBare (Text.toUpperAscii transactionId) := by
  simp only [transactionIdPattern, Bool.and_eq_true, decide_eq_true_eq, List.all_eq_true,
    Bool.or_eq_true] at h
  intro c hc
  obtain ⟨d, hd, rfl⟩ := List.mem_map.mp hc
  have hall : ∀ k, 48 ≤ k → k ≤ 102 → isBare (Char.ofNat k).toUpper = true ∨ 57 < k ∧ k < 97 := by
    decide
  have hchar : d = Char.ofNat d.toNat := (Char.ofNat_toNat d).symm
  rcases h.2 d hd with ⟨h1, h2⟩ | ⟨h1, h2⟩
  · have h1 : 48 ≤ d.toNat := h1
    have h2 : d.toNat ≤ 57 := h2
    rw [hchar]
    exact (hall d.toNat (by omega) (by omega)).resolve_right (by omega)
  · have h1 : 97 ≤ d.toNat := h1
    have h2 : d.toNat ≤ 102 := h2
    rw [hchar]
    exact (hall d.toNat (by omega) (by omega)).resolve_right (by omega)

/-- A line of plain words as the dispatcher reads it. -/
theorem PlainWords.dispatched {words : List Text} (h : PlainWords words) :
    dispatched (Text.cString (joined words)) = joined words := by
  unfold SeedMg24.Analysis.dispatched
  rw [h.received, toUpperAscii_joined, h.map_toUpperAscii]

/-- The words of a read-back command. -/
theorem provgetCommand_eq {transactionId : Text} (h : transactionIdPattern transactionId = true) :
    provgetCommand (Text.toUpperAscii transactionId) =
        joined ["PROVGET".toList, "1".toList, Text.toUpperAscii transactionId] ∧
      PlainWords ["PROVGET".toList, "1".toList, Text.toUpperAscii transactionId] := by
  constructor
  · rw [joined_cons_cons, joined_cons_cons, joined_singleton]
    rfl
  · have hnone : PlainWords [] := by
      intro w hw
      cases hw
    exact plain_command "PROVGET".toList (isPlain_literal "PROVGET" (by decide +kernel)) h
      hnone hnone

/-- A read-back command is taken as it was sent. -/
theorem readbackRequest_provget {transactionId : Text}
    (h : transactionIdPattern transactionId = true) :
    readbackRequest (Text.cString (provgetCommand (Text.toUpperAscii transactionId))) =
      some (Text.toUpperAscii transactionId) := by
  obtain ⟨htext, hplain⟩ := provgetCommand_eq h
  have hlength := (plain_of_transactionIdPattern h).1
  have hprovget : isProvget (joined ["PROVGET".toList, "1".toList,
      Text.toUpperAscii transactionId]) = true :=
    isPrefixOf_line (show ' ' ∉ "PROVGET".toList by decide) hplain.isWord (by simp)
  have hremaining :=
    remaining_joined "PROVGET".toList fun w hw => hplain.isWord w (List.mem_cons_of_mem _ hw)
  obtain ⟨k₁, hversion, hremaining⟩ := nextCommandToken_remaining hremaining
  obtain ⟨k₂, htransaction, hremaining⟩ := nextCommandToken_remaining hremaining
  have hover := hremaining.le_length_iff
  simp only [ne_eq, not_true_eq_false, iff_false, not_le] at hover
  rw [readbackRequest_iff, htext, hplain.dispatched]
  refine ⟨hprovget, k₂, ?_, hover⟩
  have hvalid : validTransaction "1".toList (Text.toUpperAscii transactionId) = true := by
    simp only [validTransaction, decide_eq_true_eq]
    exact ⟨trivial, by omega, hlength.2⟩
  have hfirst : nextCommandToken (joined ["PROVGET".toList, "1".toList,
      Text.toUpperAscii transactionId]) 8 = some ("1".toList, k₁) := hversion
  unfold provisionHeader
  rw [hprovget, if_pos rfl, hfirst]
  simp only [Option.bind_eq_bind, Option.bind_some, htransaction, hvalid, if_true]

/-- Printed numbers are plain words. -/
theorem plainWords_str (values : List ℤ) : PlainWords (values.map Model.str) := by
  intro w hw
  obtain ⟨z, -, rfl⟩ := List.mem_map.mp hw
  have hdigits : ∀ c ∈ decimal z.natAbs, isPlain c = true := fun c hc =>
    isPlain_of_isDigit (isDigit_of_mem_decimal hc)
  unfold Model.str
  split
  · refine ⟨by simp, fun c hc => ?_⟩
    rcases List.mem_cons.mp hc with rfl | hc
    · decide
    · exact hdigits c hc
  · exact ⟨decimal_ne_nil _, hdigits⟩

/-- The gateway's configuration command, word by word. -/
theorem configureCommand_ok {transactionId command : Text} {configuration : DeviceConfiguration}
    (h : configureCommand transactionId configuration = .ok command) :
    transactionIdPattern transactionId = true ∧ command.length ≤ maximumCommandLength ∧
      ∃ values : List ℤ, command = joined ("CFGSET".toList :: "1".toList ::
          Text.toUpperAscii transactionId :: ([] ++ values.map Model.str)) ∧
        PlainWords ("CFGSET".toList :: "1".toList :: Text.toUpperAscii transactionId ::
          ([] ++ values.map Model.str)) := by
  unfold configureCommand at h
  by_cases htransaction : transactionIdPattern transactionId = true
  · rw [htransaction] at h
    simp only [Bool.not_true, Bool.false_eq_true, if_false] at h
    cases hvalues : configurationValues configuration with
    | error e => rw [hvalues] at h; cases h
    | ok values =>
      rw [hvalues] at h
      obtain ⟨first, rest, rfl⟩ : ∃ first rest, values = first :: rest := by
        have hlength := length_configurationValues hvalues
        exact List.exists_cons_of_ne_nil (by rintro rfl; simp at hlength)
      have htext : joined ("CFGSET".toList :: "1".toList :: Text.toUpperAscii transactionId ::
          ([] ++ (first :: rest).map Model.str)) =
          "CFGSET 1 ".toList ++ Text.toUpperAscii transactionId ++ " ".toList ++
            [' '].intercalate ((first :: rest).map Model.str) := by
        rw [List.nil_append, List.map_cons, joined_cons_cons, joined_cons_cons, joined_cons_cons]
        simp [joined]
      have hplain := plain_command "CFGSET".toList
        (isPlain_literal "CFGSET" (by decide +kernel)) htransaction
        (show PlainWords [] by intro w hw; cases hw) (plainWords_str (first :: rest))
      replace h : (if ("CFGSET 1 ".toList ++ Text.toUpperAscii transactionId ++ " ".toList ++
          [' '].intercalate ((first :: rest).map Model.str)).length > maximumCommandLength then
            throw ⟨"configuration command exceeds firmware limit".toList⟩
          else return "CFGSET 1 ".toList ++ Text.toUpperAscii transactionId ++ " ".toList ++
            [' '].intercalate ((first :: rest).map Model.str) :
              Except BleProvisioningError Text) = .ok command := h
      split at h
      · cases h
      · rename_i hfits
        cases h
        exact ⟨htransaction, not_lt.mp hfits, first :: rest, htext.symm, hplain⟩
  · simp only [Bool.not_eq_true] at htransaction
    rw [htransaction] at h
    cases h

/-! ## A client and its node -/

/-- A call whose client is subscribed to its node and waits for nothing. -/
structure Subscribed (s : ProvisioningSession (LinkedNode WriteFault)) : Prop where
  invariant : NodeInvariant StorageInvariant s.server.state
  named : NamedBare s.server.state.node
  connected : s.server.state.node.bleConnected = true
  notified : s.server.state.node.bleNotifyEnabled = true
  quiet : s.queue = []

section Exchanges

variable {s : ProvisioningSession (LinkedNode WriteFault)} {transactionId : Text}

/-- What a report answers. -/
theorem answerTo_report {nodeId : Text} (hid : IsBare nodeId) (htransaction : IsBare transactionId)
    {code : Text} (hcode : IsBare code) (c : ChannelConfig) {acceptedCodes : List Text}
    (haccepted : code ∈ acceptedCodes) :
    answerTo transactionId acceptedCodes [reportText nodeId transactionId code c] =
      .ok (fieldsJson (reportFields nodeId transactionId code c)) := by
  have hloads := loads_reportText hid htransaction hcode c
  have htx : (fieldsJson (reportFields nodeId transactionId code c)).get? "tx".toList =
      some (.str transactionId) := rfl
  have ht : (fieldsJson (reportFields nodeId transactionId code c)).get? "t".toList =
      some (.str "ca".toList) := rfl
  have hc : (fieldsJson (reportFields nodeId transactionId code c)).get? "code".toList =
      some (.str code) := rfl
  have hself (text : Text) : isStr (some (.str text)) text = true := by
    simp [isStr]
  have haccepts : acceptedCodes.any (isStr (some (.str code))) = true :=
    List.any_eq_true.mpr ⟨code, haccepted, hself code⟩
  unfold answerTo
  dsimp only [List.foldl_cons, List.foldl_nil]
  unfold notification
  rw [hloads]
  dsimp only
  generalize fieldsJson (reportFields nodeId transactionId code c) = report at htx ht hc
  rw [ht, hself, if_pos ⟨rfl, by decide⟩, List.nil_append]
  unfold takeAnswer
  rw [htx, hself, ht, hc]
  simp only [Bool.not_true, Bool.false_eq_true, if_false, haccepts, if_true]
  rfl

/-- A read-back command fits the node's buffer. -/
theorem length_provgetCommand (h : transactionIdPattern transactionId = true) :
    (provgetCommand (toUpperAscii transactionId)).length < Node.pendingBleCommandSize := by
  have hupper := (plain_of_transactionIdPattern h).1
  have hword : "PROVGET 1 ".toList.length = 10 := by rfl
  unfold provgetCommand
  rw [List.length_append, Node.pendingBleCommandSize]
  generalize (toUpperAscii transactionId).length = length at hupper ⊢
  omega

/-- The node after a read-back. -/
def readBack (server : LinkedNode WriteFault) (transactionId : Text) : LinkedNode WriteFault where
  state := ⟨server.state.storage,
    server.state.node.reportProvisioningState transactionId "readback".toList⟩
  passes i := server.passes (i + 1)

/-- What a node does with a read-back command. -/
theorem handle_readback {server : LinkedNode WriteFault}
    (h : NodeInvariant StorageInvariant server.state)
    (htransaction : transactionIdPattern transactionId = true) :
    server.handle tearing (provgetCommand (toUpperAscii transactionId)) =
      readBack server (toUpperAscii transactionId) := by
  have hfits := length_provgetCommand htransaction
  have haction := commandAction_readback h.idle (readbackRequest_provget htransaction)
    (server.passes 0).now
  have hreported := h.reportProvisioningState (toUpperAscii transactionId) "readback".toList
  have hloop := afterCommands_eq hreported.idle
  unfold LinkedNode.handle Node.writeCommand
  dsimp only at hloop ⊢
  rw [if_neg (by omega), handleCommand_eq, haction]
  unfold readBack
  rw [← hloop]
  rfl

/-- A node after a command it answered with a report. -/
def reported (server : LinkedNode WriteFault) (n : Node) (transactionId code : Text) :
    LinkedNode WriteFault where
  state := ⟨server.state.storage, n.reportProvisioningState transactionId code⟩
  passes i := server.passes (i + 1)

/-- **A report**, from the node that prints it: a subscribed client is notified of it and takes it
for its answer. -/
theorem exchange_report (hquiet : s.queue = []) {n : Node} {command code : Text}
    (hhandle : s.server.handle tearing command = reported s.server n transactionId code)
    (h : NodeInvariant StorageInvariant ⟨s.server.state.storage, n⟩) (hnamed : NamedBare n)
    (hlink : n.bleConnected = true ∧ n.bleNotifyEnabled = true)
    (hnotifications : n.notifications = s.server.state.node.notifications)
    (htransaction : IsBare transactionId ∧ transactionId.length ≤ 24)
    (hcode : IsBare code ∧ code.length ≤ 17) {acceptedCodes : List Text}
    (haccepted : code ∈ acceptedCodes) (texts : NodeTexts) :
    (writeCommand (nodeServer tearing texts) command >>= fun _ =>
        waitFor transactionId acceptedCodes).outcome s =
      (.ok (fieldsJson (reportFields n.runtimeNodeId transactionId code
        n.microphoneRuntimeConfig)),
        { server := reported s.server n transactionId code
          answered := s.answered ++ [(command, [reportText n.runtimeNodeId transactionId code
            n.microphoneRuntimeConfig])] }) := by
  have htext : n.provisioningStateText transactionId code =
      reportText n.runtimeNodeId transactionId code n.microphoneRuntimeConfig :=
    h.provisioningStateText_eq htransaction.2 hcode.2
  have hlength : (reportText n.runtimeNodeId transactionId code
      n.microphoneRuntimeConfig).length < Node.bleJsonSize :=
    length_reportText h.length_runtimeNodeId htransaction.2 hcode.2 h.inRange
  have hpositive : (reportText n.runtimeNodeId transactionId code
      n.microphoneRuntimeConfig).length ≠ 0 := by
    rw [reportText_eq, fieldsText, objectText, List.cons_append, List.length_cons]
    exact Nat.succ_ne_zero _
  have hwrite : (nodeServer tearing texts).writeCommand s.server command =
      ([reportText n.runtimeNodeId transactionId code n.microphoneRuntimeConfig],
        reported s.server n transactionId code) := by
    show ((s.server.handle tearing command).state.node.notifications.drop
      s.server.state.node.notifications.length, s.server.handle tearing command) = _
    rw [hhandle]
    unfold reported
    dsimp only
    rw [Node.reportProvisioningState, htext, answer_notifications _ _ ⟨hpositive, hlength⟩ hlink,
      hnotifications, List.drop_left]
  have hone : ((nodeServer tearing texts).writeCommand s.server command).1.length ≤ 1 := by
    rw [hwrite]
    exact le_rfl
  rw [exchange_outcome (nodeServer tearing texts) hquiet hone, hwrite]
  dsimp only
  rw [answerTo_report hnamed.runtimeNodeId htransaction.1 hcode.1 n.microphoneRuntimeConfig
    haccepted]

/-- The session after a read-back. -/
def afterReadback (s : ProvisioningSession (LinkedNode WriteFault)) (transactionId : Text) :
    ProvisioningSession (LinkedNode WriteFault) where
  server := readBack s.server transactionId
  answered := s.answered ++ [(provgetCommand transactionId,
    [reportText s.server.state.node.runtimeNodeId transactionId "readback".toList
      s.server.state.node.microphoneRuntimeConfig])]

/-- A subscribed client stays subscribed. -/
theorem Subscribed.afterReadback (h : Subscribed s) (transactionId : Text) :
    Subscribed (afterReadback s transactionId) := by
  refine ⟨h.invariant.reportProvisioningState _ _, ?_, ?_, ?_, rfl⟩
  · simpa [NamedBare, Analysis.afterReadback, readBack, Node.reportProvisioningState] using h.named
  · simpa [Analysis.afterReadback, readBack, Node.reportProvisioningState] using h.connected
  · simpa [Analysis.afterReadback, readBack, Node.reportProvisioningState] using h.notified

/-- A read-back changes neither what runs nor what is stored. -/
theorem afterReadback_settings (s : ProvisioningSession (LinkedNode WriteFault))
    (transactionId : Text) :
    (afterReadback s transactionId).server.state.storage = s.server.state.storage ∧
      (afterReadback s transactionId).server.state.node.microphoneRuntimeConfig =
        s.server.state.node.microphoneRuntimeConfig := by
  simp [afterReadback, readBack, Node.reportProvisioningState]

/-- **A read-back** is answered with the running settings. -/
theorem exchange_readback (h : Subscribed s)
    (htransaction : transactionIdPattern transactionId = true) (texts : NodeTexts) :
    (writeCommand (nodeServer tearing texts) (provgetCommand (toUpperAscii transactionId)) >>=
        fun _ => waitFor (toUpperAscii transactionId) ["readback".toList]).outcome s =
      (.ok (fieldsJson (reportFields s.server.state.node.runtimeNodeId
        (toUpperAscii transactionId) "readback".toList
        s.server.state.node.microphoneRuntimeConfig)),
        afterReadback s (toUpperAscii transactionId)) := by
  have hupper := (plain_of_transactionIdPattern htransaction).1
  exact exchange_report h.quiet (handle_readback h.invariant htransaction) h.invariant h.named
    ⟨h.connected, h.notified⟩ rfl ⟨isBare_toUpperAscii htransaction, hupper.2⟩
    ⟨by decide +kernel, by decide⟩ (List.mem_singleton.mpr rfl) texts

/-! ## Writing a configuration -/

/-- What a configuration transaction leaves: it is rejected, or stored and running. -/
theorem ensures_commitConfiguration_stored {n : Node} {nvm : Nvm} (h : StorageInvariant nvm)
    (transactionId : Text) (tokens : SettingTokens) (now : UInt32) :
    Ensures tearing StorageInvariant (n.commitConfiguration transactionId tokens now) nvm
      fun after t => (∃ code, IsBare code ∧ after = n.commandResult false code now) ∨
        (storedSettings t = some after.microphoneRuntimeConfig ∧
          after.bleConnected = n.bleConnected ∧ after.bleNotifyEnabled = n.bleNotifyEnabled) := by
  unfold Node.commitConfiguration
  refine ensures_identityLoad_bind tearing_faithful h ?_
  dsimp only
  split
  · exact Ensures.done h (.inl ⟨_, by decide +kernel, rfl⟩)
  cases stagedConfiguration tokens with
  | none => exact Ensures.done h (.inl ⟨_, by decide +kernel, rfl⟩)
  | some staged =>
    refine Ensures.seq (ensures_configurationWrite h _ _) ?_
    rintro ⟨stored, verified⟩ t ⟨ht, -, hok⟩
    dsimp only at hok ⊢
    split
    · exact Ensures.done ht (.inl ⟨_, isBare_storeStatusName stored, rfl⟩)
    · rename_i hstored
      obtain ⟨hr, g, r, rfl, hload⟩ := hok (not_not.mp hstored)
      refine Ensures.done ht (.inr ?_)
      have hloaded := adopted_eq_loaded (v := sealConfiguration staged g) hr n
      rw [storedSettings_of_found hload, Node.reportProvisioningState,
        answer_microphoneRuntimeConfig, hloaded, answer_bleConnected, answer_bleNotifyEnabled]
      exact ⟨rfl, rfl, rfl⟩

/-- What the gateway's configuration command makes a node do. -/
theorem commandAction_cfgset (n : Node) {words : List Text} (h : PlainWords ("CFGSET".toList :: words))
    (hne : words ≠ []) (hidle : n.factoryResetController.busy = false) (now : UInt32) :
    (∃ code, commandAction n (cString (joined ("CFGSET".toList :: words))) now = .reject code) ∨
      ∃ transactionId tokens, commandAction n (cString (joined ("CFGSET".toList :: words))) now =
        .configure transactionId tokens := by
  have hprov : "PROV ".toList.isPrefixOf (joined ("CFGSET".toList :: words)) = false :=
    isPrefixOf_line (show ' ' ∉ "PROV".toList by decide) h.isWord hne
  have hprovget : "PROVGET ".toList.isPrefixOf (joined ("CFGSET".toList :: words)) = false :=
    isPrefixOf_line (show ' ' ∉ "PROVGET".toList by decide) h.isWord hne
  have hcfgset : "CFGSET ".toList.isPrefixOf (joined ("CFGSET".toList :: words)) = true :=
    isPrefixOf_line (show ' ' ∉ "CFGSET".toList by decide) h.isWord hne
  have hboot : kBootstrapPrefix.isPrefixOf (joined ("CFGSET".toList :: words)) = false :=
    isPrefixOf_line (show ' ' ∉ "MG24BOOT1".toList by decide) h.isWord hne
  unfold commandAction
  dsimp only
  rw [h.received, hboot, toUpperAscii_joined, h.map_toUpperAscii]
  unfold provisionAction configurationAction isProvget
  simp only [hprov, hprovget, hcfgset, hidle, Bool.not_true, Bool.not_false, Bool.and_self,
    Bool.and_true, Bool.false_or, Bool.false_eq_true, if_false, if_true]
  cases hbootstrap : n.bootstrapOnly with
  | true => exact .inl ⟨_, rfl⟩
  | false =>
    simp only [Bool.false_eq_true, if_false]
    cases configurationHeader (joined ("CFGSET".toList :: words)) with
    | none => exact .inl ⟨_, rfl⟩
    | some header => exact .inr ⟨header.1, header.2, rfl⟩

/-- Nobody waits for the answer of a rejection, notified or not. -/
theorem answerTo_commandResult {n : Node} (hnamed : NamedBare n) {code : Text} (hcode : IsBare code)
    (now : UInt32) (transactionId : Text) (acceptedCodes : List Text) :
    answerTo transactionId acceptedCodes
        ((n.commandResult false code now).notifications.drop n.notifications.length) =
      .error .timedOut := by
  have hrejection := answerTo_rejection hnamed.runtimeNodeId hcode now transactionId acceptedCodes
  have hsame : answerTo transactionId acceptedCodes (n.notifications.drop n.notifications.length) =
      .error .timedOut := by
    rw [List.drop_length]
    rfl
  unfold Node.commandResult Node.answer Node.bleSendPayload
  dsimp only
  split
  · split
    · exact hsame
    split
    · rw [List.drop_left]
      exact hrejection
    · exact hsame
  · exact hsame

/-- **Writing a configuration**: a call that goes on left it stored and running. -/
theorem exchange_cfgset (h : Subscribed s) {words : List Text}
    (hplain : PlainWords ("CFGSET".toList :: words)) (hne : words ≠ [])
    (hfits : (joined ("CFGSET".toList :: words)).length < Node.pendingBleCommandSize)
    (acceptedCodes : List Text) (texts : NodeTexts) {acknowledgement : Json}
    {t : ProvisioningSession (LinkedNode WriteFault)}
    (houtcome : (writeCommand (nodeServer tearing texts) (joined ("CFGSET".toList :: words)) >>=
      fun _ => waitFor transactionId acceptedCodes).outcome s = (.ok acknowledgement, t)) :
    Subscribed t ∧ storedSettings t.server.state.storage =
      some t.server.state.node.microphoneRuntimeConfig := by
  obtain ⟨hnamed, hanswers⟩ := writeCommand_answers (E := tearing) h.named texts
    (joined ("CFGSET".toList :: words))
  have hone : ((nodeServer tearing texts).writeCommand s.server
      (joined ("CFGSET".toList :: words))).1.length ≤ 1 := by
    rcases hanswers with hanswers | ⟨text, -, hanswers⟩ <;> rw [hanswers] <;> simp
  rw [exchange_outcome (nodeServer tearing texts) h.quiet hone] at houtcome
  obtain ⟨hanswer, rfl⟩ := Prod.mk.inj houtcome
  -- the command as the node handles it
  have hrun := (h.invariant.handleCommand tearing_guarantees
    (cString (joined ("CFGSET".toList :: words))) (s.server.passes 0).now
    (s.server.passes 0).faults).1
  have hloop := afterCommands_eq hrun.idle
  have haction := commandAction_cfgset s.server.state.node hplain hne h.invariant.idle
    (s.server.passes 0).now
  have hwrite : (nodeServer tearing texts).writeCommand s.server
      (joined ("CFGSET".toList :: words)) =
      (((s.server.state.node.handleCommand (cString (joined ("CFGSET".toList :: words)))
          (s.server.passes 0).now).run tearing s.server.state.storage
            (s.server.passes 0).faults).value.notifications.drop
              s.server.state.node.notifications.length,
        ⟨⟨((s.server.state.node.handleCommand (cString (joined ("CFGSET".toList :: words)))
            (s.server.passes 0).now).run tearing s.server.state.storage
              (s.server.passes 0).faults).state,
          ((s.server.state.node.handleCommand (cString (joined ("CFGSET".toList :: words)))
            (s.server.passes 0).now).run tearing s.server.state.storage
              (s.server.passes 0).faults).value⟩, fun i => s.server.passes (i + 1)⟩) := by
    unfold nodeServer LinkedNode.handle Node.writeCommand
    dsimp only at hloop ⊢
    rw [if_neg (by omega), hloop]
  rw [hwrite] at hanswer hnamed ⊢
  dsimp only at hanswer hnamed ⊢
  rw [handleCommand_eq] at hanswer hnamed hrun ⊢
  rcases haction with ⟨code, haction⟩ | ⟨transaction, tokens, haction⟩
  · have htimeout := answerTo_commandResult h.named (resultCode_of_commandAction haction).isBare
      (s.server.passes 0).now transactionId acceptedCodes
    rw [haction] at hanswer
    cases htimeout.symm.trans hanswer
  · have hstored := (ensures_commitConfiguration_stored (n := s.server.state.node)
      h.invariant.storage transaction tokens (s.server.passes 0).now (s.server.passes 0).faults).1
    rw [haction] at hanswer hnamed hrun ⊢
    rcases hstored with ⟨code, hcode, hrejected⟩ | ⟨hstored, hconnected, hnotified⟩
    · have htimeout := answerTo_commandResult h.named hcode (s.server.passes 0).now
        transactionId acceptedCodes
      rw [← hrejected] at htimeout
      cases htimeout.symm.trans hanswer
    · exact ⟨⟨hrun, hnamed, hconnected.trans h.connected, hnotified.trans h.notified, rfl⟩, hstored⟩

end Exchanges

/-! ## Durability -/

/-- Whether an event is no command. -/
def NodeEvent.isQuiet {φ : Type} : NodeEvent φ → Bool
  | .command .. => false
  | .powerCut .. => false
  | .reboot => true
  | .surroundings .. => true

/-- Whatever happens but commands, the configuration store loads the values of a request.
SOURCE: ble_provisioning.py:149-157; configuration_store.cpp:81-87 -/
def StaysStored (s : NodeState) (values : List ℤ) : Prop :=
  ∀ events : List (NodeEvent WriteFault), (∀ event ∈ events, event.isQuiet = true) →
    ∃ c, storedSettings (events.foldl (NodeEvent.after tearing) s).storage = some c ∧
      settingsValues c = values

/-- A boot leaves the stores alone. -/
theorem booted_storage {nvm : Nvm} (h : StorageInvariant nvm) : (booted nvm).storage = nvm := by
  rw [booted, run_setup healthy_faithful h.unmarked]

/-- Without commands, storage does not change. -/
theorem storage_quiet {s : NodeState} (h : StorageInvariant s.storage)
    {events : List (NodeEvent WriteFault)} (hquiet : ∀ event ∈ events, event.isQuiet = true) :
    (events.foldl (NodeEvent.after tearing) s).storage = s.storage := by
  induction events generalizing s with
  | nil => rfl
  | cons event events ih =>
    have hfirst := hquiet event (by simp)
    have hevent : (event.after tearing s).storage = s.storage := by
      cases event with
      | command => cases hfirst
      | powerCut => cases hfirst
      | reboot => exact booted_storage h
      | surroundings => rfl
    rw [List.foldl_cons, ih (by rw [hevent]; exact h) fun e he => hquiet e (by simp [he]), hevent]

/-- What is stored once stays stored. -/
theorem staysStored_iff {s : NodeState} (h : StorageInvariant s.storage) (values : List ℤ) :
    StaysStored s values ↔ ∃ c, storedSettings s.storage = some c ∧ settingsValues c = values := by
  constructor
  · intro hstays
    exact hstays [] (by simp)
  · rintro hstored events hquiet
    rwa [storage_quiet h hquiet]

/-- A request that a node answers with a read-back of its own values: it is well formed, nobody
else uses the node, the node has the id, and it already runs the values.
SOURCE: ble_provisioning.py:103-139 -/
structure AlreadyApplied (s : NodeState) (locked : Bool) (nodeId transactionId : Text)
    (configuration : DeviceConfiguration) : Prop where
  free : locked = false
  command : ∃ command, configureCommand transactionId configuration = .ok command
  named : s.node.runtimeNodeId = nodeId
  running : configurationValues configuration = .ok (settingsValues s.node.microphoneRuntimeConfig)

/-- A configuration call that returned left the requested values stored for good. -/
def Durable {α : Type} (result : Except CallFailure α × ProvisioningSession (LinkedNode WriteFault))
    (configuration : DeviceConfiguration) : Prop :=
  ∀ returned, result.1 = .ok returned →
    ∃ values, configurationValues configuration = .ok values ∧
      StaysStored result.2.server.state values

section Calls

variable {s : ProvisioningSession (LinkedNode WriteFault)} {texts : NodeTexts}

/-- The answer to a write, and the rest of the call. -/
theorem outcome_exchange_bind {α : Type} (command transactionId : Text) (acceptedCodes : List Text)
    (f : Json → ProvisioningCall (LinkedNode WriteFault) α) :
    (writeCommand (nodeServer tearing texts) command >>= fun _ =>
        waitFor transactionId acceptedCodes >>= f).outcome s =
      match (writeCommand (nodeServer tearing texts) command >>= fun _ =>
          waitFor transactionId acceptedCodes).outcome s with
      | (.ok answer, t) => (f answer).outcome t
      | (.error failure, t) => (.error failure, t) := by
  rw [← bind_assoc, outcome_bind]
  rcases (writeCommand (nodeServer tearing texts) command >>= fun _ =>
    waitFor transactionId acceptedCodes).outcome s with ⟨failure | answer, t⟩ <;> rfl

/-- The session once the client subscribed. -/
def subscribed (texts : NodeTexts) (s : ProvisioningSession (LinkedNode WriteFault)) :
    ProvisioningSession (LinkedNode WriteFault) :=
  { s with server := (nodeServer tearing texts).startNotify s.server }

theorem outcome_startNotify_bind {α : Type}
    (f : Unit → ProvisioningCall (LinkedNode WriteFault) α) :
    (startNotify (nodeServer tearing texts) >>= f).outcome s =
      (f ()).outcome (subscribed texts s) := rfl

theorem outcome_stopNotify_bind {α : Type}
    (f : Unit → ProvisioningCall (LinkedNode WriteFault) α) :
    (stopNotify (nodeServer tearing texts) >>= f).outcome s =
      (f ()).outcome { s with server := (nodeServer tearing texts).stopNotify s.server } := rfl

/-- A client of a node after a run is subscribed once it asked to be. -/
theorem subscribed_callAfter (texts : NodeTexts) (events : List (NodeEvent WriteFault))
    (passes : ℕ → LoopPass WriteFault) :
    Subscribed (subscribed texts (callAfter tearing events passes)) := by
  have hinvariant := nodeInvariant_nodeAfter tearing_guarantees storageInvariant_empty events
  exact ⟨hinvariant.congr rfl rfl rfl rfl rfl rfl, namedBare_nodeAfter tearing events, rfl, rfl, rfl⟩

/-- What a configuration call does when its values do not run yet: the command, and a second
read-back. -/
def writeAndVerify (texts : NodeTexts) (transactionId command : Text) (values : List ℤ) :
    ProvisioningCall (LinkedNode WriteFault) (Json × Json) := do
  writeCommand (nodeServer tearing texts) command
  let acknowledgement ← waitFor transactionId ["configured".toList]
  writeCommand (nodeServer tearing texts) (provgetCommand transactionId)
  let readback ← waitFor transactionId ["readback".toList]
  stopNotify (nodeServer tearing texts)
  if !readbackMatches readback values then
    throw (.raised ⟨"device configuration readback does not match the requested values".toList⟩)
  return (acknowledgement, readback)

/-- **A configuration call**, by what its first read-back shows. -/
theorem outcome_configureConnected (h : Subscribed (subscribed texts s)) (nodeId : Text) {transactionId : Text}
    (htransaction : transactionIdPattern transactionId = true) (command : Text) {values : List ℤ}
    (hvalues : values.length = 7) :
    let n := s.server.state.node
    let call := (configureConnected (nodeServer tearing texts) nodeId (toUpperAscii transactionId)
      command values).outcome s
    let t := afterReadback (subscribed texts s) (toUpperAscii transactionId)
    if n.runtimeNodeId ≠ nodeId then ∃ failure, call.1 = .error failure
    else if values = settingsValues n.microphoneRuntimeConfig then
      (∃ returned, call.1 = .ok returned) ∧ call.2.server.state.storage = s.server.state.storage
    else call = (writeAndVerify texts (toUpperAscii transactionId) command values).outcome t := by
  have hfirst := exchange_readback h htransaction texts
  have hmatch := readbackMatches_report s.server.state.node.runtimeNodeId
    (toUpperAscii transactionId) "readback".toList s.server.state.node.microphoneRuntimeConfig hvalues
  have hnamed : isStr ((fieldsJson (reportFields s.server.state.node.runtimeNodeId
      (toUpperAscii transactionId) "readback".toList
      s.server.state.node.microphoneRuntimeConfig)).get? "id".toList) nodeId =
        decide (s.server.state.node.runtimeNodeId = nodeId) := rfl
  have hsame : (subscribed texts s).server.state.node.runtimeNodeId =
      s.server.state.node.runtimeNodeId := rfl
  have hsettings : (subscribed texts s).server.state.node.microphoneRuntimeConfig =
      s.server.state.node.microphoneRuntimeConfig := rfl
  rw [hsame, hsettings] at hfirst
  dsimp only
  unfold configureConnected
  rw [outcome_startNotify_bind]
  dsimp only
  rw [outcome_exchange_bind, hfirst]
  dsimp only
  rw [hnamed]
  generalize fieldsJson (reportFields s.server.state.node.runtimeNodeId
    (toUpperAscii transactionId) "readback".toList s.server.state.node.microphoneRuntimeConfig) =
      before at hmatch
  by_cases hid : s.server.state.node.runtimeNodeId = nodeId
  · rw [if_neg (not_not.mpr hid)]
    simp only [hid, decide_true, Bool.not_true, Bool.false_eq_true, if_false]
    by_cases happlied : values = settingsValues s.server.state.node.microphoneRuntimeConfig
    · rw [if_pos happlied, if_pos (hmatch.mpr happlied), outcome_stopNotify_bind, outcome_pure]
      refine ⟨⟨_, rfl⟩, ?_⟩
      exact (afterReadback_settings (subscribed texts s) (toUpperAscii transactionId)).1
    · rw [if_neg happlied, if_neg fun hmatches => happlied (hmatch.mp hmatches)]
      rfl
  · rw [if_pos hid]
    simp only [hid, decide_false, Bool.not_false, if_true]
    exact ⟨_, rfl⟩

/-- A configuration that was written and verified is stored. -/
theorem stored_of_writeAndVerify (h : Subscribed s) {transactionId : Text}
    (htransaction : transactionIdPattern transactionId = true) {words : List Text}
    (hplain : PlainWords ("CFGSET".toList :: words)) (hne : words ≠ [])
    (hfits : (joined ("CFGSET".toList :: words)).length < Node.pendingBleCommandSize)
    {values : List ℤ} (hvalues : values.length = 7) {returned : Json × Json}
    (hreturned : ((writeAndVerify texts (toUpperAscii transactionId)
      (joined ("CFGSET".toList :: words)) values).outcome s).1 = .ok returned) :
    let t := ((writeAndVerify texts (toUpperAscii transactionId)
      (joined ("CFGSET".toList :: words)) values).outcome s).2
    StorageInvariant t.server.state.storage ∧
      ∃ c, storedSettings t.server.state.storage = some c ∧ settingsValues c = values := by
  unfold writeAndVerify at hreturned ⊢
  rw [outcome_exchange_bind] at hreturned ⊢
  cases hwritten : (writeCommand (nodeServer tearing texts) (joined ("CFGSET".toList :: words)) >>=
    fun _ => waitFor (toUpperAscii transactionId) ["configured".toList]).outcome s with
  | mk answer t =>
    rw [hwritten] at hreturned
    cases answer with
    | error failure => cases hreturned
    | ok acknowledgement =>
      obtain ⟨ht, hstored⟩ := exchange_cfgset h hplain hne hfits _ texts hwritten
      have hread := exchange_readback ht htransaction texts
      have hmatch := readbackMatches_report t.server.state.node.runtimeNodeId
        (toUpperAscii transactionId) "readback".toList t.server.state.node.microphoneRuntimeConfig
        hvalues
      dsimp only at hreturned ⊢
      rw [outcome_exchange_bind, hread] at hreturned ⊢
      dsimp only at hreturned ⊢
      generalize fieldsJson (reportFields t.server.state.node.runtimeNodeId
        (toUpperAscii transactionId) "readback".toList t.server.state.node.microphoneRuntimeConfig) =
          readback at hmatch hreturned ⊢
      rw [outcome_bind] at hreturned ⊢
      by_cases hmatches : readbackMatches readback values = true
      · simp only [hmatches, Bool.not_true, Bool.false_eq_true, if_false]
        exact ⟨ht.invariant.storage, _, hstored, (hmatch.mp hmatches).symm⟩
      · simp only [hmatches, Bool.not_false, if_true] at hreturned
        cases hreturned

end Calls

/-- **A configuration call is durable, unless it relies on settings that only run.**  Whatever the
run before, the faults met and the request: when the call returns, every later boot loads the
requested values, if and only if the node, when it already ran them, had stored what it ran.
SOURCE: ble_provisioning.py:103-162; xiao_mg24_sensor_node.ino:217-233, 321-402, 443-448 -/
theorem configure_durable_iff (events : List (NodeEvent WriteFault))
    (passes : ℕ → LoopPass WriteFault) (texts : NodeTexts) (locked : Bool)
    (nodeId transactionId : Text) (configuration : DeviceConfiguration) :
    Durable ((configure (nodeServer tearing texts) locked nodeId transactionId
        configuration).outcome (callAfter tearing events passes)) configuration ↔
      (AlreadyApplied (nodeAfter tearing events) locked nodeId transactionId configuration →
        storedSettings (nodeAfter tearing events).storage =
          some (nodeAfter tearing events).node.microphoneRuntimeConfig) := by
  have hinvariant := nodeInvariant_nodeAfter tearing_guarantees storageInvariant_empty events
  have hsubscribed := subscribed_callAfter texts events passes
  -- a call that ends with a failure promises nothing
  have hfails : ∀ {call : Except CallFailure (Json × Json) ×
      ProvisioningSession (LinkedNode WriteFault)}, (∃ failure, call.1 = .error failure) →
        Durable call configuration := by
    rintro call ⟨failure, hcall⟩ returned hreturned
    rw [hcall] at hreturned
    cases hreturned
  cases hcommand : configureCommand transactionId configuration with
  | error e =>
    refine iff_of_true (hfails ⟨.raised e, ?_⟩) fun happlied => ?_
    · unfold configure
      rw [hcommand]
      rfl
    · obtain ⟨command, hok⟩ := happlied.command
      rw [hcommand] at hok
      cases hok
  | ok command =>
    cases hvalues : configurationValues configuration with
    | error e =>
      refine iff_of_true (hfails ⟨.raised e, ?_⟩) fun happlied => ?_
      · unfold configure
        rw [hcommand, hvalues]
        rfl
      · have hok := happlied.running
        rw [hvalues] at hok
        cases hok
    | ok values =>
      cases locked with
      | true =>
        refine iff_of_true (hfails ?_) fun happlied => ?_
        · unfold configure
          rw [hcommand, hvalues]
          exact ⟨_, rfl⟩
        · cases happlied.free
      | false =>
        have hcall : (configure (nodeServer tearing texts) false nodeId transactionId
            configuration).outcome (callAfter tearing events passes) =
              (configureConnected (nodeServer tearing texts) nodeId (toUpperAscii transactionId)
                command values).outcome (callAfter tearing events passes) := by
          unfold configure
          rw [hcommand, hvalues]
          rfl
        rw [hcall]
        obtain ⟨htransaction, hfits, printed, rfl, hplain⟩ := configureCommand_ok hcommand
        have hlength := length_configurationValues hvalues
        have hconnected := outcome_configureConnected hsubscribed nodeId htransaction
          (joined ("CFGSET".toList :: "1".toList :: toUpperAscii transactionId ::
            ([] ++ printed.map Model.str))) hlength
        have hfits' : (joined ("CFGSET".toList :: "1".toList :: toUpperAscii transactionId ::
            ([] ++ printed.map Model.str))).length < Node.pendingBleCommandSize :=
          Nat.lt_succ_of_le hfits
        generalize (configureConnected (nodeServer tearing texts) nodeId
          (toUpperAscii transactionId) (joined ("CFGSET".toList :: "1".toList ::
            toUpperAscii transactionId :: ([] ++ printed.map Model.str))) values).outcome
              (callAfter tearing events passes) = call at hconnected ⊢
        have hnode : (callAfter tearing events passes).server.state = nodeAfter tearing events := rfl
        dsimp only at hconnected
        rw [hnode] at hconnected
        by_cases hid : (nodeAfter tearing events).node.runtimeNodeId = nodeId
        · rw [if_neg (not_not.mpr hid)] at hconnected
          by_cases hrunning :
              values = settingsValues (nodeAfter tearing events).node.microphoneRuntimeConfig
          · -- nothing is written
            rw [if_pos hrunning] at hconnected
            obtain ⟨⟨returned, hreturned⟩, hstorage⟩ := hconnected
            have happlied : AlreadyApplied (nodeAfter tearing events) false nodeId transactionId
              configuration := ⟨rfl, ⟨_, hcommand⟩, hid, hrunning ▸ hvalues⟩
            have hstays := staysStored_iff (hstorage ▸ hinvariant.storage) values
            rw [hstorage] at hstays
            constructor
            · intro hdurable _
              obtain ⟨values', hvalues', hstored⟩ := hdurable returned hreturned
              rw [hvalues] at hvalues'
              cases hvalues'
              obtain ⟨c, hload, hc⟩ := hstays.mp hstored
              rw [hload, settingsValues_inj (hc.trans hrunning)]
            · intro hstored returned' _
              exact ⟨values, hvalues, hstays.mpr ⟨_, hstored happlied, hrunning.symm⟩⟩
          · -- the values are written and verified
            rw [if_neg hrunning] at hconnected
            refine iff_of_true ?_ fun happlied => ?_
            · intro returned hreturned
              rw [hconnected] at hreturned ⊢
              obtain ⟨hstorage, hstored⟩ := stored_of_writeAndVerify
                (hsubscribed.afterReadback (toUpperAscii transactionId)) htransaction hplain
                (by simp) hfits' hlength hreturned
              exact ⟨values, hvalues, (staysStored_iff hstorage values).mpr hstored⟩
            · have hsame := happlied.running
              rw [hvalues] at hsame
              exact absurd (Except.ok.inj hsame) hrunning
        · rw [if_pos hid] at hconnected
          exact iff_of_true (hfails hconnected) fun happlied => absurd happlied.named hid

/-- A node that is provisioned, and whose report interval is changed by `RATE`. -/
def rateChanged : List (NodeEvent WriteFault) := [
  .command "PROV 1 TRANSACTION NODE-1 100 100 100 30000 2 2 1".toList 10 fun _ => .completes .ok,
  .command "RATE 500".toList 20 fun _ => .completes .ok]

/-- The settings that then run. -/
def rateConfiguration : DeviceConfiguration where
  sampleIntervalMs := 100
  processingIntervalMs := 100
  reportIntervalMs := 500
  heartbeatIntervalMs := 30000
  filterType := .ema
  filterWindow := 2

/-- Asking the node for them. -/
def rateCall : Except CallFailure (Json × Json) × ProvisioningSession (LinkedNode WriteFault) :=
  (configure (nodeServer tearing ⟨fun _ => [], fun _ => [], fun _ => []⟩) false "NODE-1".toList
    "0123456789abcdef".toList rateConfiguration).outcome
      (callAfter tearing rateChanged fun _ => ⟨30, fun _ => .completes .ok⟩)

/-- The call returns, and the node still stores a report interval of 100. -/
theorem not_durable_rateChanged : ¬ Durable rateCall rateConfiguration := by
  intro hdurable
  have hreturns : (match rateCall.1 with
    | .ok _ => true
    | .error _ => false) = true := by decide +kernel
  have hstored : (storedSettings rateCall.2.server.state.storage).map settingsValues =
      some [100, 100, 100, 30000, 2, 2, 1] := by decide +kernel
  cases hcall : rateCall.1 with
  | error failure =>
    rw [hcall] at hreturns
    cases hreturns
  | ok returned =>
    obtain ⟨values, hvalues, hstays⟩ := hdurable returned hcall
    obtain ⟨c, hload, hc⟩ := hstays [] (by simp)
    rw [List.foldl_nil] at hload
    rw [hload, Option.map_some, hc] at hstored
    cases hvalues.symm.trans (show configurationValues rateConfiguration =
      .ok [100, 100, 500, 30000, 2, 2, 1] by rfl)
    cases hstored

end SeedMg24.Analysis
