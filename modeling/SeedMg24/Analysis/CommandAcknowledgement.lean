import SeedMg24.Analysis.CommandEffects

/-!
# Acknowledgements and state

A configuration command answered `ca` should leave the running settings equal to the stored ones,
one answered `ce` should change nothing.  `acknowledgements_match_iff` says in which runs they do:
`AcknowledgementLost` names the commands of a run after which they do not.
-/

set_option autoImplicit false

namespace SeedMg24.Analysis

open Foundation Foundation.TwoSlot Model

/-! ## Answers -/

/-- The type of an answer, `ca` or `ce`, as the text it begins with. -/
def isAnswer (type : String) (line : Text) : Bool :=
  ("\x7b\"t\":\"" ++ type ++ "\"").toList.isPrefixOf line

/-- An acknowledgement leaves the running settings stored, a rejection leaves everything as it
was. -/
structure AcknowledgementMatches (s t : NodeState) : Prop where
  acknowledged : ∀ line ∈ printedSince s.node t.node, isAnswer "ca" line = true →
    storedSettings t.storage = some t.node.microphoneRuntimeConfig
  rejected : ∀ line ∈ printedSince s.node t.node, isAnswer "ce" line = true →
    t.node.microphoneRuntimeConfig = s.node.microphoneRuntimeConfig ∧
      storedSettings t.storage = storedSettings s.storage ∧
      storedIdentity t.storage = storedIdentity s.storage

theorem isAnswer_commandResultText (n : Node) (accepted : Bool) (code : Text) (now : UInt32) :
    isAnswer "ca" (n.commandResultText accepted code now) = accepted ∧
      isAnswer "ce" (n.commandResultText accepted code now) = !accepted := by
  cases accepted <;> exact ⟨rfl, rfl⟩

theorem isAnswer_provisioningStateText (n : Node) (transactionId code : Text) :
    isAnswer "ca" (n.provisioningStateText transactionId code) = true ∧
      isAnswer "ce" (n.provisioningStateText transactionId code) = false :=
  ⟨rfl, rfl⟩

section Matches

variable {s : NodeState} {t : Nvm} {n : Node} (hlines : n.serialLines = s.node.serialLines)
include hlines

/-- After a command result. -/
theorem matches_commandResult (accepted : Bool) (code : Text) (now : UInt32) :
    AcknowledgementMatches s ⟨t, n.commandResult accepted code now⟩ ↔
      if accepted then storedSettings t = some n.microphoneRuntimeConfig
      else n.microphoneRuntimeConfig = s.node.microphoneRuntimeConfig ∧
        storedSettings t = storedSettings s.storage ∧
        storedIdentity t = storedIdentity s.storage := by
  have hprinted : printedSince s.node (n.commandResult accepted code now) =
      [n.commandResultText accepted code now] := by
    simp [printedSince, Node.commandResult, hlines]
  have hsettings : (n.commandResult accepted code now).microphoneRuntimeConfig =
      n.microphoneRuntimeConfig := by
    simp [Node.commandResult]
  have htype := isAnswer_commandResultText n accepted code now
  constructor
  · rintro ⟨hacknowledged, hrejected⟩
    rw [hprinted] at hacknowledged hrejected
    cases accepted with
    | true => simpa [hsettings] using hacknowledged _ (by simp) htype.1
    | false => simpa [hsettings] using hrejected _ (by simp) htype.2
  · intro h
    constructor
    · rw [hprinted, hsettings]
      rintro line hline hca
      rw [List.mem_singleton.mp hline, htype.1] at hca
      simpa [hca] using h
    · rw [hprinted, hsettings]
      rintro line hline hce
      rw [List.mem_singleton.mp hline, htype.2] at hce
      cases accepted with
      | true => cases hce
      | false => simpa using h

/-- After a report. -/
theorem matches_reportProvisioningState (transactionId code : Text) :
    AcknowledgementMatches s ⟨t, n.reportProvisioningState transactionId code⟩ ↔
      storedSettings t = some n.microphoneRuntimeConfig := by
  have hprinted : printedSince s.node (n.reportProvisioningState transactionId code) =
      [n.provisioningStateText transactionId code] := by
    simp [printedSince, Node.reportProvisioningState, hlines]
  have hsettings : (n.reportProvisioningState transactionId code).microphoneRuntimeConfig =
      n.microphoneRuntimeConfig := by
    simp [Node.reportProvisioningState]
  have htype := isAnswer_provisioningStateText n transactionId code
  constructor
  · rintro ⟨hacknowledged, -⟩
    rw [hprinted, hsettings] at hacknowledged
    exact hacknowledged _ (by simp) htype.1
  · intro h
    constructor
    · rw [hsettings]
      exact fun _ _ _ => h
    · rw [hprinted]
      rintro line hline hce
      rw [List.mem_singleton.mp hline, htype.2] at hce
      cases hce

end Matches

/-! ## Configuration commands -/

/-- The `CFG`, `CFGSET` and `PROV` commands, as the dispatcher reads them. -/
def isConfigurationCommand (text : Text) : Bool :=
  let command := Text.toUpperAscii (Text.trim text)
  "CFG ".toList.isPrefixOf command || "CFGSET ".toList.isPrefixOf command ||
    "PROV ".toList.isPrefixOf command

/-- The actions of the configuration commands. -/
def Action.changes : Action → Bool
  | .reject _ | .restore | .field _ | .configure _ _ | .provision _ _ _ => true
  | .readback _ | .readRuntime | .other _ => false

theorem changes_provisionAction {n : Node} {command : Text} {action : Action}
    (h : provisionAction n command = some action) (hget : isProvget command = false) :
    action.changes = true := by
  unfold provisionAction at h
  rw [hget] at h
  repeat' split at h
  all_goals cases h
  all_goals first | rfl | contradiction

theorem changes_configurationAction {n : Node} {command : Text} {action : Action}
    (h : configurationAction n command = some action) : action.changes = true := by
  unfold configurationAction at h
  repeat' split at h
  all_goals cases h
  all_goals rfl

theorem changes_fieldAction {n : Node} {command : Text} {action : Action}
    (h : fieldAction n command = some action) : action.changes = true := by
  unfold fieldAction at h
  repeat' split at h
  all_goals cases h
  all_goals rfl

/-- A handler leaves a command it is not asked for. -/
theorem provisionAction_isSome {n : Node} {command : Text}
    (h : "PROV ".toList.isPrefixOf command = true) : (provisionAction n command).isSome = true := by
  unfold provisionAction
  simp only [h, Bool.not_true, Bool.false_and, Bool.false_eq_true, if_false]
  repeat' split
  all_goals rfl

theorem configurationAction_isSome {n : Node} {command : Text}
    (h : "CFGSET ".toList.isPrefixOf command = true) :
    (configurationAction n command).isSome = true := by
  unfold configurationAction
  simp only [h, Bool.not_true, Bool.false_eq_true, if_false]
  repeat' split
  all_goals rfl

theorem fieldAction_isSome {n : Node} {command : Text}
    (h : "CFG ".toList.isPrefixOf command = true) : (fieldAction n command).isSome = true := by
  unfold fieldAction
  simp only [h, Bool.not_true, Bool.false_eq_true, if_false]
  repeat' split
  all_goals rfl

/-- A configuration command is rejected or changes something. -/
theorem changes_commandAction {text : Text} (h : isConfigurationCommand text = true) (n : Node)
    (now : UInt32) : (commandAction n text now).changes = true := by
  unfold isConfigurationCommand at h
  unfold commandAction
  dsimp only at h ⊢
  split
  · rfl
  generalize Text.toUpperAscii (Text.trim text) = command at h ⊢
  simp only [Bool.or_eq_true] at h
  have hget : isProvget command = false := by
    rw [Bool.eq_false_iff]
    intro hprovget
    rcases h with (hword | hword) | hword <;>
      exact absurd (isPrefixOf_of_isPrefixOf hprovget hword) (by decide)
  split
  · rfl
  cases hprovision : provisionAction n command with
  | some action => exact changes_provisionAction hprovision hget
  | none =>
    cases hconfiguration : configurationAction n command with
    | some action => exact changes_configurationAction hconfiguration
    | none =>
      have hcfg : "CFG ".toList.isPrefixOf command = true := by
        rcases h with (hword | hword) | hword
        · exact hword
        · have := configurationAction_isSome (n := n) hword
          simp [hconfiguration] at this
        · have := provisionAction_isSome (n := n) hword
          simp [hprovision] at this
      dsimp only
      split
      · rename_i hvibration
        rcases hvibration with rfl | rfl <;> exact absurd hcfg (by decide)
      split
      · rename_i hget
        subst hget
        exact absurd hcfg (by decide)
      cases hfield : fieldAction n command with
      | some action => exact changes_fieldAction hfield
      | none =>
        have := fieldAction_isSome (n := n) hcfg
        simp [hfield] at this

/-! ## When an acknowledgement is lost -/

/-- The command breaks the agreement: it restores the defaults, which are not stored; or it updates
a field and cannot store it; or it repeats a provisioning while other settings run than are stored;
or it provisions, stores the new configuration and then fails to store both copies of the
identity. -/
def AcknowledgementLost (s : NodeState) (text : Text) (now : UInt32) (ω : ℕ → CleanFault) : Prop :=
  match commandAction s.node text now with
  | .restore => storedSettings s.storage ≠ some MICROPHONE_CHANNEL_CONFIG
  | .field updated =>
    ω 2 ≠ .none ∧ updated.microphoneRuntimeConfig ≠ s.node.microphoneRuntimeConfig
  | .provision _ nodeId tokens =>
    match storedIdentity s.storage, stagedConfiguration tokens with
    | some identity, _ =>
      identity.nodeId = nodeId ∧ storedSettings s.storage ≠ some s.node.microphoneRuntimeConfig
    | none, none => False
    | none, some staged =>
      ω 4 = .none ∧
        ((ω 8 ≠ .none ∧ storedSettings s.storage ≠ some (Node.loadedChannelConfig staged)) ∨
          (ω 8 = .none ∧ ω 10 ≠ .none))
  | _ => False

section Steps

variable {s : NodeState} (h : NodeInvariant CleanStorage s)
include h

/-- Sound storage takes a configuration write, and has an identity or none. -/
theorem cleanStorage_open : (∃ g, nextConfigurationGeneration s.storage = some g) ∧
    ((identityStore s.storage).load = .empty ∨ ∃ identity, storedIdentity s.storage = some identity) := by
  have hsound := not_or.mp h.storage.sound
  have hstores := h.storage.storage.stores
  refine ⟨hstores.configuration.exists_next hsound.1, ?_⟩
  rcases hstores.identity.load_cases with ⟨-, hl⟩ | ⟨-, hl⟩ | ⟨id, g, r, -, -, hl⟩
  · exact Or.inl hl
  · exact absurd hl hsound.2
  · exact Or.inr ⟨_, storedIdentity_of_found hl⟩

/-- The invariant over storage whose writes may fail in any way. -/
theorem NodeInvariant.weaken : NodeInvariant StorageInvariant s :=
  ⟨h.storage.storage, h.idle, h.inRange, h.identified, h.active⟩

/-- A field update. -/
theorem matches_field {field value : Text} {updated : Node}
    (hupdated : s.node.updatedField field value = some updated) (now : UInt32)
    (ω : ℕ → CleanFault) :
    let after := (updated.storeField now).run failing s.storage ω
    AcknowledgementMatches s ⟨after.state, after.value⟩ ↔
      ¬ (ω 2 ≠ .none ∧ updated.microphoneRuntimeConfig ≠ s.node.microphoneRuntimeConfig) := by
  obtain ⟨hr, c, interval, hshape⟩ := updatedField_inRange hupdated h.inRange
  have hlines : updated.serialLines = s.node.serialLines := by rw [hshape]
  have hinv : NodeInvariant StorageInvariant ⟨s.storage, updated⟩ := by
    rw [hshape] at hr ⊢
    exact h.weaken.of_settings hr interval
  obtain ⟨⟨g, hnext⟩, -⟩ := cleanStorage_open h
  have hcases := storeField_cases (ω := ω) hinv hnext now
  dsimp only at hcases ⊢
  generalize (updated.storeField now).run failing s.storage ω = after at hcases ⊢
  obtain ⟨n, t, rest⟩ := after
  cases hω : ω 2 with
  | failed status =>
    rw [hω] at hcases
    obtain ⟨rfl, rfl⟩ := hcases
    dsimp only
    rw [matches_commandResult hlines]
    simp
  | none =>
    rw [hω] at hcases
    obtain ⟨rfl, rfl⟩ := hcases
    dsimp only
    rw [matches_commandResult hlines]
    simp [storedSettings_configured h.storage.storage.stores.configuration hnext hr]

/-- A configuration transaction. -/
theorem matches_configure (transactionId : Text) (tokens : SettingTokens) (now : UInt32)
    (ω : ℕ → CleanFault) :
    let after := (s.node.commitConfiguration transactionId tokens now).run failing s.storage ω
    AcknowledgementMatches s ⟨after.state, after.value⟩ := by
  obtain ⟨⟨g, hnext⟩, -⟩ := cleanStorage_open h
  have hreject : ∀ {after : Outcome Nvm CleanFault Node} {code : Text},
      after.value = s.node.commandResult false code now ∧ after.state = s.storage →
        AcknowledgementMatches s ⟨after.state, after.value⟩ := by
    rintro ⟨n, t, rest⟩ code ⟨rfl, rfl⟩
    exact (matches_commandResult rfl false code now).mpr (by simp)
  cases hidentity : storedIdentity s.storage with
  | none => exact hreject (commitConfiguration_unassigned hidentity tokens transactionId now)
  | some identity =>
    cases hstaged : stagedConfiguration tokens with
    | none => exact hreject (commitConfiguration_invalid hidentity hstaged transactionId now)
    | some staged =>
      have hr := settingsInRange_staged hstaged
      have hcases := commitConfiguration_cases (ω := ω) hnext hidentity hstaged transactionId now
      dsimp only at hcases ⊢
      cases hω : ω 4 with
      | failed status =>
        rw [hω] at hcases
        exact hreject hcases
      | none =>
        rw [hω] at hcases
        generalize (s.node.commitConfiguration transactionId tokens now).run failing s.storage ω =
          after at hcases ⊢
        obtain ⟨n, t, rest⟩ := after
        obtain ⟨rfl, rfl⟩ := hcases
        have hlines : (s.node.adoptConfiguration (sealConfiguration staged g)).serialLines =
          s.node.serialLines := rfl
        dsimp only
        rw [matches_reportProvisioningState hlines,
          storedSettings_configured h.storage.storage.stores.configuration hnext hr,
          adopted_eq_loaded (v := sealConfiguration staged g) hr]
        rfl

/-- A provisioning. -/
theorem matches_provision (transactionId : Text) {nodeId : Text} (hid : validNodeId nodeId = true)
    (tokens : SettingTokens) (now : UInt32) (ω : ℕ → CleanFault) :
    let after := (s.node.commitProvision transactionId nodeId tokens now).run failing s.storage ω
    AcknowledgementMatches s ⟨after.state, after.value⟩ ↔
      ¬ match storedIdentity s.storage, stagedConfiguration tokens with
        | some identity, _ =>
          identity.nodeId = nodeId ∧ storedSettings s.storage ≠ some s.node.microphoneRuntimeConfig
        | none, none => False
        | none, some staged =>
          ω 4 = .none ∧
            ((ω 8 ≠ .none ∧ storedSettings s.storage ≠ some (Node.loadedChannelConfig staged)) ∨
              (ω 8 = .none ∧ ω 10 ≠ .none)) := by
  obtain ⟨⟨g, hnext⟩, hidentity⟩ := cleanStorage_open h
  rcases hidentity with hl | ⟨identity, hidentity⟩
  · have hnone := storedIdentity_of_empty hl
    cases hstaged : stagedConfiguration tokens with
    | none =>
      have hcases := commitProvision_invalid (ω := ω) hl hstaged transactionId nodeId now
      dsimp only at hcases ⊢
      rw [hcases.1, hcases.2, hnone, matches_commandResult rfl]
      simp
    | some staged =>
      have hr := settingsInRange_staged hstaged
      have hconfigured :=
        storedSettings_configured h.storage.storage.stores.configuration hnext hr
      have hunassigned : storedIdentity (configured s.storage staged g) = none := by
        rw [storedIdentity_congr (identityStore_configured ..), hnone]
      have hcases := commitProvision_cases (ω := ω) hnext hl hid hstaged transactionId now
      dsimp only at hcases ⊢
      rw [hnone]
      dsimp only
      cases hC : ω 4 with
      | failed status =>
        rw [hC] at hcases
        rw [hcases.1, hcases.2, matches_commandResult rfl]
        simp
      | none =>
        cases hA : ω 8 with
        | failed status =>
          rw [hC, hA] at hcases
          rw [hcases.1, hcases.2, matches_commandResult rfl, hconfigured, hunassigned]
          simp [hnone, eq_comm]
        | none =>
          cases hB : ω 10 with
          | failed status =>
            rw [hC, hA, hB] at hcases
            have hl' : (identityStore (configured s.storage staged g)).load = .empty := by
              rw [identityStore_configured, hl]
            rw [hcases.1, hcases.2, matches_commandResult rfl,
              storedIdentity_of_found (load_firstIdentified hl' hid)]
            simp [hnone]
          | none =>
            rw [hC, hA, hB] at hcases
            have hlines : (provisioned s.node nodeId staged g).serialLines = s.node.serialLines :=
              rfl
            rw [hcases.1, hcases.2, matches_reportProvisioningState hlines,
              storedSettings_congr (configurationStore_identified ..), hconfigured, provisioned,
              adopted_eq_loaded (v := sealConfiguration staged g) hr]
            have hseal : Node.loadedChannelConfig (sealConfiguration staged g) =
              Node.loadedChannelConfig staged := rfl
            simp [hseal]
  · have hcases := commitProvision_identified failing_faithful hidentity transactionId nodeId tokens
      now ω
    dsimp only at hcases ⊢
    rw [hcases.1, hidentity]
    dsimp only
    by_cases hsame : identity.nodeId = nodeId
    · rw [if_pos hsame] at hcases
      obtain ⟨-, status, -, hvalue⟩ := hcases
      have hlines : (reidentified s.node identity status).serialLines = s.node.serialLines := rfl
      rw [hvalue, matches_reportProvisioningState hlines, reidentified]
      simp [hsame]
    · rw [if_neg hsame] at hcases
      rw [hcases.2, matches_commandResult rfl]
      simp [hsame]

/-- **When one acknowledgement matches the state.**
SOURCE: xiao_mg24_sensor_node.ino:235-402 -/
theorem acknowledgementMatches_iff {text : Text} (hcommand : isConfigurationCommand text = true)
    (now : UInt32) (ω : ℕ → CleanFault) :
    AcknowledgementMatches s (s.handle failing text now ω) ↔ ¬ AcknowledgementLost s text now ω := by
  have hidle := ((h.handleCommand failing_guarantees text now ω).1).idle
  rw [NodeState.handle, afterCommands_eq hidle, handleCommand_eq]
  have hfrom := actionFrom_commandAction s.node text now
  have hchanges := changes_commandAction hcommand s.node now
  unfold AcknowledgementLost
  generalize commandAction s.node text now = action at hfrom hchanges ⊢
  cases hfrom with
  | reject code =>
    refine (matches_commandResult (s := s) (t := s.storage) rfl false code now).trans ?_
    simp
  | restore =>
    refine (matches_commandResult (s := s) (t := s.storage) (n := { s.node with
      microphoneRuntimeConfig := MICROPHONE_CHANNEL_CONFIG
      sampleIntervalMs := MICROPHONE_CHANNEL_CONFIG.reportIntervalMs }) rfl true _ now).trans ?_
    simp
  | field hupdated => exact matches_field h hupdated now ω
  | configure transactionId tokens _ =>
    exact iff_of_true (matches_configure h transactionId tokens now ω) not_false
  | provision transactionId tokens hid => exact matches_provision h transactionId hid tokens now ω
  | readback transactionId => cases hchanges
  | readRuntime => cases hchanges
  | unchanged => cases hchanges
  | other command now => cases hchanges

end Steps

/-! ## Runs -/

/-- **When the acknowledgements of a run match the state.**  In a run of commands, reboots and
power cuts over writes that work or have no effect and report a failure, every configuration
command answered `ca` leaves the running settings equal to the stored ones and every one answered
`ce` leaves settings and identity as they were, if and only if no command of the run loses its
acknowledgement.
SOURCE: xiao_mg24_sensor_node.ino:235-461 -/
theorem acknowledgements_match_iff (events : List (NodeEvent CleanFault)) :
    (∀ before text now ω later, events = before ++ .command text now ω :: later →
        isConfigurationCommand text = true →
        AcknowledgementMatches (nodeAfter failing before)
          ((nodeAfter failing before).handle failing text now ω)) ↔
      ∀ before text now ω later, events = before ++ .command text now ω :: later →
        isConfigurationCommand text = true →
        ¬ AcknowledgementLost (nodeAfter failing before) text now ω := by
  have hstep : ∀ before text now ω, isConfigurationCommand text = true →
      (AcknowledgementMatches (nodeAfter failing before)
        ((nodeAfter failing before).handle failing text now ω) ↔
          ¬ AcknowledgementLost (nodeAfter failing before) text now ω) :=
    fun before text now ω hcommand => acknowledgementMatches_iff
      (nodeInvariant_nodeAfter failing_guarantees cleanStorage_empty before) hcommand now ω
  constructor
  · intro hmatch before text now ω later hsplit hcommand
    exact (hstep before text now ω hcommand).mp (hmatch before text now ω later hsplit hcommand)
  · intro hkept before text now ω later hsplit hcommand
    exact (hstep before text now ω hcommand).mpr (hkept before text now ω later hsplit hcommand)

/-- A first provisioning, on a backend that works. -/
def firstProvisioning : NodeEvent CleanFault :=
  .command "PROV 1 TRANSACTION NODE-1 100 100 100 30000 2 2 1".toList 10 fun _ => .none

/-- A field update whose write fails. -/
def failedUpdate : Text := "CFG 1 MICROPHONE_RAW SAMPLE 500".toList

/-- It is answered `ce`, and the new sample interval runs all the same. -/
theorem not_acknowledgementMatches_failedUpdate :
    isConfigurationCommand failedUpdate = true ∧
      ¬ AcknowledgementMatches (nodeAfter failing [firstProvisioning])
        ((nodeAfter failing [firstProvisioning]).handle failing failedUpdate 20
          fun _ => .failed ⟨.writeFailed, by decide⟩) := by
  refine ⟨by decide, fun hmatch => ?_⟩
  have hunchanged := (hmatch.rejected
    "\x7b\"t\":\"ce\",\"v\":1,\"id\":\"NODE-1\",\"s\":0,\"ms\":20,\"code\":\"write_failed\"\x7d".toList
    (by decide +kernel) (by decide +kernel)).1
  exact absurd hunchanged (by decide +kernel)

end SeedMg24.Analysis
