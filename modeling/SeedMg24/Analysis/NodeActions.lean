import SeedMg24.Model.Commands
import SeedMg24.Analysis.StoreHistories

/-!
# What a command makes the node do

`commandAction` reads a command off as one of a few actions, most of which touch neither the
settings nor the storage; `handleCommand_eq` says that running the command is running its action.
The results about runs of commands go by cases on the action.
-/

set_option autoImplicit false

namespace SeedMg24.Analysis

open Foundation Foundation.TwoSlot Model

/-- What a command makes the node do. -/
inductive Action where
  /-- answer with an error -/
  | reject (code : Text)
  /-- report the running settings under a transaction id -/
  | readback (transactionId : Text)
  /-- report the running settings -/
  | readRuntime
  /-- go back to the default settings -/
  | restore
  /-- take over and store the settings of `updated` -/
  | field (updated : Node)
  /-- store and take over a configuration -/
  | configure (transactionId : Text) (tokens : SettingTokens)
  /-- store a configuration and an identity, and take them over -/
  | provision (transactionId nodeId : Text) (tokens : SettingTokens)
  /-- anything that needs no storage -/
  | other (after : Node)

/-- Carrying out an action. -/
def Action.program (n : Node) (now : UInt32) : Action → NvmProgram Node
  | .reject code => return n.commandResult false code now
  | .readback transactionId => return n.reportProvisioningState transactionId "readback".toList
  | .readRuntime => return n.reportRuntimeConfiguration now
  | .restore => return n.restoreDefaults now
  | .field updated => updated.storeField now
  | .configure transactionId tokens => n.commitConfiguration transactionId tokens now
  | .provision transactionId nodeId tokens => n.commitProvision transactionId nodeId tokens now
  | .other after => return after

/-- What the provisioning handler does, if it takes the command. -/
def provisionAction (n : Node) (command : Text) : Option Action :=
  if n.factoryResetController.busy then some (.reject "persistent_operation_busy".toList)
  else if !"PROV ".toList.isPrefixOf command && !isProvget command then none
  else match provisionHeader command with
    | none => some (.reject "invalid_provisioning_header".toList)
    | some (transactionId, offset) =>
      if isProvget command then
        if offset > command.length then some (.readback transactionId)
        else some (.reject "invalid_format".toList)
      else match provisionBody command offset with
        | none => some (.reject "invalid_format".toList)
        | some (nodeId, tokens) =>
          if !validNodeId nodeId then some (.reject "invalid_node_id".toList)
          else some (.provision transactionId nodeId tokens)

/-- What the configuration handler does, if it takes the command. -/
def configurationAction (n : Node) (command : Text) : Option Action :=
  if n.factoryResetController.busy || n.bootstrapOnly then
    some (.reject "bootstrap_only".toList)
  else if !"CFGSET ".toList.isPrefixOf command then none
  else match configurationHeader command with
    | none => some (.reject "invalid_configuration_header".toList)
    | some (transactionId, tokens) => some (.configure transactionId tokens)

/-- What the field handler does, if it takes the command. -/
def fieldAction (n : Node) (command : Text) : Option Action :=
  if !"CFG ".toList.isPrefixOf command then none
  else match configFields command with
    | none => some (.reject "invalid_format".toList)
    | some ⟨version, channel, field, value⟩ =>
      if version ≠ "1".toList then some (.reject "unsupported_version".toList)
      else if channel ≠ "MICROPHONE_RAW".toList then some (.reject "unknown_channel".toList)
      else if field = "RESTORE".toList ∧ value.length = 0 then some .restore
      else match n.updatedField field value with
        | none => some (.reject "invalid_or_unsafe_setting".toList)
        | some updated => some (.field updated)

/-- What a command makes the node do. -/
def commandAction (n : Node) (command : Text) (now : UInt32) : Action :=
  let command := Text.trim command
  if kBootstrapPrefix.isPrefixOf command then .reject "usb_only_command".toList
  else
    let command := Text.toUpperAscii command
    if n.bootstrapOnly && !"PROV ".toList.isPrefixOf command &&
        !"PROVGET ".toList.isPrefixOf command then
      .reject "bootstrap_only".toList
    else match provisionAction n command with
      | some action => action
      | none => match configurationAction n command with
        | some action => action
        | none =>
          if command = "VIBRATION STATUS".toList ∨ command = "VIBRATION_STATUS".toList then .other n
          else if command = "CFGGET 1 MICROPHONE_RAW".toList then .readRuntime
          else match fieldAction n command with
            | some action => action
            | none => .other (n.handleOtherCommand command now)

/-- A handler that carries out an action, if it takes the command. -/
def handledBy (n : Node) (now : UInt32) : Option Action → NvmProgram (Bool × Node)
  | none => return (false, n)
  | some action => do return (true, ← action.program n now)

theorem handleProvisionCommand_eq (n : Node) (command : Text) (now : UInt32) :
    n.handleProvisionCommand command now = handledBy n now (provisionAction n command) := by
  unfold Node.handleProvisionCommand provisionAction
  split
  · rfl
  split
  · rfl
  cases provisionHeader command with
  | none => rfl
  | some header =>
    obtain ⟨transactionId, offset⟩ := header
    dsimp only
    split
    · split <;> rfl
    · cases provisionBody command offset with
      | none => rfl
      | some body =>
        dsimp only
        split <;> rfl

theorem handleConfigurationTransaction_eq (n : Node) (command : Text) (now : UInt32) :
    n.handleConfigurationTransaction command now =
      handledBy n now (configurationAction n command) := by
  unfold Node.handleConfigurationTransaction configurationAction
  split
  · rfl
  split
  · rfl
  cases configurationHeader command <;> rfl

theorem handleConfigCommand_eq (n : Node) (command : Text) (now : UInt32) :
    n.handleConfigCommand command now = handledBy n now (fieldAction n command) := by
  unfold Node.handleConfigCommand fieldAction
  split
  · rfl
  cases configFields command with
  | none => rfl
  | some fields =>
    obtain ⟨version, channel, field, value⟩ := fields
    dsimp only
    split
    · rfl
    split
    · rfl
    split
    · rfl
    cases n.updatedField field value <;> rfl

/-- **Running a command is running its action.** -/
theorem handleCommand_eq (n : Node) (command : Text) (now : UInt32) :
    n.handleCommand command now = (commandAction n command now).program n now := by
  unfold Node.handleCommand commandAction
  dsimp only
  generalize Text.trim command = command
  split
  · rfl
  generalize Text.toUpperAscii command = command
  split
  · rfl
  rw [handleProvisionCommand_eq]
  cases provisionAction n command with
  | some action =>
    simp only [handledBy, Program.bind_assoc', Program.pure_eq_done, Program.done_bind, if_true]
    exact Program.bind_done _
  | none =>
    simp only [handledBy, Program.pure_eq_done, Program.done_bind, Bool.false_eq_true, if_false]
    rw [handleConfigurationTransaction_eq]
    cases configurationAction n command with
    | some action =>
      simp only [handledBy, Program.bind_assoc', Program.pure_eq_done, Program.done_bind, if_true]
      exact Program.bind_done _
    | none =>
      simp only [handledBy, Program.pure_eq_done, Program.done_bind, Bool.false_eq_true, if_false]
      split
      · rfl
      split
      · rfl
      rw [handleConfigCommand_eq]
      cases fieldAction n command with
      | some action =>
        simp only [handledBy, Program.bind_assoc', Program.pure_eq_done, Program.done_bind,
          if_true]
        exact Program.bind_done _
      | none => rfl

/-- Of two words a text starts with, one starts with the other. -/
theorem isPrefixOf_of_isPrefixOf {a b text : Text} (ha : a.isPrefixOf text = true)
    (hb : b.isPrefixOf text = true) : a.isPrefixOf b = true ∨ b.isPrefixOf a = true := by
  rw [List.isPrefixOf_iff_prefix] at ha hb
  simp only [List.isPrefixOf_iff_prefix]
  exact List.prefix_or_prefix_of_prefix ha hb

/-! ## Which actions there are -/

/-- The actions a node can be made to take, with what their command passed. -/
inductive ActionFrom (n : Node) : Action → Prop
  | reject (code : Text) : ActionFrom n (.reject code)
  | readback (transactionId : Text) : ActionFrom n (.readback transactionId)
  | readRuntime : ActionFrom n .readRuntime
  | restore : ActionFrom n .restore
  | field {field value : Text} {updated : Node} (h : n.updatedField field value = some updated) :
      ActionFrom n (.field updated)
  | configure (transactionId : Text) (tokens : SettingTokens) (h : n.bootstrapOnly = false) :
      ActionFrom n (.configure transactionId tokens)
  | provision (transactionId : Text) {nodeId : Text} (tokens : SettingTokens)
      (h : validNodeId nodeId = true) : ActionFrom n (.provision transactionId nodeId tokens)
  | unchanged : ActionFrom n (.other n)
  | other (command : Text) (now : UInt32) : ActionFrom n (.other (n.handleOtherCommand command now))

theorem actionFrom_provisionAction {n : Node} {command : Text} {action : Action}
    (h : provisionAction n command = some action) : ActionFrom n action := by
  unfold provisionAction at h
  split at h
  · cases h
    exact .reject _
  split at h
  · cases h
  split at h
  · cases h
    exact .reject _
  split at h
  · split at h <;> cases h
    · exact .readback _
    · exact .reject _
  split at h
  · cases h
    exact .reject _
  · split at h
    · cases h
      exact .reject _
    · rename_i hid
      cases h
      exact .provision _ _ (by simpa using hid)

theorem actionFrom_configurationAction {n : Node} {command : Text} {action : Action}
    (h : configurationAction n command = some action) : ActionFrom n action := by
  unfold configurationAction at h
  split at h
  · cases h
    exact .reject _
  rename_i hopen
  split at h
  · cases h
  split at h
  · cases h
    exact .reject _
  · cases h
    exact .configure _ _ (by
      simp only [Bool.or_eq_true, not_or, Bool.not_eq_true] at hopen
      exact hopen.2)

theorem actionFrom_fieldAction {n : Node} {command : Text} {action : Action}
    (h : fieldAction n command = some action) : ActionFrom n action := by
  unfold fieldAction at h
  split at h
  · cases h
  split at h
  · cases h
    exact .reject _
  split at h
  · cases h
    exact .reject _
  split at h
  · cases h
    exact .reject _
  split at h
  · cases h
    exact .restore
  split at h
  · cases h
    exact .reject _
  · rename_i hupdated
    cases h
    exact .field hupdated

/-- **Every command is one of the actions.** -/
theorem actionFrom_commandAction (n : Node) (command : Text) (now : UInt32) :
    ActionFrom n (commandAction n command now) := by
  unfold commandAction
  dsimp only
  split
  · exact .reject _
  split
  · exact .reject _
  split
  · rename_i h
    exact actionFrom_provisionAction h
  split
  · rename_i h
    exact actionFrom_configurationAction h
  split
  · exact .unchanged
  split
  · exact .readRuntime
  split
  · rename_i h
    exact actionFrom_fieldAction h
  · exact .other _ _

end SeedMg24.Analysis
