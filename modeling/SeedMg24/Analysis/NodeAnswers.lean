import SeedMg24.Analysis.CommandAcknowledgement
import SeedMg24.Foundation.Json

/-!
# What a node notifies

On a backend that may do anything, a node handling a command notifies nothing or one answer: an
acknowledgement, or a rejection under its id and with one of its codes.  In every state of a run
`NamedBare` holds: the node's id is made of letters, digits and dashes.
-/

set_option autoImplicit false

namespace SeedMg24.Analysis

open Foundation Foundation.Json Foundation.TwoSlot Model

/-! ## Ids -/

theorem isBare_of_validNodeId {s : Text} (h : validNodeId s = true) : IsBare s := by
  intro c hc
  have hchar := nodeIdChar_of_mem (validNodeId_iff.mp h).2 c hc
  simp only [nodeIdChar, Bool.or_eq_true, Bool.and_eq_true, decide_eq_true_eq, beq_iff_eq] at hchar
  rw [isBare_iff]
  rcases hchar with (hupper | hdigit) | hdash
  · exact .inl hupper
  · exact .inr (.inr (.inl hdigit))
  · exact .inr (.inr (.inr (.inl hdash)))

/-- The id of a node's identity needs no escape. -/
def NamedBare (n : Node) : Prop := IsBare n.activeIdentity.nodeId

/-- The id such a node runs under. -/
theorem NamedBare.runtimeNodeId {n : Node} (h : NamedBare n) : IsBare n.runtimeNodeId := by
  unfold Node.runtimeNodeId
  split
  · exact h
  · decide +kernel

section Loads

variable {φ : Type} (E : Environment NvmAnswer Nvm φ) (nvm : Nvm)

/-- A slot that is read well holds a valid id. -/
theorem ensures_readIdentity_bare (key : UInt32) :
    Ensures E (fun _ => True) (readIdentity key) nvm fun slot _ =>
      slot.status = .ok → IsBare slot.value.nodeId := by
  unfold readIdentity
  refine Ensures.seq (Ensures.trivial (backendRead key kPersistentMaxRecord) nvm) ?_
  rintro (status | record) t -
  · exact Ensures.done trivial fun _ => by simp [IsBare]
  · exact Ensures.done trivial fun hok => isBare_of_validNodeId (parseIdentity_ok hok)

/-- Loading returns such an id, or what it was given. -/
theorem ensures_identityLoad_bare {out : NodeIdentity} (h : IsBare out.nodeId) :
    Ensures E (fun _ => True) (identityLoad out) nvm fun loaded _ => IsBare loaded.2.nodeId := by
  unfold identityLoad
  refine Ensures.seq (ensures_readIdentity_bare E nvm kIdentitySlotA) ?_
  intro a t ha
  refine Ensures.seq (ensures_readIdentity_bare E t kIdentitySlotB) ?_
  intro b t' hb
  refine Ensures.done trivial ?_
  unfold selectIdentity
  dsimp only
  split
  · split <;> exact h
  split
  · exact h
  rename_i hsome _
  have hvalue : IsBare (if b.status = .ok ∧ (¬ a.status = .ok ∨
      generationNewer b.value.generation a.value.generation = true) then b.value
        else a.value).nodeId := by
    by_cases hbok : b.status = .ok
    · split
      · exact hb hbok
      · rename_i hchoice
        exact ha (by tauto)
    · rw [if_neg (by tauto)]
      exact ha (by tauto)
  split
  · exact hvalue
  · generalize (if a.status = .ok then b.status else a.status) = other
    split <;> exact hvalue

/-- Provisioning returns the id it was asked to store, or what it was given. -/
theorem ensures_identityProvision_bare {id : Text} {out : NodeIdentity} (h : IsBare out.nodeId) :
    Ensures E (fun _ => True) (identityProvision id out) nvm fun stored _ =>
      IsBare stored.2.nodeId := by
  unfold identityProvision
  split
  · exact Ensures.done trivial h
  refine Ensures.seq (Ensures.trivial (identityLoad {}) nvm) ?_
  rintro ⟨old, loaded⟩ t -
  dsimp only
  split
  · exact Ensures.done trivial h
  split
  · exact Ensures.done trivial h
  refine Ensures.seq (Ensures.trivial (writeIdentity kIdentitySlotA id 1 false) t) ?_
  rintro (status | first) t -
  · exact Ensures.done trivial h
  have hwrite : Ensures E (fun _ => True) (writeIdentity kIdentitySlotB id 2 true) t
      fun (result : Except StoreStatus NodeIdentity) _ =>
        ∀ verify, result = .ok verify → IsBare verify.nodeId := by
    unfold writeIdentity
    split
    · exact Ensures.done trivial (by simp)
    refine Ensures.seq (Ensures.trivial (backendWrite kIdentitySlotB _) t) ?_
    rintro status t -
    split
    · exact Ensures.done trivial (by simp)
    refine Ensures.seq (ensures_readIdentity_bare E t kIdentitySlotB) ?_
    intro verify t hverify
    split
    · exact Ensures.done trivial (by simp)
    · rename_i hread
      refine Ensures.done trivial ?_
      rintro _ ⟨⟩
      exact hverify (by tauto)
  refine Ensures.seq hwrite ?_
  rintro (status | verify) t hverify
  · exact Ensures.done trivial h
  · exact Ensures.done trivial (hverify verify rfl)

end Loads

/-! ## Answers -/

/-- What a node sends in answer to a command. -/
inductive NodeAnswer : Text → Prop
  /-- an acknowledgement or a report -/
  | acknowledges {text : Text} (h : isAnswer "ca" text = true) : NodeAnswer text
  | rejects {n : Node} {code : Text} (hid : IsBare n.runtimeNodeId) (hcode : IsBare code)
      (now : UInt32) : NodeAnswer (n.commandResultText false code now)

/-- After a command: nothing or one answer is notified, and the id needs no escape. -/
structure Answers (n after : Node) : Prop where
  named : NamedBare after
  notified : after.notifications = n.notifications ∨
    ∃ text, NodeAnswer text ∧ after.notifications = n.notifications ++ [text]

theorem Answers.refl {n : Node} (h : NamedBare n) : Answers n n := ⟨h, .inl rfl⟩

/-- One answer. -/
theorem answers_answer {n m : Node} {text : Text} (hnamed : NamedBare m)
    (hnotifications : m.notifications = n.notifications) (htext : NodeAnswer text) :
    Answers n (m.answer text) := by
  refine ⟨by simpa [NamedBare] using hnamed, ?_⟩
  unfold Node.answer Node.bleSendPayload
  dsimp only
  split
  · split
    · exact .inl hnotifications
    split
    · exact .inr ⟨text, htext, by simp [hnotifications]⟩
    · exact .inl hnotifications
  · exact .inl hnotifications

theorem answers_commandResult {n m : Node} (hnamed : NamedBare m)
    (hnotifications : m.notifications = n.notifications) (accepted : Bool) {code : Text}
    (hcode : IsBare code) (now : UInt32) : Answers n (m.commandResult accepted code now) := by
  refine answers_answer hnamed hnotifications ?_
  cases accepted with
  | true => exact .acknowledges (isAnswer_commandResultText m true code now).1
  | false => exact .rejects hnamed.runtimeNodeId hcode now

theorem answers_reportProvisioningState {n m : Node} (hnamed : NamedBare m)
    (hnotifications : m.notifications = n.notifications) (transactionId code : Text) :
    Answers n (m.reportProvisioningState transactionId code) :=
  answers_answer hnamed hnotifications
    (.acknowledges (isAnswer_provisioningStateText m transactionId code).1)

/-! ## Codes -/

/-- What the handlers report besides the status of a store.
SOURCE: xiao_mg24_sensor_node.ino:235-461 -/
def resultCodes : List String := [
  "persistent_operation_busy", "invalid_provisioning_header", "invalid_format", "invalid_node_id",
  "identity_already_provisioned", "invalid_configuration", "bootstrap_only",
  "invalid_configuration_header", "identity_unassigned", "unsupported_version", "unknown_channel",
  "restored", "invalid_or_unsafe_setting", "applied_persistent", "usb_only_command",
  "invalid_led_value", "invalid_rate", "unknown_command"]

/-- A code that the handlers pass to `command_result`. -/
inductive ResultCode : Text → Prop
  | named {code : String} (h : code ∈ resultCodes) : ResultCode code.toList
  | status (status : StoreStatus) : ResultCode (storeStatusName status)

theorem isBare_storeStatusName (status : StoreStatus) : IsBare (storeStatusName status) := by
  cases status <;> decide +kernel

theorem ResultCode.isBare {code : Text} (h : ResultCode code) : IsBare code := by
  cases h with
  | named h =>
    have hall : ∀ code ∈ resultCodes, IsBare code.toList := by decide +kernel
    exact hall _ h
  | status status => exact isBare_storeStatusName status

theorem resultCode_of_provisionAction {n : Node} {command code : Text}
    (h : provisionAction n command = some (.reject code)) : ResultCode code := by
  unfold provisionAction at h
  repeat' split at h
  all_goals cases h
  all_goals exact .named (by simp [resultCodes])

theorem resultCode_of_configurationAction {n : Node} {command code : Text}
    (h : configurationAction n command = some (.reject code)) : ResultCode code := by
  unfold configurationAction at h
  repeat' split at h
  all_goals cases h
  all_goals exact .named (by simp [resultCodes])

theorem resultCode_of_fieldAction {n : Node} {command code : Text}
    (h : fieldAction n command = some (.reject code)) : ResultCode code := by
  unfold fieldAction at h
  repeat' split at h
  all_goals cases h
  all_goals exact .named (by simp [resultCodes])

/-- The code of a command that is rejected at once. -/
theorem resultCode_of_commandAction {n : Node} {command code : Text} {now : UInt32}
    (h : commandAction n command now = .reject code) : ResultCode code := by
  unfold commandAction at h
  dsimp only at h
  split at h
  · cases h
    exact .named (by simp [resultCodes])
  split at h
  · cases h
    exact .named (by simp [resultCodes])
  split at h
  · rename_i haction
    exact resultCode_of_provisionAction (h ▸ haction)
  split at h
  · rename_i haction
    exact resultCode_of_configurationAction (h ▸ haction)
  split at h
  · cases h
  split at h
  · cases h
  split at h
  · rename_i haction
    exact resultCode_of_fieldAction (h ▸ haction)
  · cases h

/-! ## Commands -/

/-- An answer with one of the codes above. -/
theorem answers_code {n m : Node} (hnamed : NamedBare m)
    (hnotifications : m.notifications = n.notifications) (accepted : Bool) {code : String}
    (hcode : code ∈ resultCodes) (now : UInt32) :
    Answers n (m.commandResult accepted code.toList now) :=
  answers_commandResult hnamed hnotifications accepted (ResultCode.named hcode).isBare now

/-- A field update changes nothing but settings. -/
theorem updatedField_frame {n updated : Node} {field value : Text}
    (h : n.updatedField field value = some updated) : ∃ c interval, updated =
      { n with microphoneRuntimeConfig := c, sampleIntervalMs := interval } := by
  unfold Node.updatedField at h
  dsimp only at h
  repeat' split at h
  all_goals cases h
  all_goals exact ⟨_, _, rfl⟩

section Commands

variable {φ : Type} (E : Environment NvmAnswer Nvm φ) (nvm : Nvm)

theorem answers_handleOtherCommand {n : Node} (h : NamedBare n) (command : Text) (now : UInt32) :
    Answers n (n.handleOtherCommand command now) := by
  unfold Node.handleOtherCommand
  repeat' split
  all_goals first
    | exact ⟨h, .inl rfl⟩
    | exact answers_code h rfl false (by simp [resultCodes]) now

theorem ensures_storeField_answers {n m : Node} (hnamed : NamedBare m)
    (hnotifications : m.notifications = n.notifications) (now : UInt32) :
    Ensures E (fun _ => True) (m.storeField now) nvm fun after _ => Answers n after := by
  unfold Node.storeField
  refine Ensures.seq (Ensures.trivial (configurationWrite m.currentStoredConfiguration {}) nvm) ?_
  rintro ⟨stored, verified⟩ t -
  refine Ensures.done trivial (answers_commandResult hnamed hnotifications _ ?_ now)
  split
  · exact (ResultCode.named (by simp [resultCodes])).isBare
  · exact isBare_storeStatusName stored

theorem ensures_commitConfiguration_answers {n : Node} (h : NamedBare n) (transactionId : Text)
    (tokens : SettingTokens) (now : UInt32) :
    Ensures E (fun _ => True) (n.commitConfiguration transactionId tokens now) nvm
      fun after _ => Answers n after := by
  unfold Node.commitConfiguration
  refine Ensures.seq (Ensures.trivial (identityLoad {}) nvm) ?_
  rintro ⟨existingStatus, existing⟩ t -
  dsimp only
  split
  · exact Ensures.done trivial (answers_code h rfl false (by simp [resultCodes]) now)
  cases stagedConfiguration tokens with
  | none => exact Ensures.done trivial (answers_code h rfl false (by simp [resultCodes]) now)
  | some staged =>
    refine Ensures.seq (Ensures.trivial (configurationWrite staged {}) t) ?_
    rintro ⟨stored, verified⟩ t -
    dsimp only
    split
    · exact Ensures.done trivial
        (answers_commandResult h rfl false (isBare_storeStatusName stored) now)
    · have hadopted : NamedBare (n.adoptConfiguration verified) := h
      exact Ensures.done trivial
        (answers_reportProvisioningState (n := n) hadopted rfl transactionId "configured".toList)

theorem ensures_commitProvision_answers {n : Node} (h : NamedBare n) (transactionId nodeId : Text)
    (tokens : SettingTokens) (now : UInt32) :
    Ensures E (fun _ => True) (n.commitProvision transactionId nodeId tokens now) nvm
      fun after _ => Answers n after := by
  have hnone : IsBare (({} : NodeIdentity).nodeId) := by simp [IsBare]
  unfold Node.commitProvision
  refine Ensures.seq (ensures_identityLoad_bare E nvm hnone) ?_
  rintro ⟨existingStatus, existing⟩ t hexisting
  dsimp only at hexisting ⊢
  split
  · split
    · have hnamed : NamedBare { n with
          activeIdentity := existing, identityStoreStatus := existingStatus } := hexisting
      exact Ensures.done trivial
        (answers_reportProvisioningState (n := n) hnamed rfl transactionId "already_committed".toList)
    · exact Ensures.done trivial (answers_code h rfl false (by simp [resultCodes]) now)
  split
  · exact Ensures.done trivial
      (answers_commandResult h rfl false (isBare_storeStatusName existingStatus) now)
  cases stagedConfiguration tokens with
  | none => exact Ensures.done trivial (answers_code h rfl false (by simp [resultCodes]) now)
  | some staged =>
    refine Ensures.seq (Ensures.trivial (configurationWrite staged {}) t) ?_
    rintro ⟨stored, verified⟩ t -
    dsimp only
    split
    · exact Ensures.done trivial
        (answers_commandResult h rfl false (isBare_storeStatusName stored) now)
    refine Ensures.seq (ensures_identityProvision_bare E t hnone) ?_
    rintro ⟨stored', provisioned⟩ t hprovisioned
    dsimp only at hprovisioned ⊢
    split
    · exact Ensures.done trivial
        (answers_commandResult h rfl false (isBare_storeStatusName stored') now)
    · have hnamed : NamedBare (Node.adoptConfiguration { n with
          activeIdentity := provisioned, identityStoreStatus := .ok, bootstrapOnly := false }
          verified) := hprovisioned
      exact Ensures.done trivial
        (answers_reportProvisioningState (n := n) hnamed rfl transactionId "provisioned".toList)

/-- **Every command is answered once at most**, whatever the backend does.
SOURCE: xiao_mg24_sensor_node.ino:177-461 -/
theorem ensures_handleCommand_answers {n : Node} (h : NamedBare n) (command : Text)
    (now : UInt32) :
    Ensures E (fun _ => True) (n.handleCommand command now) nvm fun after _ => Answers n after := by
  rw [handleCommand_eq]
  have hfrom := actionFrom_commandAction n command now
  cases haction : commandAction n command now with
  | reject code =>
    exact Ensures.done trivial
      (answers_commandResult h rfl false (resultCode_of_commandAction haction).isBare now)
  | readback transactionId =>
    exact Ensures.done trivial (answers_reportProvisioningState h rfl transactionId _)
  | readRuntime =>
    exact Ensures.done trivial (answers_answer h rfl (.acknowledges rfl))
  | restore =>
    have hrestored : NamedBare { n with
        microphoneRuntimeConfig := MICROPHONE_CHANNEL_CONFIG
        sampleIntervalMs := MICROPHONE_CHANNEL_CONFIG.reportIntervalMs } := h
    exact Ensures.done trivial
      (answers_code (n := n) hrestored rfl true (show "restored" ∈ resultCodes by
        simp [resultCodes]) now)
  | field updated =>
    rw [haction] at hfrom
    cases hfrom with
    | field hupdated =>
      obtain ⟨c, interval, hframe⟩ := updatedField_frame hupdated
      have hnamed : NamedBare updated := by
        rw [hframe]
        exact h
      exact ensures_storeField_answers E nvm hnamed (by rw [hframe]) now
  | configure transactionId tokens =>
    exact ensures_commitConfiguration_answers E nvm h transactionId tokens now
  | provision transactionId nodeId tokens =>
    exact ensures_commitProvision_answers E nvm h transactionId nodeId tokens now
  | other after =>
    rw [haction] at hfrom
    cases hfrom with
    | unchanged => exact Ensures.done trivial (.refl h)
    | other command now => exact Ensures.done trivial (answers_handleOtherCommand h command now)

end Commands

/-! ## Runs -/

/-- A boot gives such a name. -/
theorem namedBare_booted (nvm : Nvm) : NamedBare (booted nvm).node := by
  have hsetup : Ensures healthy (fun _ => True) (Node.setup .ok) nvm fun n _ => NamedBare n := by
    unfold Node.setup
    rw [if_neg (by simp)]
    refine Ensures.seq (Ensures.trivial (FactoryResetController.recoverOnBoot {}) nvm) ?_
    rintro ⟨resetStatus, recoveryPending, controller⟩ t -
    have hnone : IsBare (({} : NodeIdentity).nodeId) := by simp [IsBare]
    refine Ensures.seq (ensures_identityLoad_bare healthy t hnone) ?_
    rintro ⟨identityStatus, identity⟩ t hidentity
    refine Ensures.seq (Ensures.trivial (configurationLoad {}) t) ?_
    rintro ⟨configurationStatus, stored⟩ t -
    dsimp only at hidentity ⊢
    split
    · refine Ensures.seq (Ensures.trivial (controller.completeRecoveryOnBoot _) t) ?_
      rintro ⟨status, controller⟩ t -
      exact Ensures.done trivial hidentity
    · exact Ensures.done trivial hidentity
  exact (hsetup fun _ => ()).1

section Runs

variable {φ : Type} (E : Environment NvmAnswer Nvm φ)

/-- Every event keeps it. -/
theorem namedBare_after {s : NodeState} (h : NamedBare s.node) (event : NodeEvent φ) :
    NamedBare (event.after E s).node := by
  cases event with
  | command text now faults =>
    have hnamed := (ensures_handleCommand_answers E s.storage h text now faults).1.named
    unfold NodeEvent.after NodeState.handle Node.afterCommands
    dsimp only
    split <;> exact hnamed
  | powerCut text now faults operations => exact namedBare_booted _
  | reboot => exact namedBare_booted _
  | surroundings telemetrySequence bleConnected bleNotifyEnabled => exact h

/-- **The name of a node in any run.** -/
theorem namedBare_nodeAfter (events : List (NodeEvent φ)) : NamedBare (nodeAfter E events).node := by
  induction events using List.reverseRecOn with
  | nil => exact namedBare_booted _
  | append_singleton events event ih =>
    rw [nodeAfter_append]
    exact namedBare_after E ih event

end Runs

end SeedMg24.Analysis
