import SeedMg24.Analysis.NodeRuns

/-!
# What the committing commands do

Over writes that work, or have no effect and report a failure: the run of a configuration write and
of a provisioning, by the faults their backend writes meet, and the runs of the three handlers that
make them.  The writes of a provisioning command are its calls 4, 8 and 10 on the backend: the
configuration, and the two copies of the identity.
-/

set_option autoImplicit false

namespace SeedMg24.Analysis

open Foundation Foundation.TwoSlot Model

/-! ## Store calls -/

/-- A store that is not corrupt takes another write. -/
theorem SlotInvariant.exists_next {nvm : Nvm} (hinv : SlotInvariant nvm)
    (hne : (configurationStore nvm).load ≠ .corrupt) :
    ∃ g, nextConfigurationGeneration nvm = some g :=
  hinv.coherent.exists_nextGeneration hne

/-- The storage after a configuration write that works. -/
def configured (nvm : Nvm) (input : StoredChannelConfiguration) (g : UInt32) : Nvm :=
  nvm.put (configurationTarget g) (some (configurationRecord input g))

/-- What a configuration write stored is what a boot loads. -/
theorem storedSettings_configured {nvm : Nvm} (hinv : SlotInvariant nvm) {g : UInt32}
    (hnext : nextConfigurationGeneration nvm = some g) {input : StoredChannelConfiguration}
    (hr : settingsInRange input = true) :
    storedSettings (configured nvm input g) = some (Node.loadedChannelConfig input) := by
  obtain ⟨r, hload⟩ := hinv.coherent.load_after_write (v := sealConfiguration input g) hnext
  have hfound : (configurationStore (configured nvm input g)).load =
      .found g (sealConfiguration input g) r := by
    rw [configured, configurationStore_put, configSlotOf_record hr]
    exact hload
  rw [storedSettings_of_found hfound]
  rfl

/-- A configuration write leaves the identity alone. -/
theorem identityStore_configured (nvm : Nvm) (input : StoredChannelConfiguration) (g : UInt32) :
    identityStore (configured nvm input g) = identityStore nvm := by
  rw [configured, configurationTarget_eq]
  split <;> exact identityStore_put_of_ne (by decide) (by decide)

/-- The storage after the first identity write of a provisioning. -/
def firstIdentified (nvm : Nvm) (id : Text) : Nvm :=
  nvm.put kIdentitySlotA (some (identityRecord id 1))

/-- The storage after a provisioning. -/
def identified (nvm : Nvm) (id : Text) : Nvm :=
  (firstIdentified nvm id).put kIdentitySlotB (some (identityRecord id 2))

/-- The first copy already is the identity. -/
theorem load_firstIdentified {nvm : Nvm} (hl : (identityStore nvm).load = .empty) {id : Text}
    (hid : validNodeId id = true) :
    (identityStore (firstIdentified nvm id)).load = .found 1 (sealIdentity id 1) false := by
  have hAB : kIdentitySlotA ≠ kIdentitySlotB := by decide
  have hB := (identityStore_empty_iff.mp hl).2
  have habsent : SlotIdentity.toSlot (identitySlotOf none) = .absent := rfl
  simp [identityStore, Store.load, firstIdentified, Nvm.put_of_ne hAB.symm, hB,
    toSlot_identityRecord hid, habsent]

/-- Both copies are the identity. -/
theorem load_identified (nvm : Nvm) {id : Text} (hid : validNodeId id = true) :
    (identityStore (identified nvm id)).load = .found 2 (sealIdentity id 2) false := by
  have hAB : kIdentitySlotA ≠ kIdentitySlotB := by decide
  have hnewer : GenerationOrder.newer (2 : UInt32) 1 = true := by decide
  simp [identityStore, Store.load, identified, firstIdentified, Nvm.put_of_ne hAB,
    toSlot_identityRecord hid, hnewer]

/-- Identity writes leave the configuration alone. -/
theorem configurationStore_firstIdentified (nvm : Nvm) (id : Text) :
    configurationStore (firstIdentified nvm id) = configurationStore nvm :=
  configurationStore_put_of_ne (by decide) (by decide)

theorem configurationStore_identified (nvm : Nvm) (id : Text) :
    configurationStore (identified nvm id) = configurationStore nvm :=
  (configurationStore_put_of_ne (by decide) (by decide)).trans
    (configurationStore_firstIdentified nvm id)

section StoreCalls

variable {nvm : Nvm} {ω : ℕ → CleanFault}

/-- A configuration write whose backend write works. -/
theorem configurationWrite_works {g : UInt32} (hnext : nextConfigurationGeneration nvm = some g)
    {input : StoredChannelConfiguration} (hr : settingsInRange input = true)
    (verified : StoredChannelConfiguration) (hω : ω 2 = .none) :
    (configurationWrite input verified).run failing nvm ω =
      ⟨(.ok, sealConfiguration input g), configured nvm input g, fun i => ω (i + 4)⟩ := by
  have hstep : failing.step nvm (.write (configurationTarget g) (configurationRecord input g))
    .none = (.ok, configured nvm input g) := rfl
  have hrun := run_configurationWrite failing_faithful hnext hr verified ω
  dsimp only at hrun
  rw [hrun, hω, hstep]
  simp [configurationReadback, configured, configSlotOf_record hr]

/-- A configuration write whose backend write fails. -/
theorem configurationWrite_fails {g : UInt32} (hnext : nextConfigurationGeneration nvm = some g)
    {input : StoredChannelConfiguration} (hr : settingsInRange input = true)
    (verified : StoredChannelConfiguration) {status : { status : StoreStatus // status ≠ .ok }}
    (hω : ω 2 = .failed status) :
    (configurationWrite input verified).run failing nvm ω =
      ⟨(status, verified), nvm, fun i => ω (i + 3)⟩ := by
  have hstep : failing.step nvm (.write (configurationTarget g) (configurationRecord input g))
    (.failed status) = (status.val, nvm) := rfl
  have hrun := run_configurationWrite failing_faithful hnext hr verified ω
  dsimp only at hrun
  rw [hrun, hω, hstep]
  simp [configurationReadback, status.property]

/-- An identity write whose backend write works. -/
theorem writeIdentity_works {id : Text} (hid : validNodeId id = true) (key g : UInt32)
    (checkGeneration : Bool) (hω : ω 0 = .none) :
    (writeIdentity key id g checkGeneration).run failing nvm ω =
      ⟨.ok (sealIdentity id g), nvm.put key (some (identityRecord id g)), fun i => ω (i + 2)⟩ := by
  have hstep : failing.step nvm (.write key (identityRecord id g)) .none =
    (.ok, nvm.put key (some (identityRecord id g))) := rfl
  have hrun := run_writeIdentity failing_faithful hid nvm key g checkGeneration ω
  dsimp only at hrun
  rw [hrun, hω, hstep]
  dsimp only
  rw [identityReadback_record (Nvm.put_same ..) hid, if_pos rfl]

/-- An identity write whose backend write fails. -/
theorem writeIdentity_fails {id : Text} (hid : validNodeId id = true) (key g : UInt32)
    (checkGeneration : Bool) {status : { status : StoreStatus // status ≠ .ok }}
    (hω : ω 0 = .failed status) :
    (writeIdentity key id g checkGeneration).run failing nvm ω =
      ⟨.error status, nvm, fun i => ω (i + 1)⟩ := by
  have hstep : failing.step nvm (.write key (identityRecord id g)) (.failed status) =
    (status.val, nvm) := rfl
  have hrun := run_writeIdentity failing_faithful hid nvm key g checkGeneration ω
  dsimp only at hrun
  rw [hrun, hω, hstep]
  simp [identityReadback, status.property]

/-- **A provisioning of an empty store**, by the faults of its two writes. -/
theorem identityProvision_cases {id : Text} (hid : validNodeId id = true)
    (hl : (identityStore nvm).load = .empty) (out : NodeIdentity) :
    let after := (identityProvision id out).run failing nvm ω
    match ω 2, ω 4 with
    | .failed status, _ => after.value = (status.val, out) ∧ after.state = nvm
    | .none, .failed status =>
      after.value = (status.val, out) ∧ after.state = firstIdentified nvm id
    | .none, .none => after.value = (.ok, sealIdentity id 2) ∧ after.state = identified nvm id := by
  have hrun := run_identityProvision failing_faithful hid hl out ω
  dsimp only at hrun ⊢
  rw [hrun]
  cases hA : ω 2 with
  | failed status =>
    rw [writeIdentity_fails hid _ _ _ (show (fun i => ω (i + 2)) 0 = .failed status from hA)]
    exact ⟨rfl, rfl⟩
  | none =>
    rw [writeIdentity_works hid _ _ _ (show (fun i => ω (i + 2)) 0 = .none from hA)]
    dsimp only
    cases hB : ω 4 with
    | failed status =>
      rw [writeIdentity_fails hid _ _ _ (show (fun i => ω (i + 2 + 2)) 0 = .failed status from hB)]
      exact ⟨rfl, rfl⟩
    | none =>
      rw [writeIdentity_works hid _ _ _ (show (fun i => ω (i + 2 + 2)) 0 = .none from hB)]
      exact ⟨rfl, rfl⟩

end StoreCalls

/-! ## Handlers -/

/-- Loading a stored identity. -/
theorem storedIdentityOr_of_some {nvm : Nvm} {identity : NodeIdentity}
    (h : storedIdentity nvm = some identity) (out : NodeIdentity) :
    ∃ status, (status = .ok ∨ status = .recoveredFromPrevious) ∧
      storedIdentityOr nvm out = (status, identity) := by
  rw [storedIdentity, identityLoadedFrom_eq] at h
  rw [storedIdentityOr_eq]
  cases hl : (identityStore nvm).load with
  | found g v r =>
    rw [hl] at h
    cases r
    · exact ⟨.ok, Or.inl rfl, by cases h; rfl⟩
    · exact ⟨.recoveredFromPrevious, Or.inr rfl, by cases h; rfl⟩
  | _ => rw [hl] at h; cases h

/-- Loading when no identity is stored. -/
theorem storedIdentityOr_of_none {nvm : Nvm} (h : storedIdentity nvm = none) (out : NodeIdentity) :
    (storedIdentityOr nvm out).1 ≠ .ok ∧ (storedIdentityOr nvm out).1 ≠ .recoveredFromPrevious := by
  rw [storedIdentity, identityLoadedFrom_eq] at h
  rw [storedIdentityOr_eq]
  cases hl : (identityStore nvm).load with
  | found g v r => rw [hl] at h; cases r <;> cases h
  | _ => exact ⟨by simp [loadedIdentity], by simp [loadedIdentity]⟩

/-- What a committed provisioning makes of a node. -/
def provisioned (n : Node) (nodeId : Text) (staged : StoredChannelConfiguration) (g : UInt32) :
    Node :=
  Node.adoptConfiguration { n with
    activeIdentity := sealIdentity nodeId 2, identityStoreStatus := .ok, bootstrapOnly := false }
    (sealConfiguration staged g)

/-- What a repeated provisioning makes of a node. -/
def reidentified (n : Node) (identity : NodeIdentity) (status : StoreStatus) : Node :=
  { n with activeIdentity := identity, identityStoreStatus := status }

section Handlers

variable {s : NodeState} {ω : ℕ → CleanFault}

/-- **A field update**, by the fault of its write. -/
theorem storeField_cases (h : NodeInvariant StorageInvariant s) {g : UInt32} (hnext : nextConfigurationGeneration s.storage = some g)
    (now : UInt32) :
    let after := (s.node.storeField now).run failing s.storage ω
    match ω 2 with
    | .failed status =>
      after.value = s.node.commandResult false (storeStatusName status.val) now ∧
        after.state = s.storage
    | .none =>
      after.value = s.node.commandResult true "applied_persistent".toList now ∧
        after.state = configured s.storage (storedOf s.node.microphoneRuntimeConfig) g := by
  dsimp only
  rw [Node.storeField, Program.run_bind, currentStoredConfiguration_eq]
  cases hω : ω 2 with
  | failed status =>
    rw [configurationWrite_fails hnext h.inRange _ hω]
    simp [status.property]
  | none =>
    rw [configurationWrite_works hnext h.inRange _ hω]
    simp

/-- A configuration transaction of a node without an identity. -/
theorem commitConfiguration_unassigned (hidentity : storedIdentity s.storage = none)
    (tokens : SettingTokens) (transactionId : Text) (now : UInt32) :
    let after := (s.node.commitConfiguration transactionId tokens now).run failing s.storage ω
    after.value = s.node.commandResult false "identity_unassigned".toList now ∧
      after.state = s.storage := by
  have hstatus := storedIdentityOr_of_none hidentity {}
  dsimp only
  rw [Node.commitConfiguration, Program.run_bind, run_identityLoad failing_faithful]
  generalize storedIdentityOr s.storage {} = loaded at hstatus ⊢
  obtain ⟨status, identity⟩ := loaded
  dsimp only at hstatus ⊢
  rw [if_pos hstatus]
  exact ⟨rfl, rfl⟩

/-- A configuration transaction with a setting out of its bounds. -/
theorem commitConfiguration_invalid {identity : NodeIdentity}
    (hidentity : storedIdentity s.storage = some identity) {tokens : SettingTokens}
    (hstaged : stagedConfiguration tokens = none) (transactionId : Text) (now : UInt32) :
    let after := (s.node.commitConfiguration transactionId tokens now).run failing s.storage ω
    after.value = s.node.commandResult false "invalid_configuration".toList now ∧
      after.state = s.storage := by
  obtain ⟨status, hstatus, hloaded⟩ := storedIdentityOr_of_some hidentity {}
  dsimp only
  rw [Node.commitConfiguration, Program.run_bind, run_identityLoad failing_faithful, hloaded]
  dsimp only
  rw [if_neg (by tauto), hstaged]
  exact ⟨rfl, rfl⟩

/-- **A configuration transaction** of a provisioned node, by the fault of its write. -/
theorem commitConfiguration_cases {g : UInt32}
    (hnext : nextConfigurationGeneration s.storage = some g) {identity : NodeIdentity}
    (hidentity : storedIdentity s.storage = some identity) {tokens : SettingTokens}
    {staged : StoredChannelConfiguration} (hstaged : stagedConfiguration tokens = some staged)
    (transactionId : Text) (now : UInt32) :
    let after := (s.node.commitConfiguration transactionId tokens now).run failing s.storage ω
    match ω 4 with
    | .failed status =>
      after.value = s.node.commandResult false (storeStatusName status.val) now ∧
        after.state = s.storage
    | .none =>
      after.value = (s.node.adoptConfiguration (sealConfiguration staged g)).reportProvisioningState
        transactionId "configured".toList ∧ after.state = configured s.storage staged g := by
  have hr := settingsInRange_staged hstaged
  obtain ⟨status, hstatus, hloaded⟩ := storedIdentityOr_of_some hidentity {}
  dsimp only
  rw [Node.commitConfiguration, Program.run_bind, run_identityLoad failing_faithful, hloaded]
  dsimp only
  rw [if_neg (by tauto), hstaged]
  dsimp only
  rw [Program.run_bind]
  cases hω : ω 4 with
  | failed status =>
    rw [configurationWrite_fails hnext hr _ (show Program.later (Program.later ω) 2 = _ from hω)]
    dsimp only
    rw [if_pos status.property]
    exact ⟨rfl, rfl⟩
  | none =>
    rw [configurationWrite_works hnext hr _ (show Program.later (Program.later ω) 2 = _ from hω)]
    exact ⟨rfl, rfl⟩

/-- A provisioning of a node that has an identity, whatever its writes would do. -/
theorem commitProvision_identified {φ : Type} {E : Environment NvmAnswer Nvm φ}
    (hE : FaithfulReads E) {identity : NodeIdentity}
    (hidentity : storedIdentity s.storage = some identity) (transactionId nodeId : Text)
    (tokens : SettingTokens) (now : UInt32) (ω : ℕ → φ) :
    let after := (s.node.commitProvision transactionId nodeId tokens now).run E s.storage ω
    after.state = s.storage ∧
      if identity.nodeId = nodeId then
        ∃ status, (status = .ok ∨ status = .recoveredFromPrevious) ∧
          after.value = (reidentified s.node identity status).reportProvisioningState transactionId
            "already_committed".toList
      else after.value = s.node.commandResult false "identity_already_provisioned".toList now := by
  obtain ⟨status, hstatus, hloaded⟩ := storedIdentityOr_of_some hidentity {}
  dsimp only
  rw [Node.commitProvision, Program.run_bind, run_identityLoad hE, hloaded]
  dsimp only
  rw [if_pos hstatus]
  split
  · exact ⟨rfl, status, hstatus, rfl⟩
  · exact ⟨rfl, rfl⟩

/-- A provisioning of an unprovisioned node with a setting out of its bounds. -/
theorem commitProvision_invalid (hl : (identityStore s.storage).load = .empty)
    {tokens : SettingTokens} (hstaged : stagedConfiguration tokens = none)
    (transactionId nodeId : Text) (now : UInt32) :
    let after := (s.node.commitProvision transactionId nodeId tokens now).run failing s.storage ω
    after.value = s.node.commandResult false "invalid_configuration".toList now ∧
      after.state = s.storage := by
  dsimp only
  rw [Node.commitProvision, Program.run_bind, run_identityLoad failing_faithful,
    storedIdentityOr_eq, hl, hstaged]
  exact ⟨rfl, rfl⟩

/-- **A provisioning** of an unprovisioned node, by the faults of its three writes. -/
theorem commitProvision_cases {g : UInt32}
    (hnext : nextConfigurationGeneration s.storage = some g)
    (hl : (identityStore s.storage).load = .empty) {nodeId : Text}
    (hid : validNodeId nodeId = true) {tokens : SettingTokens} {staged : StoredChannelConfiguration}
    (hstaged : stagedConfiguration tokens = some staged) (transactionId : Text) (now : UInt32) :
    let after := (s.node.commitProvision transactionId nodeId tokens now).run failing s.storage ω
    match ω 4, ω 8, ω 10 with
    | .failed status, _, _ =>
      after.value = s.node.commandResult false (storeStatusName status.val) now ∧
        after.state = s.storage
    | .none, .failed status, _ =>
      after.value = s.node.commandResult false (storeStatusName status.val) now ∧
        after.state = configured s.storage staged g
    | .none, .none, .failed status =>
      after.value = s.node.commandResult false (storeStatusName status.val) now ∧
        after.state = firstIdentified (configured s.storage staged g) nodeId
    | .none, .none, .none =>
      after.value = (provisioned s.node nodeId staged g).reportProvisioningState transactionId
        "provisioned".toList ∧ after.state = identified (configured s.storage staged g) nodeId := by
  have hr := settingsInRange_staged hstaged
  have hl' : (identityStore (configured s.storage staged g)).load = .empty := by
    rw [identityStore_configured, hl]
  dsimp only
  rw [Node.commitProvision, Program.run_bind, run_identityLoad failing_faithful,
    storedIdentityOr_eq, hl, hstaged]
  simp only [loadedIdentity, reduceCtorEq, or_self, if_false, ne_eq, not_true_eq_false]
  rw [Program.run_bind]
  cases hω : ω 4 with
  | failed status =>
    rw [configurationWrite_fails hnext hr _ (show Program.later (Program.later ω) 2 = _ from hω)]
    dsimp only
    rw [if_pos status.property]
    exact ⟨rfl, rfl⟩
  | none =>
    rw [configurationWrite_works hnext hr _ (show Program.later (Program.later ω) 2 = _ from hω)]
    simp only [not_true_eq_false, if_false]
    rw [Program.run_bind]
    have hcases := identityProvision_cases
      (ω := fun i => Program.later (Program.later ω) (i + 4)) hid hl' {}
    dsimp only at hcases
    rw [show Program.later (Program.later ω) (2 + 4) = ω 8 from rfl,
      show Program.later (Program.later ω) (4 + 4) = ω 10 from rfl] at hcases
    generalize (identityProvision nodeId {}).run failing (configured s.storage staged g)
      (fun i => Program.later (Program.later ω) (i + 4)) = after at hcases ⊢
    obtain ⟨⟨stored, provisioned⟩, storage, rest⟩ := after
    cases hA : ω 8 with
    | failed status =>
      rw [hA] at hcases
      obtain ⟨hvalue, rfl⟩ := hcases
      cases hvalue
      simp only [status.property, not_false_eq_true, if_true]
      exact ⟨rfl, rfl⟩
    | none =>
      cases hB : ω 10 with
      | failed status =>
        rw [hA, hB] at hcases
        obtain ⟨hvalue, rfl⟩ := hcases
        cases hvalue
        simp only [status.property, not_false_eq_true, if_true]
        exact ⟨rfl, rfl⟩
      | none =>
        rw [hA, hB] at hcases
        obtain ⟨hvalue, rfl⟩ := hcases
        cases hvalue
        exact ⟨rfl, rfl⟩

end Handlers

end SeedMg24.Analysis
