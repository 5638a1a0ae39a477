import SeedMg24.Analysis.NodeSettings

/-!
# Runs of a node

A node runs by commands, reboots, power cuts and changes of its BLE link, over a backend whose
writes may complete, have no effect or tear.  `NodeInvariant` holds in every state of such a run
that starts with a boot over empty storage: the stores keep their invariants, no reset is under
way, the running settings are within the bounds of the store, and a node that left bootstrap mode
runs under the identity it stores.
-/

set_option autoImplicit false

namespace SeedMg24.Analysis

open Foundation Foundation.TwoSlot Model

/-! ## What is stored -/

/-- The settings a boot would load, if any are stored. -/
def storedSettings (nvm : Nvm) : Option ChannelConfig :=
  match loadedFrom nvm {} with
  | (.ok, value) => some (Node.loadedChannelConfig value)
  | (.recoveredFromPrevious, value) => some (Node.loadedChannelConfig value)
  | _ => none

/-- The identity a boot would load, if one is stored. -/
def storedIdentity (nvm : Nvm) : Option NodeIdentity :=
  match identityLoadedFrom nvm {} with
  | (.ok, value) => some value
  | (.recoveredFromPrevious, value) => some value
  | _ => none

theorem storedSettings_of_found {nvm : Nvm} {g : UInt32} {v : StoredChannelConfiguration} {r : Bool}
    (h : (configurationStore nvm).load = .found g v r) :
    storedSettings nvm = some (Node.loadedChannelConfig v) := by
  rw [storedSettings, loadedFrom_eq, h]
  cases r <;> rfl

theorem storedIdentity_of_found {nvm : Nvm} {g : UInt32} {v : NodeIdentity} {r : Bool}
    (h : (identityStore nvm).load = .found g v r) : storedIdentity nvm = some v := by
  rw [storedIdentity, identityLoadedFrom_eq, h]
  cases r <;> rfl

/-- What is stored only depends on the two stores. -/
theorem storedSettings_congr {nvm after : Nvm}
    (h : configurationStore after = configurationStore nvm) :
    storedSettings after = storedSettings nvm := by
  rw [storedSettings, storedSettings, loadedFrom_eq, loadedFrom_eq, h]

theorem storedIdentity_congr {nvm after : Nvm} (h : identityStore after = identityStore nvm) :
    storedIdentity after = storedIdentity nvm := by
  rw [storedIdentity, storedIdentity, identityLoadedFrom_eq, identityLoadedFrom_eq, h]

/-- Without a record there is no identity. -/
theorem storedIdentity_of_empty {nvm : Nvm} (h : (identityStore nvm).load = .empty) :
    storedIdentity nvm = none := by
  rw [storedIdentity, identityLoadedFrom_eq, h]
  rfl

/-! ## Boots -/

/-- The node a boot makes of storage without a reset marker. -/
def bootNode (nvm : Nvm) : Node :=
  let (identityStatus, identity) := identityLoadedFrom nvm {}
  let (configurationStatus, stored) := loadedFrom nvm {}
  { activeIdentity := identity
    identityStoreStatus := identityStatus
    configurationStoreStatus := configurationStatus
    microphoneRuntimeConfig :=
      if configurationStatus = .ok ∨ configurationStatus = .recoveredFromPrevious then
        Node.loadedChannelConfig stored
      else MICROPHONE_CHANNEL_CONFIG
    bootstrapOnly := Node.bootstrapNeeded .ok false identityStatus configurationStatus }

/-- A boot over storage without a reset marker only reads. -/
theorem run_setup {φ : Type} {E : Environment NvmAnswer Nvm φ} (hE : FaithfulReads E) {nvm : Nvm}
    (h : nvm kResetTransactionMarker = none) (ω : ℕ → φ) :
    (Node.setup .ok).run E nvm ω = ⟨bootNode nvm, nvm, fun i => ω (i + 5)⟩ := by
  have hread : ∀ f, E.step nvm (.read kResetTransactionMarker kPersistentMaxRecord) f =
      (.error .notFound, nvm) := by
    intro f
    rw [hE, Nvm.read, h]
  have hrecover : ∀ ω : ℕ → φ, (FactoryResetController.recoverOnBoot {}).run E nvm ω =
      ⟨(.ok, false, {}), nvm, Program.later ω⟩ := by
    intro ω
    simp only [FactoryResetController.recoverOnBoot, readMarker, backendRead,
      Program.perform_bind, Program.call_bind, Program.run_call, hread]
    rfl
  have hidentity : storedIdentityOr nvm {} = identityLoadedFrom nvm {} := by
    rw [storedIdentityOr_eq, identityLoadedFrom_eq]
  have hconfiguration : storedConfigurationOr nvm {} = loadedFrom nvm {} := by
    rw [storedConfigurationOr_eq, loadedFrom_eq]
  rw [Node.setup]
  simp only [ne_eq, not_true_eq_false, if_false, Program.run_bind, hrecover, run_identityLoad hE,
    run_configurationLoad hE, hidentity, hconfiguration, Bool.false_eq_true, false_and]
  rw [bootNode]
  generalize identityLoadedFrom nvm {} = identity
  generalize loadedFrom nvm {} = configuration
  rfl

/-! ## What the stores keep -/

/-- What every call on the stores keeps, cut or not. -/
structure StorageInvariant (nvm : Nvm) : Prop where
  stores : StoresInvariant nvm
  unmarked : nvm kResetTransactionMarker = none

theorem storageInvariant_empty : StorageInvariant Nvm.empty := ⟨storesInvariant_empty, rfl⟩

/-- A configuration write keeps the invariant and the identity, and what it returns with `ok` is
what the store then loads. -/
theorem ensures_configurationWrite {nvm : Nvm} (h : StorageInvariant nvm)
    (input verified : StoredChannelConfiguration) :
    Ensures tearing StorageInvariant (configurationWrite input verified) nvm fun result t =>
      StorageInvariant t ∧ identityStore t = identityStore nvm ∧
        (result.1 = .ok → settingsInRange input = true ∧ ∃ g r,
          result.2 = sealConfiguration input g ∧
            (configurationStore t).load = .found g (sealConfiguration input g) r) := by
  intro ω
  have hframe := fun key => configurationWrite_frame nvm input verified ω key
  have hrun : StorageInvariant ((configurationWrite input verified).run tearing nvm ω).state :=
    ⟨(h.stores.step ⟨.configure input verified, ω, none⟩).1,
      (hframe kResetTransactionMarker (by decide) (by decide)).trans h.unmarked⟩
  refine ⟨⟨hrun, ?_, fun hok => ?_⟩, fun n => ?_⟩
  · exact (h.stores.identity.congr (hframe kIdentitySlotA (by decide) (by decide))
      (hframe kIdentitySlotB (by decide) (by decide))).2
  · obtain ⟨g, hnext, hr, hvalue, hstate⟩ := h.stores.configuration.write_ok input verified ω hok
    obtain ⟨r, hload⟩ :=
      h.stores.configuration.coherent.load_after_write (v := sealConfiguration input g) hnext
    refine ⟨hr, g, r, hvalue, ?_⟩
    rw [hstate, configurationStore_put, configSlotOf_record hr]
    exact hload
  · change StorageInvariant (endState (configurationWrite input verified) nvm ω (some n))
    rcases endState_configurationWrite nvm input verified ω (some n) with ⟨-, hend⟩ | ⟨-, hend⟩
    · rw [hend]
      exact hrun
    · rw [hend]
      exact h

/-- An identity write never fails with the status of a success. -/
theorem writeIdentity_error {φ : Type} {E : Environment NvmAnswer Nvm φ} (hE : FaithfulReads E)
    {nvm : Nvm} {key g : UInt32} {id : Text} {checkGeneration : Bool} (hid : validNodeId id = true)
    {ω : ℕ → φ} {s : StoreStatus}
    (h : ((writeIdentity key id g checkGeneration).run E nvm ω).value = .error s) : s ≠ .ok := by
  rw [run_writeIdentity hE hid] at h
  unfold identityReadback at h
  split at h
  · cases h
    assumption
  · dsimp only at h
    split at h <;> cases h
    decide

/-- An identity write into an empty slot that is verified stored the identity. -/
theorem writeIdentity_ok {nvm : Nvm} {key g : UInt32} {id : Text} {checkGeneration : Bool}
    (hid : validNodeId id = true) (hempty : nvm key = none) {ω : ℕ → WriteFault} {v : NodeIdentity}
    (h : ((writeIdentity key id g checkGeneration).run tearing nvm ω).value = .ok v) :
    ((writeIdentity key id g checkGeneration).run tearing nvm ω).state =
        nvm.put key (some (identityRecord id g)) ∧ v = sealIdentity id g := by
  have hrun := run_writeIdentity tearing_faithful hid nvm key g checkGeneration ω
  dsimp only at hrun
  rw [hrun] at h ⊢
  cases hω : ω 0 with
  | completes status =>
    have hstep : tearing.step nvm (.write key (identityRecord id g)) (.completes status) =
      (status, nvm.put key (some (identityRecord id g))) := rfl
    rw [hω, hstep] at h
    by_cases hs : status = .ok
    · subst hs
      dsimp only at h
      rw [identityReadback_record (Nvm.put_same ..) hid] at h
      exact ⟨rfl, (Except.ok.inj h).symm⟩
    · simp [identityReadback, hs] at h
  | ignored status =>
    have hstep : tearing.step nvm (.write key (identityRecord id g)) (.ignored status) =
      (status, nvm) := rfl
    rw [hω, hstep] at h
    by_cases hs : status = .ok <;> simp [identityReadback, hs, hempty, identitySlotOf] at h
  | tears left status =>
    have hstep : tearing.step nvm (.write key (identityRecord id g)) (.tears left status) =
      (status, nvm.put key left.val) := rfl
    have hdebris : (identitySlotOf left.val).status ≠ .ok := by
      intro hok
      refine toSlot_debris_identity left (identitySlotOf left.val).value.generation
        (identitySlotOf left.val).value ?_
      rw [SlotIdentity.toSlot, if_pos hok]
    rw [hω, hstep] at h
    by_cases hs : status = .ok <;> simp [identityReadback, hs, hdebris] at h

/-- A provisioning keeps the invariant and the configuration, and what it returns with `ok` is what
the store then loads. -/
theorem ensures_identityProvision {nvm : Nvm} (h : StorageInvariant nvm)
    (hl : (identityStore nvm).load = .empty) {id : Text} (hid : validNodeId id = true)
    (out : NodeIdentity) :
    Ensures tearing StorageInvariant (identityProvision id out) nvm fun result t =>
      StorageInvariant t ∧ configurationStore t = configurationStore nvm ∧
        (result.1 = .ok → result.2 = sealIdentity id 2 ∧
          (identityStore t).load = .found 2 (sealIdentity id 2) false) := by
  intro ω
  have hAB : kIdentitySlotA ≠ kIdentitySlotB := by decide
  obtain ⟨hA, hB⟩ := identityStore_empty_iff.mp hl
  -- the storage a run or a cut leaves
  have hend : ∀ cut, StorageInvariant (endState (identityProvision id out) nvm ω cut) ∧
      configurationStore (endState (identityProvision id out) nvm ω cut) =
        configurationStore nvm := by
    intro cut
    have hstores := (h.stores.step ⟨.provision id out, ω, cut⟩).1
    rcases endState_identityProvision hid hl out ω cut with ⟨-, heff⟩ | ⟨-, hsame⟩
    · refine ⟨⟨hstores, ?_⟩, ?_⟩
      · exact (heff.frame kResetTransactionMarker (by decide) (by decide)).trans h.unmarked
      · exact (h.stores.configuration.congr
          (heff.frame kConfigurationSlotA (by decide) (by decide))
          (heff.frame kConfigurationSlotB (by decide) (by decide))).2
    · rw [hsame]
      exact ⟨h, rfl⟩
  refine ⟨⟨(hend none).1, (hend none).2, fun hok => ?_⟩, fun n => (hend (some n)).1⟩
  have hrun := run_identityProvision tearing_faithful hid hl out ω
  dsimp only at hrun
  rw [hrun] at hok ⊢
  cases hfirst : ((writeIdentity kIdentitySlotA id 1 false).run tearing nvm
      fun i => ω (i + 2)).value with
  | error s =>
    rw [hfirst] at hok
    exact absurd hok (writeIdentity_error tearing_faithful hid hfirst)
  | ok v =>
    rw [hfirst] at hok
    dsimp only at hok ⊢
    have hfirstState := (writeIdentity_ok hid hA hfirst).1
    rw [hfirstState] at hok ⊢
    generalize ((writeIdentity kIdentitySlotA id 1 false).run tearing nvm
      fun i => ω (i + 2)).rest = rest at hok ⊢
    have hB' : (nvm.put kIdentitySlotA (some (identityRecord id 1))) kIdentitySlotB = none := by
      rw [Nvm.put_of_ne hAB.symm, hB]
    cases hsecond : ((writeIdentity kIdentitySlotB id 2 true).run tearing
        (nvm.put kIdentitySlotA (some (identityRecord id 1))) rest).value with
    | error s =>
      rw [hsecond] at hok
      exact absurd hok (writeIdentity_error tearing_faithful hid hsecond)
    | ok verify =>
      obtain ⟨hstate, rfl⟩ := writeIdentity_ok hid hB' hsecond
      have hnewer : GenerationOrder.newer (2 : UInt32) 1 = true := by decide
      rw [hstate]
      refine ⟨rfl, ?_⟩
      simp [identityStore, Store.load, Nvm.put_of_ne hAB, toSlot_identityRecord hid, hnewer]

/-- What a backend makes of calls on the stores, when `C` holds of the storage before: `C` still
holds, and what a call returns with `ok` is what the store then loads. -/
structure StoreGuarantees {φ : Type} (E : Environment NvmAnswer Nvm φ) (C : Nvm → Prop) : Prop where
  faithful : FaithfulReads E
  invariant : ∀ {nvm}, C nvm → StorageInvariant nvm
  configuration : ∀ {nvm}, C nvm → ∀ input verified,
    Ensures E C (configurationWrite input verified) nvm fun result t =>
      C t ∧ identityStore t = identityStore nvm ∧
        (result.1 = .ok → settingsInRange input = true ∧ ∃ g r,
          result.2 = sealConfiguration input g ∧
            (configurationStore t).load = .found g (sealConfiguration input g) r)
  identity : ∀ {nvm}, C nvm → (identityStore nvm).load = .empty → ∀ {id},
    validNodeId id = true → ∀ out,
      Ensures E C (identityProvision id out) nvm fun result t =>
        C t ∧ configurationStore t = configurationStore nvm ∧
          (result.1 = .ok → result.2 = sealIdentity id 2 ∧
            (identityStore t).load = .found 2 (sealIdentity id 2) false)

/-- Writes that complete, have no effect or tear. -/
theorem tearing_guarantees : StoreGuarantees tearing StorageInvariant where
  faithful := tearing_faithful
  invariant := id
  configuration := ensures_configurationWrite
  identity := ensures_identityProvision

/-- A backend that only meets some of the faults gives the same guarantees. -/
theorem StoreGuarantees.restrict {φ ψ : Type} [Inhabited φ] {E : Environment NvmAnswer Nvm φ}
    {C : Nvm → Prop} (hE : StoreGuarantees E C) (g : NvmOp → ψ → φ) :
    StoreGuarantees (E.restrict g) C where
  faithful nvm key capacity f := hE.faithful nvm key capacity (g _ f)
  invariant := hE.invariant
  configuration h input verified := (hE.configuration h input verified).restrict g
  identity h hl _ hid out := (hE.identity h hl hid out).restrict g

/-- Storage whose first writes were never torn. -/
structure CleanStorage (nvm : Nvm) : Prop where
  storage : StorageInvariant nvm
  sound : ¬ Wedged nvm

theorem cleanStorage_empty : CleanStorage Nvm.empty :=
  ⟨storageInvariant_empty, by rintro (h | h) <;> cases h⟩

/-- What a write that fails without effect leaves is sound. -/
theorem CleanStorage.step {nvm : Nvm} (h : CleanStorage nvm) (call : StoreCall)
    (ω : ℕ → CleanFault) (cut : Option ℕ) :
    ¬ Wedged (StoreStep.after ⟨call, fun i => (ω i).toWriteFault, cut⟩ nvm) := by
  rw [(h.storage.stores.step _).2]
  rintro (hwedged | ⟨-, ⟨left, status, htears, -⟩, -⟩)
  · exact h.sound hwedged
  · dsimp only at htears
    cases hω : ω 2 <;> rw [hω] at htears <;> cases htears

/-- Writes that work, or have no effect and report a failure. -/
theorem failing_guarantees : StoreGuarantees failing CleanStorage where
  faithful := failing_faithful
  invariant h := h.storage
  configuration {nvm} h input verified ω := by
    obtain ⟨⟨hstorage, hkept⟩, hcut⟩ := ensures_configurationWrite h.storage input verified
      fun i => (ω i).toWriteFault
    have hsound := h.step (.configure input verified) ω
    have hcrash : ∀ n, (configurationWrite input verified).crash failing nvm ω n =
        (configurationWrite input verified).crash tearing nvm (fun i => (ω i).toWriteFault) n :=
      Program.crash_restrict tearing CleanFault.toWriteFault _ _ _
    have hwhole := hsound none
    rw [after_configure, endState] at hwhole
    rw [Program.run_restrict tearing CleanFault.toWriteFault] at hstorage hkept hwhole
    refine ⟨⟨⟨hstorage, hwhole⟩, hkept⟩, fun n => ?_⟩
    rw [hcrash]
    exact ⟨hcut n, hsound (some n)⟩
  identity {nvm} h hl id hid out ω := by
    obtain ⟨⟨hstorage, hkept⟩, hcut⟩ := ensures_identityProvision h.storage hl hid out
      fun i => (ω i).toWriteFault
    have hsound := h.step (.provision id out) ω
    have hcrash : ∀ n, (identityProvision id out).crash failing nvm ω n =
        (identityProvision id out).crash tearing nvm (fun i => (ω i).toWriteFault) n :=
      Program.crash_restrict tearing CleanFault.toWriteFault _ _ _
    have hwhole := hsound none
    rw [after_provision, endState] at hwhole
    rw [Program.run_restrict tearing CleanFault.toWriteFault] at hstorage hkept hwhole
    refine ⟨⟨⟨hstorage, hwhole⟩, hkept⟩, fun n => ?_⟩
    rw [hcrash]
    exact ⟨hcut n, hsound (some n)⟩

/-! ## Commands -/

section Loads

variable {φ α : Type} {E : Environment NvmAnswer Nvm φ} (hE : FaithfulReads E) {C : Nvm → Prop}
  {nvm : Nvm} {Q : α → Nvm → Prop}
include hE

/-- Loading the identity first ensures what the rest does. -/
theorem ensures_identityLoad_bind {out : NodeIdentity}
    {f : StoreStatus × NodeIdentity → NvmProgram α} (hC : C nvm)
    (h : Ensures E C (f (storedIdentityOr nvm out)) nvm Q) :
    Ensures E C (identityLoad out >>= f) nvm Q := by
  intro ω
  constructor
  · rw [Program.run_bind, run_identityLoad hE]
    exact (h _).1
  · intro n
    match n with
    | 0 => rwa [Program.crash_zero]
    | 1 =>
      rw [identityLoad, Program.bind_assoc', crash_readIdentity_bind hE, Program.crash_zero]
      exact hC
    | n + 2 =>
      rw [crash_identityLoad_bind hE]
      exact (h _).2 n

end Loads

/-- A node and its storage. -/
structure NodeState where
  storage : Nvm
  node : Node

/-- What holds of a node and its storage between its commands, when `C` holds of the storage. -/
structure NodeInvariant (C : Nvm → Prop) (s : NodeState) : Prop where
  storage : C s.storage
  idle : s.node.factoryResetController.busy = false
  inRange : settingsInRange (storedOf s.node.microphoneRuntimeConfig) = true
  identified : s.node.identityStoreStatus = .ok ∨
      s.node.identityStoreStatus = .recoveredFromPrevious →
    ∃ identity, storedIdentity s.storage = some identity ∧
      identity.nodeId = s.node.activeIdentity.nodeId
  active : s.node.bootstrapOnly = false → s.node.identityStoreStatus = .ok ∨
    s.node.identityStoreStatus = .recoveredFromPrevious

section Invariant

variable {C : Nvm → Prop}

/-- A change that touches none of what the invariant reads keeps it. -/
theorem NodeInvariant.congr {s t : NodeState} (h : NodeInvariant C s) (hstorage : t.storage = s.storage)
    (hcontroller : t.node.factoryResetController = s.node.factoryResetController)
    (hsettings : t.node.microphoneRuntimeConfig = s.node.microphoneRuntimeConfig)
    (hidentity : t.node.activeIdentity = s.node.activeIdentity)
    (hstatus : t.node.identityStoreStatus = s.node.identityStoreStatus)
    (hbootstrap : t.node.bootstrapOnly = s.node.bootstrapOnly) : NodeInvariant C t where
  storage := hstorage ▸ h.storage
  idle := hcontroller ▸ h.idle
  inRange := hsettings ▸ h.inRange
  identified := by
    rw [hstatus, hstorage, hidentity]
    exact h.identified
  active := by
    rw [hbootstrap, hstatus]
    exact h.active

/-- A command result keeps the invariant. -/
theorem NodeInvariant.commandResult {s : NodeState} (h : NodeInvariant C s) (accepted : Bool)
    (code : Text) (now : UInt32) :
    NodeInvariant C ⟨s.storage, s.node.commandResult accepted code now⟩ :=
  h.congr rfl (by simp [Node.commandResult]) (by simp [Node.commandResult])
    (by simp [Node.commandResult]) (by simp [Node.commandResult]) (by simp [Node.commandResult])

/-- A provisioning report keeps the invariant. -/
theorem NodeInvariant.reportProvisioningState {s : NodeState} (h : NodeInvariant C s)
    (transactionId code : Text) :
    NodeInvariant C ⟨s.storage, s.node.reportProvisioningState transactionId code⟩ :=
  h.congr rfl (by simp [Node.reportProvisioningState]) (by simp [Node.reportProvisioningState])
    (by simp [Node.reportProvisioningState]) (by simp [Node.reportProvisioningState])
    (by simp [Node.reportProvisioningState])

/-- Storage that keeps the identity keeps the invariant. -/
theorem NodeInvariant.of_storage {s : NodeState} (h : NodeInvariant C s) {t : Nvm}
    (hstorage : C t) (hidentity : identityStore t = identityStore s.storage) :
    NodeInvariant C ⟨t, s.node⟩ where
  storage := hstorage
  idle := h.idle
  inRange := h.inRange
  identified := by
    rw [storedIdentity_congr hidentity]
    exact h.identified
  active := h.active

/-- New settings within the bounds keep the invariant. -/
theorem NodeInvariant.of_settings {s : NodeState} (h : NodeInvariant C s) {c : ChannelConfig}
    (hr : settingsInRange (storedOf c) = true) (interval : UInt32) :
    NodeInvariant C ⟨s.storage,
      { s.node with microphoneRuntimeConfig := c, sampleIntervalMs := interval }⟩ where
  storage := h.storage
  idle := h.idle
  inRange := hr
  identified := h.identified
  active := h.active

/-- The default settings are within the bounds. -/
theorem settingsInRange_default : settingsInRange (storedOf MICROPHONE_CHANNEL_CONFIG) = true := by
  decide

/-- The commands that need no storage keep the invariant. -/
theorem NodeInvariant.handleOtherCommand {s : NodeState} (h : NodeInvariant C s) (command : Text)
    (now : UInt32) : NodeInvariant C ⟨s.storage, s.node.handleOtherCommand command now⟩ := by
  unfold Node.handleOtherCommand
  split
  · exact h.congr rfl rfl rfl rfl rfl rfl
  split
  · exact h.congr rfl rfl rfl rfl rfl rfl
  split
  · split
    · exact h.congr rfl rfl rfl rfl rfl rfl
    · exact h.commandResult ..
  split
  · split
    · rename_i value hvalue
      -- `RATE` has the bounds of the report interval
      have hbounds := parseBoundedUint_bounds hvalue
      have hr := (settingsInRange_storedOf _).mp h.inRange
      exact h.of_settings ((settingsInRange_storedOf _).mpr (by dsimp only; omega)) value
    · exact h.commandResult ..
  split
  · exact h.congr rfl rfl rfl rfl rfl rfl
  split
  · exact h.congr rfl rfl rfl rfl rfl rfl
  split
  · exact h.congr rfl rfl rfl rfl rfl rfl
  · exact h.commandResult ..

/-- Taking over a verified write keeps the invariant. -/
theorem NodeInvariant.adoptConfiguration {s : NodeState} (h : NodeInvariant C s)
    {v : StoredChannelConfiguration} (hr : settingsInRange v = true) :
    NodeInvariant C ⟨s.storage, s.node.adoptConfiguration v⟩ := by
  have hloaded := adopted_eq_loaded hr s.node
  have hsettings := h.of_settings (settingsInRange_loaded hr) v.reportIntervalMs
  refine hsettings.congr rfl rfl ?_ rfl rfl rfl
  exact hloaded

section Handlers

variable {φ : Type} {E : Environment NvmAnswer Nvm φ} (hE : StoreGuarantees E C)
include hE

/-- Storing an updated field keeps the invariant. -/
theorem NodeInvariant.storeField {s : NodeState} (h : NodeInvariant C s) (now : UInt32) :
    Ensures E C (s.node.storeField now) s.storage
      fun n t => NodeInvariant C ⟨t, n⟩ := by
  unfold Node.storeField
  refine Ensures.seq (hE.configuration h.storage _ _) ?_
  rintro result t ⟨ht, hidentity, -⟩
  exact Ensures.done ht ((h.of_storage ht hidentity).commandResult ..)

/-- A configuration transaction keeps the invariant. -/
theorem NodeInvariant.commitConfiguration {s : NodeState} (h : NodeInvariant C s)
    (transactionId : Text) (tokens : SettingTokens) (now : UInt32) :
    Ensures E C (s.node.commitConfiguration transactionId tokens now) s.storage
      fun n t => NodeInvariant C ⟨t, n⟩ := by
  unfold Node.commitConfiguration
  refine ensures_identityLoad_bind hE.faithful h.storage ?_
  dsimp only
  split
  · exact Ensures.done h.storage (h.commandResult ..)
  cases hstaged : stagedConfiguration tokens with
  | none => exact Ensures.done h.storage (h.commandResult ..)
  | some staged =>
    refine Ensures.seq (hE.configuration h.storage _ _) ?_
    rintro ⟨stored, verified⟩ t ⟨ht, hidentity, hok⟩
    have hkept := h.of_storage ht hidentity
    dsimp only at hok ⊢
    split
    · exact Ensures.done ht (hkept.commandResult ..)
    · rename_i hstored
      obtain ⟨hr, g, r, rfl, -⟩ := hok (not_not.mp hstored)
      exact Ensures.done ht
        ((hkept.adoptConfiguration (v := sealConfiguration staged g) hr).reportProvisioningState ..)

/-- A provisioning keeps the invariant. -/
theorem NodeInvariant.commitProvision {s : NodeState} (h : NodeInvariant C s) (transactionId : Text)
    {nodeId : Text} (hid : validNodeId nodeId = true) (tokens : SettingTokens) (now : UInt32) :
    Ensures E C (s.node.commitProvision transactionId nodeId tokens now)
      s.storage fun n t => NodeInvariant C ⟨t, n⟩ := by
  unfold Node.commitProvision
  refine ensures_identityLoad_bind hE.faithful h.storage ?_
  rw [storedIdentityOr_eq]
  rcases (hE.invariant h.storage).stores.identity.load_cases with
    ⟨-, hl⟩ | ⟨-, hl⟩ | ⟨id, g, r, hvalid, -, hl⟩
  · -- an empty store: the configuration is written, then the identity
    rw [hl]
    simp only [loadedIdentity, reduceCtorEq, or_self, if_false, ne_eq, not_true_eq_false]
    cases hstaged : stagedConfiguration tokens with
    | none => exact Ensures.done h.storage (h.commandResult ..)
    | some staged =>
      refine Ensures.seq (hE.configuration h.storage _ _) ?_
      rintro ⟨stored, verified⟩ t ⟨ht, hidentity, hok⟩
      have hkept := h.of_storage ht hidentity
      dsimp only at hok ⊢
      split
      · exact Ensures.done ht (hkept.commandResult ..)
      rename_i hstored
      obtain ⟨hr, g, r, rfl, -⟩ := hok (not_not.mp hstored)
      refine Ensures.seq (hE.identity ht (hidentity ▸ hl) hid _) ?_
      rintro ⟨stored', provisioned⟩ t' ⟨ht', -, hok'⟩
      have hnone : storedIdentity t = none := storedIdentity_of_empty (hidentity ▸ hl)
      -- no node runs under an identity it does not store
      have hunidentified : ¬ (s.node.identityStoreStatus = .ok ∨
          s.node.identityStoreStatus = .recoveredFromPrevious) := by
        intro hstatus
        obtain ⟨identity, hsome, -⟩ := hkept.identified hstatus
        rw [hnone] at hsome
        cases hsome
      have hkept' : NodeInvariant C ⟨t', s.node⟩ :=
        ⟨ht', h.idle, h.inRange, fun hstatus => absurd hstatus hunidentified, h.active⟩
      dsimp only at hok' ⊢
      split
      · exact Ensures.done ht' (hkept'.commandResult ..)
      rename_i hprovisioned
      obtain ⟨rfl, hload⟩ := hok' (not_not.mp hprovisioned)
      have hidentified : NodeInvariant C ⟨t', { s.node with
          activeIdentity := sealIdentity nodeId 2, identityStoreStatus := .ok,
          bootstrapOnly := false }⟩ :=
        ⟨ht', h.idle, h.inRange, fun _ => ⟨_, storedIdentity_of_found hload, rfl⟩,
          fun _ => Or.inl rfl⟩
      exact Ensures.done ht' ((hidentified.adoptConfiguration (v := sealConfiguration staged g)
        hr).reportProvisioningState ..)
  · rw [hl]
    simp only [loadedIdentity, reduceCtorEq, or_self, if_false, ne_eq, not_false_eq_true, if_true]
    exact Ensures.done h.storage (h.commandResult ..)
  · -- a stored identity is never replaced
    rw [hl]
    have hfound : ∀ status : StoreStatus, status = .ok ∨ status = .recoveredFromPrevious →
        NodeInvariant C ⟨s.storage, { s.node with
          activeIdentity := sealIdentity id g, identityStoreStatus := status }⟩ := fun _ hstatus =>
      ⟨h.storage, h.idle, h.inRange, fun _ => ⟨_, storedIdentity_of_found hl, rfl⟩,
        fun _ => hstatus⟩
    cases r with
    | false =>
      simp only [loadedIdentity, Bool.false_eq_true, if_false, true_or, if_true]
      split
      · exact Ensures.done h.storage ((hfound .ok (Or.inl rfl)).reportProvisioningState ..)
      · exact Ensures.done h.storage (h.commandResult ..)
    | true =>
      simp only [loadedIdentity, if_true, or_true]
      split
      · exact Ensures.done h.storage
          ((hfound .recoveredFromPrevious (Or.inr rfl)).reportProvisioningState ..)
      · exact Ensures.done h.storage (h.commandResult ..)

/-- **Every command keeps the invariant**, and a power cut during it that of the storage. -/
theorem NodeInvariant.handleCommand {s : NodeState} (h : NodeInvariant C s) (command : Text)
    (now : UInt32) :
    Ensures E C (s.node.handleCommand command now) s.storage
      fun n t => NodeInvariant C ⟨t, n⟩ := by
  rw [handleCommand_eq]
  have hfrom := actionFrom_commandAction s.node command now
  generalize commandAction s.node command now = action at hfrom
  cases hfrom with
  | reject code => exact Ensures.done h.storage (h.commandResult ..)
  | readback transactionId => exact Ensures.done h.storage (h.reportProvisioningState ..)
  | readRuntime =>
    refine Ensures.done h.storage (h.congr rfl ?_ ?_ ?_ ?_ ?_) <;>
      simp [Node.reportRuntimeConfiguration]
  | restore =>
    exact Ensures.done h.storage ((h.of_settings settingsInRange_default _).commandResult ..)
  | field hupdated =>
    obtain ⟨hr, c, interval, rfl⟩ := updatedField_inRange hupdated h.inRange
    exact (h.of_settings hr interval).storeField hE now
  | configure transactionId tokens _ => exact h.commitConfiguration hE transactionId tokens now
  | provision transactionId tokens hid => exact h.commitProvision hE transactionId hid tokens now
  | unchanged => exact Ensures.done h.storage h
  | other command now => exact Ensures.done h.storage (h.handleOtherCommand command now)

end Handlers

end Invariant

/-! ## Runs -/

/-- What happens to a node, with the faults its backend meets meanwhile. -/
inductive NodeEvent (φ : Type) where
  /-- it handles a command -/
  | command (text : Text) (now : UInt32) (faults : ℕ → φ)
  /-- its power is cut after some backend operations of a command, and it boots -/
  | powerCut (text : Text) (now : UInt32) (faults : ℕ → φ) (operations : ℕ)
  /-- it boots -/
  | reboot
  /-- it sends telemetry, or a client comes, subscribes or leaves -/
  | surroundings (telemetrySequence : UInt32) (bleConnected bleNotifyEnabled : Bool)

/-- The node over a storage after a boot, on a backend that works. -/
def booted (nvm : Nvm) : NodeState :=
  let boot := (Node.setup .ok).run healthy nvm fun _ => ()
  ⟨boot.state, boot.value⟩

section Runs

variable {φ : Type} (E : Environment NvmAnswer Nvm φ)

/-- The state after a command and the rest of its pass of the loop. -/
def NodeState.handle (s : NodeState) (text : Text) (now : UInt32) (faults : ℕ → φ) : NodeState :=
  let handled := (s.node.handleCommand text now).run E s.storage faults
  ⟨handled.state, handled.value.afterCommands⟩

/-- The state after an event. -/
def NodeEvent.after (s : NodeState) : NodeEvent φ → NodeState
  | .command text now faults => s.handle E text now faults
  | .powerCut text now faults operations =>
    booted ((s.node.handleCommand text now).crash E s.storage faults operations)
  | .reboot => booted s.storage
  | .surroundings telemetrySequence bleConnected bleNotifyEnabled =>
    ⟨s.storage, { s.node with telemetrySequence, bleConnected, bleNotifyEnabled }⟩

/-- The node after a run that starts with its first boot. -/
def nodeAfter (events : List (NodeEvent φ)) : NodeState :=
  events.foldl (NodeEvent.after E) (booted Nvm.empty)

theorem nodeAfter_append (events : List (NodeEvent φ)) (event : NodeEvent φ) :
    nodeAfter E (events ++ [event]) = event.after E (nodeAfter E events) := by
  simp [nodeAfter]

end Runs

/-- The end of the loop pass changes nothing while no reset is under way. -/
theorem afterCommands_eq {n : Node} (h : n.factoryResetController.busy = false) :
    n.afterCommands = n := by
  simp [Node.afterCommands, h]

section Invariant

variable {φ : Type} {E : Environment NvmAnswer Nvm φ} {C : Nvm → Prop} (hE : StoreGuarantees E C)
include hE

/-- A boot establishes the invariant. -/
theorem nodeInvariant_booted {nvm : Nvm} (h : C nvm) : NodeInvariant C (booted nvm) := by
  rw [booted, run_setup healthy_faithful (hE.invariant h).unmarked]
  refine ⟨h, rfl, ?_, ?_, ?_⟩
  · dsimp only [bootNode]
    rw [loadedFrom_eq]
    cases hl : (configurationStore nvm).load with
    | found g v r =>
      have hr := settingsInRange_loaded
        ((validateStoredConfiguration_iff v).mp (generation_of_found hl).2).2.2.2
      cases r <;> simpa [loadedConfiguration] using hr
    | _ => exact settingsInRange_default
  · dsimp only [bootNode]
    rw [identityLoadedFrom_eq]
    cases hl : (identityStore nvm).load with
    | found g v r =>
      intro _
      refine ⟨v, storedIdentity_of_found hl, ?_⟩
      cases r <;> rfl
    | _ => simp [loadedIdentity]
  · dsimp only [bootNode, Node.bootstrapNeeded]
    intro hactive
    by_contra hstatus
    simp [hstatus] at hactive

/-- Every event keeps the invariant. -/
theorem NodeInvariant.after {s : NodeState} (h : NodeInvariant C s) (event : NodeEvent φ) :
    NodeInvariant C (event.after E s) := by
  cases event with
  | command text now faults =>
    have hrun := (h.handleCommand hE text now faults).1
    rw [NodeEvent.after, NodeState.handle, afterCommands_eq hrun.idle]
    exact hrun
  | powerCut text now faults operations =>
    exact nodeInvariant_booted hE ((h.handleCommand hE text now faults).2 operations)
  | reboot => exact nodeInvariant_booted hE h.storage
  | surroundings telemetrySequence bleConnected bleNotifyEnabled =>
    exact h.congr rfl rfl rfl rfl rfl rfl

/-- **The invariant of every run.** -/
theorem nodeInvariant_nodeAfter (hempty : C Nvm.empty) (events : List (NodeEvent φ)) :
    NodeInvariant C (nodeAfter E events) := by
  induction events using List.reverseRecOn with
  | nil => exact nodeInvariant_booted hE hempty
  | append_singleton events event ih =>
    rw [nodeAfter_append]
    exact ih.after hE event

end Invariant

end SeedMg24.Analysis
