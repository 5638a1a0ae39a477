import SeedMg24.Analysis.CommandEffects
import SeedMg24.Analysis.ProvisioningReports

/-!
# Repeating a provisioning

A provisioning that fails at one of its writes is repeated once the storage works again.
`provision_retry_iff` says when the node is provisioned then: unless the write that failed was the
second copy of the identity.  The first copy already makes the repetition find the identity, and
the path that reports it neither leaves bootstrap mode nor takes the settings over.
-/

set_option autoImplicit false

namespace SeedMg24.Analysis

open Foundation Foundation.TwoSlot Model

/-! ## Requests -/

/-- The transaction, the id and the configuration of a valid provisioning command. -/
def provisionRequest (text : Text) : Option (Text × Text × StoredChannelConfiguration) := do
  let command := dispatched text
  if !"PROV ".toList.isPrefixOf command then none
  else
    let (transactionId, offset) ← provisionHeader command
    let (nodeId, tokens) ← provisionBody command offset
    let staged ← stagedConfiguration tokens
    if validNodeId nodeId then some (transactionId, nodeId, staged) else none

/-- A valid provisioning command provisions, on a node that is not being reset. -/
theorem commandAction_provision {n : Node} (hidle : n.factoryResetController.busy = false)
    {text transactionId nodeId : Text} {staged : StoredChannelConfiguration}
    (h : provisionRequest text = some (transactionId, nodeId, staged)) (now : UInt32) :
    validNodeId nodeId = true ∧ ∃ tokens, stagedConfiguration tokens = some staged ∧
      commandAction n text now = .provision transactionId nodeId tokens := by
  unfold provisionRequest at h
  dsimp only at h
  split at h
  · cases h
  rename_i hword
  have hword : "PROV ".toList.isPrefixOf (dispatched text) = true := by simpa using hword
  simp only [Option.bind_eq_bind, Option.bind_eq_some_iff] at h
  obtain ⟨⟨transaction, offset⟩, hheader, ⟨id, tokens⟩, hbody, configuration, hstaged, h⟩ := h
  dsimp only at hbody hstaged h
  split at h
  · rename_i hid
    cases h
    refine ⟨hid, tokens, hstaged, ?_⟩
    have hboot := not_bootstrap hword (by decide)
    have hget : isProvget (dispatched text) = false := by
      rw [Bool.eq_false_iff]
      intro hprovget
      exact absurd (isPrefixOf_of_isPrefixOf hprovget hword) (by decide)
    have haction : provisionAction n (dispatched text) =
        some (.provision transactionId nodeId tokens) := by
      unfold provisionAction
      simp only [hidle, hword, hget, hheader, hbody, hid, Bool.not_true, Bool.false_and,
        Bool.false_eq_true, if_false]
    unfold commandAction
    dsimp only
    rw [hboot, show Text.toUpperAscii (Text.trim text) = dispatched text from rfl, hword]
    simp only [Bool.not_true, Bool.and_false, Bool.false_and, Bool.false_eq_true, if_false]
    rw [haction]
  · cases h

/-! ## The writes of a provisioning -/

section Traces

variable {nvm : Nvm} {ω : ℕ → CleanFault}

/-- The calls of an identity write. -/
theorem trace_writeIdentity {id : Text} (hid : validNodeId id = true) (key g : UInt32)
    (checkGeneration : Bool) :
    (writeIdentity key id g checkGeneration).trace failing nvm ω =
      .write key (identityRecord id g) ::
        match ω 0 with
        | .failed _ => []
        | .none => [.read key kPersistentMaxRecord] := by
  rw [writeIdentity, encode_identity hid]
  simp only [backendWrite, Program.perform_bind, Program.trace]
  cases hω : ω 0 with
  | failed status =>
    have hstep : (failing.step nvm (.write key (identityRecord id g)) (.failed status)).1 =
      status.val := rfl
    rw [hstep, if_pos status.property]
    rfl
  | none =>
    have hstep : (failing.step nvm (.write key (identityRecord id g)) .none).1 = .ok := rfl
    rw [hstep, if_neg (by simp), Program.trace_bind, trace_readIdentity failing_faithful]
    split <;> rfl

/-- The calls of a configuration write. -/
theorem trace_configurationWrite {g : UInt32} (hnext : nextConfigurationGeneration nvm = some g)
    {input : StoredChannelConfiguration} (hr : settingsInRange input = true)
    (verified : StoredChannelConfiguration) :
    (configurationWrite input verified).trace failing nvm ω =
      [.read kConfigurationSlotA kPersistentMaxRecord,
        .read kConfigurationSlotB kPersistentMaxRecord,
        .write (configurationTarget g) (configurationRecord input g)] ++
        match ω 2 with
        | .failed _ => []
        | .none => [.read (configurationTarget g) kPersistentMaxRecord] := by
  rcases configurationWrite_gate nvm with ⟨-, hnone⟩ | ⟨hgate, hg⟩
  · rw [hnext] at hnone
    cases hnone
  rw [hnext, Option.some.injEq] at hg
  have hload : (configurationLoad {}).trace failing nvm ω =
      [.read kConfigurationSlotA kPersistentMaxRecord,
        .read kConfigurationSlotB kPersistentMaxRecord] := by
    simp [configurationLoad, Program.trace_bind, trace_readConfigSlot failing_faithful,
      run_readConfigSlot failing_faithful, Program.trace]
  rw [configurationWrite, Program.trace_bind, hload, run_configurationLoad failing_faithful]
  generalize storedConfigurationOr nvm {} = loaded at hg hgate ⊢
  obtain ⟨old, current⟩ := loaded
  dsimp only at hg hgate ⊢
  rw [← hg, if_neg hgate, validate_sealConfiguration, hr, encode_configuration]
  simp only [Bool.not_true, Bool.false_eq_true, if_false, backendWrite, Program.perform_bind,
    Program.trace, Program.later_apply, Nat.zero_add, Nat.reduceAdd]
  cases hω : ω 2 with
  | failed status =>
    have hstep : (failing.step nvm (.write (configurationTarget g) (configurationRecord input g))
      (.failed status)).1 = status.val := rfl
    rw [hstep, if_pos status.property]
    rfl
  | none =>
    have hstep : (failing.step nvm (.write (configurationTarget g) (configurationRecord input g))
      .none).1 = .ok := rfl
    rw [hstep, if_neg (by simp), Program.trace_bind, trace_readConfigSlot failing_faithful]
    split <;> rfl

/-- The calls of a provisioning of an empty store. -/
theorem trace_identityProvision {id : Text} (hid : validNodeId id = true)
    (hl : (identityStore nvm).load = .empty) (out : NodeIdentity) :
    (identityProvision id out).trace failing nvm ω =
      [.read kIdentitySlotA kPersistentMaxRecord, .read kIdentitySlotB kPersistentMaxRecord,
        .write kIdentitySlotA (identityRecord id 1)] ++
        match ω 2, ω 4 with
        | .failed _, _ => []
        | .none, .failed _ => [.read kIdentitySlotA kPersistentMaxRecord,
            .write kIdentitySlotB (identityRecord id 2)]
        | .none, .none => [.read kIdentitySlotA kPersistentMaxRecord,
            .write kIdentitySlotB (identityRecord id 2),
            .read kIdentitySlotB kPersistentMaxRecord] := by
  rw [identityProvision, hid]
  simp only [Bool.not_true, Bool.false_eq_true, if_false]
  rw [Program.trace_bind, trace_identityLoad failing_faithful, run_identityLoad failing_faithful,
    storedIdentityOr_eq, hl]
  simp only [loadedIdentity, reduceCtorEq, or_self, if_false, ne_eq, not_true_eq_false]
  rw [Program.trace_bind, trace_writeIdentity hid]
  have h2 : Program.later (Program.later ω) 0 = ω 2 := rfl
  cases hA : ω 2 with
  | failed status =>
    rw [h2, hA, writeIdentity_fails hid _ _ _ (h2.trans hA)]
    rfl
  | none =>
    rw [h2, hA, writeIdentity_works hid _ _ _ (h2.trans hA)]
    dsimp only
    rw [Program.trace_bind, trace_writeIdentity hid]
    have h4 : Program.later (Program.later ω) (0 + 2) = ω 4 := rfl
    cases hB : ω 4 with
    | failed status =>
      rw [h4, hB, writeIdentity_fails hid _ _ _ (h4.trans hB)]
      rfl
    | none =>
      rw [h4, hB, writeIdentity_works hid _ _ _ (h4.trans hB)]
      rfl

/-- **The calls of a provisioning command** of an unprovisioned node. -/
theorem trace_commitProvision {s : NodeState} {g : UInt32}
    (hnext : nextConfigurationGeneration s.storage = some g)
    (hl : (identityStore s.storage).load = .empty) {tokens : SettingTokens}
    {staged : StoredChannelConfiguration} (hstaged : stagedConfiguration tokens = some staged)
    (transactionId nodeId : Text) (now : UInt32) :
    (s.node.commitProvision transactionId nodeId tokens now).trace failing s.storage ω =
      [.read kIdentitySlotA kPersistentMaxRecord, .read kIdentitySlotB kPersistentMaxRecord,
        .read kConfigurationSlotA kPersistentMaxRecord,
        .read kConfigurationSlotB kPersistentMaxRecord,
        .write (configurationTarget g) (configurationRecord staged g)] ++
        match ω 4 with
        | .failed _ => []
        | .none => .read (configurationTarget g) kPersistentMaxRecord ::
          (identityProvision nodeId {}).trace failing (configured s.storage staged g)
            fun i => ω (i + 6) := by
  have hr := settingsInRange_staged hstaged
  have h4 : Program.later (Program.later ω) 2 = ω 4 := rfl
  rw [Node.commitProvision, Program.trace_bind, trace_identityLoad failing_faithful,
    run_identityLoad failing_faithful, storedIdentityOr_eq, hl, hstaged]
  simp only [loadedIdentity, reduceCtorEq, or_self, if_false, ne_eq, not_true_eq_false]
  rw [Program.trace_bind, trace_configurationWrite hnext hr, h4]
  cases hC : ω 4 with
  | failed status =>
    rw [configurationWrite_fails hnext hr _ (h4.trans hC)]
    simp only [status.property, not_false_eq_true, if_true]
    rfl
  | none =>
    rw [configurationWrite_works hnext hr _ (h4.trans hC)]
    simp only [not_true_eq_false, if_false]
    rw [Program.trace_bind]
    have hrest : (fun i => Program.later (Program.later ω) (i + 4)) = fun i => ω (i + 6) := rfl
    rw [hrest]
    generalize (identityProvision nodeId {}).run failing (configured s.storage staged g)
      (fun i => ω (i + 6)) = after
    split
    · simp [Program.trace]
    · simp [Program.trace]

/-- The writes of a provisioning command, by their number among its calls. -/
theorem write_of_trace {s : NodeState} {g : UInt32}
    (hnext : nextConfigurationGeneration s.storage = some g)
    (hl : (identityStore s.storage).load = .empty) {nodeId : Text}
    (hid : validNodeId nodeId = true) {tokens : SettingTokens} {staged : StoredChannelConfiguration}
    (hstaged : stagedConfiguration tokens = some staged) {transactionId : Text} {now : UInt32}
    {k : ℕ} {key : UInt32} {data : List UInt8}
    (h : ((s.node.commitProvision transactionId nodeId tokens now).trace failing s.storage ω)[k]? =
      some (.write key data)) :
    (k = 4 ∧ key = configurationTarget g) ∨ (k = 8 ∧ key = kIdentitySlotA ∧ ω 4 = .none) ∨
      (k = 10 ∧ key = kIdentitySlotB ∧ ω 4 = .none ∧ ω 8 = .none) := by
  have hl' : (identityStore (configured s.storage staged g)).load = .empty := by
    rw [identityStore_configured, hl]
  rw [trace_commitProvision hnext hl hstaged, trace_identityProvision hid hl'] at h
  match k with
  | 0 | 1 | 2 | 3 => cases h
  | 4 =>
    cases h
    exact Or.inl ⟨rfl, rfl⟩
  | k + 5 =>
    cases hC : ω 4 with
    | failed status =>
      rw [hC] at h
      cases h
    | none =>
      rw [hC] at h
      match k with
      | 0 | 1 | 2 => cases h
      | 3 =>
        cases h
        exact Or.inr (Or.inl ⟨rfl, rfl, rfl⟩)
      | k + 4 =>
        simp only [Nat.reduceAdd] at h
        cases hA : ω 8 with
        | failed status =>
          rw [hA] at h
          cases h
        | none =>
          rw [hA] at h
          refine Or.inr (Or.inr ?_)
          cases hB : ω 10 with
          | failed status =>
            rw [hB] at h
            match k with
            | 0 => cases h
            | 1 =>
              cases h
              exact ⟨rfl, rfl, rfl, rfl⟩
            | k + 2 => cases h
          | none =>
            rw [hB] at h
            match k with
            | 0 => cases h
            | 1 =>
              cases h
              exact ⟨rfl, rfl, rfl, rfl⟩
            | 2 => cases h
            | k + 3 => cases h

/-- A provisioning that the configuration store does not let through makes no write. -/
theorem no_write_of_gated {s : NodeState} (hnext : nextConfigurationGeneration s.storage = none)
    (hl : (identityStore s.storage).load = .empty) {tokens : SettingTokens}
    {staged : StoredChannelConfiguration} (hstaged : stagedConfiguration tokens = some staged)
    (transactionId nodeId : Text) (now : UInt32) (key : UInt32) (data : List UInt8) :
    NvmOp.write key data ∉
      (s.node.commitProvision transactionId nodeId tokens now).trace failing s.storage ω := by
  intro hmem
  rw [Node.commitProvision, Program.trace_bind, trace_identityLoad failing_faithful,
    run_identityLoad failing_faithful, storedIdentityOr_eq, hl, hstaged] at hmem
  simp only [loadedIdentity, reduceCtorEq, or_self, if_false, ne_eq, not_true_eq_false] at hmem
  rw [Program.trace_bind, run_configurationWrite_gated failing_faithful hnext] at hmem
  have hstatus : (storedConfigurationOr s.storage {}).1 ≠ .ok := by
    rcases configurationWrite_gate s.storage with ⟨hgate, -⟩ | ⟨-, hsome⟩
    · exact hgate.1
    · rw [hnext] at hsome
      cases hsome
  simp only [hstatus, not_false_eq_true, if_true, Program.pure_eq_done, Program.trace,
    List.append_nil, List.mem_append, List.mem_cons, List.not_mem_nil, or_false, reduceCtorEq,
    false_or] at hmem
  obtain ⟨g, hsome, -⟩ := target_of_write_mem_trace failing_faithful hmem
  rw [hnext] at hsome
  cases hsome

end Traces

/-! ## Provisioned nodes -/

/-- The node is out of bootstrap mode, runs and stores the settings, stores the id, and reads
exactly these back. -/
structure ProvisionedAs (s : NodeState) (nodeId : Text) (c : ChannelConfig) : Prop where
  active : s.node.bootstrapOnly = false
  running : s.node.microphoneRuntimeConfig = c
  settings : storedSettings s.storage = some c
  identity : ∃ identity, storedIdentity s.storage = some identity ∧ identity.nodeId = nodeId
  readback : ∀ text transactionId now, readbackRequest text = some transactionId →
    printedSince s.node (s.handle healthy text now fun _ => ()).node =
      [reportText nodeId transactionId "readback".toList c]

/-- A backend that works is one whose writes never fail. -/
theorem handle_healthy (s : NodeState) (text : Text) (now : UInt32) :
    s.handle healthy text now (fun _ => ()) = s.handle failing text now fun _ => .none := by
  have hbackend : healthy = failing.restrict fun _ (_ : Unit) => CleanFault.none := by
    refine congrArg Environment.mk ?_
    funext nvm op f
    cases op <;> rfl
  unfold NodeState.handle
  rw [hbackend, Program.run_restrict failing (fun _ : Unit => CleanFault.none)
    (s.node.handleCommand text now) s.storage fun _ => ()]

/-- The guarantees that hold without assuming that no first write was torn. -/
theorem failing_guarantees_weak : StoreGuarantees failing StorageInvariant :=
  tearing_guarantees.restrict _

section Retry

variable {s : NodeState} (h : NodeInvariant StorageInvariant s)
  {text transactionId nodeId : Text} {staged : StoredChannelConfiguration}
  (hrequest : provisionRequest text = some (transactionId, nodeId, staged))
include h hrequest

/-- The command runs the commit. -/
theorem handle_provision (now : UInt32) (ω : ℕ → CleanFault) :
    validNodeId nodeId = true ∧ ∃ tokens, stagedConfiguration tokens = some staged ∧
      (s.node.handleCommand text now =
        s.node.commitProvision transactionId nodeId tokens now) ∧
      s.handle failing text now ω =
        ⟨((s.node.commitProvision transactionId nodeId tokens now).run failing s.storage ω).state,
          ((s.node.commitProvision transactionId nodeId tokens now).run failing s.storage
            ω).value⟩ := by
  obtain ⟨hid, tokens, hstaged, haction⟩ := commandAction_provision h.idle hrequest now
  have hprogram : s.node.handleCommand text now =
      s.node.commitProvision transactionId nodeId tokens now := by
    rw [handleCommand_eq, haction]
    rfl
  refine ⟨hid, tokens, hstaged, hprogram, ?_⟩
  have hidle := ((h.handleCommand failing_guarantees_weak text now ω).1).idle
  rw [NodeState.handle, afterCommands_eq hidle, hprogram]

/-- A provisioning of an unprovisioned node with writable stores works when its writes do. -/
theorem provisioned_of_healthy (hl : (identityStore s.storage).load = .empty)
    (hsound : (configurationStore s.storage).load ≠ .corrupt) (now : UInt32) :
    ProvisionedAs (s.handle healthy text now fun _ => ()) nodeId
      (Node.loadedChannelConfig staged) := by
  obtain ⟨g, hnext⟩ := h.storage.stores.configuration.exists_next hsound
  obtain ⟨hid, tokens, hstaged, -, hhandle⟩ := handle_provision h hrequest now fun _ => .none
  have hr := settingsInRange_staged hstaged
  have hkept : NodeInvariant StorageInvariant (s.handle failing text now fun _ => .none) :=
    h.after failing_guarantees_weak (.command text now fun _ => .none)
  have hcases := commitProvision_cases (ω := fun _ => .none) hnext hl hid hstaged transactionId now
  dsimp only at hcases
  have hadopted : (provisioned s.node nodeId staged g).microphoneRuntimeConfig =
      Node.loadedChannelConfig staged := adopted_eq_loaded (v := sealConfiguration staged g) hr _
  rw [handle_healthy]
  rw [hhandle, hcases.1, hcases.2] at hkept ⊢
  have hrunning : ((provisioned s.node nodeId staged g).reportProvisioningState transactionId
      "provisioned".toList).microphoneRuntimeConfig = Node.loadedChannelConfig staged := by
    rw [← hadopted]
    simp [Node.reportProvisioningState]
  have hrunningId : ((provisioned s.node nodeId staged g).reportProvisioningState transactionId
      "provisioned".toList).runtimeNodeId = nodeId := by
    simp [Node.runtimeNodeId, Node.reportProvisioningState, provisioned, Node.adoptConfiguration,
      sealIdentity]
  refine ⟨?_, hrunning, ?_, ?_, ?_⟩
  · simp [Node.reportProvisioningState, provisioned, Node.adoptConfiguration]
  · exact (storedSettings_congr (configurationStore_identified ..)).trans
      (storedSettings_configured h.storage.stores.configuration hnext hr)
  · exact ⟨_, storedIdentity_of_found (load_identified _ hid), rfl⟩
  · intro text' transactionId' now' hread
    rw [hkept.printed_readback hread]
    dsimp only
    rw [hrunning, hrunningId]

/-- A provisioning that finds its id stored does not leave bootstrap mode. -/
theorem bootstrapOnly_of_identified {identity : NodeIdentity}
    (hidentity : storedIdentity s.storage = some identity) (hsame : identity.nodeId = nodeId)
    (now : UInt32) :
    (s.handle healthy text now fun _ => ()).node.bootstrapOnly = s.node.bootstrapOnly := by
  obtain ⟨-, tokens, -, -, hhandle⟩ := handle_provision h hrequest now fun _ => .none
  have hcases := (commitProvision_identified failing_faithful hidentity transactionId nodeId tokens
    now fun _ => CleanFault.none).2
  rw [if_pos hsame] at hcases
  obtain ⟨status, -, hvalue⟩ := hcases
  rw [handle_healthy, hhandle, hvalue]
  simp [Node.reportProvisioningState, reidentified]

end Retry

/-- A node without an identity is in bootstrap mode. -/
theorem bootstrapOnly_of_unprovisioned {s : NodeState} (h : NodeInvariant StorageInvariant s)
    (hl : (identityStore s.storage).load = .empty) : s.node.bootstrapOnly = true := by
  by_contra hactive
  obtain ⟨identity, hstored, -⟩ := h.identified (h.active (Bool.eq_false_iff.mpr hactive))
  rw [storedIdentity_of_empty hl] at hstored
  cases hstored

theorem failed_of_ne {f : CleanFault} (h : f ≠ .none) : ∃ status, f = .failed status := by
  cases f with
  | none => exact absurd rfl h
  | failed status => exact ⟨status, rfl⟩

/-- The identity store says that the node was never provisioned. -/
def Unprovisioned (s : NodeState) : Prop := (identityLoadedFrom s.storage {}).1 = .unprovisioned

theorem unprovisioned_iff {s : NodeState} :
    Unprovisioned s ↔ (identityStore s.storage).load = .empty := by
  rw [Unprovisioned, identityLoadedFrom_eq]
  cases (identityStore s.storage).load with
  | found g v r => cases r <;> simp [loadedIdentity]
  | _ => simp [loadedIdentity]

/-- A command handled under faults, and then again on a backend that works. -/
def NodeState.retried (s : NodeState) (text : Text) (now later : UInt32) (ω : ℕ → CleanFault) :
    NodeState :=
  (s.handle failing text now ω).handle healthy text later fun _ => ()

/-- **When a failed provisioning can be repeated.**  For every node a run leads to that was never
provisioned, every valid provisioning command and every write of it that fails without effect:
repeating the command once the storage works provisions the node if and only if the write that
failed was not the second copy of the identity.
SOURCE: xiao_mg24_sensor_node.ino:258-318, node_identity_store.cpp:24-31 -/
theorem provision_retry_iff (events : List (NodeEvent WriteFault))
    (hunprovisioned : Unprovisioned (nodeAfter tearing events))
    {text transactionId nodeId : Text} {staged : StoredChannelConfiguration}
    (hrequest : provisionRequest text = some (transactionId, nodeId, staged))
    (now later : UInt32) (ω : ℕ → CleanFault) {k : ℕ} {key : UInt32} {data : List UInt8}
    (hwrite : (((nodeAfter tearing events).node.handleCommand text now).trace failing
      (nodeAfter tearing events).storage ω)[k]? = some (.write key data))
    (hfails : ω k ≠ .none) :
    ProvisionedAs ((nodeAfter tearing events).retried text now later ω) nodeId
      (Node.loadedChannelConfig staged) ↔ key ≠ kIdentitySlotB := by
  have h := nodeInvariant_nodeAfter tearing_guarantees storageInvariant_empty events
  generalize nodeAfter tearing events = s at h hunprovisioned hwrite ⊢
  have hl := unprovisioned_iff.mp hunprovisioned
  obtain ⟨hid, tokens, hstaged, hprogram, hhandle⟩ := handle_provision h hrequest now ω
  rw [hprogram] at hwrite
  cases hnext : nextConfigurationGeneration s.storage with
  | none =>
    exact absurd (List.mem_of_getElem? hwrite)
      (no_write_of_gated hnext hl hstaged transactionId nodeId now key data)
  | some g =>
    have hkept : NodeInvariant StorageInvariant (s.handle failing text now ω) :=
      h.after failing_guarantees_weak (.command text now ω)
    have hcases := commitProvision_cases (ω := ω) hnext hl hid hstaged transactionId now
    have hr := settingsInRange_staged hstaged
    dsimp only at hcases
    rw [NodeState.retried]
    rw [hhandle] at hkept ⊢
    rcases write_of_trace hnext hl hid hstaged hwrite with
      ⟨rfl, rfl⟩ | ⟨rfl, rfl, hC⟩ | ⟨rfl, rfl, hC, hA⟩
    · -- the configuration was not stored: nothing changed
      have hkey : configurationTarget g ≠ kIdentitySlotB := by
        rw [configurationTarget_eq]
        split <;> decide
      refine iff_of_true ?_ hkey
      obtain ⟨status, hC⟩ := failed_of_ne hfails
      rw [hC] at hcases
      refine provisioned_of_healthy hkept hrequest ?_ ?_ later
      · rw [hcases.2, hl]
      · rw [hcases.2]
        intro hcorrupt
        rw [nextConfigurationGeneration, hcorrupt] at hnext
        cases hnext
    · -- the configuration was stored, but no identity
      refine iff_of_true ?_ (by decide)
      obtain ⟨status, hA⟩ := failed_of_ne hfails
      rw [hC, hA] at hcases
      refine provisioned_of_healthy hkept hrequest ?_ ?_ later
      · rw [hcases.2, identityStore_configured, hl]
      · rw [hcases.2]
        intro hcorrupt
        have hstored := storedSettings_configured h.storage.stores.configuration hnext hr
        rw [storedSettings, loadedFrom_eq, hcorrupt] at hstored
        cases hstored
    · -- the first copy is an identity: the repetition only reports it, in bootstrap mode
      refine iff_of_false ?_ (by simp)
      obtain ⟨status, hB⟩ := failed_of_ne hfails
      rw [hC, hA, hB] at hcases
      intro hprovisioned
      have hl' : (identityStore (configured s.storage staged g)).load = .empty := by
        rw [identityStore_configured, hl]
      have hidentity : storedIdentity ((s.node.commitProvision transactionId nodeId tokens now).run
          failing s.storage ω).state = some (sealIdentity nodeId 1) := by
        rw [hcases.2]
        exact storedIdentity_of_found (load_firstIdentified hl' hid)
      have hactive := hprovisioned.active
      rw [bootstrapOnly_of_identified hkept hrequest hidentity rfl, hcases.1] at hactive
      simp [Node.commandResult, bootstrapOnly_of_unprovisioned h hl] at hactive

/-- A valid provisioning command. -/
def provisionNode1 : Text := "PROV 1 TRANSACTION NODE-1 100 100 100 30000 2 2 1".toList

/-- The configuration it asks for. -/
def node1Configuration : StoredChannelConfiguration where
  sampleIntervalMs := 100
  processingIntervalMs := 100
  reportIntervalMs := 100
  heartbeatIntervalMs := 30000
  filterType := FilterType.exponential
  filterWindow := 2
  enabled := 1

/-- Writes that work until a number of backend calls were made. -/
def failingFrom (k : ℕ) (i : ℕ) : CleanFault :=
  if k ≤ i then .failed ⟨.writeFailed, writeFailed_ne_ok⟩ else .none

/-- When the first copy of the identity fails, the repetition provisions a new node. -/
theorem provision_retry_firstCopy :
    ProvisionedAs ((nodeAfter tearing []).retried provisionNode1 10 20 (failingFrom 8))
      "NODE-1".toList (Node.loadedChannelConfig node1Configuration) :=
  (provision_retry_iff [] rfl
    (show provisionRequest provisionNode1 =
      some ("TRANSACTION".toList, "NODE-1".toList, node1Configuration) by decide +kernel)
    10 20 (failingFrom 8)
    (show (((nodeAfter tearing []).node.handleCommand provisionNode1 10).trace failing
      (nodeAfter tearing []).storage (failingFrom 8))[8]? =
        some (.write kIdentitySlotA (identityRecord "NODE-1".toList 1)) by decide +kernel)
    (by simp [failingFrom])).mpr (by decide)

/-- When the second copy fails, the repetition leaves the node in bootstrap mode. -/
theorem not_provisionedAs_secondCopy :
    Unprovisioned (nodeAfter tearing []) ∧
      provisionRequest provisionNode1 =
        some ("TRANSACTION".toList, "NODE-1".toList, node1Configuration) ∧
      (((nodeAfter tearing []).node.handleCommand provisionNode1 10).trace failing
        (nodeAfter tearing []).storage (failingFrom 10))[10]? =
          some (.write kIdentitySlotB (identityRecord "NODE-1".toList 2)) ∧
      ¬ ProvisionedAs ((nodeAfter tearing []).retried provisionNode1 10 20 (failingFrom 10))
        "NODE-1".toList (Node.loadedChannelConfig node1Configuration) := by
  refine ⟨rfl, by decide +kernel, by decide +kernel, fun hprovisioned => ?_⟩
  exact absurd hprovisioned.active (by decide +kernel)

end SeedMg24.Analysis
