import SeedMg24.Analysis.StoreProgress

/-!
# Which histories leave the stores ready

After any history of torn, lost and cut writes, the configuration store takes the next valid
configuration and the identity store of a node that never had an identity takes the next valid id,
if and only if no step of the history tore the first write into an empty store.
-/

set_option autoImplicit false

namespace SeedMg24.Analysis

open Foundation Foundation.TwoSlot Model

/-! ## Readiness -/

/-- On a working backend, writing a valid configuration succeeds and is what `load` then gives. -/
def ConfigurationReady (nvm : Nvm) : Prop :=
  ∀ input verified, validateStoredConfiguration input = true →
    let after := (configurationWrite input verified).run healthy nvm fun _ => ()
    after.value.1 = .ok ∧ ∃ g, Loads after.state (sealConfiguration input g)

/-- What the identity `load` returns on a backend that works. -/
def identityLoadedFrom (nvm : Nvm) (out : NodeIdentity) : StoreStatus × NodeIdentity :=
  ((identityLoad out).run healthy nvm fun _ => ()).value

/-- `load` gives an identity with the id. -/
def LoadsIdentity (nvm : Nvm) (id : Text) : Prop :=
  ∀ out, ∃ value : NodeIdentity, value.nodeId = id ∧
    (identityLoadedFrom nvm out = (.ok, value) ∨
      identityLoadedFrom nvm out = (.recoveredFromPrevious, value))

/-- On a working backend, provisioning a valid id succeeds and is what `load` then gives. -/
def IdentityReady (nvm : Nvm) : Prop :=
  ∀ id out, validNodeId id = true →
    let after := (identityProvision id out).run healthy nvm fun _ => ()
    after.value.1 = .ok ∧ LoadsIdentity after.state id

/-- No storage on the way ever gave an identity. -/
def NeverIdentified (steps : List StoreStep) : Prop :=
  ∀ before later, steps = before ++ later → ∀ id, ¬ LoadsIdentity (storageAfter before) id

/-- Both stores can be written after the history. -/
def StoresReady (steps : List StoreStep) : Prop :=
  ConfigurationReady (storageAfter steps) ∧
    (NeverIdentified steps → IdentityReady (storageAfter steps))

theorem identityLoadedFrom_eq (nvm : Nvm) (out : NodeIdentity) :
    identityLoadedFrom nvm out = loadedIdentity out (identityStore nvm).load := by
  rw [identityLoadedFrom, run_identityLoad healthy_faithful, storedIdentityOr_eq]

theorem loadsIdentity_iff {nvm : Nvm} {id : Text} : LoadsIdentity nvm id ↔
    ∃ g value r, (identityStore nvm).load = .found g value r ∧ value.nodeId = id := by
  unfold LoadsIdentity
  simp only [identityLoadedFrom_eq]
  cases hl : (identityStore nvm).load with
  | found g v r =>
    constructor
    · intro h
      obtain ⟨value, hid, hvalue⟩ := h {}
      have hv : v = value := by cases r <;> simpa [loadedIdentity] using hvalue
      exact ⟨g, v, r, rfl, hv ▸ hid⟩
    · rintro ⟨g', v', r', hfound, hid⟩ out
      cases hfound
      exact ⟨v, hid, by cases r <;> simp [loadedIdentity]⟩
  | _ => simp [loadedIdentity]

/-- A configuration within all bounds. -/
def smallestConfiguration : StoredChannelConfiguration :=
  let settings : StoredChannelConfiguration := {
    sampleIntervalMs := 10, processingIntervalMs := 10, reportIntervalMs := 50,
    heartbeatIntervalMs := 1000, filterWindow := 1 }
  sealConfiguration settings 1

theorem validate_smallestConfiguration :
    validateStoredConfiguration smallestConfiguration = true := by
  refine (validate_sealConfiguration _ 1).trans ?_
  decide

/-- A configuration store in its invariant is ready exactly when it is not wedged. -/
theorem configurationReady_iff {nvm : Nvm} (hinv : SlotInvariant nvm) :
    ConfigurationReady nvm ↔ (configurationStore nvm).load ≠ .corrupt := by
  constructor
  · intro hready hcorrupt
    have hnext : nextConfigurationGeneration nvm = none := by
      rw [nextConfigurationGeneration, hcorrupt]
      rfl
    have hok := (hready smallestConfiguration {} validate_smallestConfiguration).1
    rw [run_configurationWrite_gated healthy_faithful hnext, storedConfigurationOr_eq,
      hcorrupt] at hok
    cases hok
  · intro hne input verified hvalid
    have hr : settingsInRange input = true := ((validateStoredConfiguration_iff input).mp hvalid).2.2.2
    obtain ⟨g, hnext⟩ : ∃ g, nextConfigurationGeneration nvm = some g :=
      hinv.coherent.exists_nextGeneration hne
    have hrun := run_configurationWrite healthy_faithful hnext hr verified fun _ => ()
    have hstep : healthy.step nvm (.write (configurationTarget g) (configurationRecord input g)) () =
      (.ok, nvm.put (configurationTarget g) (some (configurationRecord input g))) := rfl
    obtain ⟨r, hnew⟩ := hinv.coherent.load_after_write (v := sealConfiguration input g) hnext
    dsimp only at hrun ⊢
    rw [hrun, hstep]
    refine ⟨?_, g, loads_iff.mpr ⟨g, r, ?_⟩⟩
    · simp [configurationReadback, configSlotOf_record hr]
    · rw [configurationStore_put, configSlotOf_record hr]
      exact hnew

/-- An empty identity store takes any valid id. -/
theorem identityReady_of_empty {nvm : Nvm} (hl : (identityStore nvm).load = .empty) :
    IdentityReady nvm := by
  intro id out hid
  have hAB : kIdentitySlotA ≠ kIdentitySlotB := by decide
  have hwrite : ∀ (nvm' : Nvm) (key g : UInt32) (check : Bool) (ω : ℕ → Unit),
      ((writeIdentity key id g check).run healthy nvm' ω).value = .ok (sealIdentity id g) ∧
        ((writeIdentity key id g check).run healthy nvm' ω).state =
          nvm'.put key (some (identityRecord id g)) := by
    intro nvm' key g check ω
    have hstep : healthy.step nvm' (.write key (identityRecord id g)) (ω 0) =
      (.ok, nvm'.put key (some (identityRecord id g))) := rfl
    have hrun := run_writeIdentity healthy_faithful hid nvm' key g check ω
    dsimp only at hrun
    rw [hrun, hstep]
    exact ⟨identityReadback_record (Nvm.put_same ..) hid check, rfl⟩
  have hrun := run_identityProvision healthy_faithful hid hl out fun _ => ()
  dsimp only at hrun ⊢
  rw [hrun, (hwrite ..).1, (hwrite ..).2]
  dsimp only
  rw [(hwrite ..).1, (hwrite ..).2]
  refine ⟨rfl, loadsIdentity_iff.mpr ⟨2, sealIdentity id 2, false, ?_, rfl⟩⟩
  have hnewer : GenerationOrder.newer (2 : UInt32) 1 = true := by decide
  simp [identityStore, Store.load, Nvm.put_of_ne hAB, toSlot_identityRecord hid, hnewer]

/-- An identity store in its invariant is ready, or gives an identity, exactly when it is not
wedged. -/
theorem identityReady_iff {nvm : Nvm} (hinv : IdentityInvariant nvm) :
    ((∀ id, ¬ LoadsIdentity nvm id) → IdentityReady nvm) ↔
      (identityStore nvm).load ≠ .corrupt := by
  rcases hinv.load_cases with ⟨-, hl⟩ | ⟨-, hl⟩ | ⟨id, g, r, -, -, hl⟩
  · simpa [hl] using fun _ => identityReady_of_empty hl
  · have hno : ∀ id, ¬ LoadsIdentity nvm id := by simp [loadsIdentity_iff, hl]
    have hnot : ¬ IdentityReady nvm := by
      intro hready
      have hid : validNodeId ['A'] = true := by decide
      have hne : (identityStore nvm).load ≠ .empty := by simp [hl]
      obtain ⟨s, hs, hrun⟩ := run_identityProvision_refused healthy_faithful hid hne {} fun _ => ()
      have hok := (hready ['A'] {} hid).1
      rw [hrun] at hok
      exact hs hok
    simp [hl, hno, hnot]
  · have hloads : LoadsIdentity nvm id := loadsIdentity_iff.mpr ⟨g, _, r, hl, rfl⟩
    simp only [hl, ne_eq, reduceCtorEq, not_false_eq_true, iff_true]
    exact fun hno => absurd hloads (hno id)

/-! ## Steps -/

/-- What every history keeps. -/
structure StoresInvariant (nvm : Nvm) : Prop where
  configuration : SlotInvariant nvm
  identity : IdentityInvariant nvm

/-- One of the stores has something in its slots but no record. -/
def Wedged (nvm : Nvm) : Prop :=
  (configurationStore nvm).load = .corrupt ∨ (identityStore nvm).load = .corrupt

theorem storesInvariant_empty : StoresInvariant Nvm.empty :=
  ⟨slotInvariant_empty, .unwritten Debris.nothing⟩

/-- The configuration store only depends on its own slots. -/
theorem SlotInvariant.congr {nvm after : Nvm} (hinv : SlotInvariant nvm)
    (hA : after kConfigurationSlotA = nvm kConfigurationSlotA)
    (hB : after kConfigurationSlotB = nvm kConfigurationSlotB) :
    SlotInvariant after ∧ configurationStore after = configurationStore nvm := by
  have hstore : configurationStore after = configurationStore nvm := by
    rw [configurationStore, configurationStore, hA, hB]
  exact ⟨⟨hstore ▸ hinv.coherent, hA ▸ hinv.slotA, hB ▸ hinv.slotB⟩, hstore⟩

/-- The identity store only depends on its own slots. -/
theorem IdentityInvariant.congr {nvm after : Nvm} (hinv : IdentityInvariant nvm)
    (hA : after kIdentitySlotA = nvm kIdentitySlotA)
    (hB : after kIdentitySlotB = nvm kIdentitySlotB) :
    IdentityInvariant after ∧ identityStore after = identityStore nvm := by
  unfold IdentityInvariant at hinv ⊢
  exact ⟨by rwa [hA, hB], by rw [identityStore, identityStore, hA, hB]⟩

/-- One step keeps the invariant, and wedges a store exactly when it tears a first write. -/
theorem StoresInvariant.step {nvm : Nvm} (hinv : StoresInvariant nvm) (step : StoreStep) :
    StoresInvariant (step.after nvm) ∧
      (Wedged (step.after nvm) ↔ Wedged nvm ∨ TearsFirstWrite nvm step) := by
  obtain ⟨call, ω, cut⟩ := step
  cases call with
  | configure input verified =>
    have hvalid : validateStoredConfiguration (sealConfiguration input 1) = settingsInRange input :=
      validate_sealConfiguration input 1
    rcases endState_configurationWrite nvm input verified ω cut with ⟨hcut, hend⟩ | ⟨hcut, hend⟩
    · have hidentity := hinv.identity.congr
        (configurationWrite_frame nvm input verified ω kIdentitySlotA (by decide) (by decide))
        (configurationWrite_frame nvm input verified ω kIdentitySlotB (by decide) (by decide))
      rw [after_configure, hend]
      refine ⟨⟨hinv.configuration.write input verified ω, hidentity.1⟩, ?_⟩
      rw [Wedged, corrupt_after_configurationWrite hinv.configuration, hidentity.2,
        configurationStore_empty_iff]
      unfold Wedged TearsFirstWrite
      dsimp only
      rw [hvalid]
      constructor
      · rintro ((hc | ⟨⟨hA, hB⟩, hr, htears⟩) | hi)
        · exact Or.inl (Or.inl hc)
        · exact Or.inr ⟨hcut, htears, hA, hB, hr⟩
        · exact Or.inl (Or.inr hi)
      · rintro ((hc | hi) | ⟨-, htears, hA, hB, hr⟩)
        · exact Or.inl (Or.inl hc)
        · exact Or.inr hi
        · exact Or.inl (Or.inr ⟨⟨hA, hB⟩, hr, htears⟩)
    · rw [after_configure, hend]
      exact ⟨hinv, (or_iff_left fun h => hcut h.1).symm⟩
  | provision id out =>
    by_cases hopen : validNodeId id = true ∧ (identityStore nvm).load = .empty
    · obtain ⟨hid, hl⟩ := hopen
      rcases endState_identityProvision hid hl out ω cut with ⟨hcut, heff⟩ | ⟨hcut, hend⟩
      · rw [← after_provision] at heff
        have hconfiguration := hinv.configuration.congr
          (heff.frame kConfigurationSlotA (by decide) (by decide))
          (heff.frame kConfigurationSlotB (by decide) (by decide))
        refine ⟨⟨hconfiguration.1, IdentityInvariant.of_effect hid hl heff⟩, ?_⟩
        have hslots := identityStore_empty_iff.mp hl
        rw [Wedged, corrupt_of_effect hid hl heff, hconfiguration.2]
        unfold Wedged TearsFirstWrite
        dsimp only
        constructor
        · rintro (hc | htears)
          · exact Or.inl (Or.inl hc)
          · exact Or.inr ⟨hcut, htears, hslots.1, hslots.2, hid⟩
        · rintro ((hc | hi) | ⟨-, htears, -⟩)
          · exact Or.inl hc
          · rw [hl] at hi
            cases hi
          · exact Or.inr htears
      · rw [after_provision, hend]
        exact ⟨hinv, (or_iff_left fun h => hcut h.1).symm⟩
    · have hafter : StoreStep.after ⟨.provision id out, ω, cut⟩ nvm = nvm :=
        endState_identityProvision_refused
          (by rw [← Bool.not_eq_true, ← not_and_or]; exact hopen) out ω cut
      rw [hafter]
      refine ⟨hinv, (or_iff_left fun h => hopen ?_).symm⟩
      exact ⟨h.2.2.2.2, identityStore_empty_iff.mpr ⟨h.2.2.1, h.2.2.2.1⟩⟩

/-- Every history keeps the invariant, and wedges a store exactly when one of its steps tears a
first write. -/
theorem storesInvariant_storageAfter (steps : List StoreStep) :
    StoresInvariant (storageAfter steps) ∧
      (Wedged (storageAfter steps) ↔ ∃ before step later, steps = before ++ step :: later ∧
        TearsFirstWrite (storageAfter before) step) := by
  induction steps using List.reverseRecOn with
  | nil =>
    refine ⟨storesInvariant_empty, ?_⟩
    have hempty : ¬ Wedged (storageAfter []) := by
      rintro (h | h) <;> cases h
    simp [hempty]
  | append_singleton steps step ih =>
    have hfold : storageAfter (steps ++ [step]) = step.after (storageAfter steps) := by
      simp [storageAfter]
    obtain ⟨hinv, hwedged⟩ := ih
    obtain ⟨hinv', hwedged'⟩ := hinv.step step
    rw [hfold]
    refine ⟨hinv', hwedged'.trans ?_⟩
    rw [hwedged]
    constructor
    · rintro (⟨before, s, later, rfl, htears⟩ | htears)
      · exact ⟨before, s, later ++ [step], by simp, htears⟩
      · exact ⟨steps, step, [], rfl, htears⟩
    · rintro ⟨before, s, later, hsplit, htears⟩
      rcases List.eq_nil_or_concat later with rfl | ⟨rest, last, rfl⟩
      · obtain ⟨rfl, hs⟩ := List.append_inj' hsplit rfl
        cases hs
        exact Or.inr htears
      · have hsplit' : steps ++ [step] = (before ++ s :: rest) ++ [last] := by simpa using hsplit
        obtain ⟨rfl, -⟩ := List.append_inj' hsplit' rfl
        exact Or.inl ⟨before, s, rest, rfl, htears⟩

/-- A loaded identity stays loaded. -/
theorem StoresInvariant.loadsIdentity_step {nvm : Nvm} (hinv : StoresInvariant nvm)
    (step : StoreStep) {id : Text} (h : LoadsIdentity nvm id) :
    LoadsIdentity (step.after nvm) id := by
  obtain ⟨call, ω, cut⟩ := step
  cases call with
  | configure input verified =>
    rcases endState_configurationWrite nvm input verified ω cut with ⟨-, hend⟩ | ⟨-, hend⟩
    · have hstore := (hinv.identity.congr
        (configurationWrite_frame nvm input verified ω kIdentitySlotA (by decide) (by decide))
        (configurationWrite_frame nvm input verified ω kIdentitySlotB (by decide)
          (by decide))).2
      rw [loadsIdentity_iff] at h ⊢
      rw [after_configure, hend, hstore]
      exact h
    · rw [after_configure, hend]
      exact h
  | provision newId out =>
    have hne : (identityStore nvm).load ≠ .empty := by
      obtain ⟨g, v, r, hl, -⟩ := loadsIdentity_iff.mp h
      simp [hl]
    rw [after_provision, endState_identityProvision_refused (Or.inr hne)]
    exact h

/-- Once an identity was loadable it stays so: a node without one never had one. -/
theorem neverIdentified_iff (steps : List StoreStep) :
    NeverIdentified steps ↔ ∀ id, ¬ LoadsIdentity (storageAfter steps) id := by
  constructor
  · intro h
    exact h steps [] (by simp)
  · rintro h before later rfl id hloads
    refine h id ?_
    clear h
    induction later using List.reverseRecOn with
    | nil => simpa using hloads
    | append_singleton later step ih =>
      have hfold : storageAfter (before ++ (later ++ [step])) =
          step.after (storageAfter (before ++ later)) := by
        simp [storageAfter]
      rw [hfold]
      exact (storesInvariant_storageAfter (before ++ later)).1.loadsIdentity_step step ih

/-- **When the stores can be written again.**  After a history of torn, lost and cut writes both
stores are ready if and only if no step tore the first write into an empty store so that bytes
stayed in its slot.
SOURCE: configuration_store.cpp:81-97, node_identity_store.cpp:16-31 -/
theorem stores_ready_iff (steps : List StoreStep) :
    StoresReady steps ↔ ∀ before step later, steps = before ++ step :: later →
      ¬ TearsFirstWrite (storageAfter before) step := by
  obtain ⟨hinv, hwedged⟩ := storesInvariant_storageAfter steps
  rw [StoresReady, neverIdentified_iff, configurationReady_iff hinv.configuration,
    identityReady_iff hinv.identity]
  have hnot : ¬ Wedged (storageAfter steps) ↔ ∀ before step later,
      steps = before ++ step :: later → ¬ TearsFirstWrite (storageAfter before) step := by
    rw [hwedged]
    push Not
    rfl
  rw [← hnot, Wedged, not_or]

/-- One byte is not a record. -/
def Debris.oneByte : Debris :=
  ⟨some [0], fun data h type view => by
    cases h
    simp [decodePersistentRecord, kPersistentHeaderSize]⟩

/-- The first configuration write of a node, cut while one byte of its record was stored. -/
def tornFirstWrite : StoreStep where
  call := .configure smallestConfiguration {}
  faults _ := .tears Debris.oneByte .writeFailed
  cut := some 3

/-- After it, every later write is refused as corrupt. -/
theorem not_storesReady_tornFirstWrite :
    ((configurationWrite smallestConfiguration {}).run healthy (storageAfter [tornFirstWrite])
        fun _ => ()).value.1 = .corrupt ∧
      ¬ StoresReady [tornFirstWrite] := by
  have hstatus : ((configurationWrite smallestConfiguration {}).run healthy
      (storageAfter [tornFirstWrite]) fun _ => ()).value.1 = .corrupt := by decide +kernel
  refine ⟨hstatus, fun hready => ?_⟩
  have hok := (hready.1 smallestConfiguration {} validate_smallestConfiguration).1
  rw [hstatus] at hok
  cases hok

end SeedMg24.Analysis
