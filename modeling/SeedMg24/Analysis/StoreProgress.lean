import SeedMg24.Analysis.IdentitySlots
import SeedMg24.Analysis.ConfigurationFaults

/-!
# Progress of the two stores

Histories that mix configuration writes and provisionings, with torn and lost writes and power
cuts, and which of them leave a store that can be written again.  A store is wedged exactly when
it has no record but something else in a slot: `load` then reports `corrupt`, and the next write
is gated by it.
-/

set_option autoImplicit false

namespace SeedMg24.Analysis

open Foundation Foundation.TwoSlot Model

/-! ## Power cuts -/

section Cuts

variable {φ α : Type} {E : Environment NvmAnswer Nvm φ} (hE : FaithfulReads E)
include hE

theorem crash_readConfigSlot_bind (nvm : Nvm) (key : UInt32) (ω : ℕ → φ)
    (f : ConfigSlot → NvmProgram α) (n : ℕ) :
    (readConfigSlot key >>= f).crash E nvm ω (n + 1) =
      (f (configSlotOf (nvm key))).crash E nvm (Program.later ω) n := by
  simp only [readConfigSlot, backendRead, Program.perform_bind, Program.call_bind,
    Program.crash_call, hE nvm key kPersistentMaxRecord, Nvm.read, configSlotOf]
  cases nvm key with
  | none => rfl
  | some data =>
    by_cases h : data.length > kPersistentMaxRecord
    · simp [h]
    · simp [h]

theorem crash_readIdentity_bind (nvm : Nvm) (key : UInt32) (ω : ℕ → φ)
    (f : SlotIdentity → NvmProgram α) (n : ℕ) :
    (readIdentity key >>= f).crash E nvm ω (n + 1) =
      (f (identitySlotOf (nvm key))).crash E nvm (Program.later ω) n := by
  simp only [readIdentity, backendRead, Program.perform_bind, Program.call_bind,
    Program.crash_call, hE nvm key kPersistentMaxRecord, Nvm.read, identitySlotOf]
  cases nvm key with
  | none => rfl
  | some data =>
    by_cases h : data.length > kPersistentMaxRecord
    · simp [h]
    · simp [h]

theorem crash_configurationLoad_bind (nvm : Nvm) (out : StoredChannelConfiguration) (ω : ℕ → φ)
    (f : StoreStatus × StoredChannelConfiguration → NvmProgram α) (n : ℕ) :
    (configurationLoad out >>= f).crash E nvm ω (n + 2) =
      (f (storedConfigurationOr nvm out)).crash E nvm (Program.later (Program.later ω)) n := by
  simp only [configurationLoad, Program.bind_assoc']
  rw [crash_readConfigSlot_bind hE, crash_readConfigSlot_bind hE]
  rfl

theorem crash_identityLoad_bind (nvm : Nvm) (out : NodeIdentity) (ω : ℕ → φ)
    (f : StoreStatus × NodeIdentity → NvmProgram α) (n : ℕ) :
    (identityLoad out >>= f).crash E nvm ω (n + 2) =
      (f (storedIdentityOr nvm out)).crash E nvm (Program.later (Program.later ω)) n := by
  simp only [identityLoad, Program.bind_assoc']
  rw [crash_readIdentity_bind hE, crash_readIdentity_bind hE]
  rfl

/-- A cut before the backend write of a configuration write leaves the storage as it was. -/
theorem crash_configurationWrite_early (nvm : Nvm) (input verified : StoredChannelConfiguration)
    (ω : ℕ → φ) {n : ℕ} (h : n ≤ 2) :
    (configurationWrite input verified).crash E nvm ω n = nvm := by
  match n, h with
  | 0, _ => exact Program.crash_zero ..
  | 1, _ =>
    rw [configurationWrite, configurationLoad, Program.bind_assoc', crash_readConfigSlot_bind hE,
      Program.crash_zero]
  | 2, _ => rw [configurationWrite, crash_configurationLoad_bind hE, Program.crash_zero]

/-- A later cut leaves what the whole write leaves. -/
theorem crash_configurationWrite_late (nvm : Nvm) (input verified : StoredChannelConfiguration)
    (ω : ℕ → φ) (n : ℕ) :
    (configurationWrite input verified).crash E nvm ω (n + 3) =
      ((configurationWrite input verified).run E nvm ω).state := by
  rw [configurationWrite, crash_configurationLoad_bind hE, Program.run_bind,
    run_configurationLoad hE]
  generalize storedConfigurationOr nvm {} = loaded
  obtain ⟨old, current⟩ := loaded
  dsimp only
  generalize (if old = .ok ∨ old = .recoveredFromPrevious then current.generation + 1 else 1) = g
  rw [encode_configuration]
  split
  · rfl
  split
  · rfl
  simp only [backendWrite, Program.perform_bind, Program.crash_call, Program.run_call]
  generalize E.step nvm _ _ = wrote
  split
  · rfl
  · cases n with
    | zero =>
      rw [Program.crash_zero, Program.run_bind, run_readConfigSlot hE]
      split <;> rfl
    | succ n =>
      rw [crash_readConfigSlot_bind hE, Program.run_bind, run_readConfigSlot hE]
      split <;> rfl

/-- A cut inside an identity write leaves what the write leaves, once its backend write is made. -/
theorem crash_writeIdentity_bind {id : Text} (hid : validNodeId id = true) (nvm : Nvm)
    (key g : UInt32) (checkGeneration : Bool) (ω : ℕ → φ)
    (f : Except StoreStatus NodeIdentity → NvmProgram α) (n : ℕ) :
    let first := (writeIdentity key id g checkGeneration).run E nvm ω
    (writeIdentity key id g checkGeneration >>= f).crash E nvm ω (n + 1) = first.state ∨
      ∃ m, (writeIdentity key id g checkGeneration >>= f).crash E nvm ω (n + 1) =
        (f first.value).crash E first.state first.rest m := by
  dsimp only
  rw [run_writeIdentity hE hid]
  rw [writeIdentity, encode_identity hid]
  simp only [backendWrite, Program.perform_bind, Program.call_bind, Program.crash_call]
  generalize E.step nvm (.write key (identityRecord id g)) (ω 0) = wrote
  by_cases hs : wrote.1 = .ok
  · simp only [identityReadback, hs, ne_eq, not_true_eq_false, if_false, Program.bind_assoc']
    cases n with
    | zero => exact Or.inl (Program.crash_zero ..)
    | succ n =>
      refine Or.inr ⟨n, ?_⟩
      rw [crash_readIdentity_bind hE]
      split <;> rfl
  · simp only [identityReadback, ne_eq, hs, not_false_eq_true, if_true]
    exact Or.inr ⟨n, rfl⟩

/-- A cut before the first backend write of a provisioning leaves the storage as it was. -/
theorem crash_identityProvision_early (nvm : Nvm) (id : Text) (out : NodeIdentity) (ω : ℕ → φ)
    {n : ℕ} (h : n ≤ 2) : (identityProvision id out).crash E nvm ω n = nvm := by
  cases hid : validNodeId id with
  | false =>
    rw [identityProvision, hid]
    rfl
  | true =>
    rw [identityProvision, hid]
    simp only [Bool.not_true, Bool.false_eq_true, if_false]
    obtain rfl | rfl | rfl : n = 0 ∨ n = 1 ∨ n = 2 := by omega
    · exact Program.crash_zero ..
    · rw [identityLoad, Program.bind_assoc', crash_readIdentity_bind hE, Program.crash_zero]
    · rw [crash_identityLoad_bind hE, Program.crash_zero]

/-- A store that is not empty is left alone, cut or not. -/
theorem crash_identityProvision_refused {nvm : Nvm} (hl : (identityStore nvm).load ≠ .empty)
    (id : Text) (out : NodeIdentity) (ω : ℕ → φ) (n : ℕ) :
    (identityProvision id out).crash E nvm ω n = nvm := by
  by_cases hn : n ≤ 2
  · exact crash_identityProvision_early hE nvm id out ω hn
  obtain ⟨m, rfl⟩ : ∃ m, n = m + 2 := ⟨n - 2, by omega⟩
  cases hid : validNodeId id with
  | false =>
    rw [identityProvision, hid]
    rfl
  | true =>
    rw [identityProvision, hid]
    simp only [Bool.not_true, Bool.false_eq_true, if_false]
    rw [crash_identityLoad_bind hE, storedIdentityOr_eq]
    cases hs : (identityStore nvm).load with
    | empty => exact absurd hs hl
    | corrupt => rfl
    | conflict => rfl
    | found g v r => cases r <;> rfl

/-- What is done after the second copy was written. -/
def afterSecondWrite (out : NodeIdentity) :
    Except StoreStatus NodeIdentity → NvmProgram (StoreStatus × NodeIdentity)
  | .error s => .done (s, out)
  | .ok verify => .done (.ok, verify)

/-- What is done after the first copy was written. -/
def afterFirstWrite (id : Text) (out : NodeIdentity) :
    Except StoreStatus NodeIdentity → NvmProgram (StoreStatus × NodeIdentity)
  | .error s => .done (s, out)
  | .ok _ => writeIdentity kIdentitySlotB id 2 true >>= afterSecondWrite out

/-- A later cut of a provisioning leaves what its first identity write leaves, or what the whole
provisioning does. -/
theorem crash_identityProvision_late {id : Text} (hid : validNodeId id = true) {nvm : Nvm}
    (hl : (identityStore nvm).load = .empty) (out : NodeIdentity) (ω : ℕ → φ) (n : ℕ) :
    let first := (writeIdentity kIdentitySlotA id 1 false).run E nvm fun i => ω (i + 2)
    (identityProvision id out).crash E nvm ω (n + 3) = first.state ∨
      (identityProvision id out).crash E nvm ω (n + 3) =
        ((identityProvision id out).run E nvm ω).state := by
  dsimp only
  rw [run_identityProvision hE hid hl]
  have hcrash : (identityProvision id out).crash E nvm ω (n + 3) =
      (writeIdentity kIdentitySlotA id 1 false >>= afterFirstWrite id out).crash E nvm
        (fun i => ω (i + 2)) (n + 1) := by
    rw [identityProvision, hid]
    simp only [Bool.not_true, Bool.false_eq_true, if_false]
    rw [crash_identityLoad_bind hE, storedIdentityOr_eq, hl]
    rfl
  rw [hcrash]
  rcases crash_writeIdentity_bind hE hid nvm kIdentitySlotA 1 false (fun i => ω (i + 2))
    (afterFirstWrite id out) n with h | ⟨m, h⟩
  · exact Or.inl h
  · rw [h]
    generalize (writeIdentity kIdentitySlotA id 1 false).run E nvm (fun i => ω (i + 2)) = first
    cases hv : first.value with
    | error s => exact Or.inl rfl
    | ok v =>
      cases m with
      | zero => exact Or.inl (Program.crash_zero ..)
      | succ m =>
        right
        rcases crash_writeIdentity_bind hE hid first.state kIdentitySlotB 2 true first.rest
          (afterSecondWrite out) m with h' | ⟨k, h'⟩
        · exact h'
        · rw [afterFirstWrite, h']
          cases ((writeIdentity kIdentitySlotB id 2 true).run E first.state first.rest).value <;> rfl

end Cuts

/-! ## Histories -/

/-- One call on one of the stores. -/
inductive StoreCall where
  | configure (input verified : StoredChannelConfiguration)
  | provision (id : Text) (out : NodeIdentity)

/-- A call, what the backend does meanwhile, and after how many backend operations the power is
cut, if it is. -/
structure StoreStep where
  call : StoreCall
  faults : ℕ → WriteFault
  cut : Option ℕ

/-- What a program leaves in the storage, cut or not. -/
def endState {α : Type} (p : NvmProgram α) (nvm : Nvm) (ω : ℕ → WriteFault) : Option ℕ → Nvm
  | none => (p.run tearing nvm ω).state
  | some n => p.crash tearing nvm ω n

/-- The storage after one step. -/
def StoreStep.after (step : StoreStep) (nvm : Nvm) : Nvm :=
  match step.call with
  | .configure input verified =>
    endState (configurationWrite input verified) nvm step.faults step.cut
  | .provision id out => endState (identityProvision id out) nvm step.faults step.cut

@[simp] theorem after_configure (input verified : StoredChannelConfiguration)
    (ω : ℕ → WriteFault) (cut : Option ℕ) (nvm : Nvm) :
    StoreStep.after ⟨.configure input verified, ω, cut⟩ nvm =
      endState (configurationWrite input verified) nvm ω cut := rfl

@[simp] theorem after_provision (id : Text) (out : NodeIdentity) (ω : ℕ → WriteFault)
    (cut : Option ℕ) (nvm : Nvm) :
    StoreStep.after ⟨.provision id out, ω, cut⟩ nvm =
      endState (identityProvision id out) nvm ω cut := rfl

/-- The storage after a history that starts from empty storage. -/
def storageAfter (steps : List StoreStep) : Nvm :=
  steps.foldl (fun nvm step => step.after nvm) Nvm.empty

/-- The power stays on for the first backend write, which comes after two reads. -/
def FirstWriteMade (cut : Option ℕ) : Prop := ∀ n, cut = some n → 2 < n

/-- The first write into an empty store, torn so that something stays in its slot. -/
def TearsFirstWrite (nvm : Nvm) (step : StoreStep) : Prop :=
  FirstWriteMade step.cut ∧
    (∃ left status, step.faults 2 = .tears left status ∧ left.val ≠ none) ∧
    match step.call with
    | .configure input _ => nvm kConfigurationSlotA = none ∧ nvm kConfigurationSlotB = none ∧
        validateStoredConfiguration (sealConfiguration input 1) = true
    | .provision id _ => nvm kIdentitySlotA = none ∧ nvm kIdentitySlotB = none ∧
        validNodeId id = true

/-! ## Configuration steps -/

theorem configurationStore_empty_iff {nvm : Nvm} : (configurationStore nvm).load = .empty ↔
    nvm kConfigurationSlotA = none ∧ nvm kConfigurationSlotB = none := by
  rw [Store.load_eq_empty_iff]
  exact and_congr absent_configSlotOf_iff absent_configSlotOf_iff

/-- A configuration step leaves the storage alone or leaves what the whole write does. -/
theorem endState_configurationWrite (nvm : Nvm) (input verified : StoredChannelConfiguration)
    (ω : ℕ → WriteFault) (cut : Option ℕ) :
    (FirstWriteMade cut ∧ endState (configurationWrite input verified) nvm ω cut =
        ((configurationWrite input verified).run tearing nvm ω).state) ∨
      (¬ FirstWriteMade cut ∧ endState (configurationWrite input verified) nvm ω cut = nvm) := by
  cases cut with
  | none => exact Or.inl ⟨fun n h => by (cases h), rfl⟩
  | some n =>
    by_cases hn : n ≤ 2
    · refine Or.inr ⟨fun h => absurd (h n rfl) (by omega), ?_⟩
      exact crash_configurationWrite_early tearing_faithful nvm input verified ω hn
    · obtain ⟨m, rfl⟩ : ∃ m, n = m + 3 := ⟨n - 3, by omega⟩
      refine Or.inl ⟨fun k hk => by cases hk; omega, ?_⟩
      exact crash_configurationWrite_late tearing_faithful nvm input verified ω m

/-- A configuration write only changes the configuration slots. -/
theorem configurationWrite_frame (nvm : Nvm) (input verified : StoredChannelConfiguration)
    (ω : ℕ → WriteFault) (key : UInt32) (hA : key ≠ kConfigurationSlotA)
    (hB : key ≠ kConfigurationSlotB) :
    ((configurationWrite input verified).run tearing nvm ω).state key = nvm key := by
  have hkey : ∀ g, key ≠ configurationTarget g := by
    intro g
    rw [configurationTarget_eq]
    split <;> assumption
  rcases configurationWrite_cases nvm input verified ω with ⟨hstate, -⟩ | ⟨g, -, -, heff, -⟩
  · rw [hstate]
  · generalize ((configurationWrite input verified).run tearing nvm ω).state = after at heff
    cases heff with
    | completed => exact Nvm.put_of_ne (hkey g)
    | ignored => rfl
    | torn left => exact Nvm.put_of_ne (hkey g)

/-- **What wedges the configuration store.**  Only its first write, torn. -/
theorem corrupt_after_configurationWrite {nvm : Nvm} (hinv : SlotInvariant nvm)
    (input verified : StoredChannelConfiguration) (ω : ℕ → WriteFault) :
    (configurationStore ((configurationWrite input verified).run tearing nvm ω).state).load =
        .corrupt ↔
      (configurationStore nvm).load = .corrupt ∨
        ((configurationStore nvm).load = .empty ∧ settingsInRange input = true ∧
          ∃ left status, ω 2 = .tears left status ∧ left.val ≠ none) := by
  cases hl : (configurationStore nvm).load with
  | corrupt =>
    have hnext : nextConfigurationGeneration nvm = none := by
      rw [nextConfigurationGeneration, hl]
      rfl
    simp [run_configurationWrite_gated tearing_faithful hnext, hl]
  | conflict => exact absurd hl hinv.coherent.load_ne_conflict
  | found k current recovered =>
    obtain ⟨g, v, r, hafter, -⟩ := hinv.load_after hl input verified ω
    simp [hafter]
  | empty =>
    have hnext : nextConfigurationGeneration nvm = some 1 := by
      rw [nextConfigurationGeneration, hl]
      rfl
    cases hr : settingsInRange input with
    | false => simp [run_configurationWrite_invalid tearing_faithful hnext hr, hl]
    | true =>
      have hrun := run_configurationWrite tearing_faithful hnext hr verified ω
      dsimp only at hrun
      rw [hrun]
      cases hω : ω 2 with
      | completes status =>
        have heff : (tearing.step nvm (.write (configurationTarget 1) (configurationRecord input 1))
          (.completes status)).2 = nvm.put (configurationTarget 1)
            (some (configurationRecord input 1)) := rfl
        obtain ⟨r, hnew⟩ := hinv.coherent.load_after_write (v := sealConfiguration input 1) hnext
        dsimp only
        rw [heff, configurationStore_put, configSlotOf_record hr]
        simp [ConfigSlot.toSlot, hnew]
      | ignored status =>
        have heff : (tearing.step nvm (.write (configurationTarget 1) (configurationRecord input 1))
          (.ignored status)).2 = nvm := rfl
        dsimp only
        simp [heff, hl]
      | tears left status =>
        have heff : (tearing.step nvm (.write (configurationTarget 1) (configurationRecord input 1))
          (.tears left status)).2 = nvm.put (configurationTarget 1) left.val := rfl
        have hslots := Store.load_eq_empty_iff.mp hl
        have hodd : GenerationOrder.isOdd (1 : UInt32) = true := by decide
        dsimp only
        rw [heff, configurationStore_put, Store.load_eq_corrupt_iff, Store.set, if_pos hodd]
        simp [hslots.2, toSlot_debris left, absent_configSlotOf_iff]

/-! ## Identity steps -/

/-- What histories leave in the identity slots: slot B is only written over a sound slot A. -/
inductive IdentityContents : Option (List UInt8) → Option (List UInt8) → Prop
  | unwritten (left : Debris) : IdentityContents left.val none
  | first (id : Text) (hid : validNodeId id = true) (left : Debris) :
      IdentityContents (some (identityRecord id 1)) left.val
  | both (id : Text) (hid : validNodeId id = true) :
      IdentityContents (some (identityRecord id 1)) (some (identityRecord id 2))

/-- The identity slots of every storage a history can lead to. -/
def IdentityInvariant (nvm : Nvm) : Prop :=
  IdentityContents (nvm kIdentitySlotA) (nvm kIdentitySlotB)

theorem identityStore_empty_iff {nvm : Nvm} : (identityStore nvm).load = .empty ↔
    nvm kIdentitySlotA = none ∧ nvm kIdentitySlotB = none := by
  rw [Store.load_eq_empty_iff]
  exact and_congr absent_identitySlotOf_iff absent_identitySlotOf_iff

/-- A slot written under a generation holds the identity. -/
theorem toSlot_identityRecord {id : Text} (hid : validNodeId id = true) (g : UInt32) :
    SlotIdentity.toSlot (identitySlotOf (some (identityRecord id g))) =
      .holds g (sealIdentity id g) := by
  rw [identitySlotOf_record hid]
  rfl

/-- An identity store in its invariant is empty, wedged by debris, or loads its id. -/
theorem IdentityInvariant.load_cases {nvm : Nvm} (hinv : IdentityInvariant nvm) :
    (nvm kIdentitySlotA = none ∧ (identityStore nvm).load = .empty) ∨
      (nvm kIdentitySlotA ≠ none ∧ (identityStore nvm).load = .corrupt) ∨
      ∃ id g r, validNodeId id = true ∧ nvm kIdentitySlotA = some (identityRecord id 1) ∧
        (identityStore nvm).load = .found g (sealIdentity id g) r := by
  unfold IdentityInvariant at hinv
  generalize ha : nvm kIdentitySlotA = a at hinv
  generalize hb : nvm kIdentitySlotB = b at hinv
  cases hinv with
  | unwritten left =>
    cases hleft : left.val with
    | none => exact Or.inl ⟨rfl, identityStore_empty_iff.mpr ⟨ha.trans hleft, hb⟩⟩
    | some data =>
      refine Or.inr (Or.inl ⟨by simp, ?_⟩)
      have hdebris := toSlot_debris_identity left
      have habsent : SlotIdentity.toSlot (identitySlotOf none) = .absent := rfl
      rw [Store.load_eq_corrupt_iff]
      simp only [identityStore, ha, hb, habsent, absent_identitySlotOf_iff]
      exact ⟨hdebris, by simp, by simp [hleft]⟩
  | first id hid left =>
    refine Or.inr (Or.inr ⟨id, 1, ?_⟩)
    cases hslot : SlotIdentity.toSlot (identitySlotOf left.val) with
    | holds g v => exact absurd hslot (toSlot_debris_identity left g v)
    | absent =>
      exact ⟨false, hid, rfl, by
        simp [identityStore, Store.load, ha, hb, toSlot_identityRecord hid, hslot]⟩
    | damaged =>
      exact ⟨true, hid, rfl, by
        simp [identityStore, Store.load, ha, hb, toSlot_identityRecord hid, hslot]⟩
  | both id hid =>
    have hnewer : GenerationOrder.newer (2 : UInt32) 1 = true := by decide
    refine Or.inr (Or.inr ⟨id, 2, false, hid, rfl, ?_⟩)
    simp [identityStore, Store.load, ha, hb, toSlot_identityRecord hid, hnewer]

/-- What a provisioning of an empty store can leave, by the fault of its first write. -/
inductive ProvisionEffect (nvm : Nvm) (id : Text) : WriteFault → Nvm → Prop
  | torn (left : Debris) (status : StoreStatus) :
      ProvisionEffect nvm id (.tears left status) (nvm.put kIdentitySlotA left.val)
  | ignored (status : StoreStatus) : ProvisionEffect nvm id (.ignored status) nvm
  | first (status : StoreStatus) : ProvisionEffect nvm id (.completes status)
      (nvm.put kIdentitySlotA (some (identityRecord id 1)))
  | second (status : StoreStatus) (left : Debris) : ProvisionEffect nvm id (.completes status)
      ((nvm.put kIdentitySlotA (some (identityRecord id 1))).put kIdentitySlotB left.val)
  | both (status : StoreStatus) : ProvisionEffect nvm id (.completes status)
      ((nvm.put kIdentitySlotA (some (identityRecord id 1))).put kIdentitySlotB
        (some (identityRecord id 2)))

/-- The first identity write of a provisioning has an effect of its fault, and lets the second one
follow only if it completed. -/
theorem first_writeIdentity {nvm : Nvm} {id : Text} (hid : validNodeId id = true)
    (hA : nvm kIdentitySlotA = none) (ω : ℕ → WriteFault) :
    let first := (writeIdentity kIdentitySlotA id 1 false).run tearing nvm ω
    ProvisionEffect nvm id (ω 0) first.state ∧
      (∀ v, first.value = .ok v → ∃ status, ω 0 = .completes status ∧
        first.state = nvm.put kIdentitySlotA (some (identityRecord id 1))) := by
  have hrun := run_writeIdentity tearing_faithful hid nvm kIdentitySlotA 1 false ω
  dsimp only at hrun ⊢
  rw [hrun]
  cases hω : ω 0 with
  | completes status =>
    exact ⟨.first status, fun _ _ => ⟨status, rfl, rfl⟩⟩
  | ignored status =>
    refine ⟨.ignored status, fun v hv => ?_⟩
    have hstate : (tearing.step nvm (.write kIdentitySlotA (identityRecord id 1))
      (.ignored status)) = (status, nvm) := rfl
    simp only [hstate, identityReadback, hA, identitySlotOf] at hv
    split at hv
    · cases hv
    · simp at hv
  | tears left status =>
    refine ⟨.torn left status, fun v hv => ?_⟩
    have hstate : (tearing.step nvm (.write kIdentitySlotA (identityRecord id 1))
      (.tears left status)) = (status, nvm.put kIdentitySlotA left.val) := rfl
    have hdebris : (identitySlotOf left.val).status ≠ .ok := by
      intro hok
      refine toSlot_debris_identity left (identitySlotOf left.val).value.generation
        (identitySlotOf left.val).value ?_
      rw [SlotIdentity.toSlot, if_pos hok]
    simp only [hstate, identityReadback, Nvm.put_same] at hv
    split at hv
    · cases hv
    · simp [hdebris] at hv

/-- A provisioning of an empty store has an effect of the fault of its first write, cut or not. -/
theorem endState_identityProvision {nvm : Nvm} {id : Text} (hid : validNodeId id = true)
    (hl : (identityStore nvm).load = .empty) (out : NodeIdentity) (ω : ℕ → WriteFault)
    (cut : Option ℕ) :
    (FirstWriteMade cut ∧
        ProvisionEffect nvm id (ω 2) (endState (identityProvision id out) nvm ω cut)) ∨
      (¬ FirstWriteMade cut ∧ endState (identityProvision id out) nvm ω cut = nvm) := by
  have hA := (identityStore_empty_iff.mp hl).1
  obtain ⟨hfirst, hnext⟩ := first_writeIdentity hid hA fun i => ω (i + 2)
  have hrun := run_identityProvision tearing_faithful hid hl out ω
  dsimp only at hfirst hnext hrun
  have hwhole : ProvisionEffect nvm id (ω 2)
      ((identityProvision id out).run tearing nvm ω).state := by
    rw [hrun]
    generalize hf : (writeIdentity kIdentitySlotA id 1 false).run tearing nvm
      (fun i => ω (i + 2)) = first at hfirst hnext
    cases hv : first.value with
    | error s => exact hfirst
    | ok v =>
      obtain ⟨status, hω, hstate⟩ := hnext v hv
      have hω : ω 2 = .completes status := hω
      dsimp only
      rw [hω, run_writeIdentity tearing_faithful hid, hstate]
      cases first.rest 0 with
      | completes s => exact .both status
      | ignored s => exact .first status
      | tears left s => exact .second status left
  cases cut with
  | none => exact Or.inl ⟨fun n h => by (cases h), hwhole⟩
  | some n =>
    by_cases hn : n ≤ 2
    · refine Or.inr ⟨fun h => absurd (h n rfl) (by omega), ?_⟩
      exact crash_identityProvision_early tearing_faithful nvm id out ω hn
    · obtain ⟨m, rfl⟩ : ∃ m, n = m + 3 := ⟨n - 3, by omega⟩
      refine Or.inl ⟨fun k hk => by cases hk; omega, ?_⟩
      rcases crash_identityProvision_late tearing_faithful hid hl out ω m with h | h
      · exact (show endState (identityProvision id out) nvm ω (some (m + 3)) = _ from h) ▸ hfirst
      · exact (show endState (identityProvision id out) nvm ω (some (m + 3)) = _ from h) ▸ hwhole

/-- A provisioning of a store that is not empty, or of an invalid id, changes nothing. -/
theorem endState_identityProvision_refused {nvm : Nvm} {id : Text}
    (h : validNodeId id = false ∨ (identityStore nvm).load ≠ .empty) (out : NodeIdentity)
    (ω : ℕ → WriteFault) (cut : Option ℕ) :
    endState (identityProvision id out) nvm ω cut = nvm := by
  cases hid : validNodeId id with
  | false =>
    unfold endState identityProvision
    rw [hid]
    cases cut <;> rfl
  | true =>
    have hl : (identityStore nvm).load ≠ .empty := by simpa [hid] using h
    cases cut with
    | none =>
      obtain ⟨s, -, hrun⟩ := run_identityProvision_refused tearing_faithful hid hl out ω
      rw [endState, hrun]
    | some n => exact crash_identityProvision_refused tearing_faithful hl id out ω n

/-- Every effect of a provisioning keeps the identity invariant. -/
theorem IdentityInvariant.of_effect {nvm after : Nvm} {id : Text} (hid : validNodeId id = true)
    (hl : (identityStore nvm).load = .empty) {f : WriteFault}
    (h : ProvisionEffect nvm id f after) : IdentityInvariant after := by
  have hAB : kIdentitySlotA ≠ kIdentitySlotB := by decide
  obtain ⟨hA, hB⟩ := identityStore_empty_iff.mp hl
  unfold IdentityInvariant
  cases h with
  | torn left status =>
    rw [Nvm.put_same, Nvm.put_of_ne hAB.symm, hB]
    exact .unwritten left
  | ignored status =>
    rw [hA, hB]
    exact .unwritten Debris.nothing
  | first status =>
    rw [Nvm.put_same, Nvm.put_of_ne hAB.symm, hB]
    exact .first id hid Debris.nothing
  | second status left =>
    rw [Nvm.put_same, Nvm.put_of_ne hAB, Nvm.put_same]
    exact .first id hid left
  | both status =>
    rw [Nvm.put_same, Nvm.put_of_ne hAB, Nvm.put_same]
    exact .both id hid

/-- **What wedges the identity store.**  Only its first write, torn. -/
theorem corrupt_of_effect {nvm after : Nvm} {id : Text} (hid : validNodeId id = true)
    (hl : (identityStore nvm).load = .empty) {f : WriteFault}
    (h : ProvisionEffect nvm id f after) :
    (identityStore after).load = .corrupt ↔
      ∃ left status, f = .tears left status ∧ left.val ≠ none := by
  have hAB : kIdentitySlotA ≠ kIdentitySlotB := by decide
  have hinv := IdentityInvariant.of_effect hid hl h
  cases h with
  | torn left status =>
    rcases hinv.load_cases with ⟨ha, hload⟩ | ⟨ha, hload⟩ | ⟨id', g, r, hid', ha, hload⟩
    · rw [Nvm.put_same] at ha
      rw [hload]
      simp [ha]
    · rw [Nvm.put_same] at ha
      simp [hload, ha]
    · rw [Nvm.put_same] at ha
      have hslot := toSlot_debris_identity left 1 (sealIdentity id' 1)
      rw [ha, toSlot_identityRecord hid'] at hslot
      exact absurd rfl hslot
  | ignored status => simp [hl]
  | _ =>
    rcases hinv.load_cases with ⟨ha, hload⟩ | ⟨-, hload⟩ | ⟨_, g, r, -, -, hload⟩
    · simp [Nvm.put_of_ne hAB] at ha
    · exfalso
      revert hload
      simp only [Store.load_eq_corrupt_iff]
      intro hload
      refine hload.1 1 (sealIdentity id 1) ?_
      simp [identityStore, Nvm.put_of_ne hAB, toSlot_identityRecord hid]
    · simp [hload]

/-- A provisioning only changes the identity slots. -/
theorem ProvisionEffect.frame {nvm after : Nvm} {id : Text} {f : WriteFault}
    (h : ProvisionEffect nvm id f after) (key : UInt32) (hA : key ≠ kIdentitySlotA)
    (hB : key ≠ kIdentitySlotB) : after key = nvm key := by
  cases h with
  | torn left status => exact Nvm.put_of_ne hA
  | ignored status => rfl
  | first status => exact Nvm.put_of_ne hA
  | second status left => rw [Nvm.put_of_ne hB, Nvm.put_of_ne hA]
  | both status => rw [Nvm.put_of_ne hB, Nvm.put_of_ne hA]

end SeedMg24.Analysis
