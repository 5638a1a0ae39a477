import SeedMg24.Model.ConfigurationStore
import SeedMg24.Analysis.RecordRoundTrip
import SeedMg24.Foundation.TwoSlot

/-!
# The configuration store as a two-slot store

Slot A is the slot of the odd generations, slot B that of the even ones.  `configurationStore`
reads the two slots of the storage as a `TwoSlot.Store`; `selectConfigSlot_eq` says that the
firmware's choice between them is the abstract one, and `run_configurationWrite` what one
`write` does, whatever the backend makes of its one backend write.
-/

set_option autoImplicit false

namespace SeedMg24.Analysis

open Foundation Foundation.TwoSlot Model

/-! ## Generations -/

/-- The 32-bit generations: they wrap, and neighbours still alternate. -/
instance : GenerationOrder UInt32 where
  first := 1
  succ g := g + 1
  isOdd g := decide (g.toNat % 2 = 1)
  newer := generationNewer
  isOdd_first := by decide
  isOdd_succ g := by
    have hg := g.toNat_lt
    have hsucc : (g + 1).toNat = (g.toNat + 1) % 2 ^ 32 := by simp
    by_cases h : g.toNat % 2 = 1 <;> simp [hsucc, h] <;> omega
  newer_succ g := by
    have hd : g + 1 - g = 1 := by grind
    simp [generationNewer, hd]
  not_newer_succ g := by
    have hd : g - (g + 1) = -1 := by grind
    simp only [generationNewer, hd]
    decide

/-- Odd generations go to slot A. -/
theorem configurationTarget_eq (g : UInt32) :
    configurationTarget g =
      if GenerationOrder.isOdd g then kConfigurationSlotA else kConfigurationSlotB := by
  have hbit : (g &&& 1 ≠ 0) ↔ g.toNat % 2 = 1 := by
    rw [Ne, ← UInt32.toNat_inj]
    simp [Nat.and_one_is_mod]
  unfold configurationTarget
  rw [if_congr hbit rfl rfl]
  simp [GenerationOrder.isOdd]

/-! ## Faithful reads -/

/-- Reads answer with what is stored and change nothing. -/
def FaithfulReads {φ : Type} (E : Environment NvmAnswer Nvm φ) : Prop :=
  ∀ nvm key capacity f, E.step nvm (.read key capacity) f = (nvm.read key capacity, nvm)

theorem healthy_faithful : FaithfulReads healthy := fun _ _ _ _ => rfl

theorem tearing_faithful : FaithfulReads tearing := fun _ _ _ _ => rfl

theorem failing_faithful : FaithfulReads failing := fun _ _ _ _ => rfl

/-- What `readConfigSlot` makes of the content of a slot. -/
def configSlotOf : Option (List UInt8) → ConfigSlot
  | none => { status := .notFound }
  | some data =>
    if data.length > kPersistentMaxRecord then { status := .sizeExceeded } else parseConfigSlot data

/-- What `configurationLoad` finds. -/
def storedConfigurationOr (nvm : Nvm) (out : StoredChannelConfiguration) :
    StoreStatus × StoredChannelConfiguration :=
  selectConfigSlot (configSlotOf (nvm kConfigurationSlotA)) (configSlotOf (nvm kConfigurationSlotB))
    out

section Reads

variable {φ : Type} {E : Environment NvmAnswer Nvm φ} (hE : FaithfulReads E)
include hE

theorem run_readConfigSlot (nvm : Nvm) (key : UInt32) (ω : ℕ → φ) :
    (readConfigSlot key).run E nvm ω = ⟨configSlotOf (nvm key), nvm, Program.later ω⟩ := by
  simp only [readConfigSlot, backendRead, Program.perform_bind, Program.run_call,
    hE nvm key kPersistentMaxRecord, Nvm.read, configSlotOf]
  cases nvm key with
  | none => rfl
  | some data =>
    by_cases h : data.length > kPersistentMaxRecord
    · simp [h]
    · simp [h]

theorem run_configurationLoad (nvm : Nvm) (out : StoredChannelConfiguration) (ω : ℕ → φ) :
    (configurationLoad out).run E nvm ω =
      ⟨storedConfigurationOr nvm out, nvm, Program.later (Program.later ω)⟩ := by
  simp only [configurationLoad, Program.run_bind, run_readConfigSlot hE, Program.pure_eq_done,
    Program.run_done, storedConfigurationOr]

end Reads

/-! ## The abstract store -/

/-- A slot as the two-slot store sees it. -/
def ConfigSlot.toSlot (c : ConfigSlot) : Slot UInt32 StoredChannelConfiguration :=
  if c.status = .ok then .holds c.generation c.value
  else if c.status = .notFound then .absent
  else .damaged

/-- The two configuration slots of the storage. -/
def configurationStore (nvm : Nvm) : Store UInt32 StoredChannelConfiguration :=
  ⟨ConfigSlot.toSlot (configSlotOf (nvm kConfigurationSlotA)),
    ConfigSlot.toSlot (configSlotOf (nvm kConfigurationSlotB))⟩

/-- What `load` returns for an abstract result. -/
def loadedConfiguration (out : StoredChannelConfiguration) :
    Loaded UInt32 StoredChannelConfiguration → StoreStatus × StoredChannelConfiguration
  | .empty => (.notFound, out)
  | .corrupt => (.corrupt, out)
  | .conflict => (.generationConflict, out)
  | .found _ value recovered => (if recovered then .recoveredFromPrevious else .ok, value)

/-- **Refinement of `load`.**  The firmware chooses between its slots as the abstract store. -/
theorem storedConfigurationOr_eq (nvm : Nvm) (out : StoredChannelConfiguration) :
    storedConfigurationOr nvm out = loadedConfiguration out (configurationStore nvm).load := by
  unfold storedConfigurationOr configurationStore
  generalize configSlotOf (nvm kConfigurationSlotA) = a
  generalize configSlotOf (nvm kConfigurationSlotB) = b
  unfold selectConfigSlot ConfigSlot.toSlot Store.load
  by_cases ha : a.status = .ok
  · by_cases hb : b.status = .ok
    · by_cases hg : a.generation = b.generation
      · simp [ha, hb, hg, loadedConfiguration]
      · by_cases hn : GenerationOrder.newer b.generation a.generation = true
        · have hn' : generationNewer b.generation a.generation = true := hn
          simp [ha, hb, hg, hn, hn', loadedConfiguration]
        · have hn' : ¬ generationNewer b.generation a.generation = true := hn
          simp [ha, hb, hg, hn, hn', loadedConfiguration]
    · by_cases hb' : b.status = .notFound
      · simp [ha, hb', loadedConfiguration]
      · simp [ha, hb, hb', loadedConfiguration]
  · by_cases hb : b.status = .ok
    · by_cases ha' : a.status = .notFound
      · simp [ha', hb, loadedConfiguration]
      · simp [ha, ha', hb, loadedConfiguration]
    · by_cases ha' : a.status = .notFound <;> by_cases hb' : b.status = .notFound <;>
        simp [ha, ha', hb, hb', loadedConfiguration]

/-- The decoder never fails with the status of a success, nor as if nothing were stored. -/
theorem decode_error {record : List UInt8} {type : PersistentRecordType} {s : StoreStatus}
    (h : decodePersistentRecord record type = .error s) : s ≠ .ok ∧ s ≠ .notFound := by
  unfold decodePersistentRecord at h
  dsimp only at h
  repeat' split at h
  all_goals cases h
  all_goals decide

/-- A readable slot holds a valid configuration of the slot's generation. -/
theorem parseConfigSlot_ok {record : List UInt8} (h : (parseConfigSlot record).status = .ok) :
    (parseConfigSlot record).value.generation = (parseConfigSlot record).generation ∧
      validateStoredConfiguration (parseConfigSlot record).value = true := by
  unfold parseConfigSlot at h ⊢
  cases hd : decodePersistentRecord record .configuration with
  | error s =>
    simp only [hd] at h
    exact absurd h (decode_error hd).1
  | ok view =>
    simp only [hd] at h ⊢
    split_ifs at h ⊢ with h1 h2
    simp only [not_or, not_not, Bool.not_eq_true] at h2
    exact ⟨h2.1, by simpa using h2.2⟩

/-- Bytes never parse as if nothing were stored. -/
theorem parseConfigSlot_ne_notFound (record : List UInt8) :
    (parseConfigSlot record).status ≠ .notFound := by
  unfold parseConfigSlot
  cases hd : decodePersistentRecord record .configuration with
  | error s => exact (decode_error hd).2
  | ok view =>
    simp only
    split_ifs <;> simp

/-- A slot holding a record holds a valid configuration of the record's generation. -/
theorem holds_configSlotOf {content : Option (List UInt8)} {g : UInt32}
    {v : StoredChannelConfiguration}
    (h : ConfigSlot.toSlot (configSlotOf content) = .holds g v) :
    v.generation = g ∧ validateStoredConfiguration v = true := by
  unfold ConfigSlot.toSlot at h
  split_ifs at h with hok
  cases h
  cases content with
  | none => cases hok
  | some data =>
    simp only [configSlotOf] at hok ⊢
    split_ifs at hok ⊢
    exact parseConfigSlot_ok hok

/-- A slot is absent for `load` exactly when nothing is stored there. -/
theorem absent_configSlotOf_iff {content : Option (List UInt8)} :
    ConfigSlot.toSlot (configSlotOf content) = .absent ↔ content = none := by
  unfold ConfigSlot.toSlot
  cases content with
  | none => simp [configSlotOf]
  | some data =>
    simp only [configSlotOf, reduceCtorEq, iff_false]
    split_ifs with h1 h2 h3 <;> simp_all [parseConfigSlot_ne_notFound]

/-- The loaded configuration is valid and carries the generation of its slot. -/
theorem generation_of_found {nvm : Nvm} {g : UInt32} {v : StoredChannelConfiguration} {r : Bool}
    (h : (configurationStore nvm).load = .found g v r) :
    v.generation = g ∧ validateStoredConfiguration v = true := by
  rcases Store.holds_of_load h with ho | he
  · exact holds_configSlotOf ho
  · exact holds_configSlotOf he

/-! ## Written records -/

/-- The bounds `validate_stored_configuration` puts on the settings. -/
def settingsInRange (v : StoredChannelConfiguration) : Bool :=
  v.enabled ≤ 1 && 10 ≤ v.sampleIntervalMs && v.sampleIntervalMs ≤ 5000 &&
  10 ≤ v.processingIntervalMs && v.processingIntervalMs ≤ 5000 &&
  50 ≤ v.reportIntervalMs && v.reportIntervalMs ≤ 5000 &&
  1000 ≤ v.heartbeatIntervalMs && v.heartbeatIntervalMs ≤ 3600000 &&
  v.filterType ≤ FilterType.digitalDebounce && 1 ≤ v.filterWindow && v.filterWindow ≤ 9

/-- Validation is the envelope and the bounds. -/
theorem validateStoredConfiguration_iff (v : StoredChannelConfiguration) :
    validateStoredConfiguration v = true ↔
      v.magic = CONFIG_MAGIC ∧ v.schemaVersion = 1 ∧ v.checksum = configurationChecksum v ∧
        settingsInRange v = true := by
  unfold validateStoredConfiguration settingsInRange
  simp only [Bool.and_eq_true, decide_eq_true_eq, ← UInt32.not_lt, ← UInt8.not_lt, gt_iff_lt]
  split_ifs with h1 h2 h3 h4 h5 h6
  all_goals grind

/-- A sealed configuration is valid exactly when its settings are in range. -/
theorem validate_sealConfiguration (input : StoredChannelConfiguration) (g : UInt32) :
    validateStoredConfiguration (sealConfiguration input g) = settingsInRange input := by
  rw [Bool.eq_iff_iff, validateStoredConfiguration_iff]
  simp [sealConfiguration, configurationChecksum, StoredChannelConfiguration.leadingBytes,
    settingsInRange]

@[simp] theorem length_serializeConfiguration (v : StoredChannelConfiguration) :
    (serializeConfiguration v).length = storedConfigurationSize := by
  simp [serializeConfiguration, storedConfigurationSize]

/-- **Round trip.**  A configuration is read back from its bytes. -/
theorem deserialize_serialize (v : StoredChannelConfiguration) :
    deserializeConfiguration (serializeConfiguration v) = v := by
  obtain ⟨magic, schema, reserved, generation, sample, processing, report, heartbeat, filter,
    window, enabled, reserved2, checksum⟩ := v
  simp only [serializeConfiguration, List.append_assoc]
  simp [deserializeConfiguration, get32_skip, get16_skip, byteAt_skip]

/-- The bytes `write` stores for an input under a generation. -/
def configurationRecord (input : StoredChannelConfiguration) (g : UInt32) : List UInt8 :=
  let payload := serializeConfiguration (sealConfiguration input g)
  let head := recordHead .configuration g 0 payload
  head ++ put32 (persistentCrc32 head) ++ payload

/-- The encoder never refuses a configuration. -/
theorem encode_configuration (input : StoredChannelConfiguration) (g : UInt32) :
    encodePersistentRecord .configuration g 0
      (serializeConfiguration (sealConfiguration input g)) kPersistentMaxRecord =
        .ok (configurationRecord input g) := by
  rw [encode_eq_ok_iff, length_serializeConfiguration]
  exact ⟨by decide, rfl⟩

/-- A written record is read back as the sealed input under its generation. -/
theorem configSlotOf_record {input : StoredChannelConfiguration} (h : settingsInRange input = true)
    (g : UInt32) :
    configSlotOf (some (configurationRecord input g)) =
      { status := .ok, value := sealConfiguration input g, generation := g } := by
  have henc := encode_configuration input g
  have hlen : ¬ (configurationRecord input g).length > kPersistentMaxRecord :=
    not_lt.mpr (length_le_of_encode henc)
  have hvalid : validateStoredConfiguration (sealConfiguration input g) = true := by
    rw [validate_sealConfiguration, h]
  have hgeneration : (sealConfiguration input g).generation = g := rfl
  simp only [configSlotOf, if_neg hlen, parseConfigSlot, decode_encode henc,
    length_serializeConfiguration, deserialize_serialize, hvalid, hgeneration]
  simp

/-- Debris never reads as a record. -/
theorem toSlot_debris (left : Debris) (g : UInt32) (v : StoredChannelConfiguration) :
    ConfigSlot.toSlot (configSlotOf left.val) ≠ .holds g v := by
  intro h
  unfold ConfigSlot.toSlot at h
  split_ifs at h with hok
  cases hleft : left.val with
  | none =>
    rw [hleft] at hok
    cases hok
  | some data =>
    rw [hleft] at hok
    simp only [configSlotOf] at hok
    split_ifs at hok
    cases hd : decodePersistentRecord data .configuration with
    | error s =>
      simp only [parseConfigSlot, hd] at hok
      exact (decode_error hd).1 hok
    | ok view => exact left.property data hleft .configuration view hd

/-- Changing the slot of a generation is changing that slot of the abstract store. -/
theorem configurationStore_put (nvm : Nvm) (g : UInt32) (content : Option (List UInt8)) :
    configurationStore (nvm.put (configurationTarget g) content) =
      (configurationStore nvm).set g (ConfigSlot.toSlot (configSlotOf content)) := by
  have hAB : kConfigurationSlotA ≠ kConfigurationSlotB := by decide
  rw [configurationTarget_eq]
  unfold configurationStore Store.set
  split
  · simp [Nvm.put_of_ne hAB.symm]
  · simp [Nvm.put_of_ne hAB]

/-- Changing another key leaves the configuration store alone. -/
theorem configurationStore_put_of_ne {nvm : Nvm} {key : UInt32} {content : Option (List UInt8)}
    (hA : key ≠ kConfigurationSlotA) (hB : key ≠ kConfigurationSlotB) :
    configurationStore (nvm.put key content) = configurationStore nvm := by
  simp [configurationStore, Nvm.put_of_ne hA.symm, Nvm.put_of_ne hB.symm]

/-! ## One write -/

/-- The generation of the next configuration write, if `load` lets there be one. -/
def nextConfigurationGeneration (nvm : Nvm) : Option UInt32 :=
  (configurationStore nvm).load.nextGeneration

/-- What `write` returns after its backend write answered `s` and left `nvm`. -/
def configurationReadback (nvm : Nvm) (g : UInt32) (s : StoreStatus)
    (verified : StoredChannelConfiguration) : StoreStatus × StoredChannelConfiguration :=
  if s ≠ .ok then (s, verified)
  else
    let check := configSlotOf (nvm (configurationTarget g))
    if check.status ≠ .ok ∨ check.generation ≠ g then (.readbackFailed, verified)
    else (.ok, check.value)

/-- The gate of `write` is open exactly when there is a next generation, which it computes. -/
theorem configurationWrite_gate (nvm : Nvm) :
    let old := (storedConfigurationOr nvm {}).1
    let gated := old ≠ .ok ∧ old ≠ .recoveredFromPrevious ∧ old ≠ .notFound
    (gated ∧ nextConfigurationGeneration nvm = none) ∨
      (¬ gated ∧ nextConfigurationGeneration nvm =
        some (if old = .ok ∨ old = .recoveredFromPrevious then
          (storedConfigurationOr nvm {}).2.generation + 1 else 1)) := by
  intro old gated
  unfold nextConfigurationGeneration
  cases hl : (configurationStore nvm).load with
  | empty =>
    have hold : old = .notFound := by simp [old, storedConfigurationOr_eq, hl, loadedConfiguration]
    simp [gated, hold, Loaded.nextGeneration, GenerationOrder.first]
  | found k v r =>
    have hk := (generation_of_found hl).1
    have hold : old = if r then .recoveredFromPrevious else .ok := by
      simp [old, storedConfigurationOr_eq, hl, loadedConfiguration]
    have hcurrent : (storedConfigurationOr nvm {}).2 = v := by
      simp [storedConfigurationOr_eq, hl, loadedConfiguration]
    cases r <;> simp [gated, hold, hcurrent, hk, Loaded.nextGeneration, GenerationOrder.succ]
  | corrupt =>
    have hold : old = .corrupt := by simp [old, storedConfigurationOr_eq, hl, loadedConfiguration]
    simp [gated, hold, Loaded.nextGeneration]
  | conflict =>
    have hold : old = .generationConflict := by
      simp [old, storedConfigurationOr_eq, hl, loadedConfiguration]
    simp [gated, hold, Loaded.nextGeneration]

section Write

variable {φ : Type} {E : Environment NvmAnswer Nvm φ} (hE : FaithfulReads E)
include hE

/-- A write that `load` does not let through changes nothing and reports the status of `load`. -/
theorem run_configurationWrite_gated {nvm : Nvm} (h : nextConfigurationGeneration nvm = none)
    (input verified : StoredChannelConfiguration) (ω : ℕ → φ) :
    (configurationWrite input verified).run E nvm ω =
      ⟨((storedConfigurationOr nvm {}).1, verified), nvm, Program.later (Program.later ω)⟩ := by
  rcases configurationWrite_gate nvm with ⟨hgate, -⟩ | ⟨-, hnext⟩
  · rw [configurationWrite, Program.run_bind, run_configurationLoad hE]
    generalize storedConfigurationOr nvm {} = loaded at hgate ⊢
    obtain ⟨old, current⟩ := loaded
    dsimp only at hgate ⊢
    rw [if_pos hgate]
    rfl
  · rw [h] at hnext
    cases hnext

/-- A write of settings out of range changes nothing. -/
theorem run_configurationWrite_invalid {nvm : Nvm} {g : UInt32}
    (h : nextConfigurationGeneration nvm = some g) {input : StoredChannelConfiguration}
    (hr : settingsInRange input = false) (verified : StoredChannelConfiguration) (ω : ℕ → φ) :
    (configurationWrite input verified).run E nvm ω =
      ⟨(.invalidArgument, verified), nvm, Program.later (Program.later ω)⟩ := by
  rcases configurationWrite_gate nvm with ⟨-, hnext⟩ | ⟨hgate, -⟩
  · rw [h] at hnext
    cases hnext
  · rw [configurationWrite, Program.run_bind, run_configurationLoad hE]
    generalize storedConfigurationOr nvm {} = loaded at hgate ⊢
    obtain ⟨old, current⟩ := loaded
    dsimp only at hgate ⊢
    rw [if_neg hgate, validate_sealConfiguration, hr]
    rfl

/-- **One write.**  A write of settings in range makes one backend write, to the slot of the next
generation, and reports what it then finds there. -/
theorem run_configurationWrite {nvm : Nvm} {g : UInt32}
    (h : nextConfigurationGeneration nvm = some g) {input : StoredChannelConfiguration}
    (hr : settingsInRange input = true) (verified : StoredChannelConfiguration) (ω : ℕ → φ) :
    let wrote := E.step nvm (.write (configurationTarget g) (configurationRecord input g)) (ω 2)
    (configurationWrite input verified).run E nvm ω =
      ⟨configurationReadback wrote.2 g wrote.1 verified, wrote.2,
        if wrote.1 = .ok then fun i => ω (i + 4) else fun i => ω (i + 3)⟩ := by
  rcases configurationWrite_gate nvm with ⟨-, hnext⟩ | ⟨hgate, hg⟩
  · rw [h] at hnext
    cases hnext
  rw [h, Option.some.injEq] at hg
  dsimp only
  rw [configurationWrite, Program.run_bind, run_configurationLoad hE]
  generalize storedConfigurationOr nvm {} = loaded at hg hgate ⊢
  obtain ⟨old, current⟩ := loaded
  dsimp only at hg hgate ⊢
  rw [← hg, if_neg hgate, validate_sealConfiguration, hr, encode_configuration]
  simp only [Bool.not_true, Bool.false_eq_true, if_false, backendWrite, Program.perform_bind,
    Program.run_call, Program.later_apply, Nat.zero_add, Nat.reduceAdd]
  generalize E.step nvm (.write (configurationTarget g) (configurationRecord input g)) (ω 2) = wrote
  by_cases hs : wrote.1 = .ok
  · simp only [configurationReadback, hs, ne_eq, not_true_eq_false, if_false, if_true,
      Program.run_bind, run_readConfigSlot hE]
    split <;> rfl
  · simp only [configurationReadback, ne_eq, hs, not_false_eq_true, if_true, if_false]
    rfl

theorem trace_readConfigSlot (nvm : Nvm) (key : UInt32) (ω : ℕ → φ) :
    (readConfigSlot key).trace E nvm ω = [.read key kPersistentMaxRecord] := by
  simp only [readConfigSlot, backendRead, Program.perform_bind, Program.trace,
    hE nvm key kPersistentMaxRecord]
  cases nvm.read key kPersistentMaxRecord <;> rfl

/-- The one backend write of a write goes to the slot of the next generation. -/
theorem target_of_write_mem_trace {nvm : Nvm} {input verified : StoredChannelConfiguration}
    {ω : ℕ → φ} {key : UInt32} {data : List UInt8}
    (h : NvmOp.write key data ∈ (configurationWrite input verified).trace E nvm ω) :
    ∃ g, nextConfigurationGeneration nvm = some g ∧ key = configurationTarget g := by
  rw [configurationWrite, Program.trace_bind, run_configurationLoad hE, List.mem_append] at h
  rcases h with h | h
  · -- `load` only reads
    simp [configurationLoad, Program.trace_bind, trace_readConfigSlot hE, Program.trace] at h
  · rcases configurationWrite_gate nvm with ⟨hgate, -⟩ | ⟨hgate, hg⟩
    · generalize storedConfigurationOr nvm {} = loaded at hgate h
      obtain ⟨old, current⟩ := loaded
      dsimp only at hgate h
      rw [if_pos hgate] at h
      simp [Program.trace] at h
    · generalize storedConfigurationOr nvm {} = loaded at hgate hg h
      obtain ⟨old, current⟩ := loaded
      dsimp only at hgate hg h
      rw [if_neg hgate] at h
      refine ⟨_, hg, ?_⟩
      generalize (if old = .ok ∨ old = .recoveredFromPrevious then current.generation + 1 else 1) =
        g at h
      rw [encode_configuration] at h
      split at h
      · simp [Program.trace] at h
      · simp only [backendWrite, Program.perform_bind, Program.trace, List.mem_cons] at h
        rcases h with h | h
        · cases h
          rfl
        · split at h
          · simp [Program.trace] at h
          · rw [Program.trace_bind, trace_readConfigSlot hE, List.mem_append] at h
            rcases h with h | h
            · simp at h
            · split at h <;> simp [Program.trace] at h

end Write

end SeedMg24.Analysis
