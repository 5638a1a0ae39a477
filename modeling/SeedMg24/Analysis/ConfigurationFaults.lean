import SeedMg24.Analysis.ConfigurationSlots

/-!
# Configuration writes under faults

Any sequence of writes, each of whose backend writes completes, has no effect or leaves debris,
keeps `SlotInvariant`: the two slots form a coherent two-slot store, and everything in them is a
record of the right parity or debris.  From it follow what `load` gives after a write, and that
neither the loaded record nor the generations ever collide.
-/

set_option autoImplicit false

namespace SeedMg24.Analysis

open Foundation Foundation.TwoSlot Model

/-- What a run from empty storage leaves in a slot: debris, or a record of the slot's parity. -/
def WrittenContent (odd : Bool) (content : Option (List UInt8)) : Prop :=
  (∃ left : Debris, content = left.val) ∨
    ∃ input g, settingsInRange input = true ∧ GenerationOrder.isOdd g = odd ∧
      content = some (configurationRecord input g)

/-- The configuration slots of every storage that writes from empty storage can lead to. -/
structure SlotInvariant (nvm : Nvm) : Prop where
  coherent : Coherent (configurationStore nvm)
  slotA : WrittenContent true (nvm kConfigurationSlotA)
  slotB : WrittenContent false (nvm kConfigurationSlotB)

/-- No content is debris. -/
def Debris.nothing : Debris := ⟨none, fun _ h => by cases h⟩

theorem slotInvariant_empty : SlotInvariant Nvm.empty where
  coherent := coherent_of_no_record (fun _ _ h => by cases h) fun _ _ h => by cases h
  slotA := Or.inl ⟨Debris.nothing, rfl⟩
  slotB := Or.inl ⟨Debris.nothing, rfl⟩

/-- What can become of the target slot of generation `g` when `input` is written to it. -/
inductive WriteEffect (nvm : Nvm) (g : UInt32) (input : StoredChannelConfiguration) : Nvm → Prop
  | completed : WriteEffect nvm g input
      (nvm.put (configurationTarget g) (some (configurationRecord input g)))
  | ignored : WriteEffect nvm g input nvm
  | torn (left : Debris) : WriteEffect nvm g input (nvm.put (configurationTarget g) left.val)

/-- A backend write has one of the three effects. -/
theorem tearing_write_effect (nvm : Nvm) (g : UInt32) (input : StoredChannelConfiguration)
    (f : WriteFault) :
    WriteEffect nvm g input (tearing.step nvm
      (.write (configurationTarget g) (configurationRecord input g)) f).2 := by
  cases f with
  | completes status => exact .completed
  | ignored status => exact .ignored
  | tears left status => exact .torn left

/-- **What one write can do.**  It leaves the storage alone and does not return `ok`, or its
input is in range and its backend write has one of the three effects. -/
theorem configurationWrite_cases (nvm : Nvm) (input verified : StoredChannelConfiguration)
    (ω : ℕ → WriteFault) :
    let after := (configurationWrite input verified).run tearing nvm ω
    (after.state = nvm ∧ after.value.1 ≠ .ok) ∨
      ∃ g, nextConfigurationGeneration nvm = some g ∧ settingsInRange input = true ∧
        WriteEffect nvm g input after.state ∧
        (after.value.1 = .ok → configSlotOf (after.state (configurationTarget g)) =
          { status := .ok, value := after.value.2, generation := g }) := by
  cases hnext : nextConfigurationGeneration nvm with
  | none =>
    rw [run_configurationWrite_gated tearing_faithful hnext]
    refine Or.inl ⟨rfl, ?_⟩
    dsimp only
    rw [storedConfigurationOr_eq]
    unfold nextConfigurationGeneration at hnext
    cases hl : (configurationStore nvm).load with
    | empty => rw [hl] at hnext; cases hnext
    | found k v r => rw [hl] at hnext; cases hnext
    | corrupt => simp [loadedConfiguration]
    | conflict => simp [loadedConfiguration]
  | some g =>
    cases hr : settingsInRange input with
    | false =>
      rw [run_configurationWrite_invalid tearing_faithful hnext hr]
      exact Or.inl ⟨rfl, by simp⟩
    | true =>
      rw [run_configurationWrite tearing_faithful hnext hr]
      refine Or.inr ⟨g, rfl, rfl, tearing_write_effect nvm g input (ω 2), fun hok => ?_⟩
      dsimp only at hok ⊢
      unfold configurationReadback at hok ⊢
      split at hok
      · exact absurd hok ‹_›
      · rename_i hstatus
        dsimp only at hok
        split at hok
        · cases hok
        · rename_i hcheck
          simp only [not_or, not_not] at hcheck
          rw [if_neg hstatus]
          generalize configSlotOf _ = check at hcheck ⊢
          obtain ⟨status, value, generation⟩ := check
          dsimp only at hcheck ⊢
          simp [hcheck.1, hcheck.2]

/-- Every effect of a write keeps the invariant. -/
theorem SlotInvariant.write_effect {nvm after : Nvm} (hinv : SlotInvariant nvm) {g : UInt32}
    (hnext : nextConfigurationGeneration nvm = some g) {input : StoredChannelConfiguration}
    (hr : settingsInRange input = true) (heffect : WriteEffect nvm g input after) :
    SlotInvariant after := by
  have hAB : kConfigurationSlotA ≠ kConfigurationSlotB := by decide
  -- whatever is put into the target slot, the other slot keeps its content
  have hslots : ∀ content, WrittenContent (GenerationOrder.isOdd g) content →
      WrittenContent true ((nvm.put (configurationTarget g) content) kConfigurationSlotA) ∧
        WrittenContent false ((nvm.put (configurationTarget g) content) kConfigurationSlotB) := by
    intro content hcontent
    rw [configurationTarget_eq]
    cases hodd : GenerationOrder.isOdd g with
    | true =>
      rw [hodd] at hcontent
      simpa [Nvm.put_of_ne hAB.symm] using ⟨hcontent, hinv.slotB⟩
    | false =>
      rw [hodd] at hcontent
      simpa [Nvm.put_of_ne hAB] using ⟨hinv.slotA, hcontent⟩
  cases heffect with
  | completed =>
    have hkeep := hslots _ (Or.inr ⟨input, g, hr, rfl, rfl⟩)
    refine ⟨?_, hkeep.1, hkeep.2⟩
    rw [configurationStore_put, configSlotOf_record hr]
    exact hinv.coherent.set_write hnext _
  | ignored => exact hinv
  | torn left =>
    have hkeep := hslots _ (Or.inl ⟨left, rfl⟩)
    refine ⟨?_, hkeep.1, hkeep.2⟩
    rw [configurationStore_put]
    exact hinv.coherent.set_lost g (toSlot_debris left)

/-- One write keeps the invariant. -/
theorem SlotInvariant.write {nvm : Nvm} (hinv : SlotInvariant nvm)
    (input verified : StoredChannelConfiguration) (ω : ℕ → WriteFault) :
    SlotInvariant ((configurationWrite input verified).run tearing nvm ω).state := by
  rcases configurationWrite_cases nvm input verified ω with ⟨hstate, -⟩ | ⟨g, hnext, hr, heff, -⟩
  · rwa [hstate]
  · exact hinv.write_effect hnext hr heff

/-- A write that returns `ok` completed its backend write, and returns what it stored: a lost or
torn write would have failed the readback. -/
theorem SlotInvariant.write_ok {nvm : Nvm} (hinv : SlotInvariant nvm)
    (input verified : StoredChannelConfiguration) (ω : ℕ → WriteFault)
    (hok : ((configurationWrite input verified).run tearing nvm ω).value.1 = .ok) :
    ∃ g, nextConfigurationGeneration nvm = some g ∧ settingsInRange input = true ∧
      ((configurationWrite input verified).run tearing nvm ω).value.2 = sealConfiguration input g ∧
      ((configurationWrite input verified).run tearing nvm ω).state =
        nvm.put (configurationTarget g) (some (configurationRecord input g)) := by
  rcases configurationWrite_cases nvm input verified ω with
    ⟨-, hne⟩ | ⟨g, hnext, hr, heff, hread⟩
  · exact absurd hok hne
  · have hcheck := hread hok
    generalize ((configurationWrite input verified).run tearing nvm ω).state = after at *
    generalize ((configurationWrite input verified).run tearing nvm ω).value.2 = value at *
    cases heff with
    | completed =>
      rw [Nvm.put_same, configSlotOf_record hr] at hcheck
      exact ⟨g, hnext, hr, (congrArg ConfigSlot.value hcheck).symm, rfl⟩
    | ignored =>
      have hslot : (configurationStore nvm).slot g =
          ConfigSlot.toSlot (configSlotOf (nvm (configurationTarget g))) := by
        rw [configurationTarget_eq]
        unfold Store.slot configurationStore
        split <;> rfl
      have hholds := hinv.coherent.slot_ne_next hnext value
      rw [hslot, hcheck] at hholds
      exact absurd rfl hholds
    | torn left =>
      have hdebris := toSlot_debris left g value
      rw [Nvm.put_same] at hcheck
      rw [hcheck] at hdebris
      exact absurd rfl hdebris

/-- A write that returns `ok` is what the store then loads. -/
theorem SlotInvariant.load_of_ok {nvm : Nvm} (hinv : SlotInvariant nvm)
    (input verified : StoredChannelConfiguration) (ω : ℕ → WriteFault)
    (hok : ((configurationWrite input verified).run tearing nvm ω).value.1 = .ok) :
    ∃ g r, (configurationStore ((configurationWrite input verified).run tearing nvm ω).state).load =
      .found g (sealConfiguration input g) r := by
  obtain ⟨g, hnext, hr, -, hstate⟩ := hinv.write_ok input verified ω hok
  obtain ⟨r, hload⟩ := hinv.coherent.load_after_write (v := sealConfiguration input g) hnext
  rw [hstate, configurationStore_put, configSlotOf_record hr]
  exact ⟨g, r, hload⟩

/-- After a write the store loads what it loaded before, or the input. -/
theorem SlotInvariant.load_after {nvm : Nvm} (hinv : SlotInvariant nvm) {k : UInt32}
    {current : StoredChannelConfiguration} {recovered : Bool}
    (hload : (configurationStore nvm).load = .found k current recovered)
    (input verified : StoredChannelConfiguration) (ω : ℕ → WriteFault) :
    ∃ g v r, (configurationStore ((configurationWrite input verified).run tearing nvm ω).state).load =
      .found g v r ∧ (v = current ∨ v = sealConfiguration input g) := by
  rcases configurationWrite_cases nvm input verified ω with ⟨hstate, -⟩ | ⟨g, hnext, hr, heff, -⟩
  · exact ⟨k, current, recovered, by rw [hstate, hload], Or.inl rfl⟩
  · generalize ((configurationWrite input verified).run tearing nvm ω).state = after at *
    have hg : GenerationOrder.succ k = g := by
      rw [nextConfigurationGeneration, hload] at hnext
      exact Option.some.inj hnext
    cases heff with
    | completed =>
      obtain ⟨r, hnew⟩ := hinv.coherent.load_after_write (v := sealConfiguration input g) hnext
      rw [configurationStore_put, configSlotOf_record hr]
      exact ⟨g, _, r, hnew, Or.inr rfl⟩
    | ignored => exact ⟨k, current, recovered, hload, Or.inl rfl⟩
    | torn left =>
      obtain ⟨r, hold⟩ := hinv.coherent.load_after_lost hload (toSlot_debris left)
      rw [configurationStore_put, ← hg]
      exact ⟨k, current, r, hold, Or.inl rfl⟩

/-! ## Runs -/

/-- One call of `write`: its arguments, and what the backend does meanwhile. -/
structure WriteCall where
  input : StoredChannelConfiguration
  verified : StoredChannelConfiguration
  faults : ℕ → WriteFault

/-- The run of one call. -/
def WriteCall.outcome (call : WriteCall) (nvm : Nvm) :
    Outcome Nvm WriteFault (StoreStatus × StoredChannelConfiguration) :=
  (configurationWrite call.input call.verified).run tearing nvm call.faults

/-- The storage after a sequence of calls on empty storage. -/
def afterWrites (calls : List WriteCall) : Nvm :=
  calls.foldl (fun nvm call => (call.outcome nvm).state) Nvm.empty

/-- What `load` returns on a backend that works. -/
def loadedFrom (nvm : Nvm) (out : StoredChannelConfiguration) :
    StoreStatus × StoredChannelConfiguration :=
  ((configurationLoad out).run healthy nvm fun _ => ()).value

/-- `load` gives a configuration, from a sound pair of slots or from the one that survived. -/
def Loads (nvm : Nvm) (value : StoredChannelConfiguration) : Prop :=
  ∀ out, loadedFrom nvm out = (.ok, value) ∨ loadedFrom nvm out = (.recoveredFromPrevious, value)

theorem loadedFrom_eq (nvm : Nvm) (out : StoredChannelConfiguration) :
    loadedFrom nvm out = loadedConfiguration out (configurationStore nvm).load := by
  rw [loadedFrom, run_configurationLoad healthy_faithful, storedConfigurationOr_eq]

theorem loads_iff {nvm : Nvm} {value : StoredChannelConfiguration} :
    Loads nvm value ↔ ∃ g r, (configurationStore nvm).load = .found g value r := by
  unfold Loads
  simp only [loadedFrom_eq]
  cases hl : (configurationStore nvm).load with
  | found g v r => cases r <;> simp [loadedConfiguration, eq_comm]
  | _ => simp [loadedConfiguration]

/-- **The invariant of every run.** -/
theorem slotInvariant_afterWrites (calls : List WriteCall) : SlotInvariant (afterWrites calls) := by
  unfold afterWrites
  induction calls using List.reverseRecOn with
  | nil => exact slotInvariant_empty
  | append_singleton calls call ih =>
    rw [List.foldl_append]
    exact ih.write call.input call.verified call.faults

/-- What decodes in a slot has the parity of the slot. -/
theorem isOdd_of_decode {odd : Bool} {data : List UInt8} {view : RecordView}
    (hcontent : WrittenContent odd (some data))
    (h : decodePersistentRecord data .configuration = .ok view) :
    GenerationOrder.isOdd view.generation = odd := by
  rcases hcontent with ⟨left, hleft⟩ | ⟨input, g, -, hodd, hrecord⟩
  · exact absurd h (left.property data hleft.symm .configuration view)
  · cases hrecord
    rw [decode_encode (encode_configuration input g)] at h
    cases h
    exact hodd

/-- The next write does not touch the slot `load` took its record from. -/
theorem SlotInvariant.selected_ne_target {nvm : Nvm} (hinv : SlotInvariant nvm) {key : UInt32}
    (hkey : key = kConfigurationSlotA ∨ key = kConfigurationSlotB)
    (hok : (configSlotOf (nvm key)).status = .ok)
    (hload : Loads nvm (configSlotOf (nvm key)).value) {g : UInt32}
    (hnext : nextConfigurationGeneration nvm = some g) : key ≠ configurationTarget g := by
  have hAB : kConfigurationSlotA ≠ kConfigurationSlotB := by decide
  obtain ⟨k, r, hl⟩ := loads_iff.mp hload
  have hslot : ConfigSlot.toSlot (configSlotOf (nvm key)) =
      .holds (configSlotOf (nvm key)).generation (configSlotOf (nvm key)).value := by
    rw [ConfigSlot.toSlot, if_pos hok]
  have hk : (configSlotOf (nvm key)).generation = k := by
    rw [← (holds_configSlotOf hslot).1, (generation_of_found hl).1]
  have hg : k + 1 = g := by
    rw [nextConfigurationGeneration, hl] at hnext
    exact Option.some.inj hnext
  have hparity := Coherent.isOdd_succ_ne k
  rw [show GenerationOrder.succ k = g from hg] at hparity
  rw [hk] at hslot
  rw [configurationTarget_eq]
  rcases hkey with rfl | rfl
  · have hodd := hinv.coherent.odd_of_holds _ _ hslot
    rw [hodd] at hparity
    rw [if_neg (by simpa using hparity)]
    exact hAB
  · have hodd := hinv.coherent.even_of_holds _ _ hslot
    rw [hodd] at hparity
    rw [if_pos (by simpa using hparity)]
    exact hAB.symm

/-- The store itself never reports a generation conflict. -/
theorem SlotInvariant.conflict_of_write {nvm : Nvm} (hinv : SlotInvariant nvm) (call : WriteCall)
    (h : (call.outcome nvm).value.1 = .generationConflict) :
    ∃ g, (tearing.step nvm (.write (configurationTarget g) (configurationRecord call.input g))
      (call.faults 2)).1 = .generationConflict := by
  unfold WriteCall.outcome at h
  cases hnext : nextConfigurationGeneration nvm with
  | none =>
    rw [run_configurationWrite_gated tearing_faithful hnext] at h
    dsimp only at h
    rw [storedConfigurationOr_eq] at h
    cases hl : (configurationStore nvm).load with
    | conflict => exact absurd hl hinv.coherent.load_ne_conflict
    | found k v r => rw [hl] at h; cases r <;> cases h
    | _ => rw [hl] at h; cases h
  | some g =>
    cases hr : settingsInRange call.input with
    | false =>
      rw [run_configurationWrite_invalid tearing_faithful hnext hr] at h
      cases h
    | true =>
      rw [run_configurationWrite tearing_faithful hnext hr] at h
      refine ⟨g, ?_⟩
      dsimp only at h
      unfold configurationReadback at h
      split at h
      · exact h
      · dsimp only at h
        split at h <;> cases h

/-- **Previous or new.**  After any sequence of writes from empty storage, under any placement of
completed, lost and torn backend writes: each slot only decodes to generations of its parity; a
further write leaves `load` with what it gave before or with the new configuration, and with the
new one if the write returned `ok`; it never writes to the slot `load` selected; and no generation
conflict arises (`write` passes one on only if the backend reports it).
SOURCE: configuration_store.cpp:74-97, persistent_record.cpp:17 -/
theorem configuration_previous_or_new (calls : List WriteCall) :
    let nvm := afterWrites calls
    (∀ data view, nvm kConfigurationSlotA = some data →
      decodePersistentRecord data .configuration = .ok view → view.generation.toNat % 2 = 1) ∧
    (∀ data view, nvm kConfigurationSlotB = some data →
      decodePersistentRecord data .configuration = .ok view → view.generation.toNat % 2 = 0) ∧
    (∀ out, (loadedFrom nvm out).1 ≠ .generationConflict) ∧
    ∀ call : WriteCall,
      (∀ current, Loads nvm current → Loads (call.outcome nvm).state current ∨
        ∃ g, Loads (call.outcome nvm).state (sealConfiguration call.input g)) ∧
      ((call.outcome nvm).value.1 = .ok →
        ∃ g, Loads (call.outcome nvm).state (sealConfiguration call.input g)) ∧
      (∀ key data, (key = kConfigurationSlotA ∨ key = kConfigurationSlotB) →
        (configSlotOf (nvm key)).status = .ok → Loads nvm (configSlotOf (nvm key)).value →
        NvmOp.write key data ∉
          (configurationWrite call.input call.verified).trace tearing nvm call.faults) ∧
      ((call.outcome nvm).value.1 = .generationConflict → ∃ key data,
        (tearing.step nvm (.write key data) (call.faults 2)).1 = .generationConflict) := by
  intro nvm
  have hinv : SlotInvariant nvm := slotInvariant_afterWrites calls
  refine ⟨?_, ?_, ?_, fun call => ⟨?_, ?_, ?_, ?_⟩⟩
  · intro data view hdata hdecode
    exact of_decide_eq_true (isOdd_of_decode (hdata ▸ hinv.slotA) hdecode)
  · intro data view hdata hdecode
    have heven := of_decide_eq_false (isOdd_of_decode (hdata ▸ hinv.slotB) hdecode)
    omega
  · intro out hconflict
    rw [loadedFrom_eq] at hconflict
    cases hl : (configurationStore nvm).load with
    | conflict => exact hinv.coherent.load_ne_conflict hl
    | found g v r => rw [hl] at hconflict; cases r <;> cases hconflict
    | _ => rw [hl] at hconflict; cases hconflict
  · intro current hcurrent
    obtain ⟨k, r, hl⟩ := loads_iff.mp hcurrent
    obtain ⟨g, v, r', hafter, hv⟩ := hinv.load_after hl call.input call.verified call.faults
    rcases hv with rfl | rfl
    · exact Or.inl (loads_iff.mpr ⟨g, r', hafter⟩)
    · exact Or.inr ⟨g, loads_iff.mpr ⟨g, r', hafter⟩⟩
  · intro hok
    obtain ⟨g, r, hafter⟩ := hinv.load_of_ok call.input call.verified call.faults hok
    exact ⟨g, loads_iff.mpr ⟨g, r, hafter⟩⟩
  · intro key data hkey hok hload hmem
    obtain ⟨g, hnext, htarget⟩ := target_of_write_mem_trace tearing_faithful hmem
    exact hinv.selected_ne_target hkey hok hload hnext htarget
  · intro hconflict
    obtain ⟨g, hg⟩ := hinv.conflict_of_write call hconflict
    exact ⟨_, _, hg⟩

end SeedMg24.Analysis
