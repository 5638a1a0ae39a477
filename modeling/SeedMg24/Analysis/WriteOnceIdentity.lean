import SeedMg24.Foundation.Runs
import SeedMg24.Analysis.StoreHistories

/-!
# The identity is written once

Provisionings of a storage that was empty, under writes that complete, are lost or ruin their slot.
Slot B is only written over a slot A that reads back, so both slots speak of one id, and once there
is an id to load nothing is written any more.
-/

set_option autoImplicit false

namespace SeedMg24.Analysis

open Foundation Foundation.TwoSlot Model

/-! ## Provisionings -/

/-- Content from which no identity is read. -/
abbrev Unreadable := { content : Option (List UInt8) // (identitySlotOf content).status ≠ .ok }

/-- A write completes, has no effect or leaves its slot unreadable, whatever it reports. -/
inductive RuinFault where
  | completes (status : StoreStatus)
  | ignored (status : StoreStatus)
  | ruins (left : Unreadable) (status : StoreStatus)

/-- Reads are faithful. -/
def RuinFault.toFault : NvmOp → RuinFault → BackendFault
  | .read _ _, _ => .none
  | _, .completes status => .landed status
  | _, .ignored status => .refused status
  | _, .ruins left status => .leaves left.val status

def ruining : Environment NvmAnswer Nvm RuinFault := backend.restrict RuinFault.toFault

theorem ruining_faithful : FaithfulReads ruining := fun _ _ _ _ => rfl

/-- One call of `provision`, and what its writes do. -/
structure ProvisionCall where
  id : Text
  out : NodeIdentity
  faults : ℕ → RuinFault

/-- The storage after the call. -/
def ProvisionCall.after (nvm : Nvm) (call : ProvisionCall) : Nvm :=
  ((identityProvision call.id call.out).run ruining nvm call.faults).state

/-- What the call asks of the backend. -/
def ProvisionCall.operations (nvm : Nvm) (call : ProvisionCall) : List NvmOp :=
  (identityProvision call.id call.out).trace ruining nvm call.faults

/-- The storage of a new node after some calls. -/
def provisionedBy (calls : List ProvisionCall) : Nvm :=
  Runs.after ProvisionCall.after Nvm.empty calls

/-! ## One write -/

/-- What an identity write can leave: nothing new, the record, or a ruined slot. -/
inductive Written (nvm : Nvm) (key : UInt32) (id : Text) (g : UInt32) : Nvm → Prop
  | ignored : Written nvm key id g nvm
  | completed : Written nvm key id g (nvm.put key (some (identityRecord id g)))
  | ruined (left : Unreadable) : Written nvm key id g (nvm.put key left.val)

/-- A write that reads back left a readable slot. -/
theorem written_writeIdentity {id : Text} (hid : validNodeId id = true) (nvm : Nvm)
    (key g : UInt32) (checkGeneration : Bool) (ω : ℕ → RuinFault) :
    let wrote := (writeIdentity key id g checkGeneration).run ruining nvm ω
    Written nvm key id g wrote.state ∧
      ∀ v, wrote.value = .ok v → (identitySlotOf (wrote.state key)).status = .ok := by
  have hrun := run_writeIdentity ruining_faithful hid nvm key g checkGeneration ω
  dsimp only at hrun ⊢
  rw [hrun]
  constructor
  · cases ω 0 with
    | completes status => exact .completed
    | ignored status => exact .ignored
    | ruins left status => exact .ruined left
  · intro v hv
    dsimp only at hv ⊢
    unfold identityReadback at hv
    dsimp only at hv
    split at hv
    · cases hv
    split at hv
    · cases hv
    · rename_i hread
      exact not_not.mp fun hstatus => hread (.inl hstatus)

/-! ## What stays -/

/-- The identity slots after provisionings with these ids. -/
inductive WriteOnce (ids : List Text) (nvm : Nvm) : Prop
  | unwritten (hA : (identitySlotOf (nvm kIdentitySlotA)).status ≠ .ok)
      (hB : nvm kIdentitySlotB = none)
  | written (id : Text) (hmem : id ∈ ids) (hid : validNodeId id = true)
      (hA : nvm kIdentitySlotA = some (identityRecord id 1))
      (hB : (identitySlotOf (nvm kIdentitySlotB)).status ≠ .ok ∨
        nvm kIdentitySlotB = some (identityRecord id 2))

theorem WriteOnce.mono {ids ids' : List Text} {nvm : Nvm} (h : WriteOnce ids nvm)
    (hids : ∀ id ∈ ids, id ∈ ids') : WriteOnce ids' nvm := by
  cases h with
  | unwritten hA hB => exact .unwritten hA hB
  | written id hmem hid hA hB => exact .written id (hids id hmem) hid hA hB

/-- A slot whose status is not ok holds nothing. -/
theorem toSlot_of_status_ne {slot : SlotIdentity} (h : slot.status ≠ .ok) :
    SlotIdentity.toSlot slot = .absent ∨ SlotIdentity.toSlot slot = .damaged := by
  unfold SlotIdentity.toSlot
  rw [if_neg h]
  split
  · exact .inl rfl
  · exact .inr rfl

/-- Without a readable slot there is no id to load. -/
theorem load_of_unwritten {nvm : Nvm} (hA : (identitySlotOf (nvm kIdentitySlotA)).status ≠ .ok)
    (hB : nvm kIdentitySlotB = none) (id : Text) : ¬ LoadsIdentity nvm id := by
  have habsent : SlotIdentity.toSlot (identitySlotOf none) = .absent := rfl
  rw [loadsIdentity_iff]
  rintro ⟨g, value, r, hload, -⟩
  unfold identityStore at hload
  rw [hB, habsent] at hload
  rcases toSlot_of_status_ne hA with hslot | hslot <;> rw [hslot] at hload <;> cases hload

/-- With slot A written there is. -/
theorem load_of_written {nvm : Nvm} {id : Text} (hid : validNodeId id = true)
    (hA : nvm kIdentitySlotA = some (identityRecord id 1))
    (hB : (identitySlotOf (nvm kIdentitySlotB)).status ≠ .ok ∨
      nvm kIdentitySlotB = some (identityRecord id 2)) :
    ∃ g r, (identityStore nvm).load = .found g (sealIdentity id g) r := by
  unfold identityStore
  rw [hA, toSlot_identityRecord hid]
  rcases hB with hB | hB
  · rcases toSlot_of_status_ne hB with hslot | hslot <;> rw [hslot] <;> exact ⟨_, _, rfl⟩
  · rw [hB, toSlot_identityRecord hid]
    have hnewer : GenerationOrder.newer (2 : UInt32) 1 = true := by decide
    exact ⟨2, false, by simp [Store.load, hnewer]⟩

/-- A storage with an id to load keeps it, and is only read. -/
theorem provision_of_load {nvm : Nvm} (h : (identityStore nvm).load ≠ .empty)
    (call : ProvisionCall) : call.after nvm = nvm ∧
      ∀ op ∈ call.operations nvm, ∃ key, op = .read key kPersistentMaxRecord := by
  refine ⟨?_, fun op hop => trace_identityProvision_refused ruining_faithful h call.out _ hop⟩
  unfold ProvisionCall.after
  cases hid : validNodeId call.id with
  | false => rw [run_identityProvision_invalid hid]
  | true =>
    obtain ⟨s, -, hrun⟩ := run_identityProvision_refused ruining_faithful hid h call.out call.faults
    rw [hrun]

/-- One call keeps the slots in order. -/
theorem WriteOnce.step {ids : List Text} {nvm : Nvm} (h : WriteOnce ids nvm)
    (call : ProvisionCall) : WriteOnce (ids ++ [call.id]) (call.after nvm) := by
  have hids : ∀ id ∈ ids, id ∈ ids ++ [call.id] := by simp +contextual
  by_cases hempty : (identityStore nvm).load = .empty
  swap
  · rw [(provision_of_load hempty call).1]
    exact h.mono hids
  cases hid : validNodeId call.id with
  | false =>
    unfold ProvisionCall.after
    rw [run_identityProvision_invalid hid]
    exact h.mono hids
  | true =>
    have hAB : kIdentitySlotA ≠ kIdentitySlotB := by decide
    have hB := (identityStore_empty_iff.mp hempty).2
    have hA := (identityStore_empty_iff.mp hempty).1
    have hnone : (identitySlotOf none).status ≠ .ok := by decide
    have hrun := run_identityProvision ruining_faithful hid hempty call.out call.faults
    obtain ⟨hfirst, hreads⟩ := written_writeIdentity hid nvm kIdentitySlotA 1 false
      fun i => call.faults (i + 2)
    dsimp only at hrun hfirst hreads
    unfold ProvisionCall.after
    rw [hrun]
    generalize (writeIdentity kIdentitySlotA call.id 1 false).run ruining nvm
      (fun i => call.faults (i + 2)) = first at hfirst hreads ⊢
    obtain ⟨value, state, rest⟩ := first
    dsimp only at hfirst hreads ⊢
    cases value with
    | error s =>
      -- the second write is not tried
      dsimp only
      cases hfirst with
      | ignored => exact h.mono hids
      | completed =>
        refine .written call.id (by simp) hid (Nvm.put_same ..) (.inl ?_)
        rw [Nvm.put_of_ne hAB.symm, hB]
        exact hnone
      | ruined left =>
        refine .unwritten ?_ ?_
        · rw [Nvm.put_same]
          exact left.property
        · rw [Nvm.put_of_ne hAB.symm, hB]
    | ok v =>
      have hread := hreads v rfl
      dsimp only
      cases hfirst with
      | ignored =>
        rw [hA] at hread
        exact absurd hread hnone
      | ruined left =>
        rw [Nvm.put_same] at hread
        exact absurd hread left.property
      | completed =>
        obtain ⟨hsecond, -⟩ := written_writeIdentity hid
          (nvm.put kIdentitySlotA (some (identityRecord call.id 1))) kIdentitySlotB 2 true rest
        generalize ((writeIdentity kIdentitySlotB call.id 2 true).run ruining
          (nvm.put kIdentitySlotA (some (identityRecord call.id 1))) rest).state = state
          at hsecond ⊢
        cases hsecond with
        | ignored =>
          refine .written call.id (by simp) hid (Nvm.put_same ..) (.inl ?_)
          rw [Nvm.put_of_ne hAB.symm, hB]
          exact hnone
        | completed =>
          refine .written call.id (by simp) hid ?_ (.inr (Nvm.put_same ..))
          rw [Nvm.put_of_ne hAB, Nvm.put_same]
        | ruined left =>
          refine .written call.id (by simp) hid ?_ (.inl ?_)
          · rw [Nvm.put_of_ne hAB, Nvm.put_same]
          · rw [Nvm.put_same]
            exact left.property

theorem writeOnce_provisionedBy (calls : List ProvisionCall) :
    WriteOnce (calls.map ProvisionCall.id) (provisionedBy calls) := by
  induction calls using List.reverseRecOn with
  | nil => exact .unwritten (show (identitySlotOf none).status ≠ .ok by decide) rfl
  | append_singleton calls call ih =>
    rw [provisionedBy, Runs.after_snoc, List.map_append]
    exact ih.step call

/-- A storage with an id to load is never changed. -/
theorem provisionedBy_append {before : List ProvisionCall}
    (h : (identityStore (provisionedBy before)).load ≠ .empty) (later : List ProvisionCall) :
    provisionedBy (before ++ later) = provisionedBy before := by
  induction later using List.reverseRecOn with
  | nil => rw [List.append_nil]
  | append_singleton later call ih =>
    rw [← List.append_assoc, provisionedBy, Runs.after_snoc]
    rw [show Runs.after ProvisionCall.after Nvm.empty (before ++ later) = _ from ih]
    exact (provision_of_load h call).1

/-- **The identity of a node is write-once.**  For every sequence of provisionings of an empty
storage, whatever their ids and whatever their writes do: an id that is loaded is valid and was
asked for, every later load gives it, and no later provisioning writes.
SOURCE: node_identity_store.cpp:5-31 -/
theorem identity_writeOnce (before : List ProvisionCall) {id : Text}
    (h : LoadsIdentity (provisionedBy before) id) :
    validNodeId id = true ∧ id ∈ before.map ProvisionCall.id ∧
      ∀ later, LoadsIdentity (provisionedBy (before ++ later)) id ∧
        ∀ call : ProvisionCall, ∀ op ∈ call.operations (provisionedBy (before ++ later)),
          ∃ key capacity, op = .read key capacity := by
  cases writeOnce_provisionedBy before with
  | unwritten hA hB => exact absurd h (load_of_unwritten hA hB id)
  | written stored hmem hid hA hB =>
    obtain ⟨g, r, hload⟩ := load_of_written hid hA hB
    obtain ⟨_, value, _, hfound, hvalue⟩ := loadsIdentity_iff.mp h
    rw [hload] at hfound
    cases hfound
    have hstored : stored = id := hvalue
    subst hstored
    have hne : (identityStore (provisionedBy before)).load ≠ .empty := by
      rw [hload]
      exact nofun
    refine ⟨hid, hmem, fun later => ?_⟩
    rw [provisionedBy_append hne later]
    refine ⟨h, fun call op hop => ?_⟩
    obtain ⟨key, hkey⟩ := (provision_of_load hne call).2 op hop
    exact ⟨key, _, hkey⟩

/-- A provisioning that writes slot A and then reports a failure. -/
def failedProvision : ProvisionCall := ⟨"NODE-1".toList, {}, fun _ => .completes .writeFailed⟩

/-- A provisioning under another id. -/
def otherProvision : ProvisionCall := ⟨"NODE-2".toList, {}, fun _ => .completes .ok⟩

/-- The failed provisioning has given the node its id. -/
theorem identity_writeOnce_failed :
    LoadsIdentity (provisionedBy [failedProvision]) "NODE-1".toList ∧
      LoadsIdentity (provisionedBy [failedProvision, otherProvision]) "NODE-1".toList := by
  have hloads : LoadsIdentity (provisionedBy [failedProvision]) "NODE-1".toList := by
    have hslots : provisionedBy [failedProvision] kIdentitySlotA =
        some (identityRecord "NODE-1".toList 1) ∧
          provisionedBy [failedProvision] kIdentitySlotB = none := by decide +kernel
    obtain ⟨g, r, hload⟩ := load_of_written (by decide +kernel) hslots.1
      (.inl (hslots.2 ▸ (show (identitySlotOf none).status ≠ .ok by decide)))
    exact loadsIdentity_iff.mpr ⟨g, _, r, hload, rfl⟩
  exact ⟨hloads, ((identity_writeOnce [failedProvision] hloads).2.2 [otherProvision]).1⟩

end SeedMg24.Analysis
