import SeedMg24.Model.NodeIdentityStore
import SeedMg24.Analysis.ConfigurationSlots

/-!
# The identity store as a two-slot store

The identity slots read as a `TwoSlot.Store`, as the configuration slots do.  `provision` is a
write-once use of it: slot A gets generation 1 and slot B generation 2, and only when both are
empty.
-/

set_option autoImplicit false

namespace SeedMg24.Analysis

open Foundation Foundation.TwoSlot Model

/-! ## Reads -/

/-- What `readIdentity` makes of the content of a slot. -/
def identitySlotOf : Option (List UInt8) → SlotIdentity
  | none => { status := .notFound }
  | some data =>
    if data.length > kPersistentMaxRecord then { status := .sizeExceeded } else parseIdentity data

/-- What `identityLoad` finds. -/
def storedIdentityOr (nvm : Nvm) (out : NodeIdentity) : StoreStatus × NodeIdentity :=
  selectIdentity (identitySlotOf (nvm kIdentitySlotA)) (identitySlotOf (nvm kIdentitySlotB)) out

section Reads

variable {φ : Type} {E : Environment NvmAnswer Nvm φ} (hE : FaithfulReads E)
include hE

theorem run_readIdentity (nvm : Nvm) (key : UInt32) (ω : ℕ → φ) :
    (readIdentity key).run E nvm ω = ⟨identitySlotOf (nvm key), nvm, Program.later ω⟩ := by
  simp only [readIdentity, backendRead, Program.perform_bind, Program.run_call,
    hE nvm key kPersistentMaxRecord, Nvm.read, identitySlotOf]
  cases nvm key with
  | none => rfl
  | some data =>
    by_cases h : data.length > kPersistentMaxRecord
    · simp [h]
    · simp [h]

theorem run_identityLoad (nvm : Nvm) (out : NodeIdentity) (ω : ℕ → φ) :
    (identityLoad out).run E nvm ω =
      ⟨storedIdentityOr nvm out, nvm, Program.later (Program.later ω)⟩ := by
  simp only [identityLoad, Program.run_bind, run_readIdentity hE, Program.pure_eq_done,
    Program.run_done, storedIdentityOr]

theorem trace_readIdentity (nvm : Nvm) (key : UInt32) (ω : ℕ → φ) :
    (readIdentity key).trace E nvm ω = [.read key kPersistentMaxRecord] := by
  simp only [readIdentity, backendRead, Program.perform_bind, Program.trace,
    hE nvm key kPersistentMaxRecord]
  cases nvm.read key kPersistentMaxRecord <;> rfl

theorem trace_identityLoad (nvm : Nvm) (out : NodeIdentity) (ω : ℕ → φ) :
    (identityLoad out).trace E nvm ω =
      [.read kIdentitySlotA kPersistentMaxRecord, .read kIdentitySlotB kPersistentMaxRecord] := by
  simp [identityLoad, Program.trace_bind, trace_readIdentity hE, run_readIdentity hE, Program.trace]

end Reads

/-! ## The abstract store -/

/-- A slot as the two-slot store sees it. -/
def SlotIdentity.toSlot (c : SlotIdentity) : Slot UInt32 NodeIdentity :=
  if c.status = .ok then .holds c.value.generation c.value
  else if c.status = .notFound then .absent
  else .damaged

/-- The two identity slots of the storage. -/
def identityStore (nvm : Nvm) : Store UInt32 NodeIdentity :=
  ⟨SlotIdentity.toSlot (identitySlotOf (nvm kIdentitySlotA)),
    SlotIdentity.toSlot (identitySlotOf (nvm kIdentitySlotB))⟩

/-- What `load` returns for an abstract result. -/
def loadedIdentity (out : NodeIdentity) : Loaded UInt32 NodeIdentity → StoreStatus × NodeIdentity
  | .empty => (.unprovisioned, out)
  | .corrupt => (.corrupt, out)
  | .conflict => (.generationConflict, out)
  | .found _ value recovered => (if recovered then .recoveredFromPrevious else .ok, value)

/-- No generation is newer than itself. -/
theorem generationNewer_self (g : UInt32) : generationNewer g g = false := by
  simp [generationNewer]

/-- **Refinement of `load`.**  The identity store chooses between its slots as the abstract
store; its three-part conflict test only compares the generations. -/
theorem storedIdentityOr_eq (nvm : Nvm) (out : NodeIdentity) :
    storedIdentityOr nvm out = loadedIdentity out (identityStore nvm).load := by
  unfold storedIdentityOr identityStore
  generalize identitySlotOf (nvm kIdentitySlotA) = a
  generalize identitySlotOf (nvm kIdentitySlotB) = b
  unfold selectIdentity SlotIdentity.toSlot Store.load
  by_cases ha : a.status = .ok
  · by_cases hb : b.status = .ok
    · by_cases hg : a.value.generation = b.value.generation
      · simp [ha, hb, hg, loadedIdentity, generationNewer_self]
      · by_cases hn : GenerationOrder.newer b.value.generation a.value.generation = true
        · have hn' : generationNewer b.value.generation a.value.generation = true := hn
          simp [ha, hb, hg, hn, hn', loadedIdentity]
        · have hn' : ¬ generationNewer b.value.generation a.value.generation = true := hn
          simp [ha, hb, hg, hn, hn', loadedIdentity]
    · by_cases hb' : b.status = .notFound
      · simp [ha, hb', loadedIdentity]
      · simp [ha, hb, hb', loadedIdentity]
  · by_cases hb : b.status = .ok
    · by_cases ha' : a.status = .notFound
      · simp [ha', hb, loadedIdentity]
      · simp [ha, ha', hb, loadedIdentity]
    · by_cases ha' : a.status = .notFound <;> by_cases hb' : b.status = .notFound <;>
        simp [ha, ha', hb, hb', loadedIdentity]

/-- A readable slot holds a valid id. -/
theorem parseIdentity_ok {record : List UInt8} (h : (parseIdentity record).status = .ok) :
    validNodeId (parseIdentity record).value.nodeId = true := by
  unfold parseIdentity at h ⊢
  cases hd : decodePersistentRecord record .identity with
  | error s =>
    simp only [hd] at h
    exact absurd h (decode_error hd).1
  | ok view =>
    simp only [hd] at h ⊢
    split_ifs at h ⊢ with h1 h2 h3 h4
    simp only [not_or, Bool.not_eq_true] at h4
    simpa using h4.1

/-- Bytes never parse as if nothing were stored. -/
theorem parseIdentity_ne_notFound (record : List UInt8) :
    (parseIdentity record).status ≠ .notFound := by
  unfold parseIdentity
  cases hd : decodePersistentRecord record .identity with
  | error s => exact (decode_error hd).2
  | ok view =>
    simp only
    split_ifs <;> simp

/-- A slot holding a record holds a valid id. -/
theorem holds_identitySlotOf {content : Option (List UInt8)} {g : UInt32} {v : NodeIdentity}
    (h : SlotIdentity.toSlot (identitySlotOf content) = .holds g v) :
    v.generation = g ∧ validNodeId v.nodeId = true := by
  unfold SlotIdentity.toSlot at h
  split_ifs at h with hok
  cases h
  refine ⟨rfl, ?_⟩
  cases content with
  | none => cases hok
  | some data =>
    simp only [identitySlotOf] at hok ⊢
    split_ifs at hok ⊢
    exact parseIdentity_ok hok

/-- A slot is absent for `load` exactly when nothing is stored there. -/
theorem absent_identitySlotOf_iff {content : Option (List UInt8)} :
    SlotIdentity.toSlot (identitySlotOf content) = .absent ↔ content = none := by
  unfold SlotIdentity.toSlot
  cases content with
  | none => simp [identitySlotOf]
  | some data =>
    simp only [identitySlotOf, reduceCtorEq, iff_false]
    split_ifs with h1 h2 h3 <;> simp_all [parseIdentity_ne_notFound]

/-! ## Written records -/

/-- The characters of a valid id are capital letters, digits and dashes. -/
theorem nodeIdChar_of_mem {previous : Bool} {s : Text} (h : nodeIdChars previous s = true) :
    ∀ c ∈ s, nodeIdChar c = true := by
  induction s generalizing previous with
  | nil => simp
  | cons c s ih =>
    simp only [nodeIdChars, Bool.and_eq_true] at h
    intro d hd
    rcases List.mem_cons.mp hd with rfl | hd
    · exact h.1.1
    · exact ih h.2 d hd

theorem validNodeId_iff {s : Text} : validNodeId s = true ↔
    (s ≠ [] ∧ s.length ≤ kNodeIdMaxLength ∧ s.head? ≠ some '-' ∧ s.getLast? ≠ some '-') ∧
      nodeIdChars false s = true := by
  unfold validNodeId
  dsimp only
  split_ifs with h
  · simp only [false_iff, not_and]
    intro hs
    simp only [List.length_eq_zero_iff, gt_iff_lt, ← not_le] at h
    tauto
  · simp only [not_or, List.length_eq_zero_iff, not_lt, gt_iff_lt] at h
    tauto

/-- A character of a node id is printable ASCII. -/
theorem nodeIdChar_range {c : Char} (h : nodeIdChar c = true) : 32 ≤ c.toNat ∧ c.toNat < 127 := by
  simp only [nodeIdChar, Bool.or_eq_true, Bool.and_eq_true, decide_eq_true_eq, beq_iff_eq] at h
  rcases h with (⟨h1, h2⟩ | ⟨h1, h2⟩) | rfl
  · have h1 : 65 ≤ c.toNat := h1
    have h2 : c.toNat ≤ 90 := h2
    omega
  · have h1 : 48 ≤ c.toNat := h1
    have h2 : c.toNat ≤ 57 := h2
    omega
  · decide

/-- The bytes `provision` stores for an id under a generation. -/
def identityRecord (id : Text) (g : UInt32) : List UInt8 :=
  let head := recordHead .identity g 0 (identityPayload id)
  head ++ put32 (persistentCrc32 head) ++ identityPayload id

/-- The identity `provision` stores. -/
def sealIdentity (id : Text) (g : UInt32) : NodeIdentity :=
  { schemaVersion := 1, provisioningState := ProvisioningState.provisioned, nodeId := id,
    generation := g }

theorem length_identityPayload (id : Text) : (identityPayload id).length = 4 + id.length := by
  simp [identityPayload]
  omega

/-- The encoder never refuses a valid id. -/
theorem encode_identity {id : Text} (h : validNodeId id = true) (g : UInt32) :
    encodePersistentRecord .identity g 0 (identityPayload id) kPersistentMaxRecord =
      .ok (identityRecord id g) := by
  rw [encode_eq_ok_iff, length_identityPayload]
  have hlen := (validNodeId_iff.mp h).1.2.1
  refine ⟨?_, rfl⟩
  rw [kNodeIdMaxLength] at hlen
  rw [kPersistentMaxPayload]
  omega

/-- A written record is read back as the id under its generation. -/
theorem identitySlotOf_record {id : Text} (h : validNodeId id = true) (g : UInt32) :
    identitySlotOf (some (identityRecord id g)) =
      { status := .ok, value := sealIdentity id g } := by
  have henc := encode_identity h g
  have hfits : ¬ (identityRecord id g).length > kPersistentMaxRecord :=
    not_lt.mpr (length_le_of_encode henc)
  obtain ⟨⟨hne, hlen, -, -⟩, hchars⟩ := validNodeId_iff.mp h
  have hascii := fun c hc => nodeIdChar_range (nodeIdChar_of_mem hchars c hc)
  have hsize : (UInt8.ofNat id.length).toNat = id.length := by
    rw [kNodeIdMaxLength] at hlen
    simp
    omega
  have hpos : id.length ≠ 0 := by simpa using hne
  have hid : (Text.ofBytes ((identityPayload id).drop 4)).cString = id := by
    have hdrop : (identityPayload id).drop 4 = id.toBytes := rfl
    rw [hdrop, Text.ofBytes_toBytes fun c hc => by have := (hascii c hc).2; omega,
      Text.cString_eq_self]
    intro hzero
    have := (hascii _ hzero).1
    simp at this
  have h0 : byteAt (identityPayload id) 0 = 1 := rfl
  have h1 : byteAt (identityPayload id) 1 = 0 := rfl
  have h2 : byteAt (identityPayload id) 2 = ProvisioningState.provisioned := rfl
  have h3 : byteAt (identityPayload id) 3 = UInt8.ofNat id.length := rfl
  simp only [identitySlotOf, if_neg hfits, parseIdentity, decode_encode henc, hid, h0, h1, h2, h3,
    hsize, length_identityPayload, h]
  rw [if_neg (by omega), if_neg (by simp; exact ⟨hne, hlen⟩)]
  simp [sealIdentity]

/-- Debris never reads as a record. -/
theorem toSlot_debris_identity (left : Debris) (g : UInt32) (v : NodeIdentity) :
    SlotIdentity.toSlot (identitySlotOf left.val) ≠ .holds g v := by
  intro h
  unfold SlotIdentity.toSlot at h
  split_ifs at h with hok
  cases hleft : left.val with
  | none =>
    rw [hleft] at hok
    cases hok
  | some data =>
    rw [hleft] at hok
    simp only [identitySlotOf] at hok
    split_ifs at hok
    cases hd : decodePersistentRecord data .identity with
    | error s =>
      simp only [parseIdentity, hd] at hok
      exact (decode_error hd).1 hok
    | ok view => exact left.property data hleft .identity view hd

/-- Changing another key leaves the identity store alone. -/
theorem identityStore_put_of_ne {nvm : Nvm} {key : UInt32} {content : Option (List UInt8)}
    (hA : key ≠ kIdentitySlotA) (hB : key ≠ kIdentitySlotB) :
    identityStore (nvm.put key content) = identityStore nvm := by
  simp [identityStore, Nvm.put_of_ne hA.symm, Nvm.put_of_ne hB.symm]

/-! ## One provisioning -/

/-- What an identity write returns after its backend write answered `s` and left `nvm`. -/
def identityReadback (nvm : Nvm) (key : UInt32) (id : Text) (g : UInt32) (checkGeneration : Bool)
    (s : StoreStatus) : Except StoreStatus NodeIdentity :=
  if s ≠ .ok then .error s
  else
    let verify := identitySlotOf (nvm key)
    if verify.status ≠ .ok ∨ (checkGeneration ∧ verify.value.generation ≠ g) ∨
        verify.value.nodeId ≠ id then
      .error .readbackFailed
    else .ok verify.value

/-- A completed identity write reads back as the identity. -/
theorem identityReadback_record {nvm : Nvm} {key : UInt32} {id : Text} {g : UInt32}
    (h : nvm key = some (identityRecord id g)) (hid : validNodeId id = true)
    (checkGeneration : Bool) :
    identityReadback nvm key id g checkGeneration .ok = .ok (sealIdentity id g) := by
  simp [identityReadback, h, identitySlotOf_record hid, sealIdentity]

section Provision

variable {φ : Type} {E : Environment NvmAnswer Nvm φ} (hE : FaithfulReads E)
include hE

/-- One identity write makes one backend write and reports what it then finds there. -/
theorem run_writeIdentity {id : Text} (hid : validNodeId id = true) (nvm : Nvm) (key g : UInt32)
    (checkGeneration : Bool) (ω : ℕ → φ) :
    let wrote := E.step nvm (.write key (identityRecord id g)) (ω 0)
    (writeIdentity key id g checkGeneration).run E nvm ω =
      ⟨identityReadback wrote.2 key id g checkGeneration wrote.1, wrote.2,
        if wrote.1 = .ok then fun i => ω (i + 2) else fun i => ω (i + 1)⟩ := by
  dsimp only
  rw [writeIdentity, encode_identity hid]
  simp only [backendWrite, Program.perform_bind, Program.run_call]
  generalize E.step nvm (.write key (identityRecord id g)) (ω 0) = wrote
  by_cases hs : wrote.1 = .ok
  · simp only [identityReadback, hs, ne_eq, not_true_eq_false, if_false, Program.run_bind,
      run_readIdentity hE]
    split <;> rfl
  · simp only [identityReadback, ne_eq, hs, not_false_eq_true, if_true]
    rfl

omit hE in
/-- An invalid id is refused before anything is read. -/
theorem run_identityProvision_invalid {id : Text} (h : validNodeId id = false) (nvm : Nvm)
    (out : NodeIdentity) (ω : ℕ → φ) :
    (identityProvision id out).run E nvm ω = ⟨(.invalidArgument, out), nvm, ω⟩ := by
  rw [identityProvision, h]
  rfl

/-- A store that is not empty is never provisioned. -/
theorem run_identityProvision_refused {id : Text} (h : validNodeId id = true) {nvm : Nvm}
    (hl : (identityStore nvm).load ≠ .empty) (out : NodeIdentity) (ω : ℕ → φ) :
    ∃ s, s ≠ .ok ∧ (identityProvision id out).run E nvm ω =
      ⟨(s, out), nvm, Program.later (Program.later ω)⟩ := by
  rw [identityProvision, h]
  simp only [Bool.not_true, Bool.false_eq_true, if_false, Program.run_bind, run_identityLoad hE,
    storedIdentityOr_eq]
  cases hs : (identityStore nvm).load with
  | empty => exact absurd hs hl
  | corrupt => exact ⟨.corrupt, by decide, rfl⟩
  | conflict => exact ⟨.generationConflict, by decide, rfl⟩
  | found g v r => cases r <;> exact ⟨.invalidArgument, by decide, rfl⟩

/-- It is only read. -/
theorem trace_identityProvision_refused {id : Text} {nvm : Nvm}
    (hl : (identityStore nvm).load ≠ .empty) (out : NodeIdentity) (ω : ℕ → φ) {op : NvmOp}
    (hop : op ∈ (identityProvision id out).trace E nvm ω) :
    ∃ key, op = .read key kPersistentMaxRecord := by
  unfold identityProvision at hop
  split at hop
  · cases hop
  rw [Program.trace_bind, trace_identityLoad hE, run_identityLoad hE, storedIdentityOr_eq,
    List.mem_append] at hop
  rcases hop with hread | hrest
  · simp only [List.mem_cons, List.not_mem_nil, or_false] at hread
    rcases hread with rfl | rfl <;> exact ⟨_, rfl⟩
  · cases hs : (identityStore nvm).load with
    | empty => exact absurd hs hl
    | corrupt => rw [hs] at hrest; cases hrest
    | conflict => rw [hs] at hrest; cases hrest
    | found g v r => rw [hs] at hrest; cases r <;> cases hrest

/-- **One provisioning.**  On an empty store, slot A is written and verified, then slot B. -/
theorem run_identityProvision {id : Text} (h : validNodeId id = true) {nvm : Nvm}
    (hl : (identityStore nvm).load = .empty) (out : NodeIdentity) (ω : ℕ → φ) :
    let first := (writeIdentity kIdentitySlotA id 1 false).run E nvm fun i => ω (i + 2)
    let second := (writeIdentity kIdentitySlotB id 2 true).run E first.state first.rest
    (identityProvision id out).run E nvm ω =
      match first.value with
      | .error s => ⟨(s, out), first.state, first.rest⟩
      | .ok _ => ⟨match second.value with
          | .error s => (s, out)
          | .ok verify => (.ok, verify), second.state, second.rest⟩ := by
  dsimp only
  rw [identityProvision, h]
  simp only [Bool.not_true, Bool.false_eq_true, if_false, Program.run_bind, run_identityLoad hE,
    storedIdentityOr_eq, hl, loadedIdentity]
  simp only [reduceCtorEq, or_self, if_false, ne_eq, not_true_eq_false]
  rw [Program.run_bind]
  have hrest : (Program.later (Program.later ω)) = fun i => ω (i + 2) := rfl
  rw [hrest]
  generalize (writeIdentity kIdentitySlotA id 1 false).run E nvm (fun i => ω (i + 2)) = first
  cases hv : first.value with
  | error s => rfl
  | ok v =>
    simp only
    rw [Program.run_bind]
    generalize (writeIdentity kIdentitySlotB id 2 true).run E first.state first.rest = second
    cases second.value <;> rfl

end Provision

end SeedMg24.Analysis
