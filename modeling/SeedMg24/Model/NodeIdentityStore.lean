import SeedMg24.Foundation.Text
import SeedMg24.Model.NvmBackend

/-!
# The node identity store

The write-once, two-slot identity store of `node_identity_store.h` and
`node_identity_store.cpp`.
-/

set_option autoImplicit false

namespace SeedMg24.Model

open Foundation

def kNodeIdMaxLength : ℕ := 31

/-- `ProvisioningState::Provisioned`, as the byte it is stored as. -/
def ProvisioningState.provisioned : UInt8 := 1

/-- A zeroed structure is the default; `nodeId` is the C string in the array.
SOURCE: node_identity_store.h:6 -/
structure NodeIdentity where
  schemaVersion : UInt16 := 0
  provisioningState : UInt8 := 0
  nodeId : Text := []
  generation : UInt32 := 0
deriving DecidableEq, Repr, Inhabited

/-- SOURCE: node_identity_store.cpp:5 -/
structure SlotIdentity where
  status : StoreStatus
  value : NodeIdentity := {}
deriving DecidableEq, Repr

/-- A character a node id may hold. -/
def nodeIdChar (c : Char) : Bool :=
  ('A' ≤ c && c ≤ 'Z') || ('0' ≤ c && c ≤ '9') || c == '-'

/-- The loop of `valid_node_id`: every character is allowed, and no dash follows a dash;
`previous` is the character before, a dash or not.
SOURCE: node_identity_store.cpp:14 -/
def nodeIdChars (previous : Bool) : Text → Bool
  | [] => true
  | c :: cs => nodeIdChar c && !(c == '-' && previous) && nodeIdChars (c == '-') cs

/-- `NodeIdentityStore::valid_node_id`.
SOURCE: node_identity_store.cpp:14 -/
def validNodeId (s : Text) : Bool :=
  let n := s.length
  if n = 0 ∨ n > kNodeIdMaxLength ∨ s.head? = some '-' ∨ s.getLast? = some '-' then false
  else nodeIdChars false s

/-- What the bytes read from a slot mean.
SOURCE: node_identity_store.cpp:8-13 -/
def parseIdentity (record : List UInt8) : SlotIdentity :=
  match decodePersistentRecord record .identity with
  | .error s => { status := s }
  | .ok v =>
    if v.payload.length < 4 then { status := .corrupt }
    else
      let len := (byteAt v.payload 3).toNat
      if byteAt v.payload 0 ≠ 1 ∨ byteAt v.payload 1 ≠ 0 ∨ len = 0 ∨ len > kNodeIdMaxLength ∨
          v.payload.length ≠ 4 + len then
        { status := if byteAt v.payload 0 ≠ 1 then .unsupportedVersion else .corrupt }
      else
        let value : NodeIdentity := {
          schemaVersion := 1
          provisioningState := byteAt v.payload 2
          nodeId := (Text.ofBytes (v.payload.drop 4)).cString
          generation := v.generation }
        if !validNodeId value.nodeId ∨ value.provisioningState ≠ ProvisioningState.provisioned then
          { status := .corrupt, value }
        else { status := .ok, value }

/-- SOURCE: node_identity_store.cpp:6-14 -/
def readIdentity (key : UInt32) : NvmProgram SlotIdentity := do
  match ← backendRead key kPersistentMaxRecord with
  | .error s => return { status := s }
  | .ok record => return parseIdentity record

/-- How `load` chooses between the two slots.
SOURCE: node_identity_store.cpp:19-23 -/
def selectIdentity (a b : SlotIdentity) (out : NodeIdentity) : StoreStatus × NodeIdentity :=
  let av := a.status = .ok
  let bv := b.status = .ok
  if ¬ av ∧ ¬ bv then
    if a.status = .notFound ∧ b.status = .notFound then (.unprovisioned, out) else (.corrupt, out)
  else if av ∧ bv ∧ !generationNewer a.value.generation b.value.generation ∧
      !generationNewer b.value.generation a.value.generation ∧
      a.value.generation = b.value.generation then
    (.generationConflict, out)
  else
    let value := if bv ∧ (¬ av ∨ generationNewer b.value.generation a.value.generation) then
      b.value else a.value
    if av ∧ bv then (.ok, value)
    else if (if av then b.status else a.status) = .notFound then (.ok, value)
    else (.recoveredFromPrevious, value)

/-- `NodeIdentityStore::load`.
SOURCE: node_identity_store.cpp:16-23 -/
def identityLoad (out : NodeIdentity) : NvmProgram (StoreStatus × NodeIdentity) := do
  let a ← readIdentity kIdentitySlotA
  let b ← readIdentity kIdentitySlotB
  return selectIdentity a b out

/-- The payload an id is stored as.
SOURCE: node_identity_store.cpp:27 -/
def identityPayload (id : Text) : List UInt8 :=
  [1, 0, ProvisioningState.provisioned, UInt8.ofNat id.length] ++ id.toBytes

/-- One of the two identity writes of `provision`, with its readback: the status to return, or
the identity read back.
SOURCE: node_identity_store.cpp:28-29, 30 -/
def writeIdentity (key : UInt32) (id : Text) (generation : UInt32) (checkGeneration : Bool) :
    NvmProgram (Except StoreStatus NodeIdentity) := do
  match encodePersistentRecord .identity generation 0 (identityPayload id)
      kPersistentMaxRecord with
  | .error s => return .error s
  | .ok record =>
    let s ← backendWrite key record
    if s ≠ .ok then return .error s
    let verify ← readIdentity key
    if verify.status ≠ .ok ∨ (checkGeneration ∧ verify.value.generation ≠ generation) ∨
        verify.value.nodeId ≠ id then
      return .error .readbackFailed
    return .ok verify.value

/-- `NodeIdentityStore::provision`.
SOURCE: node_identity_store.cpp:24-31 -/
def identityProvision (id : Text) (out : NodeIdentity) :
    NvmProgram (StoreStatus × NodeIdentity) := do
  if !validNodeId id then return (.invalidArgument, out)
  let (old, _) ← identityLoad {}
  if old = .ok ∨ old = .recoveredFromPrevious then return (.invalidArgument, out)
  if old ≠ .unprovisioned then return (old, out)
  match ← writeIdentity kIdentitySlotA id 1 false with
  | .error s => return (s, out)
  | .ok _ =>
    match ← writeIdentity kIdentitySlotB id 2 true with
    | .error s => return (s, out)
    | .ok verify => return (.ok, verify)

end SeedMg24.Model
