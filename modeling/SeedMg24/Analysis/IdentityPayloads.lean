import SeedMg24.Analysis.IdentitySlots
import SeedMg24.Analysis.RecordBijection

/-!
# Identity payloads and the ids they are read as

An identity payload gives the length of its id, and the id is checked as a C string.  What is read
is what `provision` would write, unless the id bytes have a zero among them and the bytes before it
are a valid id: such a payload is accepted as the shorter id.
-/

set_option autoImplicit false

namespace SeedMg24.Analysis

open Foundation Model

/-- The id in a payload: the C string behind the first four bytes.
SOURCE: node_identity_store.cpp:12 -/
def payloadId (payload : List UInt8) : Text := (Text.ofBytes (payload.drop 4)).cString

/-- What is looked at in a payload: its version, its length byte and its state, and the id as a C
string.
SOURCE: node_identity_store.cpp:10-13 -/
structure LooksRight (payload : List UInt8) : Prop where
  version : byteAt payload 0 = 1 ∧ byteAt payload 1 = 0
  state : byteAt payload 2 = ProvisioningState.provisioned
  size : 0 < (byteAt payload 3).toNat ∧ (byteAt payload 3).toNat ≤ kNodeIdMaxLength
  length : payload.length = 4 + (byteAt payload 3).toNat
  valid : validNodeId (payloadId payload) = true

/-- **What is accepted**, and the id that is returned then. -/
theorem parseIdentity_iff {record : List UInt8} {v : RecordView}
    (h : decodePersistentRecord record .identity = .ok v) :
    ((parseIdentity record).status = .ok ↔ LooksRight v.payload) ∧
      (LooksRight v.payload → (parseIdentity record).value.nodeId = payloadId v.payload) := by
  unfold parseIdentity
  rw [h]
  dsimp only
  by_cases hshort : v.payload.length < 4
  · rw [if_pos hshort]
    have hnot : ¬ LooksRight v.payload := fun hright => by
      have hlength := hright.length
      have hsize := hright.size
      omega
    exact ⟨⟨nofun, fun hright => absurd hright hnot⟩, fun hright => absurd hright hnot⟩
  rw [if_neg hshort]
  by_cases hframe : byteAt v.payload 0 ≠ 1 ∨ byteAt v.payload 1 ≠ 0 ∨
      (byteAt v.payload 3).toNat = 0 ∨ (byteAt v.payload 3).toNat > kNodeIdMaxLength ∨
      v.payload.length ≠ 4 + (byteAt v.payload 3).toNat
  · rw [if_pos hframe]
    have hnot : ¬ LooksRight v.payload := by
      intro hright
      have hsize := hright.size
      rcases hframe with h | h | h | h | h
      · exact h hright.version.1
      · exact h hright.version.2
      · omega
      · omega
      · exact h hright.length
    refine ⟨⟨fun hstatus => ?_, fun hright => absurd hright hnot⟩, fun hright => absurd hright hnot⟩
    split at hstatus <;> cases hstatus
  rw [if_neg hframe]
  simp only [not_or, not_not, not_lt, ← Nat.pos_iff_ne_zero] at hframe
  obtain ⟨hversion, hreserved, hpos, hsize, hlength⟩ := hframe
  by_cases hcheck : (!validNodeId (Text.ofBytes (v.payload.drop 4)).cString) = true ∨
      byteAt v.payload 2 ≠ ProvisioningState.provisioned
  · rw [if_pos hcheck]
    have hnot : ¬ LooksRight v.payload := by
      intro hright
      rcases hcheck with hinvalid | hstate
      · have hvalid : validNodeId (Text.ofBytes (v.payload.drop 4)).cString = true := hright.valid
        rw [hvalid] at hinvalid
        cases hinvalid
      · exact hstate hright.state
    exact ⟨⟨nofun, fun hright => absurd hright hnot⟩, fun hright => absurd hright hnot⟩
  · rw [if_neg hcheck]
    simp only [not_or, not_not, Bool.not_eq_true', Bool.not_eq_false] at hcheck
    exact ⟨⟨fun _ => ⟨⟨hversion, hreserved⟩, hcheck.2, ⟨hpos, hsize⟩, hlength, hcheck.1⟩, fun _ => rfl⟩,
      fun _ => rfl⟩

/-! ## The payload of an id -/

/-- The payload `provision` writes for a valid id looks right, and is that of the id. -/
theorem looksRight_identityPayload {id : Text} (h : validNodeId id = true) :
    LooksRight (identityPayload id) ∧ payloadId (identityPayload id) = id ∧
      (0 : UInt8) ∉ (identityPayload id).drop 4 := by
  obtain ⟨⟨hne, hlong, -, -⟩, hchars⟩ := validNodeId_iff.mp h
  have hascii := fun c hc => nodeIdChar_range (nodeIdChar_of_mem hchars c hc)
  have hpos : 0 < id.length := List.length_pos_iff.mpr hne
  have hsize : (byteAt (identityPayload id) 3).toNat = id.length := by
    show (UInt8.ofNat id.length).toNat = id.length
    rw [kNodeIdMaxLength] at hlong
    simp
    omega
  have hdrop : (identityPayload id).drop 4 = id.toBytes := rfl
  have hid : payloadId (identityPayload id) = id := by
    rw [payloadId, hdrop, Text.ofBytes_toBytes fun c hc => by have := (hascii c hc).2; omega,
      Text.cString_eq_self]
    intro hzero
    exact absurd (hascii _ hzero).1 (by decide)
  refine ⟨⟨⟨rfl, rfl⟩, rfl, by omega, ?_, hid.symm ▸ h⟩, hid, fun hzero => ?_⟩
  · rw [hsize, length_identityPayload]
  · rw [hdrop] at hzero
    obtain ⟨c, hc, hbyte⟩ := List.mem_map.mp hzero
    have hrange := hascii c hc
    have hnat := congrArg UInt8.toNat hbyte
    rw [Text.toNat_toUInt8 (by omega)] at hnat
    have hzeroNat : (0 : UInt8).toNat = 0 := rfl
    omega

/-- **A payload that looks right is that of its id** unless a zero ends the id early. -/
theorem eq_identityPayload_iff {payload : List UInt8} (h : LooksRight payload) :
    payload = identityPayload (payloadId payload) ↔ (0 : UInt8) ∉ payload.drop 4 := by
  constructor
  · intro hwritten
    rw [hwritten]
    exact (looksRight_identityPayload h.valid).2.2
  · intro hnozero
    have hbytes : '\x00' ∉ Text.ofBytes (payload.drop 4) := by
      intro hzero
      obtain ⟨b, hb, hchar⟩ := List.mem_map.mp hzero
      have hbyte : b.toNat = 0 := by
        rw [← Text.toNat_ofByte b, hchar]
        rfl
      exact hnozero (UInt8.toNat_inj.mp (show b.toNat = (0 : UInt8).toNat from hbyte) ▸ hb)
    have hid : payloadId payload = Text.ofBytes (payload.drop 4) := Text.cString_eq_self hbytes
    have hlength := h.length
    obtain ⟨a, b, c, d, rest, rfl⟩ : ∃ a b c d rest, payload = a :: b :: c :: d :: rest := by
      match payload, hlength with
      | a :: b :: c :: d :: rest, _ => exact ⟨a, b, c, d, rest, rfl⟩
      | [], hlength | [_], hlength | [_, _], hlength | [_, _, _], hlength =>
        simp only [List.length_cons, List.length_nil] at hlength
        omega
    have hversion : a = 1 ∧ b = 0 := h.version
    have hstate : c = ProvisioningState.provisioned := h.state
    have hrest : rest.length = d.toNat := by
      have hd : byteAt (a :: b :: c :: d :: rest) 3 = d := rfl
      rw [hd] at hlength
      simp only [List.length_cons] at hlength
      omega
    have hdrop : (a :: b :: c :: d :: rest).drop 4 = rest := rfl
    rw [hid, hdrop, identityPayload, Text.toBytes_ofBytes, Text.length_ofBytes, hrest, hversion.1,
      hversion.2, hstate, UInt8.ofNat_toNat]
    rfl

/-- A payload whose id bytes go on behind a zero. -/
structure EndsEarly (payload : List UInt8) : Prop where
  right : LooksRight payload
  zero : (0 : UInt8) ∈ payload.drop 4

/-- A record is read as an id exactly if its payload is what `provision` would write for the id. -/
def ParsedExactly (record payload : List UInt8) : Prop :=
  let identity := identitySlotOf (some record)
  identity.status = .ok ↔
    validNodeId identity.value.nodeId = true ∧ payload = identityPayload identity.value.nodeId

theorem identitySlotOf_of_decode {record : List UInt8} {v : RecordView}
    (h : decodePersistentRecord record .identity = .ok v) :
    identitySlotOf (some record) = parseIdentity record := by
  have haccepted := accepted_of_decode h
  have hlength := haccepted.length
  have hsize := haccepted.payloadSize
  refine if_neg ?_
  rw [kPersistentMaxRecord]
  omega

/-- A record whose payload has 3 id bytes, `A`, zero and `B`. -/
def earlyRecord : List UInt8 :=
  [71, 82, 51, 78, 1, 1, 24, 0, 7, 0, 0, 0, 1, 0, 0, 0, 223, 149, 68, 253, 181, 190, 42, 92,
    1, 0, 1, 3, 65, 0, 66]

/-- It is read as the id `A`, for which `provision` writes another payload. -/
theorem not_parsedExactly : ∃ v, decodePersistentRecord earlyRecord .identity = .ok v ∧
    identitySlotOf (some earlyRecord) = { status := .ok, value := sealIdentity "A".toList 1 } ∧
    ¬ ParsedExactly earlyRecord v.payload := by
  have hdecode : decodePersistentRecord earlyRecord .identity =
      .ok ⟨.identity, 1, 0, [1, 0, 1, 3, 65, 0, 66]⟩ := by
    have hencode : encodePersistentRecord .identity 1 0 [1, 0, 1, 3, 65, 0, 66] kPersistentMaxRecord =
        .ok earlyRecord := encode_eq_ok_iff.mpr ⟨by decide, by decide +kernel⟩
    exact decode_encode hencode
  have hslot : identitySlotOf (some earlyRecord) =
      { status := .ok, value := sealIdentity "A".toList 1 } := by
    decide +kernel
  refine ⟨_, hdecode, hslot, ?_⟩
  unfold ParsedExactly
  rw [hslot]
  decide +kernel

/-- **When identity payloads are parsed exactly**: of every well-formed record with right CRCs, unless
its payload looks right and its id bytes go on behind a zero. -/
theorem parsedExactly_iff (record : List UInt8) (v : RecordView)
    (h : decodePersistentRecord record .identity = .ok v) :
    ParsedExactly record v.payload ↔ ¬ EndsEarly v.payload := by
  obtain ⟨hstatus, hid⟩ := parseIdentity_iff h
  unfold ParsedExactly
  rw [identitySlotOf_of_decode h]
  dsimp only
  rw [hstatus]
  by_cases hright : LooksRight v.payload
  · rw [hid hright]
    have hpayload := eq_identityPayload_iff hright
    constructor
    · intro hexact hearly
      exact hpayload.mp (hexact.mp hright).2 hearly.zero
    · intro hnot
      refine ⟨fun _ => ⟨hright.valid, hpayload.mpr fun hzero => hnot ⟨hright, hzero⟩⟩, fun _ => hright⟩
  · constructor
    · exact fun _ hearly => hright hearly.right
    · intro _
      refine ⟨fun h => absurd h hright, fun hwritten => ?_⟩
      rw [hwritten.2]
      exact (looksRight_identityPayload hwritten.1).1

/-- The record of an id is parsed exactly. -/
theorem parsedExactly_identityRecord :
    ParsedExactly (identityRecord "MG24-01".toList 1) (identityPayload "MG24-01".toList) := by
  have hvalid : validNodeId "MG24-01".toList = true := by decide +kernel
  have hexact := parsedExactly_iff _ _ (decode_encode (encode_identity hvalid 1))
  exact hexact.mpr fun hearly => absurd hearly.zero (by decide +kernel)

end SeedMg24.Analysis
