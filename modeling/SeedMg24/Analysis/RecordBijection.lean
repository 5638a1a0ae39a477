import SeedMg24.Analysis.RecordRoundTrip

/-!
# Records and their bytes

A record that is accepted is the one that is written for what it decodes to: every byte of the
envelope is either checked or carried.  With the round trip this makes the format a bijection.
-/

set_option autoImplicit false

namespace SeedMg24.Analysis

open Foundation Model

/-! ## Words written back -/

/-- A 16-bit word is written back as the bytes it was read from. -/
theorem put16_get16 {r : List UInt8} {offset : ℕ} (h : offset + 2 ≤ r.length) :
    put16 (get16 r offset) = (r.drop offset).take 2 := by
  have hlength : ((r.drop offset).take 2).length = 2 := by
    rw [List.length_take, List.length_drop]
    omega
  have hlt := LittleEndian.value_lt ((r.drop offset).take 2)
  have hbytes := LittleEndian.bytes_value ((r.drop offset).take 2)
  rw [hlength] at hlt hbytes
  unfold put16 get16
  rw [UInt16.toNat_ofNat_of_lt' hlt, hbytes]

/-- A 32-bit word is written back as the bytes it was read from. -/
theorem put32_get32 {r : List UInt8} {offset : ℕ} (h : offset + 4 ≤ r.length) :
    put32 (get32 r offset) = (r.drop offset).take 4 := by
  have hlength : ((r.drop offset).take 4).length = 4 := by
    rw [List.length_take, List.length_drop]
    omega
  have hlt := LittleEndian.value_lt ((r.drop offset).take 4)
  have hbytes := LittleEndian.bytes_value ((r.drop offset).take 4)
  rw [hlength] at hlt hbytes
  unfold put32 get32
  rw [UInt32.toNat_ofNat_of_lt' hlt, hbytes]

/-- A byte, as the part of a byte string it is. -/
theorem singleton_byteAt {r : List UInt8} {offset : ℕ} (h : offset < r.length) :
    [byteAt r offset] = (r.drop offset).take 1 := by
  rw [byteAt, List.getD_eq_getElem?_getD, List.getElem?_eq_getElem h, Option.getD_some,
    List.drop_eq_getElem_cons h, List.take_succ_cons, List.take_zero]

/-! ## Accepted records -/

/-- What is known of a record that is accepted: the checks it passes, and what is returned. -/
structure Accepted (r : List UInt8) (expected : PersistentRecordType) (view : RecordView) : Prop where
  length : r.length = kPersistentHeaderSize + (get16 r 8).toNat
  payloadSize : (get16 r 8).toNat ≤ kPersistentMaxPayload
  magic : get32 r 0 = kMagic
  version : byteAt r 5 = kEnvelopeVersion
  code : byteAt r 4 = expected.code
  headerSize : get16 r 6 = UInt16.ofNat kPersistentHeaderSize
  flags : get16 r 10 = 0
  headerCrc : get32 r 20 = persistentCrc32 (r.take 20)
  payloadCrc : get32 r 16 = persistentCrc32 (r.drop kPersistentHeaderSize)
  view : view = ⟨expected, get32 r 12, 0, r.drop kPersistentHeaderSize⟩

/-- The decoder accepts a record only after all its checks. -/
theorem accepted_of_decode {r : List UInt8} {expected : PersistentRecordType} {view : RecordView}
    (h : decodePersistentRecord r expected = .ok view) : Accepted r expected view := by
  unfold decodePersistentRecord at h
  split at h
  · cases h
  split at h
  · cases h
  rename_i hmagic
  split at h
  · cases h
  rename_i hversion
  split at h
  · cases h
  rename_i hcode
  split at h
  · cases h
  rename_i hsizes
  dsimp only at h
  split at h
  · cases h
  rename_i hlength
  split at h
  · cases h
  rename_i hheaderCrc
  split at h
  · cases h
  rename_i hpayloadCrc
  cases h
  simp only [not_or, not_not, gt_iff_lt, not_lt] at hmagic hversion hcode hsizes hlength
  rw [not_not] at hheaderCrc hpayloadCrc
  have hheaderSize : get16 r 6 = UInt16.ofNat kPersistentHeaderSize := by
    rw [← UInt16.toNat_inj, hsizes.1]
    rfl
  exact {
    length := hlength.2
    payloadSize := hlength.1
    magic := hmagic
    version := hversion
    code := hcode
    headerSize := hheaderSize
    flags := hsizes.2
    headerCrc := hheaderCrc
    payloadCrc := hpayloadCrc
    view := rfl }

variable {r : List UInt8} {expected : PersistentRecordType} {view : RecordView}

/-- The head of an accepted record is the one that is written for its contents. -/
theorem Accepted.recordHead_eq (h : Accepted r expected view) :
    recordHead expected (get32 r 12) 0 (r.drop kPersistentHeaderSize) = r.take 20 := by
  have hlength := h.length
  unfold kPersistentHeaderSize at hlength
  have hpayload : UInt16.ofNat (r.drop kPersistentHeaderSize).length = get16 r 8 := by
    rw [List.length_drop, h.length, Nat.add_sub_cancel_left, UInt16.ofNat_toNat]
  have hcut (a b : ℕ) : r.take (a + b) = r.take a ++ (r.drop a).take b := List.take_add
  have hparts : r.take 20 = (r.drop 0).take 4 ++ ((r.drop 4).take 1 ++ (r.drop 5).take 1) ++
      (r.drop 6).take 2 ++ (r.drop 8).take 2 ++ (r.drop 10).take 2 ++ (r.drop 12).take 4 ++
      (r.drop 16).take 4 := by
    rw [hcut 16 4, hcut 12 4, hcut 10 2, hcut 8 2, hcut 6 2, hcut 5 1, hcut 4 1, List.drop_zero]
    simp only [List.append_assoc]
  rw [hparts, ← put32_get32 (by omega), ← singleton_byteAt (by omega),
    ← singleton_byteAt (by omega), ← put16_get16 (by omega), ← put16_get16 (by omega),
    ← put16_get16 (by omega), ← put32_get32 (by omega), ← put32_get32 (by omega), h.magic, h.code,
    h.version, h.headerSize, h.flags, h.payloadCrc, ← hpayload]
  rfl

/-- A buffer that is large enough makes no difference to the encoder. -/
theorem encode_capacity {type : PersistentRecordType} {generation : UInt32} {payload : List UInt8}
    {capacity : ℕ} (h : kPersistentHeaderSize + payload.length ≤ capacity) :
    encodePersistentRecord type generation 0 payload capacity =
      encodePersistentRecord type generation 0 payload kPersistentMaxRecord := by
  have hsize : (payload.length > kPersistentMaxPayload ∨
      capacity < kPersistentHeaderSize + payload.length) ↔
      (payload.length > kPersistentMaxPayload ∨
        kPersistentMaxRecord < kPersistentHeaderSize + payload.length) := by
    unfold kPersistentMaxRecord
    omega
  unfold encodePersistentRecord
  rw [if_congr hsize rfl rfl]

/-- **A record that is accepted is the one that is written for what it decodes to.** -/
theorem encode_decode (h : decodePersistentRecord r expected = .ok view) :
    encodePersistentRecord view.type view.generation view.flags view.payload kPersistentMaxRecord =
      .ok r := by
  have haccepted := accepted_of_decode h
  have hlength := haccepted.length
  rw [haccepted.view]
  apply encode_eq_ok_iff.mpr
  refine ⟨?_, ?_⟩
  · have hpayloadSize := haccepted.payloadSize
    rw [List.length_drop]
    omega
  · have hheader : 20 + 4 ≤ r.length := by
      unfold kPersistentHeaderSize at hlength
      omega
    rw [haccepted.recordHead_eq, ← haccepted.headerCrc, put32_get32 hheader, ← List.take_add]
    exact (List.take_append_drop kPersistentHeaderSize r).symm

/-- **The record format is a bijection** between types, generations and payloads of at most 220
bytes on the one side and the byte strings that are accepted on the other. -/
theorem persistentRecord_bijective (type : PersistentRecordType) (capacity : ℕ) :
    (∀ generation payload, payload.length ≤ kPersistentMaxPayload →
      kPersistentHeaderSize + payload.length ≤ capacity →
      ∃ record, encodePersistentRecord type generation 0 payload capacity = .ok record ∧
        decodePersistentRecord record type = .ok ⟨type, generation, 0, payload⟩) ∧
    (∀ record view, record.length ≤ capacity → decodePersistentRecord record type = .ok view →
      encodePersistentRecord view.type view.generation view.flags view.payload capacity =
        .ok record) := by
  constructor
  · intro generation payload hpayload hcapacity
    obtain ⟨record, hrecord⟩ := exists_encode type generation hpayload
    exact ⟨record, by rw [encode_capacity hcapacity, hrecord], decode_encode hrecord⟩
  · intro record view hcapacity hdecode
    have haccepted := accepted_of_decode hdecode
    have hlength := haccepted.length
    have hview := encode_decode hdecode
    rw [haccepted.view] at hview ⊢
    rw [encode_capacity (by rw [List.length_drop]; omega), hview]

/-- A record of one byte, there and back. -/
theorem persistentRecord_bijective_identity :
    ∃ record, encodePersistentRecord .identity 7 0 [42] 25 = .ok record ∧
      decodePersistentRecord record .identity = .ok ⟨.identity, 7, 0, [42]⟩ ∧
      encodePersistentRecord .identity 7 0 [42] 25 = .ok record := by
  obtain ⟨record, hencode, hdecode⟩ :=
    (persistentRecord_bijective .identity 25).1 7 [42] (by decide) (by decide)
  have hcapacity : kPersistentHeaderSize + [(42 : UInt8)].length ≤ 25 := by decide
  have hlength : record.length ≤ 25 := by
    rw [encode_capacity hcapacity] at hencode
    exact (length_of_encode hencode).trans_le hcapacity
  exact ⟨record, hencode, hdecode,
    (persistentRecord_bijective .identity 25).2 record _ hlength hdecode⟩

end SeedMg24.Analysis
