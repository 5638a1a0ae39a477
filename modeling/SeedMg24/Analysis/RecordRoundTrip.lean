import SeedMg24.Model.PersistentRecord

/-!
# Encoding and decoding a record

What the encoder writes the decoder reads back: the type, the generation and the payload.
Nothing is needed of the CRC here beyond that both sides compute the same function.  The
words of a byte string are found by peeling the fields before them (`get32_skip` and its
companions), which the two payload formats use as well.
-/

set_option autoImplicit false

namespace SeedMg24.Analysis

open Foundation Model

/-! ## Words at an offset -/

@[simp] theorem length_put16 (v : UInt16) : (put16 v).length = 2 := LittleEndian.length_bytes 2 _

@[simp] theorem length_put32 (v : UInt32) : (put32 v).length = 4 := LittleEndian.length_bytes 4 _

/-- A 16-bit word is read back where it was written. -/
@[simp] theorem get16_put16 (v : UInt16) (rest : List UInt8) : get16 (put16 v ++ rest) 0 = v := by
  have hv : v.toNat < 256 ^ 2 := by simpa using v.toNat_lt
  rw [get16, List.drop_zero, put16, LittleEndian.value_take_bytes hv, UInt16.ofNat_toNat]

/-- A 32-bit word is read back where it was written. -/
@[simp] theorem get32_put32 (v : UInt32) (rest : List UInt8) : get32 (put32 v ++ rest) 0 = v := by
  have hv : v.toNat < 256 ^ 4 := by simpa using v.toNat_lt
  rw [get32, List.drop_zero, put32, LittleEndian.value_take_bytes hv, UInt32.ofNat_toNat]

/-- A 32-bit word at the end is read back. -/
@[simp] theorem get32_put32_last (v : UInt32) : get32 (put32 v) 0 = v := by
  simpa using get32_put32 v []

@[simp] theorem byteAt_cons (b : UInt8) (rest : List UInt8) : byteAt (b :: rest) 0 = b := rfl

@[simp] theorem byteAt_cons_succ (b : UInt8) (rest : List UInt8) (offset : ℕ) :
    byteAt (b :: rest) (offset + 1) = byteAt rest offset := rfl

@[simp] theorem get16_cons_succ (b : UInt8) (rest : List UInt8) (offset : ℕ) :
    get16 (b :: rest) (offset + 1) = get16 rest offset := rfl

@[simp] theorem get32_cons_succ (b : UInt8) (rest : List UInt8) (offset : ℕ) :
    get32 (b :: rest) (offset + 1) = get32 rest offset := rfl

/-- Fields before a 16-bit word only shift it. -/
theorem get16_skip {front : List UInt8} {offset : ℕ} (h : front.length ≤ offset)
    (rest : List UInt8) : get16 (front ++ rest) offset = get16 rest (offset - front.length) := by
  rw [get16, get16, List.drop_append, List.drop_of_length_le h, List.nil_append]

/-- Fields before a 32-bit word only shift it. -/
theorem get32_skip {front : List UInt8} {offset : ℕ} (h : front.length ≤ offset)
    (rest : List UInt8) : get32 (front ++ rest) offset = get32 rest (offset - front.length) := by
  rw [get32, get32, List.drop_append, List.drop_of_length_le h, List.nil_append]

/-- Fields before a byte only shift it. -/
theorem byteAt_skip {front : List UInt8} {offset : ℕ} (h : front.length ≤ offset)
    (rest : List UInt8) : byteAt (front ++ rest) offset = byteAt rest (offset - front.length) := by
  rw [byteAt, byteAt, List.getD_eq_getElem?_getD, List.getElem?_append_right h,
    List.getD_eq_getElem?_getD]

/-! ## Records -/

@[simp] theorem length_recordHead (type : PersistentRecordType) (generation : UInt32)
    (flags : UInt16) (payload : List UInt8) :
    (recordHead type generation flags payload).length = 20 := by
  simp [recordHead]

/-- What the encoder returns, when it returns a record. -/
theorem encode_eq_ok_iff {type : PersistentRecordType} {generation : UInt32}
    {payload record : List UInt8} :
    encodePersistentRecord type generation 0 payload kPersistentMaxRecord = .ok record ↔
      payload.length ≤ kPersistentMaxPayload ∧
        record = recordHead type generation 0 payload ++
          put32 (persistentCrc32 (recordHead type generation 0 payload)) ++ payload := by
  have hsize : (payload.length > kPersistentMaxPayload ∨
      kPersistentMaxRecord < kPersistentHeaderSize + payload.length) ↔
      ¬ payload.length ≤ kPersistentMaxPayload := by
    simp only [kPersistentMaxRecord]
    omega
  unfold encodePersistentRecord
  rw [if_congr hsize rfl rfl]
  by_cases h : payload.length ≤ kPersistentMaxPayload
  · simp [h, eq_comm]
  · simp [h]

/-- The encoder never fails with the status of a success. -/
theorem encode_error {type : PersistentRecordType} {generation : UInt32} {flags : UInt16}
    {payload : List UInt8} {capacity : ℕ} {s : StoreStatus}
    (h : encodePersistentRecord type generation flags payload capacity = .error s) : s ≠ .ok := by
  unfold encodePersistentRecord at h
  split at h
  · cases h
    decide
  · split at h <;> cases h
    decide

/-- A payload within the bound is encoded. -/
theorem exists_encode (type : PersistentRecordType) (generation : UInt32) {payload : List UInt8}
    (h : payload.length ≤ kPersistentMaxPayload) :
    ∃ record,
      encodePersistentRecord type generation 0 payload kPersistentMaxRecord = .ok record :=
  ⟨_, encode_eq_ok_iff.mpr ⟨h, rfl⟩⟩

theorem length_of_encode {type : PersistentRecordType} {generation : UInt32}
    {payload record : List UInt8}
    (h : encodePersistentRecord type generation 0 payload kPersistentMaxRecord = .ok record) :
    record.length = kPersistentHeaderSize + payload.length := by
  obtain ⟨-, rfl⟩ := encode_eq_ok_iff.mp h
  simp only [List.length_append, length_recordHead, length_put32, kPersistentHeaderSize]

/-- A record fits the buffer it is read into. -/
theorem length_le_of_encode {type : PersistentRecordType} {generation : UInt32}
    {payload record : List UInt8}
    (h : encodePersistentRecord type generation 0 payload kPersistentMaxRecord = .ok record) :
    record.length ≤ kPersistentMaxRecord := by
  rw [length_of_encode h, kPersistentMaxRecord]
  have := (encode_eq_ok_iff.mp h).1
  omega

/-- **Round trip.**  A record decodes to what was encoded. -/
theorem decode_encode {type : PersistentRecordType} {generation : UInt32}
    {payload record : List UInt8}
    (h : encodePersistentRecord type generation 0 payload kPersistentMaxRecord = .ok record) :
    decodePersistentRecord record type = .ok ⟨type, generation, 0, payload⟩ := by
  have hlen := length_of_encode h
  obtain ⟨hsize, hrecord⟩ := encode_eq_ok_iff.mp h
  generalize hcrc : persistentCrc32 (recordHead type generation 0 payload) = crc at hrecord
  have htake : record.take 20 = recordHead type generation 0 payload := by
    rw [hrecord, List.append_assoc, List.take_left' (length_recordHead ..)]
  have hdrop : record.drop kPersistentHeaderSize = payload := by
    rw [hrecord, List.drop_left']
    simp only [List.length_append, length_recordHead, length_put32, kPersistentHeaderSize]
  have hheaderCrc : get32 record 20 = crc := by
    rw [hrecord, List.append_assoc, get32_skip (length_recordHead ..).le, length_recordHead,
      get32_put32]
  -- the fields of the head, each after the fields before it
  simp only [recordHead, List.append_assoc] at hrecord
  have hmagic : get32 record 0 = kMagic := by rw [hrecord, get32_put32]
  have htype : byteAt record 4 = type.code := by simp [hrecord, byteAt_skip]
  have hversion : byteAt record 5 = kEnvelopeVersion := by simp [hrecord, byteAt_skip]
  have hheader : get16 record 6 = UInt16.ofNat kPersistentHeaderSize := by
    simp [hrecord, get16_skip]
  have hpayload : get16 record 8 = UInt16.ofNat payload.length := by
    simp [hrecord, get16_skip]
  have hflags : get16 record 10 = 0 := by simp [hrecord, get16_skip]
  have hgeneration : get32 record 12 = generation := by simp [hrecord, get32_skip]
  have hpayloadCrc : get32 record 16 = persistentCrc32 payload := by
    simp [hrecord, get32_skip]
  have hpayloadSize : (UInt16.ofNat payload.length).toNat = payload.length := by
    refine UInt16.toNat_ofNat_of_lt' (lt_of_le_of_lt hsize ?_)
    decide
  have hheaderSize : (UInt16.ofNat kPersistentHeaderSize).toNat = kPersistentHeaderSize := rfl
  unfold decodePersistentRecord
  rw [if_neg (by omega), if_neg (by simp [hmagic]), if_neg (by simp [hversion]),
    if_neg (by simp [htype]), if_neg (by simp [hheader, hheaderSize, hflags])]
  simp only [hpayload, hpayloadSize]
  rw [if_neg (by omega), if_neg (by simp [hheaderCrc, htake, hcrc]),
    if_neg (by simp [hpayloadCrc, hdrop]), hgeneration, hdrop]

end SeedMg24.Analysis
