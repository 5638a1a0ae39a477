import SeedMg24.Analysis.RecordBijection
import SeedMg24.Foundation.Crc

/-!
# Damaged records

The two checks of a record are instances of the reflected CRC of the library, so a burst of at most
four bytes is seen wherever it falls.  The first 24 bytes are a code word of the header check, and
what is left of the burst behind them is seen by the payload check, which they carry.
-/

set_option autoImplicit false

namespace SeedMg24.Analysis

open Foundation Model

/-! ## The check as a register -/

/-- The polynomial of `persistent_crc32`. -/
def crcPolynomial : BitVec 32 := 0xEDB88320#32

theorem msb_crcPolynomial : crcPolynomial.msb = true := by decide

theorem lowBit_eq (x : UInt32) : (x &&& 1 != 0) = x.toBitVec.getLsbD 0 := by
  have hand : (x &&& 1).toBitVec = BitVec.setWidth 32 (BitVec.ofBool (x.toBitVec.getLsbD 0)) :=
    BitVec.and_one_eq_setWidth_ofBool_getLsbD
  have hzero : (x &&& 1 = 0) ↔ (x &&& 1).toBitVec = 0#32 := UInt32.toBitVec_inj.symm
  rw [hand] at hzero
  cases hbit : x.toBitVec.getLsbD 0 with
  | false =>
    rw [hbit] at hzero
    rw [hzero.mpr rfl]
    rfl
  | true =>
    rw [hbit] at hzero
    exact bne_iff_ne.mpr (mt hzero.mp (by decide))

theorem toBitVec_crcBit (x : UInt32) : (crcBit x).toBitVec = Crc.bit crcPolynomial x.toBitVec := by
  unfold crcBit Crc.bit
  rw [lowBit_eq, UInt32.toBitVec_xor]
  congr 1
  split <;> rfl

theorem toBitVec_iterate_crcBit (n : ℕ) (x : UInt32) :
    (crcBit^[n] x).toBitVec = (Crc.bit crcPolynomial)^[n] x.toBitVec := by
  induction n generalizing x with
  | zero => rfl
  | succ n ih =>
    rw [Function.iterate_succ_apply, Function.iterate_succ_apply, ih, toBitVec_crcBit]

theorem toBitVec_persistentCrc32 (data : List UInt8) : (persistentCrc32 data).toBitVec =
    Crc.update crcPolynomial (BitVec.allOnes 32) data ^^^ BitVec.allOnes 32 := by
  have hbyte (b : UInt8) : b.toUInt32.toBitVec = Crc.ofByte b := by
    apply BitVec.eq_of_toNat_eq
    simp [Crc.ofByte]
  have hfold (x : UInt32) : (data.foldl (fun crc byte => crcBit^[8] (crc ^^^ byte.toUInt32))
      x).toBitVec = Crc.update crcPolynomial x.toBitVec data := by
    unfold Crc.update
    induction data generalizing x with
    | nil => rfl
    | cons b bs ih =>
      rw [List.foldl_cons, List.foldl_cons, ih, toBitVec_iterate_crcBit, UInt32.toBitVec_xor, hbyte]
  unfold persistentCrc32
  rw [UInt32.toBitVec_xor, hfold]
  rfl

/-- **The check sees every burst of at most four bytes.**
SOURCE: persistent_record.cpp:12-16 -/
theorem persistentCrc32_burst {xs ys : List UInt8} (hlength : xs.length = ys.length)
    (hburst : DiffersWithin 4 xs ys) (h : persistentCrc32 xs = persistentCrc32 ys) : xs = ys := by
  have hregister := congrArg UInt32.toBitVec h
  rw [toBitVec_persistentCrc32, toBitVec_persistentCrc32] at hregister
  exact Crc.eq_of_differsWithin crcPolynomial msb_crcPolynomial (by decide) hlength hburst
    ((BitVec.xor_left_inj _).mp hregister)

/-! ## Records -/

/-- The encoder writes the same record into every buffer it accepts. -/
theorem encode_of_encode {type : PersistentRecordType} {generation : UInt32} {flags : UInt16}
    {payload record : List UInt8} {capacity : ℕ}
    (h : encodePersistentRecord type generation flags payload capacity = .ok record) :
    encodePersistentRecord type generation 0 payload kPersistentMaxRecord = .ok record := by
  have hflags : flags = 0 := by
    unfold encodePersistentRecord at h
    split at h
    · cases h
    split at h
    · cases h
    · rename_i hflags
      exact not_not.mp hflags
  have hfits : kPersistentHeaderSize + payload.length ≤ capacity := by
    unfold encodePersistentRecord at h
    split at h
    · cases h
    · omega
  rw [← encode_capacity hfits, ← hflags, h]

variable {r : List UInt8} {expected : PersistentRecordType} {view : RecordView}

/-- The header of an accepted record is a code word. -/
theorem Accepted.header_residue (h : Accepted r expected view) :
    Crc.update crcPolynomial (BitVec.allOnes 32) (r.take kPersistentHeaderSize) =
      (Crc.bit crcPolynomial)^[32] (BitVec.allOnes 32) := by
  have hlength := h.length
  unfold kPersistentHeaderSize at hlength
  have hheader : r.take kPersistentHeaderSize = r.take 20 ++ (r.drop 20).take 4 :=
    List.take_add (i := 20) (j := 4)
  rw [hheader]
  refine Crc.update_residue crcPolynomial ?_ ?_
  · rw [List.length_take, List.length_drop]
    omega
  · rw [← toBitVec_persistentCrc32, ← h.headerCrc]
    rfl

/-- **A record with a burst of errors is not accepted.**  For every record the encoder writes and
every other byte string of its length that differs from it within some four consecutive bytes, no
expected type makes the decoder return one.
SOURCE: persistent_record.cpp:12-41 -/
theorem decode_of_burst {type : PersistentRecordType} {generation : UInt32} {flags : UInt16}
    {payload record damaged : List UInt8} {capacity : ℕ}
    (hencode : encodePersistentRecord type generation flags payload capacity = .ok record)
    (hlength : damaged.length = record.length) (hne : damaged ≠ record)
    (hburst : DiffersWithin 4 record damaged) (expected : PersistentRecordType)
    (view : RecordView) : decodePersistentRecord damaged expected ≠ .ok view := by
  intro hdecode
  have hrecord := accepted_of_decode (decode_encode (encode_of_encode hencode))
  have hdamaged := accepted_of_decode hdecode
  have hheader : record.take kPersistentHeaderSize = damaged.take kPersistentHeaderSize := by
    apply Crc.eq_of_differsWithin crcPolynomial msb_crcPolynomial (n := 4) (by decide) ?_
      (hburst.take _) (hrecord.header_residue.trans hdamaged.header_residue.symm)
    rw [List.length_take, List.length_take, hlength]
  have hcheck : get32 record 16 = get32 damaged 16 := by
    have hpart (r : List UInt8) : get32 (r.take kPersistentHeaderSize) 16 = get32 r 16 := by
      unfold get32 kPersistentHeaderSize
      rw [List.drop_take, List.take_take]
      rfl
    rw [← hpart record, hheader, hpart damaged]
  have hpayload : record.drop kPersistentHeaderSize = damaged.drop kPersistentHeaderSize := by
    apply persistentCrc32_burst ?_ (hburst.drop _)
    · rw [← hrecord.payloadCrc, ← hdamaged.payloadCrc, hcheck]
    · rw [List.length_drop, List.length_drop, hlength]
  apply hne
  rw [← List.take_append_drop kPersistentHeaderSize damaged, ← hheader, ← hpayload,
    List.take_append_drop]

/-- The record of one byte, with another byte in its place. -/
theorem decode_of_burst_payload : ∃ record,
    encodePersistentRecord .identity 7 0 [42] 25 = .ok record ∧
      ∀ view, decodePersistentRecord (record.set 24 43) .identity ≠ .ok view := by
  obtain ⟨record, hrecord⟩ := exists_encode .identity 7
    (show [(42 : UInt8)].length ≤ kPersistentMaxPayload by decide)
  have hencode : encodePersistentRecord .identity 7 0 [42] 25 = .ok record := by
    rw [encode_capacity (by decide), hrecord]
  have hbyte : record[24]? = some 42 := by
    have hpayload : [42] = record.drop kPersistentHeaderSize :=
      congrArg RecordView.payload (accepted_of_decode (decode_encode hrecord)).view
    have hfirst : (record.drop kPersistentHeaderSize)[0]? = some 42 := by rw [← hpayload]; rfl
    rwa [List.getElem?_drop] at hfirst
  have hne : record.set 24 43 ≠ record := by
    intro heq
    have hset : (record.set 24 43)[24]? = some 43 := by
      rw [List.getElem?_set_self', hbyte]
      rfl
    rw [heq, hbyte] at hset
    exact absurd hset (by decide)
  have hburst : DiffersWithin 4 record (record.set 24 43) := by
    refine ⟨24, fun i hi => ?_⟩
    by_cases h : 24 = i
    · omega
    · exact absurd (List.getElem?_set_ne h).symm hi
  exact ⟨record, hencode, fun view =>
    decode_of_burst hencode (List.length_set ..) hne hburst .identity view⟩

end SeedMg24.Analysis
