import SeedMg24.Foundation.LittleEndian

/-!
# The persistent record envelope

The 24-byte little-endian envelope every application record is stored in: magic, record type,
envelope version, header size, payload size, flags, generation, payload CRC and header CRC,
then the payload.  Translated from `persistent_record.h` and `persistent_record.cpp`; the
output buffer of the encoder and the output view of the decoder are return values.
-/

set_option autoImplicit false

namespace SeedMg24.Model

open Foundation

/-- SOURCE: persistent_record.h:6-10 -/
inductive StoreStatus where
  | ok | notFound | unprovisioned | corrupt | unsupportedVersion | invalidArgument
  | sizeExceeded | storageUnavailable | readFailed | writeFailed | readbackFailed
  | integrityFailed | generationConflict | migrationRequired | recoveredFromPrevious
deriving DecidableEq, Repr

/-- The names used in responses.
SOURCE: persistent_record.cpp:42-45 -/
def storeStatusName : StoreStatus → List Char
  | .ok => "ok".toList
  | .notFound => "not_found".toList
  | .unprovisioned => "unprovisioned".toList
  | .corrupt => "corrupt".toList
  | .unsupportedVersion => "unsupported_version".toList
  | .invalidArgument => "invalid_argument".toList
  | .sizeExceeded => "size_exceeded".toList
  | .storageUnavailable => "storage_unavailable".toList
  | .readFailed => "read_failed".toList
  | .writeFailed => "write_failed".toList
  | .readbackFailed => "readback_failed".toList
  | .integrityFailed => "integrity_failed".toList
  | .generationConflict => "generation_conflict".toList
  | .migrationRequired => "migration_required".toList
  | .recoveredFromPrevious => "recovered_from_previous".toList

/-- SOURCE: persistent_record.h:11 -/
inductive PersistentRecordType where
  | identity | configuration | storeMetadata
deriving DecidableEq, Repr

/-- The byte a record type is stored as. -/
def PersistentRecordType.code : PersistentRecordType → UInt8
  | .identity => 1
  | .configuration => 2
  | .storeMetadata => 3

/-- SOURCE: persistent_record.h:13-19 -/
structure RecordView where
  type : PersistentRecordType
  generation : UInt32
  flags : UInt16
  payload : List UInt8
deriving DecidableEq, Repr

def kPersistentHeaderSize : ℕ := 24
def kPersistentMaxPayload : ℕ := 220
def kPersistentMaxRecord : ℕ := kPersistentHeaderSize + kPersistentMaxPayload
/-- "N3RG", little-endian. -/
def kMagic : UInt32 := 0x4E335247
def kEnvelopeVersion : UInt8 := 1

def put16 (v : UInt16) : List UInt8 := LittleEndian.bytes 2 v.toNat
def put32 (v : UInt32) : List UInt8 := LittleEndian.bytes 4 v.toNat

/-- The byte at an offset. -/
def byteAt (r : List UInt8) (offset : ℕ) : UInt8 := r.getD offset 0
/-- The 16-bit word at an offset. -/
def get16 (r : List UInt8) (offset : ℕ) : UInt16 :=
  UInt16.ofNat (LittleEndian.value ((r.drop offset).take 2))
/-- The 32-bit word at an offset. -/
def get32 (r : List UInt8) (offset : ℕ) : UInt32 :=
  UInt32.ofNat (LittleEndian.value ((r.drop offset).take 4))

/-- One bit of the reflected CRC-32. -/
def crcBit (crc : UInt32) : UInt32 :=
  (crc >>> 1) ^^^ (if crc &&& 1 != 0 then 0xEDB88320 else 0)

/-- SOURCE: persistent_record.cpp:12-16 -/
def persistentCrc32 (data : List UInt8) : UInt32 :=
  data.foldl (fun crc byte => crcBit^[8] (crc ^^^ byte.toUInt32)) 0xFFFFFFFF ^^^ 0xFFFFFFFF

/-- SOURCE: persistent_record.cpp:17 -/
def generationNewer (candidate reference : UInt32) : Bool :=
  let d := candidate - reference
  d != 0 && d < 0x80000000

/-- The first 20 bytes of an encoded record: everything the header CRC covers. -/
def recordHead (type : PersistentRecordType) (generation : UInt32) (flags : UInt16)
    (payload : List UInt8) : List UInt8 :=
  put32 kMagic ++ [type.code, kEnvelopeVersion] ++ put16 (UInt16.ofNat kPersistentHeaderSize) ++
    put16 (UInt16.ofNat payload.length) ++ put16 flags ++ put32 generation ++
    put32 (persistentCrc32 payload)

/-- SOURCE: persistent_record.cpp:19-29 -/
def encodePersistentRecord (type : PersistentRecordType) (generation : UInt32) (flags : UInt16)
    (payload : List UInt8) (capacity : ℕ) : Except StoreStatus (List UInt8) :=
  if payload.length > kPersistentMaxPayload ∨ capacity < kPersistentHeaderSize + payload.length then
    .error .sizeExceeded
  else if flags ≠ 0 then .error .invalidArgument
  else
    let head := recordHead type generation flags payload
    .ok (head ++ put32 (persistentCrc32 head) ++ payload)

/-- The checks are made in the source's order, so that the first one to fail names the status.
SOURCE: persistent_record.cpp:30-41 -/
def decodePersistentRecord (r : List UInt8) (expected : PersistentRecordType) :
    Except StoreStatus RecordView :=
  if r.length < kPersistentHeaderSize then .error .corrupt
  else if get32 r 0 ≠ kMagic then .error .corrupt
  else if byteAt r 5 ≠ kEnvelopeVersion then .error .unsupportedVersion
  else if byteAt r 4 ≠ expected.code then .error .corrupt
  else if (get16 r 6).toNat ≠ kPersistentHeaderSize ∨ get16 r 10 ≠ 0 then .error .corrupt
  else
    let n := (get16 r 8).toNat
    if n > kPersistentMaxPayload ∨ r.length ≠ kPersistentHeaderSize + n then .error .corrupt
    else if get32 r 20 ≠ persistentCrc32 (r.take 20) then .error .integrityFailed
    else if get32 r 16 ≠ persistentCrc32 (r.drop kPersistentHeaderSize) then .error .integrityFailed
    else .ok ⟨expected, get32 r 12, 0, r.drop kPersistentHeaderSize⟩

end SeedMg24.Model
