import SeedMg24.Foundation.Program
import SeedMg24.Model.PersistentRecord

/-!
# Non-volatile storage

The keys of `application_nvm_keys.h`, the backend interface of `nvm_backend.h` as the
operations of a `Foundation.Program`, and what a backend does to the stored objects.  The
buffer a read fills is its answer; the capacity stays an argument, since a read into a short
buffer reports `sizeExceeded` for an object that is there.
-/

set_option autoImplicit false

namespace SeedMg24.Model

open Foundation

/-! ## Keys -/

def kIdentitySlotA : UInt32 := 0x0FF00
def kIdentitySlotB : UInt32 := 0x0FF01
def kConfigurationSlotA : UInt32 := 0x0FF02
def kConfigurationSlotB : UInt32 := 0x0FF03
def kConfigurationStaging : UInt32 := 0x0FF04
def kStoreMetadata : UInt32 := 0x0FF05
def kResetTransactionMarker : UInt32 := 0x0FF06

/-- SOURCE: application_nvm_keys.h:29-31 -/
def kConfigurationReset : List UInt32 :=
  [kConfigurationSlotA, kConfigurationSlotB, kConfigurationStaging]

/-- SOURCE: application_nvm_keys.h:32-35 -/
def kApplicationFactoryReset : List UInt32 :=
  [kIdentitySlotA, kIdentitySlotB, kConfigurationSlotA, kConfigurationSlotB,
    kConfigurationStaging, kStoreMetadata]

/-! ## Operations -/

/-- What is stored under every key. -/
abbrev Nvm := UInt32 → Option (List UInt8)

/-- Storage with no object in it. -/
def Nvm.empty : Nvm := fun _ => none

/-- SOURCE: nvm_backend.h:6-13 -/
inductive NvmOp where
  | read (key : UInt32) (capacity : ℕ)
  | write (key : UInt32) (data : List UInt8)
  | remove (key : UInt32)
deriving DecidableEq

/-- A read answers with the object's bytes or the status it failed with; the others with their
status. -/
abbrev NvmAnswer : NvmOp → Type
  | .read _ _ => Except StoreStatus (List UInt8)
  | .write _ _ => StoreStatus
  | .remove _ => StoreStatus

/-- Code that talks to the backend. -/
abbrev NvmProgram := Program NvmAnswer

def backendRead (key : UInt32) (capacity : ℕ) : NvmProgram (Except StoreStatus (List UInt8)) :=
  Program.perform (NvmOp.read key capacity)

def backendWrite (key : UInt32) (data : List UInt8) : NvmProgram StoreStatus :=
  Program.perform (NvmOp.write key data)

def backendRemove (key : UInt32) : NvmProgram StoreStatus :=
  Program.perform (NvmOp.remove key)

/-- A read that works.
SOURCE: nvm_backend.cpp:20-26 -/
def Nvm.read (nvm : Nvm) (key : UInt32) (capacity : ℕ) : Except StoreStatus (List UInt8) :=
  match nvm key with
  | none => .error .notFound
  | some data => if data.length > capacity then .error .sizeExceeded else .ok data

/-- The storage with `content` under `key`. -/
def Nvm.put (nvm : Nvm) (key : UInt32) (content : Option (List UInt8)) : Nvm :=
  Function.update nvm key content

@[simp] theorem Nvm.put_same (nvm : Nvm) (key : UInt32) (content : Option (List UInt8)) :
    nvm.put key content key = content :=
  Function.update_self ..

theorem Nvm.put_of_ne {nvm : Nvm} {key other : UInt32} {content : Option (List UInt8)}
    (h : other ≠ key) : nvm.put key content other = nvm other :=
  Function.update_of_ne h ..

/-! ## Faults -/

/-- What besides its specified effect one backend operation may do.  A read that does not meet
`none` fails with the status; a write or remove has the effect named, and reports the status. -/
inductive BackendFault where
  /-- works, and says so -/
  | none
  /-- has no effect -/
  | refused (status : StoreStatus)
  /-- has its effect -/
  | landed (status : StoreStatus)
  /-- leaves other content under its key -/
  | leaves (content : Option (List UInt8)) (status : StoreStatus)

instance : Inhabited BackendFault := ⟨.none⟩

/-- An operation that puts `content` under `key`: a write or a remove. -/
def Nvm.change (nvm : Nvm) (key : UInt32) (content : Option (List UInt8)) :
    BackendFault → StoreStatus × Nvm
  | .none => (.ok, nvm.put key content)
  | .refused status => (status, nvm)
  | .landed status => (status, nvm.put key content)
  | .leaves left status => (status, nvm.put key left)

/-- A read, under a fault. -/
def Nvm.readUnder (nvm : Nvm) (key : UInt32) (capacity : ℕ) :
    BackendFault → Except StoreStatus (List UInt8)
  | .none => nvm.read key capacity
  | .refused status => .error status
  | .landed status => .error status
  | .leaves _ status => .error status

/-- The backend: every operation works, or does what its fault says. -/
def backend : Environment NvmAnswer Nvm BackendFault where
  step nvm op fault :=
    match op with
    | .read key capacity => (nvm.readUnder key capacity fault, nvm)
    | .write key data => nvm.change key (some data) fault
    | .remove key => nvm.change key Option.none fault

/-! ## Fault models -/

/-- A backend that never fails. -/
def healthy : Environment NvmAnswer Nvm Unit := backend.restrict fun _ _ => .none

/-- The statuses by which an operation truthfully reports that it was not carried out. -/
inductive Refusal where
  | storageUnavailable | readFailed | writeFailed
deriving DecidableEq

def Refusal.status : Refusal → StoreStatus
  | .storageUnavailable => .storageUnavailable
  | .readFailed => .readFailed
  | .writeFailed => .writeFailed

/-- Every operation is atomic and truthful: it is carried out, or it is not and says so. -/
inductive TruthfulFault where
  | none
  | refused (reason : Refusal)

def TruthfulFault.toFault : TruthfulFault → BackendFault
  | .none => .none
  | .refused reason => .refused reason.status

def truthful : Environment NvmAnswer Nvm TruthfulFault :=
  backend.restrict fun _ f => f.toFault

/-- A status that reports a failure: neither `ok` nor `notFound`. -/
abbrev FailureStatus := { status : StoreStatus // status ≠ .ok ∧ status ≠ .notFound }

/-- Every operation may report failure; a failing write or remove may have landed. -/
inductive ReportedFault where
  | none
  | failed (landed : Bool) (status : FailureStatus)

def ReportedFault.toFault : ReportedFault → BackendFault
  | .none => .none
  | .failed false status => .refused status
  | .failed true status => .landed status

def reporting : Environment NvmAnswer Nvm ReportedFault :=
  backend.restrict fun _ f => f.toFault

/-- Content no decoder accepts: nothing at all, or bytes that are not a record. -/
abbrev Debris := { content : Option (List UInt8) //
  ∀ data, content = some data → ∀ type view, decodePersistentRecord data type ≠ .ok view }

/-- A write completes, has no effect or leaves its slot undecodable, whatever it reports. -/
inductive WriteFault where
  | completes (status : StoreStatus)
  | ignored (status : StoreStatus)
  | tears (left : Debris) (status : StoreStatus)

instance : Inhabited WriteFault := ⟨.completes .ok⟩

/-- Reads are faithful. -/
def WriteFault.toFault : NvmOp → WriteFault → BackendFault
  | .read _ _, _ => .none
  | _, .completes status => .landed status
  | _, .ignored status => .refused status
  | _, .tears left status => .leaves left.val status

def tearing : Environment NvmAnswer Nvm WriteFault := backend.restrict WriteFault.toFault

/-- A write works, or has no effect and reports a failure. -/
inductive CleanFault where
  | none
  | failed (status : { status : StoreStatus // status ≠ .ok })

/-- A failed write is no success. -/
theorem writeFailed_ne_ok : StoreStatus.writeFailed ≠ .ok := by decide

/-- As a write fault. -/
def CleanFault.toWriteFault : CleanFault → WriteFault
  | .none => .completes .ok
  | .failed status => .ignored status

def failing : Environment NvmAnswer Nvm CleanFault :=
  tearing.restrict fun _ f => f.toWriteFault

end SeedMg24.Model
