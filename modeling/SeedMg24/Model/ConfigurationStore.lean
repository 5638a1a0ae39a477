import SeedMg24.Model.NvmBackend

/-!
# The persistent configuration store

The two-slot configuration store of `configuration_store.h` and `configuration_store.cpp`.  An
out-parameter of the source is an argument holding its value before the call and a component
of the result holding its value after it, so that a call that leaves it alone shows.
-/

set_option autoImplicit false

namespace SeedMg24.Model

open Foundation

/-- The values of `FilterType`, which the firmware keeps in a byte it casts to and from.
SOURCE: sensor_types.h:7 -/
def FilterType.none : UInt8 := 0
def FilterType.movingAverage : UInt8 := 1
def FilterType.exponential : UInt8 := 2
def FilterType.median : UInt8 := 3
def FilterType.digitalDebounce : UInt8 := 4

/-- A zeroed structure is the default.
SOURCE: configuration_store.h:7-21 -/
structure StoredChannelConfiguration where
  magic : UInt32 := 0
  schemaVersion : UInt16 := 0
  reserved : UInt16 := 0
  generation : UInt32 := 0
  sampleIntervalMs : UInt32 := 0
  processingIntervalMs : UInt32 := 0
  reportIntervalMs : UInt32 := 0
  heartbeatIntervalMs : UInt32 := 0
  filterType : UInt8 := 0
  filterWindow : UInt8 := 0
  enabled : UInt8 := 0
  reserved2 : UInt8 := 0
  checksum : UInt32 := 0
deriving DecidableEq, Repr, Inhabited

/-- "MG24" -/
def CONFIG_MAGIC : UInt32 := 0x4D473234

/-- The structure in memory before its checksum: 32 bytes, little-endian, without padding. -/
def StoredChannelConfiguration.leadingBytes (v : StoredChannelConfiguration) : List UInt8 :=
  put32 v.magic ++ put16 v.schemaVersion ++ put16 v.reserved ++ put32 v.generation ++
    put32 v.sampleIntervalMs ++ put32 v.processingIntervalMs ++ put32 v.reportIntervalMs ++
    put32 v.heartbeatIntervalMs ++ [v.filterType, v.filterWindow, v.enabled, v.reserved2]

/-- SOURCE: configuration_store.cpp:8-16 -/
def configurationChecksum (v : StoredChannelConfiguration) : UInt32 :=
  v.leadingBytes.foldl (fun hash byte => (hash ^^^ byte.toUInt32) * 16777619) 2166136261

/-- SOURCE: configuration_store.cpp:18-26 -/
def validateStoredConfiguration (v : StoredChannelConfiguration) : Bool :=
  if v.magic ≠ CONFIG_MAGIC ∨ v.schemaVersion ≠ 1 ∨ v.checksum ≠ configurationChecksum v then false
  else if v.enabled > 1 ∨ v.sampleIntervalMs < 10 ∨ v.sampleIntervalMs > 5000 then false
  else if v.processingIntervalMs < 10 ∨ v.processingIntervalMs > 5000 then false
  else if v.reportIntervalMs < 50 ∨ v.reportIntervalMs > 5000 then false
  else if v.heartbeatIntervalMs < 1000 ∨ v.heartbeatIntervalMs > 3600000 then false
  else if v.filterType > FilterType.digitalDebounce ∨ v.filterWindow < 1 ∨ v.filterWindow > 9 then
    false
  else true

/-- `sizeof(StoredChannelConfiguration)`. -/
def storedConfigurationSize : ℕ := 36

/-- SOURCE: configuration_store.cpp:64-68 -/
def serializeConfiguration (v : StoredChannelConfiguration) : List UInt8 :=
  put32 v.magic ++ put16 v.schemaVersion ++ put16 v.reserved ++ put32 v.generation ++
    put32 v.sampleIntervalMs ++ put32 v.processingIntervalMs ++ put32 v.reportIntervalMs ++
    put32 v.heartbeatIntervalMs ++ [v.filterType, v.filterWindow, v.enabled, v.reserved2] ++
    put32 v.checksum

/-- SOURCE: configuration_store.cpp:69-73 -/
def deserializeConfiguration (p : List UInt8) : StoredChannelConfiguration where
  magic := get32 p 0
  schemaVersion := get16 p 4
  reserved := get16 p 6
  generation := get32 p 8
  sampleIntervalMs := get32 p 12
  processingIntervalMs := get32 p 16
  reportIntervalMs := get32 p 20
  heartbeatIntervalMs := get32 p 24
  filterType := byteAt p 28
  filterWindow := byteAt p 29
  enabled := byteAt p 30
  reserved2 := byteAt p 31
  checksum := get32 p 32

/-- SOURCE: configuration_store.cpp:59 -/
structure ConfigSlot where
  status : StoreStatus
  value : StoredChannelConfiguration := {}
  generation : UInt32 := 0
deriving DecidableEq, Repr

/-- What the bytes read from a slot mean.
SOURCE: configuration_store.cpp:76-79 -/
def parseConfigSlot (record : List UInt8) : ConfigSlot :=
  match decodePersistentRecord record .configuration with
  | .error s => { status := s }
  | .ok view =>
    if view.payload.length ≠ storedConfigurationSize then { status := .corrupt }
    else
      let value := deserializeConfiguration view.payload
      if value.generation ≠ view.generation ∨ !validateStoredConfiguration value then
        { status := .corrupt, value }
      else { status := .ok, value, generation := view.generation }

/-- SOURCE: configuration_store.cpp:74-80 -/
def readConfigSlot (key : UInt32) : NvmProgram ConfigSlot := do
  match ← backendRead key kPersistentMaxRecord with
  | .error s => return { status := s }
  | .ok record => return parseConfigSlot record

/-- How `load` chooses between the two slots.
SOURCE: configuration_store.cpp:84-86 -/
def selectConfigSlot (a b : ConfigSlot) (out : StoredChannelConfiguration) :
    StoreStatus × StoredChannelConfiguration :=
  let av := a.status = .ok
  let bv := b.status = .ok
  if ¬ av ∧ ¬ bv then
    if a.status = .notFound ∧ b.status = .notFound then (.notFound, out) else (.corrupt, out)
  else if av ∧ bv ∧ a.generation = b.generation then (.generationConflict, out)
  else
    let value := if bv ∧ (¬ av ∨ generationNewer b.generation a.generation) then b.value
      else a.value
    if av ∧ bv then (.ok, value)
    else if (if av then b.status else a.status) = .notFound then (.ok, value)
    else (.recoveredFromPrevious, value)

/-- `PersistentConfigurationStore::load`.
SOURCE: configuration_store.cpp:81-87 -/
def configurationLoad (out : StoredChannelConfiguration) :
    NvmProgram (StoreStatus × StoredChannelConfiguration) := do
  let a ← readConfigSlot kConfigurationSlotA
  let b ← readConfigSlot kConfigurationSlotB
  return selectConfigSlot a b out

/-- The record `write` stores for an input under a generation.
SOURCE: configuration_store.cpp:92 -/
def sealConfiguration (input : StoredChannelConfiguration) (generation : UInt32) :
    StoredChannelConfiguration :=
  let value := { input with
    magic := CONFIG_MAGIC, schemaVersion := 1, reserved := 0, reserved2 := 0, generation }
  { value with checksum := configurationChecksum value }

/-- The slot a generation is written to.
SOURCE: configuration_store.cpp:94 -/
def configurationTarget (generation : UInt32) : UInt32 :=
  if generation &&& 1 ≠ 0 then kConfigurationSlotA else kConfigurationSlotB

/-- `PersistentConfigurationStore::write`.
SOURCE: configuration_store.cpp:88-97 -/
def configurationWrite (input verified : StoredChannelConfiguration) :
    NvmProgram (StoreStatus × StoredChannelConfiguration) := do
  let (old, current) ← configurationLoad {}
  let generation := if old = .ok ∨ old = .recoveredFromPrevious then current.generation + 1 else 1
  if old ≠ .ok ∧ old ≠ .recoveredFromPrevious ∧ old ≠ .notFound then return (old, verified)
  let value := sealConfiguration input generation
  if !validateStoredConfiguration value then return (.invalidArgument, verified)
  let target := configurationTarget generation
  match encodePersistentRecord .configuration generation 0 (serializeConfiguration value)
      kPersistentMaxRecord with
  | .error s => return (s, verified)
  | .ok record =>
    let s ← backendWrite target record
    if s ≠ .ok then return (s, verified)
    let check ← readConfigSlot target
    if check.status ≠ .ok ∨ check.generation ≠ generation then return (.readbackFailed, verified)
    return (.ok, check.value)

end SeedMg24.Model
