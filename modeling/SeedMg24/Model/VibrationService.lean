import Mathlib.Tactic

/-!
# The vibration service

`vibration_service.cpp` with the FIFO reader, the window assembler, the double buffer and the
runtime state of the vibration library.  The FIFO of the sensor is an unending queue of words, of
which a read that succeeds pops one; times, rates and the metrics of a window are left out.
-/

set_option autoImplicit false

namespace SeedMg24.Model.Vibration

/-- SOURCE: vibration_types.h:11-18 -/
structure ImuRawSample where
  gyroX : Int16
  gyroY : Int16
  gyroZ : Int16
  accelX : Int16
  accelY : Int16
  accelZ : Int16
deriving DecidableEq

/-- SOURCE: vibration_fifo.h:13-20 -/
structure RawImuFifoFrame where
  gyroX : Int16
  gyroY : Int16
  gyroZ : Int16
  accelX : Int16
  accelY : Int16
  accelZ : Int16
deriving DecidableEq

/-- SOURCE: vibration_types.h:8 -/
def kVibrationWindowSamples : ℕ := 256

/-- SOURCE: vibration_fifo.h:11 -/
def kImuFifoWordsPerFrame : ℕ := 6

/-- SOURCE: vibration_fifo.cpp:5-17 -/
def parseFifoFrame : List Int16 → Option RawImuFifoFrame
  | gyroX :: gyroY :: gyroZ :: accelX :: accelY :: accelZ :: _ =>
    some { gyroX, gyroY, gyroZ, accelX, accelY, accelZ }
  | _ => none

/-- SOURCE: vibration_fifo.cpp:19-28 -/
def toImuRawSample (frame : RawImuFifoFrame) : ImuRawSample where
  gyroX := frame.gyroX
  gyroY := frame.gyroY
  gyroZ := frame.gyroZ
  accelX := frame.accelX
  accelY := frame.accelY
  accelZ := frame.accelZ

/-! ## The double buffer -/

/-- There are two buffers. -/
instance neZero_buffers : NeZero 2 := ⟨by decide⟩

/-- SOURCE: vibration_double_buffer.h:8 -/
inductive BufferState where
  | free | filling | ready | processing
deriving DecidableEq, Repr

/-- A buffer: its samples are those counted so far. -/
structure Buffer where
  samples : List ImuRawSample := []
  state : BufferState := .free
deriving DecidableEq

/-- SOURCE: vibration_double_buffer.h:17-24 -/
structure DoubleBufferCounters where
  samplesCaptured : UInt32 := 0
  samplesDropped : UInt32 := 0
  windowsCompleted : UInt32 := 0
  windowsProcessed : UInt32 := 0
  bufferSwaps : UInt32 := 0
  bufferOverruns : UInt32 := 0
deriving DecidableEq

/-- SOURCE: vibration_double_buffer.h:32-56 -/
structure VibrationDoubleBuffer where
  buffer0 : Buffer := {}
  buffer1 : Buffer := {}
  fillingIndex : Option (Fin 2) := none
  counters : DoubleBufferCounters := {}
deriving DecidableEq

namespace VibrationDoubleBuffer

/-- `buffers_[index]`. -/
def buffer (b : VibrationDoubleBuffer) (index : Fin 2) : Buffer :=
  if index = 0 then b.buffer0 else b.buffer1

/-- `buffers_[index] = value`. -/
def setBuffer (b : VibrationDoubleBuffer) (index : Fin 2) (value : Buffer) :
    VibrationDoubleBuffer :=
  if index = 0 then { b with buffer0 := value } else { b with buffer1 := value }

/-- SOURCE: vibration_double_buffer.cpp:17-21 -/
def startFilling (b : VibrationDoubleBuffer) (index : Fin 2) : VibrationDoubleBuffer :=
  { b.setBuffer index { samples := [], state := .filling } with fillingIndex := some index }

/-- SOURCE: vibration_double_buffer.cpp:7-15 -/
def reset : VibrationDoubleBuffer := ({} : VibrationDoubleBuffer).startFilling 0

/-- SOURCE: vibration_double_buffer.cpp:23-28 -/
def findFree (b : VibrationDoubleBuffer) : Option (Fin 2) :=
  if b.buffer0.state = .free then some 0 else if b.buffer1.state = .free then some 1 else none

/-- SOURCE: vibration_double_buffer.cpp:53-56 -/
def markReady (b : VibrationDoubleBuffer) (index : Fin 2) (samples : List ImuRawSample) :
    VibrationDoubleBuffer :=
  { b.setBuffer index { samples, state := .ready } with
    fillingIndex := none
    counters := { b.counters with
      windowsCompleted := b.counters.windowsCompleted + 1
      bufferSwaps := b.counters.bufferSwaps + 1 } }

/-- The other buffer is filled next, if it is free.
SOURCE: vibration_double_buffer.cpp:57-62 -/
def swap (b : VibrationDoubleBuffer) : VibrationDoubleBuffer :=
  match b.findFree with
  | some free => b.startFilling free
  | none => { b with counters := { b.counters with bufferOverruns := b.counters.bufferOverruns + 1 } }

/-- SOURCE: vibration_double_buffer.cpp:46 -/
def countSample (b : VibrationDoubleBuffer) : VibrationDoubleBuffer :=
  { b with counters := { b.counters with samplesCaptured := b.counters.samplesCaptured + 1 } }

/-- The sample goes into the buffer that is filled.
SOURCE: vibration_double_buffer.cpp:40-63 -/
def store (b : VibrationDoubleBuffer) (index : Fin 2) (sample : ImuRawSample) :
    VibrationDoubleBuffer :=
  let samples := (b.buffer index).samples ++ [sample]
  if samples.length ≠ kVibrationWindowSamples then
    b.countSample.setBuffer index { b.buffer index with samples }
  else (b.countSample.markReady index samples).swap

/-- SOURCE: vibration_double_buffer.cpp:30-64 -/
def append (b : VibrationDoubleBuffer) (sample : ImuRawSample) : Bool × VibrationDoubleBuffer :=
  match b.fillingIndex with
  | some index => (true, b.store index sample)
  | none =>
    match b.findFree with
    | none => (false, { b with counters := { b.counters with
        samplesDropped := b.counters.samplesDropped + 1 } })
    | some free => (true, (b.startFilling free).store free sample)

/-- The window that is acquired, and its buffer.
SOURCE: vibration_double_buffer.cpp:66-78 -/
def acquireReady (b : VibrationDoubleBuffer) :
    Option (Fin 2 × List ImuRawSample) × VibrationDoubleBuffer :=
  let acquire (index : Fin 2) :=
    (some (index, (b.buffer index).samples),
      b.setBuffer index { b.buffer index with state := .processing })
  if b.buffer0.state = .ready then acquire 0
  else if b.buffer1.state = .ready then acquire 1
  else (none, b)

/-- SOURCE: vibration_double_buffer.cpp:84-85 -/
def markFree (b : VibrationDoubleBuffer) (index : Fin 2) : VibrationDoubleBuffer :=
  { b.setBuffer index { b.buffer index with state := .free } with
    counters := { b.counters with windowsProcessed := b.counters.windowsProcessed + 1 } }

/-- SOURCE: vibration_double_buffer.cpp:80-88 -/
def release (b : VibrationDoubleBuffer) (index : Fin 2) : VibrationDoubleBuffer :=
  if (b.buffer index).state ≠ .processing then b
  else if b.fillingIndex = none then (b.markFree index).startFilling index
  else b.markFree index

end VibrationDoubleBuffer

/-- The frames of a batch, one after the other.
SOURCE: vibration_fifo.cpp:44-59 -/
def appendFrames (b : VibrationDoubleBuffer) (words : List Int16) :
    ℕ → Bool × VibrationDoubleBuffer
  | 0 => (true, b)
  | frames + 1 =>
    match parseFifoFrame words with
    | none => (false, b)
    | some frame =>
      match b.append (toImuRawSample frame) with
      | (false, b) => (false, b)
      | (true, b) => appendFrames b (words.drop kImuFifoWordsPerFrame) frames

/-- `FifoWindowAssembler::appendBatch`.
SOURCE: vibration_fifo.cpp:35-61 -/
def appendBatch (b : VibrationDoubleBuffer) (words : List Int16) : Bool × VibrationDoubleBuffer :=
  if words.length = 0 ∨ words.length % kImuFifoWordsPerFrame ≠ 0 then (false, b)
  else appendFrames b words (words.length / kImuFifoWordsPerFrame)

/-! ## The service -/

/-- SOURCE: vibration_runtime.h:7-13 -/
inductive VibrationLifecycleState where
  | uninitialized | ready | acquiring | degraded | failed
deriving DecidableEq, Repr

/-- SOURCE: vibration_runtime.h:15-24 -/
inductive VibrationResultValidity where
  | initializing | valid | insufficientSamples | fifoOverrun | bufferOverrun | readError
  | alignmentError | unavailable
deriving DecidableEq, Repr

/-- SOURCE: vibration_runtime.h:59-62 -/
structure VibrationRuntimeState where
  lifecycle : VibrationLifecycleState := .uninitialized
  validity : VibrationResultValidity := .initializing
  windowSequence : UInt32 := 0
deriving DecidableEq

namespace VibrationRuntimeState

/-- SOURCE: vibration_runtime.cpp:14-19 -/
def markReady (r : VibrationRuntimeState) : VibrationRuntimeState :=
  if r.lifecycle ≠ .failed then { r with lifecycle := .ready, validity := .initializing } else r

/-- SOURCE: vibration_runtime.cpp:21-25 -/
def markAcquiring (r : VibrationRuntimeState) : VibrationRuntimeState :=
  if r.lifecycle ≠ .failed then { r with lifecycle := .acquiring } else r

/-- SOURCE: vibration_runtime.cpp:27-32 -/
def markValidWindow (r : VibrationRuntimeState) (sequence : UInt32) : VibrationRuntimeState :=
  if r.lifecycle = .failed then r
  else { lifecycle := .acquiring, validity := .valid, windowSequence := sequence }

/-- SOURCE: vibration_runtime.cpp:34-39 -/
def markFault (r : VibrationRuntimeState) (fault : VibrationResultValidity) (fatal : Bool) :
    VibrationRuntimeState :=
  { r with validity := fault, lifecycle := if fatal then .failed else .degraded }

end VibrationRuntimeState

/-- What was published last: the metrics are those of `samples`.
SOURCE: vibration_service.h:12-19 -/
structure ProductionVibrationResult where
  windowSequence : UInt32 := 0
  validity : VibrationResultValidity := .initializing
  samples : List ImuRawSample := []
deriving DecidableEq

/-- SOURCE: vibration_service.h:53-63 -/
def kWordsPerFrame : ℕ := 6
def kBatchFrames : ℕ := 16
def kBatchWords : ℕ := kBatchFrames * kWordsPerFrame
def kPriorityOccupancyWords : ℕ := kBatchWords * 4
def kMaximumBatchesPerService : ℕ := 16

/-- The service, and how many words were popped off the FIFO of the sensor.
SOURCE: vibration_service.h:73-90 -/
structure ProductionVibrationService where
  popped : ℕ := 0
  buffers : VibrationDoubleBuffer := .reset
  runtime : VibrationRuntimeState := {}
  latest : ProductionVibrationResult := {}
  latestRawSample : Option ImuRawSample := none
  acceptedFrames : UInt32 := 0
  fifoOverrunCount : UInt32 := 0
  alignmentErrorCount : UInt32 := 0
  serviceReadErrorCount : UInt32 := 0
deriving DecidableEq

/-- One reading of the status: the status word, and whether the pattern could be read. -/
structure StatusRead where
  status : UInt16
  patternRead : Bool

/-- What happens on the bus during one call of the service: its status readings, and which reads of
a word of a batch fail. -/
structure BusScript where
  status : ℕ → StatusRead
  fails : ℕ → ℕ → Bool

/-- The words of a batch are read one by one, up to the first read that fails; with the words, how
many are popped afterwards.
SOURCE: vibration_fifo_wire.cpp:46-68 -/
def readWords (queue : ℕ → Int16) (fails : ℕ → Bool) (index popped : ℕ) :
    ℕ → Option (List Int16) × ℕ
  | 0 => (some [], popped)
  | remaining + 1 =>
    if fails index then (none, popped)
    else
      let (words, after) := readWords queue fails (index + 1) (popped + 1) remaining
      (words.map (queue popped :: ·), after)

namespace ProductionVibrationService

/-- SOURCE: vibration_service.cpp:214-219 -/
def markFault (s : ProductionVibrationService) (fault : VibrationResultValidity) (fatal : Bool) :
    ProductionVibrationService :=
  { s with
    latest := { s.latest with validity := fault }
    runtime := s.runtime.markFault fault fatal }

/-- SOURCE: vibration_service.cpp:284-287 -/
def available (s : ProductionVibrationService) : Bool :=
  s.runtime.lifecycle ≠ .uninitialized && s.runtime.lifecycle ≠ .failed

/-- The words in the FIFO, the position in the frame and the overrun flag: the pattern tells the
truth.
SOURCE: vibration_service.cpp:96-115 -/
def readFifoStatus (s : ProductionVibrationService) (read : StatusRead) : Option (ℕ × ℕ × Bool) :=
  if read.patternRead then
    some ((read.status &&& 0x0FFF).toNat, s.popped % kWordsPerFrame, read.status &&& 0x4000 ≠ 0)
  else none

/-- SOURCE: vibration_service.cpp:107, 119-121, 238 -/
def readFailed (s : ProductionVibrationService) : ProductionVibrationService :=
  { s with serviceReadErrorCount := s.serviceReadErrorCount + 1 }.markFault .readError false

/-- SOURCE: vibration_service.cpp:246-252, 268-272 -/
def overrunFailed (s : ProductionVibrationService) : ProductionVibrationService :=
  { s with fifoOverrunCount := s.fifoOverrunCount + 1 }.markFault .fifoOverrun true

/-- SOURCE: vibration_service.cpp:126-130, 254-258, 273-277 -/
def alignmentFailed (s : ProductionVibrationService) : ProductionVibrationService :=
  { s with alignmentErrorCount := s.alignmentErrorCount + 1 }.markFault .alignmentError true

/-- SOURCE: vibration_service.cpp:117-168 -/
def drainBatch (s : ProductionVibrationService) (queue : ℕ → Int16) (fails : ℕ → Bool) :
    Bool × ProductionVibrationService :=
  match readWords queue fails 0 s.popped kBatchWords with
  | (none, popped) => (false, { s with popped }.readFailed)
  | (some words, popped) =>
    let s := { s with popped }
    match parseFifoFrame (words.drop (kBatchWords - kWordsPerFrame)) with
    | none => (false, s.alignmentFailed)
    | some latestFrame =>
      let s := { s with latestRawSample := some (toImuRawSample latestFrame) }
      match appendBatch s.buffers words with
      | (false, buffers) => (false, { s with buffers }.markFault .bufferOverrun false)
      | (true, buffers) =>
        (true, { s with buffers, acceptedFrames := s.acceptedFrames + UInt32.ofNat kBatchFrames })

/-- `processor_.process` takes a whole window and nothing else.
SOURCE: vibration_service.cpp:170-197, vibration_processor.cpp:94-95 -/
def processReadyWindow (s : ProductionVibrationService) : ProductionVibrationService :=
  match s.buffers.acquireReady with
  | (none, _) => s
  | (some (index, samples), buffers) =>
    if samples.length ≠ kVibrationWindowSamples then
      { s with buffers := buffers.release index }.markFault .insufficientSamples false
    else
      let sequence := s.runtime.windowSequence + 1
      { s with
        latest := { windowSequence := sequence, validity := .valid, samples }
        buffers := buffers.release index
        runtime := s.runtime.markValidWindow sequence }

/-- How the loop of a call ends: the call returns, or the loop is left after some batches, with the
status read last. -/
inductive LoopEnd where
  | returned (s : ProductionVibrationService)
  | left (s : ProductionVibrationService) (batches occupancy pattern : ℕ) (overrun : Bool)

/-- The loop that drains batches.
SOURCE: vibration_service.cpp:236-261 -/
def drainLoop (queue : ℕ → Int16) (script : BusScript) (s : ProductionVibrationService)
    (batches occupancy pattern : ℕ) (overrun : Bool) : ℕ → LoopEnd
  | 0 => .left s batches occupancy pattern overrun
  | remaining + 1 =>
    match s.readFifoStatus (script.status batches) with
    | none => .returned s.readFailed
    | some (occupancy, pattern, overrun) =>
      if overrun then .returned s.overrunFailed
      else if occupancy < kBatchWords then .left s batches occupancy pattern overrun
      else if pattern ≠ 0 then .returned s.alignmentFailed
      else
        match s.drainBatch queue (script.fails batches) with
        | (false, s) => .returned s
        | (true, s) => drainLoop queue script s (batches + 1) occupancy pattern overrun remaining

/-- What a call does after the loop.
SOURCE: vibration_service.cpp:268-281 -/
def afterLoop (s : ProductionVibrationService) (occupancy pattern : ℕ) (overrun : Bool) :
    ProductionVibrationService :=
  if overrun then s.overrunFailed
  else if pattern ≠ 0 then s.alignmentFailed
  else if occupancy < kPriorityOccupancyWords then s.processReadyWindow
  else s

/-- SOURCE: vibration_service.cpp:221-282 -/
def service (s : ProductionVibrationService) (queue : ℕ → Int16) (script : BusScript) :
    ProductionVibrationService :=
  if s.available = false then s
  else
    match drainLoop queue script s 0 0 0 false kMaximumBatchesPerService with
    | .returned s => s
    | .left s batches occupancy pattern overrun =>
      if batches = kMaximumBatchesPerService then
        match s.readFifoStatus (script.status batches) with
        | none => s.readFailed
        | some (occupancy, pattern, overrun) => s.afterLoop occupancy pattern overrun
      else s.afterLoop occupancy pattern overrun

/-- The FIFO is stopped and configured, which may fail, and loses what is in it.
SOURCE: vibration_service.cpp:46-72 -/
def begin (s : ProductionVibrationService) (configured : Bool) (discarded : ℕ) :
    ProductionVibrationService :=
  let reset : ProductionVibrationService := { popped := s.popped + discarded }
  if configured then
    { reset with runtime := reset.runtime.markReady.markAcquiring }
  else reset.markFault .unavailable true

end ProductionVibrationService

/-- What happens to the service. -/
inductive VibrationEvent where
  | begins (configured : Bool) (discarded : ℕ)
  | services (script : BusScript)

/-- One event, on the words of the sensor. -/
def ProductionVibrationService.next (queue : ℕ → Int16) (s : ProductionVibrationService) :
    VibrationEvent → ProductionVibrationService
  | .begins configured discarded => s.begin configured discarded
  | .services script => s.service queue script

end SeedMg24.Model.Vibration
