import SeedMg24.Foundation.BoundedBuffer
import SeedMg24.Foundation.SingleArithmetic
import SeedMg24.Model.VibrationService

/-!
# The vibration double buffer

`vibration_double_buffer.cpp` with the arrays of samples and the timing of the windows.  An acquired
window points into its buffer.  A run keeps the samples that were accepted, and at which of them
each buffer begins.
-/

set_option autoImplicit false

namespace SeedMg24.Model.DoubleBuffer

open Foundation
open Vibration (ImuRawSample BufferState DoubleBufferCounters kVibrationWindowSamples)

/-- SOURCE: vibration_double_buffer.h:10-15 -/
structure WindowTiming where
  windowStartUs : UInt32 := 0
  windowEndUs : UInt32 := 0
  sampleCount : ℕ := 0
  effectiveSampleRateHz : Single := .zero

/-- A buffer; of its samples the first `kVibrationWindowSamples` are the array.
SOURCE: vibration_double_buffer.h:43-47 -/
structure Buffer where
  samples : ℕ → ImuRawSample
  timing : WindowTiming := {}
  state : BufferState := .free

/-- SOURCE: vibration_double_buffer.h:52-54 -/
structure VibrationDoubleBuffer where
  buffers : Fin 2 → Buffer
  fillingIndex : Option (Fin 2) := none
  counters : DoubleBufferCounters := {}

/-- What is acquired; its samples are those of the buffer it points to.
SOURCE: vibration_double_buffer.h:26-30 -/
structure ReadyWindow where
  timing : WindowTiming
  bufferIndex : Fin 2

/-- A sample is written behind those there are.
SOURCE: vibration_double_buffer.cpp:41-45 -/
def Buffer.put (b : Buffer) (sample : ImuRawSample) (timestampUs : UInt32) : Buffer :=
  let position := b.timing.sampleCount
  { b with
    samples := Function.update b.samples position sample
    timing := { b.timing with
      windowStartUs := if position = 0 then timestampUs else b.timing.windowStartUs
      windowEndUs := timestampUs
      sampleCount := position + 1 } }

/-- The rate of a window: a quotient of two floats.
SOURCE: vibration_double_buffer.cpp:49-52 -/
def WindowTiming.rate (timing : WindowTiming) : Single :=
  let elapsed := timing.windowEndUs - timing.windowStartUs
  if elapsed > 0 then
    .nearest (((kVibrationWindowSamples - 1) * 1000000 : ℕ) /
      (Single.nearest elapsed.toNat).value)
  else .zero

/-- A buffer that is full is ready.
SOURCE: vibration_double_buffer.cpp:49-53 -/
def Buffer.complete (b : Buffer) : Buffer :=
  { b with
    timing := { b.timing with effectiveSampleRateHz := b.timing.rate }
    state := .ready }

namespace VibrationDoubleBuffer

/-- `buffers_[index] = value`. -/
def setBuffer (b : VibrationDoubleBuffer) (index : Fin 2) (value : Buffer) :
    VibrationDoubleBuffer :=
  { b with buffers := Function.update b.buffers index value }

/-- SOURCE: vibration_double_buffer.cpp:17-21 -/
def startFilling (b : VibrationDoubleBuffer) (index : Fin 2) : VibrationDoubleBuffer :=
  { b.setBuffer index { b.buffers index with timing := {}, state := .filling } with
    fillingIndex := some index }

/-- SOURCE: vibration_double_buffer.cpp:7-15 -/
def reset (b : VibrationDoubleBuffer) : VibrationDoubleBuffer :=
  ({ buffers := fun index => { b.buffers index with timing := {}, state := .free } :
    VibrationDoubleBuffer }).startFilling 0

/-- SOURCE: vibration_double_buffer.cpp:23-28 -/
def findFree (b : VibrationDoubleBuffer) : Option (Fin 2) :=
  if (b.buffers 0).state = .free then some 0
  else if (b.buffers 1).state = .free then some 1
  else none

/-- SOURCE: vibration_double_buffer.cpp:46 -/
def countSample (b : VibrationDoubleBuffer) : VibrationDoubleBuffer :=
  { b with counters := { b.counters with samplesCaptured := b.counters.samplesCaptured + 1 } }

/-- SOURCE: vibration_double_buffer.cpp:53-56 -/
def markReady (b : VibrationDoubleBuffer) (index : Fin 2) (value : Buffer) :
    VibrationDoubleBuffer :=
  { b.setBuffer index value.complete with
    fillingIndex := none
    counters := { b.counters with
      windowsCompleted := b.counters.windowsCompleted + 1
      bufferSwaps := b.counters.bufferSwaps + 1 } }

/-- SOURCE: vibration_double_buffer.cpp:57-62 -/
def swap (b : VibrationDoubleBuffer) : VibrationDoubleBuffer :=
  match b.findFree with
  | some free => b.startFilling free
  | none => { b with counters := { b.counters with bufferOverruns := b.counters.bufferOverruns + 1 } }

/-- SOURCE: vibration_double_buffer.cpp:40-63 -/
def store (b : VibrationDoubleBuffer) (index : Fin 2) (sample : ImuRawSample)
    (timestampUs : UInt32) : VibrationDoubleBuffer :=
  let buffer := (b.buffers index).put sample timestampUs
  if buffer.timing.sampleCount ≠ kVibrationWindowSamples then
    b.countSample.setBuffer index buffer
  else (b.countSample.markReady index buffer).swap

/-- SOURCE: vibration_double_buffer.cpp:30-64 -/
def append (b : VibrationDoubleBuffer) (sample : ImuRawSample) (timestampUs : UInt32) :
    Bool × VibrationDoubleBuffer :=
  match b.fillingIndex with
  | some index => (true, b.store index sample timestampUs)
  | none =>
    match b.findFree with
    | none => (false, { b with counters := { b.counters with
        samplesDropped := b.counters.samplesDropped + 1 } })
    | some free => (true, (b.startFilling free).store free sample timestampUs)

/-- SOURCE: vibration_double_buffer.cpp:70-75 -/
def acquire (b : VibrationDoubleBuffer) (index : Fin 2) : ReadyWindow × VibrationDoubleBuffer :=
  (⟨(b.buffers index).timing, index⟩,
    b.setBuffer index { b.buffers index with state := .processing })

/-- SOURCE: vibration_double_buffer.cpp:66-78 -/
def acquireReady (b : VibrationDoubleBuffer) : Option ReadyWindow × VibrationDoubleBuffer :=
  if (b.buffers 0).state = .ready then ((b.acquire 0).1, (b.acquire 0).2)
  else if (b.buffers 1).state = .ready then ((b.acquire 1).1, (b.acquire 1).2)
  else (none, b)

/-- SOURCE: vibration_double_buffer.cpp:84-85 -/
def markFree (b : VibrationDoubleBuffer) (index : Fin 2) : VibrationDoubleBuffer :=
  { b.setBuffer index { b.buffers index with state := .free } with
    counters := { b.counters with windowsProcessed := b.counters.windowsProcessed + 1 } }

/-- SOURCE: vibration_double_buffer.cpp:80-88 -/
def release (b : VibrationDoubleBuffer) (bufferIndex : UInt8) : Bool × VibrationDoubleBuffer :=
  if h : bufferIndex.toNat < 2 then
    let index : Fin 2 := ⟨bufferIndex.toNat, h⟩
    if (b.buffers index).state ≠ .processing then (false, b)
    else if b.fillingIndex = none then (true, (b.markFree index).startFilling index)
    else (true, b.markFree index)
  else (false, b)

/-- The samples a window points to. -/
def windowSamples (b : VibrationDoubleBuffer) (index : Fin 2) : List ImuRawSample :=
  BoundedBuffer.entries (b.buffers index).samples kVibrationWindowSamples


end VibrationDoubleBuffer

/-- A call of the double buffer. -/
inductive DoubleBufferCall where
  | append (sample : ImuRawSample) (timestampUs : UInt32)
  | acquireReady
  | release (bufferIndex : UInt8)

/-- The double buffer, how often `append` was called, the samples it accepted with their times, at
which of them each buffer begins, and where the windows began that were acquired. -/
structure DoubleBufferRun where
  buffers : VibrationDoubleBuffer
  appends : ℕ := 0
  accepted : List (ImuRawSample × UInt32) := []
  first : Fin 2 → ℕ := fun _ => 0
  acquired : List ℕ := []

namespace DoubleBufferRun

/-- Where the buffers begin after a sample: the one it is written into begins with it, if it was
empty. -/
def firstAfter (r : DoubleBufferRun) : Fin 2 → ℕ :=
  match r.buffers.fillingIndex with
  | some index =>
    if (r.buffers.buffers index).timing.sampleCount = 0 then
      Function.update r.first index r.accepted.length
    else r.first
  | none =>
    match r.buffers.findFree with
    | some free => Function.update r.first free r.accepted.length
    | none => r.first

/-- One call. -/
def next (r : DoubleBufferRun) : DoubleBufferCall → DoubleBufferRun
  | .append sample timestampUs =>
    { r with
      buffers := (r.buffers.append sample timestampUs).2
      appends := r.appends + 1
      accepted := if (r.buffers.append sample timestampUs).1 then
        r.accepted ++ [(sample, timestampUs)] else r.accepted
      first := r.firstAfter }
  | .acquireReady =>
    { r with
      buffers := r.buffers.acquireReady.2
      acquired := r.acquired ++
        (r.buffers.acquireReady.1.map fun window => r.first window.bufferIndex).toList }
  | .release bufferIndex => { r with buffers := (r.buffers.release bufferIndex).2 }

end DoubleBufferRun

/-- A double buffer that was constructed or reset.
SOURCE: vibration_double_buffer.cpp:5-15 -/
def startedRun (memory : VibrationDoubleBuffer) : DoubleBufferRun where
  buffers := memory.reset

end SeedMg24.Model.DoubleBuffer
