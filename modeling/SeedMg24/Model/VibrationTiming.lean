import SeedMg24.Foundation.SingleRounding
import SeedMg24.Model.VibrationDoubleBuffer

/-!
# The times of the samples

The window assembler and the part of the vibration service that gives the frames of a batch their
times: `drainBatch` counts the frames it accepted, estimates the rate of the sensor from them and
from the clock, and spaces the frames of the next batch accordingly.  How the rate is calculated is
a parameter: in 32-bit floats, as the firmware does, or exactly.
-/

set_option autoImplicit false

namespace SeedMg24.Model.VibrationTiming

open Foundation DoubleBuffer
open Vibration (ImuRawSample RawImuFifoFrame parseFifoFrame toImuRawSample kImuFifoWordsPerFrame
  kBatchFrames kBatchWords kWordsPerFrame)

/-! ## The assembler -/

/-- SOURCE: vibration_fifo.h:29-33 -/
structure FifoAssemblyCounters where
  framesAccepted : UInt32 := 0
  partialBatchesRejected : UInt32 := 0
  framesRejected : UInt32 := 0
deriving DecidableEq

/-- The assembler with the double buffer it fills, and what the double buffer accepted so far.
SOURCE: vibration_fifo.h:35-47 -/
structure FifoWindowAssembler where
  buffers : DoubleBufferRun
  counters : FifoAssemblyCounters := {}

namespace FifoWindowAssembler

/-- SOURCE: vibration_fifo.cpp:48-49, 54-55 -/
def reject (a : FifoWindowAssembler) : FifoWindowAssembler :=
  { a with counters := { a.counters with framesRejected := a.counters.framesRejected + 1 } }

/-- SOURCE: vibration_fifo.cpp:57 -/
def accept (a : FifoWindowAssembler) : FifoWindowAssembler :=
  { a with counters := { a.counters with framesAccepted := a.counters.framesAccepted + 1 } }

/-- One sample is offered to the double buffer. -/
def offer (a : FifoWindowAssembler) (sample : ImuRawSample) (timestampUs : UInt32) :
    FifoWindowAssembler :=
  { a with buffers := a.buffers.next (.append sample timestampUs) }

/-- The frames of a batch from the one with the given index, up to the first that is refused.
SOURCE: vibration_fifo.cpp:44-59 -/
def appendFrames (a : FifoWindowAssembler) (words : List Int16)
    (firstSampleUs sampleIntervalUs : UInt32) (index : ℕ) : ℕ → Bool × FifoWindowAssembler
  | 0 => (true, a)
  | remaining + 1 =>
    match parseFifoFrame (words.drop (index * kImuFifoWordsPerFrame)) with
    | none => (false, a.reject)
    | some frame =>
      let timestamp := firstSampleUs + UInt32.ofNat index * sampleIntervalUs
      let sample := toImuRawSample frame
      if (a.buffers.buffers.append sample timestamp).1 then
        appendFrames (a.offer sample timestamp).accept words firstSampleUs sampleIntervalUs
          (index + 1) remaining
      else (false, (a.offer sample timestamp).reject)

/-- SOURCE: vibration_fifo.cpp:35-60 -/
def appendBatch (a : FifoWindowAssembler) (words : List Int16)
    (firstSampleUs sampleIntervalUs : UInt32) : Bool × FifoWindowAssembler :=
  if words.length = 0 ∨ words.length % kImuFifoWordsPerFrame ≠ 0 then
    (false, { a with counters := { a.counters with
      partialBatchesRejected := a.counters.partialBatchesRejected + 1 } })
  else
    a.appendFrames words firstSampleUs sampleIntervalUs 0 (words.length / kImuFifoWordsPerFrame)

end FifoWindowAssembler

/-! ## The rate -/

/-- How the service calculates with rates. -/
structure RateArithmetic (ρ : Type) where
  /-- `kFifoNominalRateHz` -/
  nominal : ρ
  /-- the time from the first frame of the first batch to its last -/
  leadUs : UInt32
  /-- so many frames in so many microseconds -/
  observed : (frames elapsed : UInt32) → ρ
  /-- whether an observed rate is taken for one of the sensor -/
  isPlausible : ρ → Bool
  /-- the average of the rate so far and the one observed -/
  smoothed : (rate observed : ρ) → ρ
  /-- the time from one frame to the next -/
  intervalUs : ρ → UInt32

/-- The calculation in 32-bit floats, each step rounded.
SOURCE: vibration_service.cpp:145-160 -/
def singleRates : RateArithmetic Single where
  nominal := .ofNat 400
  leadUs := UInt32.ofNat (((Single.ofNat (kBatchFrames - 1)).mul (.ofNat 1000000)).div
    (.ofNat 400)).toNat
  observed frames elapsed :=
    ((Single.ofNat frames.toNat).mul (.ofNat 1000000)).div (.ofNat elapsed.toNat)
  isPlausible observed := (Single.ofNat 350).lt observed && observed.lt (.ofNat 500)
  smoothed rate observed :=
    ((Single.nearest (9 / 10)).mul rate).add ((Single.nearest (1 / 10)).mul observed)
  intervalUs rate :=
    UInt32.ofNat (((Single.ofNat 1000000).div rate).add (.nearest (1 / 2))).toNat

/-- The calculation without rounding.
SOURCE: vibration_service.cpp:145-160 -/
def exactRates : RateArithmetic ℚ where
  nominal := 400
  leadUs := UInt32.ofNat ⌊((kBatchFrames - 1) * 1000000 / 400 : ℚ)⌋.toNat
  observed frames elapsed := frames.toNat * 1000000 / elapsed.toNat
  isPlausible observed := 350 < observed && observed < 500
  smoothed rate observed := 9 / 10 * rate + 1 / 10 * observed
  intervalUs rate := UInt32.ofNat ⌊1000000 / rate + 1 / 2⌋.toNat

/-! ## The service -/

/-- What the service keeps to give the frames their times.
SOURCE: vibration_service.h:72-90 -/
structure ProductionVibrationService (ρ : Type) where
  assembler : FifoWindowAssembler
  effectiveSampleRateHz : ρ
  acquisitionReferenceUs : UInt32
  nextSampleTimestampUs : UInt32
  acceptedFrames : UInt32

/-- The words of a batch. -/
abbrev Batch := { words : List Int16 // words.length = kBatchWords }

namespace ProductionVibrationService

variable {ρ : Type} (R : RateArithmetic ρ)

/-- A start that succeeds.
SOURCE: vibration_service.cpp:50-51, 54, 64-66 -/
def begin (memory : VibrationDoubleBuffer) (nowUs : UInt32) : ProductionVibrationService ρ where
  assembler := { buffers := startedRun memory }
  effectiveSampleRateHz := R.nominal
  acquisitionReferenceUs := nowUs
  nextSampleTimestampUs := nowUs
  acceptedFrames := 0

/-- The rate that is observed at a batch, if one is.
SOURCE: vibration_service.cpp:149-152 -/
def observed (s : ProductionVibrationService ρ) (nowUs : UInt32) : Option ρ :=
  if s.acceptedFrames = 0 then none
  else
    let elapsed := nowUs - s.acquisitionReferenceUs
    if elapsed > 0 then
      some (R.observed (s.acceptedFrames + UInt32.ofNat kBatchFrames - 1) elapsed)
    else none

/-- The first batch sets the reference, the others correct the rate.
SOURCE: vibration_service.cpp:144-158 -/
def estimate (s : ProductionVibrationService ρ) (nowUs : UInt32) : ProductionVibrationService ρ :=
  if s.acceptedFrames = 0 then
    { s with
      nextSampleTimestampUs := nowUs - R.leadUs
      acquisitionReferenceUs := nowUs - R.leadUs }
  else
    match s.observed R nowUs with
    | none => s
    | some observed =>
      if R.isPlausible observed then
        { s with effectiveSampleRateHz := R.smoothed s.effectiveSampleRateHz observed }
      else s

/-- The words of a batch get their times and go into the buffers.
SOURCE: vibration_service.cpp:159-168 -/
def appendBatch (s : ProductionVibrationService ρ) (words : List Int16) :
    Bool × ProductionVibrationService ρ :=
  let intervalUs := R.intervalUs s.effectiveSampleRateHz
  let appended := s.assembler.appendBatch words s.nextSampleTimestampUs intervalUs
  if appended.1 then
    (true, { s with
      assembler := appended.2
      acceptedFrames := s.acceptedFrames + UInt32.ofNat kBatchFrames
      nextSampleTimestampUs := s.nextSampleTimestampUs + UInt32.ofNat kBatchFrames * intervalUs })
  else (false, { s with assembler := appended.2 })

/-- A batch whose words are read, or not.
SOURCE: vibration_service.cpp:117-169 -/
def drainBatch (s : ProductionVibrationService ρ) (nowUs : UInt32) (read : Option Batch) :
    Bool × ProductionVibrationService ρ :=
  match read with
  | none => (false, s)
  | some words =>
    match parseFifoFrame (words.val.drop (kBatchWords - kWordsPerFrame)) with
    | none => (false, s)
    | some _ => (s.estimate R nowUs).appendBatch R words.val

end ProductionVibrationService

/-- What happens to the service. -/
inductive TimingEvent where
  /-- a batch is drained at a time, and its words are read or not -/
  | drains (nowUs : UInt32) (read : Option Batch)
  | acquires
  | releases (bufferIndex : UInt8)

/-- One event. -/
def ProductionVibrationService.next {ρ : Type} (R : RateArithmetic ρ)
    (s : ProductionVibrationService ρ) : TimingEvent → ProductionVibrationService ρ
  | .drains nowUs read => (s.drainBatch R nowUs read).2
  | .acquires => { s with assembler := { s.assembler with
      buffers := s.assembler.buffers.next .acquireReady } }
  | .releases bufferIndex => { s with assembler := { s.assembler with
      buffers := s.assembler.buffers.next (.release bufferIndex) } }

end SeedMg24.Model.VibrationTiming
