import SeedMg24.Analysis.DoubleBufferOrder
import SeedMg24.Analysis.FifoBatches
import SeedMg24.Analysis.SampleRates

/-!
# Frames are conserved

Of a batch that is refused only the first frame is counted, so the frames of all batches are counted
once exactly when every batch finds a buffer.  The times of the captured frames advance as long as
the count of the accepted ones does not come round to zero: then the times are set by the clock
again, and the clock may be behind them.
-/

set_option autoImplicit false

namespace SeedMg24.Analysis

open Foundation SeedMg24.Model.DoubleBuffer SeedMg24.Model.VibrationTiming
open SeedMg24.Model.Vibration (kVibrationWindowSamples kBatchFrames kBatchWords kWordsPerFrame)

namespace VibrationTiming

open DoubleBuffer

variable {s : ProductionVibrationService Single}

/-! ## What is required -/

/-- The frames that are counted, as captured or as dropped. -/
def framesCounted (s : ProductionVibrationService Single) : UInt32 :=
  (frameCounts s.assembler).1 + (frameCounts s.assembler).2

/-- The frames whose words an event reads. -/
def framesRead : TimingEvent → UInt32
  | .drains _ (some _) => UInt32.ofNat kBatchFrames
  | _ => 0

/-- Every frame that is read is counted once. -/
def CountsEveryFrame (s : ProductionVibrationService Single) (e : TimingEvent) : Prop :=
  framesCounted (s.next singleRates e) = framesCounted s + framesRead e

/-- The times of the captured frames advance, and none is given twice. -/
def TimesAdvance (s : ProductionVibrationService Single) : Prop :=
  Clock.Advances (capturedTimes s.assembler)

/-- A batch that is read finds a buffer; and if no frame counts as accepted, the last captured time
lies before the batch. -/
def TakesWhole (s : ProductionVibrationService Single) : TimingEvent → Prop
  | .drains nowUs (some _) => ¬ IsFull s.assembler.buffers.buffers ∧
      (s.acceptedFrames = 0 → ∀ last ∈ (capturedTimes s.assembler).getLast?,
        Clock.Ahead last (nowUs - singleRates.leadUs))
  | _ => True

/-! ## A batch -/

/-- What holds of the service whatever happens to it. -/
structure IsSteady (s : ProductionVibrationService Single) : Prop where
  sound : RunSound s.assembler.buffers
  whole : kBatchFrames ∣ room s.assembler.buffers.buffers
  rate : InRange s.effectiveSampleRateHz

/-- The time the first frame of a batch gets. -/
def firstSampleUs (s : ProductionVibrationService Single) (nowUs : UInt32) : UInt32 :=
  if s.acceptedFrames = 0 then nowUs - singleRates.leadUs else s.nextSampleTimestampUs

/-- SOURCE: vibration_service.cpp:144-158 -/
theorem estimate_spec (h : IsSteady s) (nowUs : UInt32) :
    (s.estimate singleRates nowUs).acceptedFrames = s.acceptedFrames ∧
    (s.estimate singleRates nowUs).nextSampleTimestampUs = firstSampleUs s nowUs ∧
    InRange (s.estimate singleRates nowUs).effectiveSampleRateHz := by
  unfold ProductionVibrationService.estimate firstSampleUs
  by_cases hzero : s.acceptedFrames = 0
  · rw [if_pos hzero, if_pos hzero]
    exact ⟨rfl, rfl, h.rate⟩
  · rw [if_neg hzero, if_neg hzero]
    cases s.observed singleRates nowUs with
    | none => exact ⟨rfl, rfl, h.rate⟩
    | some observed =>
      dsimp only
      by_cases hplausible : singleRates.isPlausible observed = true
      · rw [if_pos hplausible]
        exact ⟨rfl, rfl, h.rate.smoothed (inRange_of_isPlausible hplausible)⟩
      · rw [if_neg hplausible]
        exact ⟨rfl, rfl, h.rate⟩

/-- **A batch that finds a buffer** is captured whole, at times that follow one another.
SOURCE: vibration_service.cpp:144-168 -/
theorem drain_of_room (h : IsSteady s) (hnot : ¬ IsFull s.assembler.buffers.buffers)
    (nowUs : UInt32) (words : Batch) :
    ∃ interval s', s.drainBatch singleRates nowUs (some words) = (true, s') ∧ IsSteady s' ∧
      2000 ≤ interval.toNat ∧ interval.toNat ≤ 2857 ∧
      capturedTimes s'.assembler = capturedTimes s.assembler ++
        Clock.evenly (firstSampleUs s nowUs) interval 0 kBatchFrames ∧
      frameCounts s'.assembler = ((frameCounts s.assembler).1 + UInt32.ofNat kBatchFrames,
        (frameCounts s.assembler).2) ∧
      s'.nextSampleTimestampUs =
        firstSampleUs s nowUs + UInt32.ofNat kBatchFrames * interval := by
  obtain ⟨haccepted, hnext, hrange⟩ := estimate_spec h nowUs
  obtain ⟨hlow, hhigh⟩ := hrange.intervalUs
  obtain ⟨a', happend, hsound, hwhole, htimes, hcounts⟩ := appendBatch_of_room words.property
    (firstSampleUs s nowUs)
    (singleRates.intervalUs (s.estimate singleRates nowUs).effectiveSampleRateHz) h.sound h.whole
    hnot
  refine ⟨_, { s.estimate singleRates nowUs with
    assembler := a'
    acceptedFrames := s.acceptedFrames + UInt32.ofNat kBatchFrames
    nextSampleTimestampUs := firstSampleUs s nowUs + UInt32.ofNat kBatchFrames *
      singleRates.intervalUs (s.estimate singleRates nowUs).effectiveSampleRateHz },
    ?_, ⟨hsound, hwhole, hrange⟩, hlow, hhigh, htimes, hcounts, rfl⟩
  rw [drainBatch_read]
  unfold ProductionVibrationService.appendBatch
  dsimp only
  rw [assembler_estimate, hnext, happend, haccepted]
  rfl

/-- Of a batch that finds no buffer, the first frame is counted.
SOURCE: vibration_service.cpp:161-165 -/
theorem drain_of_isFull (h : IsSteady s) (hfull : IsFull s.assembler.buffers.buffers)
    (nowUs : UInt32) (words : Batch) :
    ∃ s', s.drainBatch singleRates nowUs (some words) = (false, s') ∧ IsSteady s' ∧
      frameCounts s'.assembler = ((frameCounts s.assembler).1, (frameCounts s.assembler).2 + 1) := by
  obtain ⟨-, hnext, hrange⟩ := estimate_spec h nowUs
  obtain ⟨a', happend, hsound, hroom, -, hcounts⟩ := appendBatch_of_isFull words.property
    (firstSampleUs s nowUs)
    (singleRates.intervalUs (s.estimate singleRates nowUs).effectiveSampleRateHz) h.sound hfull
  refine ⟨{ s.estimate singleRates nowUs with assembler := a' }, ?_,
    ⟨hsound, by rw [hroom]; exact h.whole, hrange⟩, hcounts⟩
  rw [drainBatch_read]
  unfold ProductionVibrationService.appendBatch
  dsimp only
  rw [assembler_estimate, hnext, happend]
  rfl

theorem isSteady_begin (memory : VibrationDoubleBuffer) (nowUs : UInt32) :
    IsSteady (.begin singleRates memory nowUs) := by
  refine ⟨runSound_startedRun memory, ?_, inRange_nominal⟩
  show kBatchFrames ∣ room memory.reset
  rw [VibrationDoubleBuffer.reset, room_startFilling]
  decide

theorem IsSteady.next (h : IsSteady s) (e : TimingEvent) : IsSteady (s.next singleRates e) := by
  cases e with
  | drains nowUs read =>
    cases read with
    | none => exact h
    | some words =>
      show IsSteady (s.drainBatch singleRates nowUs (some words)).2
      by_cases hfull : IsFull s.assembler.buffers.buffers
      · obtain ⟨s', hdrain, hsteady, -⟩ := drain_of_isFull h hfull nowUs words
        rw [hdrain]
        exact hsteady
      · obtain ⟨interval, s', hdrain, hsteady, -⟩ := drain_of_room h hfull nowUs words
        rw [hdrain]
        exact hsteady
  | acquires =>
    exact ⟨h.sound.next .acquireReady, room_dvd_next h.sound h.whole (fun _ _ => nofun), h.rate⟩
  | releases bufferIndex =>
    exact ⟨h.sound.next (.release bufferIndex), room_dvd_next h.sound h.whole (fun _ _ => nofun),
      h.rate⟩

/-! ## Counts -/

/-- The counters of the frames change only with a batch that is read. -/
theorem framesCounted_next_acquires (s : ProductionVibrationService Single) :
    framesCounted (s.next singleRates .acquires) = framesCounted s := by
  show s.assembler.buffers.buffers.acquireReady.2.counters.samplesCaptured +
    s.assembler.buffers.buffers.acquireReady.2.counters.samplesDropped = _
  obtain ⟨hnone, -⟩ | ⟨i, -, -, hacquired⟩ := acquireReady_cases s.assembler.buffers.buffers
  · rw [hnone]
    rfl
  · rw [hacquired]
    rfl

theorem framesCounted_next_releases (s : ProductionVibrationService Single)
    (bufferIndex : UInt8) :
    framesCounted (s.next singleRates (.releases bufferIndex)) = framesCounted s := by
  show (s.assembler.buffers.buffers.release bufferIndex).2.counters.samplesCaptured +
    (s.assembler.buffers.buffers.release bufferIndex).2.counters.samplesDropped = _
  obtain hnot | ⟨i, -, -, hreleased⟩ := release_cases s.assembler.buffers.buffers bufferIndex
  · rw [hnot]
    rfl
  · rw [hreleased]
    dsimp only
    split
    · rfl
    · rfl

/-- **The frames of a batch are counted exactly if it finds a buffer.** -/
theorem countsEveryFrame_iff (h : IsSteady s) (nowUs : UInt32) (words : Batch) :
    CountsEveryFrame s (.drains nowUs (some words)) ↔ ¬ IsFull s.assembler.buffers.buffers := by
  unfold CountsEveryFrame framesCounted framesRead
  show (frameCounts (s.drainBatch singleRates nowUs (some words)).2.assembler).1 +
    (frameCounts (s.drainBatch singleRates nowUs (some words)).2.assembler).2 = _ ↔ _
  by_cases hfull : IsFull s.assembler.buffers.buffers
  · obtain ⟨s', hdrain, -, hcounts⟩ := drain_of_isFull h hfull nowUs words
    rw [hdrain, hcounts]
    dsimp only
    refine ⟨fun hcounted => ?_, fun hnot => absurd hfull hnot⟩
    rw [← UInt32.add_assoc, UInt32.add_right_inj] at hcounted
    exact absurd hcounted (by decide)
  · obtain ⟨interval, s', hdrain, -, -, -, -, hcounts, -⟩ := drain_of_room h hfull nowUs words
    rw [hdrain, hcounts]
    dsimp only
    refine ⟨fun _ => hfull, fun _ => ?_⟩
    ac_rfl

/-- What is not a batch that is read changes no counter. -/
theorem countsEveryFrame_of_framesRead {e : TimingEvent} (h : framesRead e = 0) :
    CountsEveryFrame s e := by
  unfold CountsEveryFrame
  rw [h, UInt32.add_zero]
  cases e with
  | drains nowUs read =>
    cases read with
    | none => rfl
    | some words => exact absurd h (by decide : UInt32.ofNat kBatchFrames ≠ 0)
  | acquires => exact framesCounted_next_acquires s
  | releases bufferIndex => exact framesCounted_next_releases s bufferIndex

/-! ## Times -/

/-- The times of the captured frames advance, and the next ones lie ahead of them. -/
structure IsOnTime (s : ProductionVibrationService Single) : Prop where
  advances : (capturedTimes s.assembler).IsChain Clock.Ahead
  ahead : s.acceptedFrames ≠ 0 → ∀ last ∈ (capturedTimes s.assembler).getLast?,
    Clock.Ahead last s.nextSampleTimestampUs

/-- Times are followed by those of a batch. -/
theorem isChain_append_evenly {times : List UInt32} {first interval : UInt32}
    (hpos : 0 < interval.toNat) (hlt : interval.toNat < 2 ^ 31) :
    (times ++ Clock.evenly first interval 0 kBatchFrames).IsChain Clock.Ahead ↔
      times.IsChain Clock.Ahead ∧ ∀ last ∈ times.getLast?, Clock.Ahead last first := by
  have hhead : (Clock.evenly first interval 0 kBatchFrames).head? = some first :=
    Clock.head?_evenly first interval 15
  rw [List.isChain_append, hhead]
  constructor
  · rintro ⟨htimes, -, hjoint⟩
    exact ⟨htimes, fun last hlast => hjoint last hlast first rfl⟩
  · rintro ⟨htimes, hjoint⟩
    refine ⟨htimes, Clock.isChain_evenly hpos hlt first 0 kBatchFrames, fun last hlast y hy => ?_⟩
    obtain rfl := Option.some_inj.mp hy
    exact hjoint last hlast

/-- A batch begins behind the last captured time. -/
theorem IsOnTime.firstSampleUs (h : IsOnTime s) {nowUs : UInt32} {words : Batch}
    (hwhole : TakesWhole s (.drains nowUs (some words))) :
    ∀ last ∈ (capturedTimes s.assembler).getLast?,
      Clock.Ahead last (VibrationTiming.firstSampleUs s nowUs) := by
  unfold VibrationTiming.firstSampleUs
  by_cases hzero : s.acceptedFrames = 0
  · rw [if_pos hzero]
    exact hwhole.2 hzero
  · rw [if_neg hzero]
    exact h.ahead hzero

/-- **A batch that is taken whole keeps the times in order.**
SOURCE: vibration_service.cpp:144-168 -/
theorem IsOnTime.drains (h : IsOnTime s) (hsteady : IsSteady s) {nowUs : UInt32} {words : Batch}
    (hwhole : TakesWhole s (.drains nowUs (some words))) :
    IsOnTime (s.next singleRates (.drains nowUs (some words))) := by
  obtain ⟨interval, s', hdrain, -, hlow, hhigh, htimes, -, hnext⟩ :=
    drain_of_room hsteady hwhole.1 nowUs words
  have hpos : 0 < interval.toNat := by omega
  have hlt : interval.toNat < 2 ^ 31 := by omega
  show IsOnTime (s.drainBatch singleRates nowUs (some words)).2
  rw [hdrain]
  constructor
  · rw [htimes, isChain_append_evenly hpos hlt]
    exact ⟨h.advances, h.firstSampleUs hwhole⟩
  · intro _ last hlast
    have hend : (Clock.evenly (VibrationTiming.firstSampleUs s nowUs) interval 0
        kBatchFrames).getLast? =
          some (VibrationTiming.firstSampleUs s nowUs + UInt32.ofNat 15 * interval) :=
      Clock.getLast?_evenly _ interval 0 15
    rw [htimes, List.getLast?_append, hend, Option.some_or, Option.mem_some_iff] at hlast
    rw [hnext, ← hlast]
    show Clock.Ahead _ (VibrationTiming.firstSampleUs s nowUs + UInt32.ofNat (15 + 1) * interval)
    rw [Clock.evenly_next _ interval 15]
    exact Clock.ahead_add hpos hlt

theorem IsOnTime.next (h : IsOnTime s) (hsteady : IsSteady s) {e : TimingEvent}
    (hwhole : TakesWhole s e) : IsOnTime (s.next singleRates e) := by
  cases e with
  | drains nowUs read =>
    cases read with
    | none => exact h
    | some words => exact h.drains hsteady hwhole
  | acquires => exact ⟨h.advances, h.ahead⟩
  | releases bufferIndex => exact ⟨h.advances, h.ahead⟩

/-- A batch that begins where the clock is behind does not keep the times in order. -/
theorem not_timesAdvance (hsteady : IsSteady s) {nowUs : UInt32} {words : Batch}
    (hnot : ¬ IsFull s.assembler.buffers.buffers) (hzero : s.acceptedFrames = 0)
    {last : UInt32} (hlast : last ∈ (capturedTimes s.assembler).getLast?)
    (hbehind : ¬ Clock.Ahead last (nowUs - singleRates.leadUs)) :
    ¬ TimesAdvance (s.next singleRates (.drains nowUs (some words))) := by
  obtain ⟨interval, s', hdrain, -, hlow, hhigh, htimes, -⟩ :=
    drain_of_room hsteady hnot nowUs words
  intro hadvance
  have hchain := hadvance.ahead
  change (capturedTimes (s.drainBatch singleRates nowUs (some words)).2.assembler).IsChain _
    at hchain
  rw [hdrain, htimes, isChain_append_evenly (by omega) (by omega)] at hchain
  have hfirst := hchain.2 last hlast
  unfold VibrationTiming.firstSampleUs at hfirst
  rw [if_pos hzero] at hfirst
  exact hbehind hfirst

/-! ## Runs -/

/-- **When frames are conserved and their times advance.**  Along a run of batches, acquires and
releases every frame that is read is counted once and the times of the captured frames advance,
exactly when every batch that is read finds a buffer, and does not lie behind the last captured time
when the count of accepted frames has come round to zero.
SOURCE: vibration_fifo.cpp:35-60, vibration_service.cpp:117-168, vibration_double_buffer.cpp:30-64 -/
theorem framesConserved_iff (memory : VibrationDoubleBuffer) (nowUs : UInt32)
    (events : List TimingEvent) :
    let start := ProductionVibrationService.begin singleRates memory nowUs
    let next := ProductionVibrationService.next singleRates
    Runs.Throughout next CountsEveryFrame start events ∧ Runs.Always next TimesAdvance start events ↔
      Runs.Throughout next TakesWhole start events := by
  intro start next
  have hsteady (before : List TimingEvent) : IsSteady (Runs.after next start before) :=
    Runs.after_invariant next (isSteady_begin memory nowUs) (fun s e h => h.next e) before
  constructor
  · rintro ⟨hcounts, htimes⟩ before e hbefore
    have hcount := hcounts before e hbefore
    have htime := htimes (before ++ [e]) hbefore
    rw [Runs.after_snoc] at htime
    cases e with
    | acquires => trivial
    | releases bufferIndex => trivial
    | drains nowUs read =>
      cases read with
      | none => trivial
      | some words =>
        have hnot := (countsEveryFrame_iff (hsteady before) nowUs words).mp hcount
        refine ⟨hnot, fun hzero last hlast => ?_⟩
        by_contra hbehind
        exact not_timesAdvance (hsteady before) hnot hzero hlast hbehind htime
  · intro hwhole
    have hboth : Runs.Always next (fun s => IsSteady s ∧ IsOnTime s) start events := by
      refine hwhole.always next ⟨isSteady_begin memory nowUs, List.isChain_nil, nofun⟩ ?_
      exact fun s e h hC => ⟨h.1.next e, h.2.next h.1 hC⟩
    refine ⟨fun before e hbefore => ?_, fun before hbefore => ?_⟩
    · have hC := hwhole before e hbefore
      cases e with
      | acquires => exact countsEveryFrame_of_framesRead rfl
      | releases bufferIndex => exact countsEveryFrame_of_framesRead rfl
      | drains nowUs read =>
        cases read with
        | none => exact countsEveryFrame_of_framesRead rfl
        | some words => exact (countsEveryFrame_iff (hsteady before) nowUs words).mpr hC.1
    · exact Clock.advances_iff.mpr (hboth before hbefore).2.advances

/-- Batches every 40 milliseconds, and nothing is acquired: two windows are filled, and one batch
comes more. -/
def unacquiredBatches : List TimingEvent :=
  (List.range 33).map fun batch => .drains (UInt32.ofNat (40000 * (batch + 1))) (some restingBatch)

/-- The counters do not depend on the times. -/
theorem framesCounted_eq (s : ProductionVibrationService Single) : framesCounted s =
    (listed s.assembler.buffers.buffers).counters.samplesCaptured +
      (listed s.assembler.buffers.buffers).counters.samplesDropped := rfl

/-- The last batch finds no buffer, and 15 of its frames are not counted. -/
theorem not_framesConserved :
    ¬ (Runs.Throughout (ProductionVibrationService.next singleRates) CountsEveryFrame
        (.begin singleRates restingMemory 0) unacquiredBatches ∧
      Runs.Always (ProductionVibrationService.next singleRates) TimesAdvance
        (.begin singleRates restingMemory 0) unacquiredBatches) := by
  rintro ⟨hcounts, -⟩
  have hlast := hcounts (unacquiredBatches.take 32)
    (.drains (UInt32.ofNat (40000 * 33)) (some restingBatch)) ⟨[], rfl⟩
  unfold CountsEveryFrame at hlast
  rw [framesCounted_eq, framesCounted_eq, listed_next, listed_after] at hlast
  revert hlast
  decide +kernel

end VibrationTiming

end SeedMg24.Analysis
