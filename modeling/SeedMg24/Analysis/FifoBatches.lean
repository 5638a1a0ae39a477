import SeedMg24.Analysis.DoubleBufferWindows
import SeedMg24.Foundation.ClockTimes
import SeedMg24.Model.VibrationTiming

/-!
# Batches of the FIFO

A window has room for whole batches, so a batch is either taken whole or refused at its first frame:
the samples a buffer has room for are a multiple of those of a batch, before and after every event.
-/

set_option autoImplicit false

namespace SeedMg24.Analysis

open Foundation SeedMg24.Model.DoubleBuffer SeedMg24.Model.VibrationTiming
open SeedMg24.Model.Vibration (ImuRawSample BufferState parseFifoFrame toImuRawSample
  kVibrationWindowSamples kBatchFrames kBatchWords kWordsPerFrame kImuFifoWordsPerFrame)

namespace DoubleBuffer

/-! ## Room -/

variable {r : DoubleBufferRun} {i : Fin 2}

/-- How many samples go into the buffer that is filled, or that is filled next. -/
def room (v : VibrationDoubleBuffer) : ℕ :=
  match v.fillingIndex with
  | some index => kVibrationWindowSamples - (v.buffers index).timing.sampleCount
  | none => if v.findFree = none then 0 else kVibrationWindowSamples

/-- Both buffers have a whole window. -/
def IsFull (v : VibrationDoubleBuffer) : Prop := v.fillingIndex = none ∧ v.findFree = none

instance (v : VibrationDoubleBuffer) : Decidable (IsFull v) := inferInstanceAs (Decidable (_ ∧ _))

theorem room_of_filling {v : VibrationDoubleBuffer} (h : v.fillingIndex = some i) :
    room v = kVibrationWindowSamples - (v.buffers i).timing.sampleCount := by
  unfold room
  rw [h]

theorem room_of_idle {v : VibrationDoubleBuffer} (h : v.fillingIndex = none) :
    room v = if v.findFree = none then 0 else kVibrationWindowSamples := by
  unfold room
  rw [h]

theorem room_eq_zero_iff (h : RunSound r) : room r.buffers = 0 ↔ IsFull r.buffers := by
  cases hindex : r.buffers.fillingIndex with
  | some index =>
    have hlt := h.room index ((h.named index).mpr hindex)
    rw [room_of_filling hindex]
    refine ⟨fun hzero => absurd hzero (by omega), fun hfull => ?_⟩
    rw [hfull.1] at hindex
    cases hindex
  | none =>
    rw [room_of_idle hindex]
    refine ⟨fun hzero => ⟨hindex, ?_⟩, fun hfull => if_pos hfull.2⟩
    by_contra hfree
    rw [if_neg hfree] at hzero
    revert hzero
    decide

theorem room_startFilling (v : VibrationDoubleBuffer) (i : Fin 2) :
    room (v.startFilling i) = kVibrationWindowSamples := by
  rw [room_of_filling (show (v.startFilling i).fillingIndex = some i from rfl),
    (startFilling_self v i).2]
  rfl

/-- A sample more takes one place; after the last one there is room in another buffer or none. -/
def TakesOne (before after : ℕ) : Prop :=
  1 < before ∧ after = before - 1 ∨ before = 1 ∧ (after = 0 ∨ after = kVibrationWindowSamples)

theorem room_swap {v : VibrationDoubleBuffer} (h : v.fillingIndex = none) :
    room v.swap = 0 ∨ room v.swap = kVibrationWindowSamples := by
  unfold VibrationDoubleBuffer.swap
  cases hfree : v.findFree with
  | some free => exact .inr (room_startFilling v free)
  | none =>
    left
    rw [room_of_idle (by exact h)]
    exact if_pos hfree

/-- SOURCE: vibration_double_buffer.cpp:40-63 -/
theorem room_store {v : VibrationDoubleBuffer} (hindex : v.fillingIndex = some i)
    (hlt : (v.buffers i).timing.sampleCount < kVibrationWindowSamples) (sample : ImuRawSample)
    (timestampUs : UInt32) : TakesOne (room v) (room (v.store i sample timestampUs)) := by
  have hbefore := room_of_filling hindex
  have hput : ((v.buffers i).put sample timestampUs).timing.sampleCount =
      (v.buffers i).timing.sampleCount + 1 := rfl
  unfold VibrationDoubleBuffer.store
  dsimp only
  split
  · rename_i hnot
    left
    have hafter : room (v.countSample.setBuffer i ((v.buffers i).put sample timestampUs)) =
        kVibrationWindowSamples - ((v.buffers i).timing.sampleCount + 1) := by
      rw [room_of_filling (i := i) (by exact hindex)]
      unfold VibrationDoubleBuffer.setBuffer
      dsimp only
      rw [Function.update_self, hput]
    omega
  · rename_i hfull
    exact .inr ⟨by omega, room_swap rfl⟩

/-- **A sample for which there is room is taken**, and counted as captured.
SOURCE: vibration_double_buffer.cpp:30-64 -/
theorem append_of_room (h : RunSound r) (hroom : 0 < room r.buffers) (sample : ImuRawSample)
    (timestampUs : UInt32) :
    (r.buffers.append sample timestampUs).1 = true ∧
    (r.buffers.append sample timestampUs).2.counters.samplesCaptured =
      r.buffers.counters.samplesCaptured + 1 ∧
    (r.buffers.append sample timestampUs).2.counters.samplesDropped =
      r.buffers.counters.samplesDropped ∧
    TakesOne (room r.buffers) (room (r.buffers.append sample timestampUs).2) := by
  unfold VibrationDoubleBuffer.append
  cases hindex : r.buffers.fillingIndex with
  | some index =>
    obtain ⟨hcaptured, hdropped⟩ := counters_store r.buffers index sample timestampUs
    have hlt := h.room index ((h.named index).mpr hindex)
    exact ⟨rfl, hcaptured, hdropped, room_store hindex hlt sample timestampUs⟩
  | none =>
    dsimp only
    cases hfree : r.buffers.findFree with
    | none =>
      rw [room_of_idle hindex, if_pos hfree] at hroom
      cases hroom
    | some free =>
      obtain ⟨hcaptured, hdropped⟩ :=
        counters_store (r.buffers.startFilling free) free sample timestampUs
      have hempty := (startFilling_self r.buffers free).2
      have htakes := room_store (v := r.buffers.startFilling free) (i := free) rfl
        (by rw [hempty]; decide) sample timestampUs
      rw [room_startFilling] at htakes
      have hbefore : room r.buffers = kVibrationWindowSamples := by
        rw [room_of_idle hindex, if_neg (by rw [hfree]; exact Option.some_ne_none free)]
      rw [← hbefore] at htakes
      exact ⟨rfl, hcaptured, hdropped, htakes⟩

/-- A sample for which there is no room is dropped.
SOURCE: vibration_double_buffer.cpp:33-37 -/
theorem append_of_isFull (hfull : IsFull r.buffers) (sample : ImuRawSample)
    (timestampUs : UInt32) : r.buffers.append sample timestampUs =
      (false, { r.buffers with counters := { r.buffers.counters with
        samplesDropped := r.buffers.counters.samplesDropped + 1 } }) := by
  unfold VibrationDoubleBuffer.append
  rw [hfull.1]
  dsimp only
  rw [hfull.2, hfull.1]

/-- Acquiring leaves the room there is.
SOURCE: vibration_double_buffer.cpp:66-78 -/
theorem room_acquireReady (h : RunSound r) :
    room r.buffers.acquireReady.2 = room r.buffers := by
  obtain ⟨hnone, -⟩ | ⟨i, hready, -, hacquired⟩ := acquireReady_cases r.buffers
  · rw [hnone]
  · rw [hacquired]
    have hstate (j : Fin 2) : ((r.buffers.acquire i).2.buffers j).state = .free ↔
        (r.buffers.buffers j).state = .free := by
      by_cases hj : j = i
      · subst hj
        show (Function.update r.buffers.buffers j _ j).state = .free ↔ _
        rw [Function.update_self, hready]
        exact ⟨nofun, nofun⟩
      · show (Function.update r.buffers.buffers i _ j).state = .free ↔ _
        rw [Function.update_of_ne hj]
    have hfree : (r.buffers.acquire i).2.findFree = r.buffers.findFree := by
      unfold VibrationDoubleBuffer.findFree
      simp only [hstate]
    cases hindex : r.buffers.fillingIndex with
    | none =>
      rw [room_of_idle (show (r.buffers.acquire i).2.fillingIndex = none from hindex),
        room_of_idle hindex, hfree]
    | some index =>
      have hne : index ≠ i := by
        rintro rfl
        rw [(h.named index).mpr hindex] at hready
        cases hready
      rw [room_of_filling (show (r.buffers.acquire i).2.fillingIndex = some index from hindex),
        room_of_filling hindex]
      show _ - (Function.update r.buffers.buffers i _ index).timing.sampleCount = _
      rw [Function.update_of_ne hne]

/-- A buffer that is released is filled next, if none is being filled.
SOURCE: vibration_double_buffer.cpp:80-88 -/
theorem room_release (h : RunSound r) (bufferIndex : UInt8) :
    room (r.buffers.release bufferIndex).2 = room r.buffers ∨
      room (r.buffers.release bufferIndex).2 = kVibrationWindowSamples := by
  obtain hnot | ⟨i, -, hprocessing, hreleased⟩ := release_cases r.buffers bufferIndex
  · exact .inl (by rw [hnot])
  · rw [hreleased]
    dsimp only
    split
    · exact .inr (room_startFilling _ i)
    · rename_i hfilling
      obtain ⟨index, hindex⟩ := Option.ne_none_iff_exists'.mp hfilling
      have hne : index ≠ i := by
        rintro rfl
        rw [(h.named index).mpr hindex] at hprocessing
        cases hprocessing
      left
      rw [room_of_filling (show (r.buffers.markFree i).fillingIndex = some index from hindex),
        room_of_filling hindex]
      show _ - (Function.update r.buffers.buffers i _ index).timing.sampleCount = _
      rw [Function.update_of_ne hne]

/-- What is kept of the room: it is a multiple of a batch. -/
theorem room_dvd_next (h : RunSound r) (hroom : kBatchFrames ∣ room r.buffers)
    {call : DoubleBufferCall} (hcall : ∀ sample timestampUs, call ≠ .append sample timestampUs) :
    kBatchFrames ∣ room (r.next call).buffers := by
  cases call with
  | append sample timestampUs => exact absurd rfl (hcall sample timestampUs)
  | acquireReady =>
    show kBatchFrames ∣ room r.buffers.acquireReady.2
    rw [room_acquireReady h]
    exact hroom
  | release bufferIndex =>
    show kBatchFrames ∣ room (r.buffers.release bufferIndex).2
    rcases room_release h bufferIndex with hsame | hwhole
    · rw [hsame]
      exact hroom
    · rw [hwhole]
      decide

end DoubleBuffer

/-! ## Batches -/

namespace VibrationTiming

open DoubleBuffer

variable {a : FifoWindowAssembler}

/-- The times the captured frames were given, one after the other. -/
def capturedTimes (a : FifoWindowAssembler) : List UInt32 := a.buffers.accepted.map Prod.snd

/-- The counters of the frames. -/
def frameCounts (a : FifoWindowAssembler) : UInt32 × UInt32 :=
  (a.buffers.buffers.counters.samplesCaptured, a.buffers.buffers.counters.samplesDropped)

/-- SOURCE: vibration_fifo.cpp:5-17 -/
theorem exists_parseFifoFrame (words : List Int16) (h : kImuFifoWordsPerFrame ≤ words.length) :
    ∃ frame, parseFifoFrame words = some frame := by
  match words, h with
  | gyroX :: gyroY :: gyroZ :: accelX :: accelY :: accelZ :: _, _ =>
    exact ⟨{ gyroX, gyroY, gyroZ, accelX, accelY, accelZ }, rfl⟩

theorem offer_of_room (h : RunSound a.buffers) (hroom : 0 < room a.buffers.buffers)
    (sample : ImuRawSample) (timestampUs : UInt32) :
    (a.buffers.buffers.append sample timestampUs).1 = true ∧
    RunSound (a.offer sample timestampUs).accept.buffers ∧
    capturedTimes (a.offer sample timestampUs).accept = capturedTimes a ++ [timestampUs] ∧
    frameCounts (a.offer sample timestampUs).accept =
      ((frameCounts a).1 + 1, (frameCounts a).2) ∧
    TakesOne (room a.buffers.buffers)
      (room (a.offer sample timestampUs).accept.buffers.buffers) := by
  obtain ⟨htaken, hcaptured, hdropped, htakes⟩ := append_of_room h hroom sample timestampUs
  refine ⟨htaken, h.append sample timestampUs, ?_, ?_, htakes⟩
  · show (if (a.buffers.buffers.append sample timestampUs).1 then
      a.buffers.accepted ++ [(sample, timestampUs)] else a.buffers.accepted).map Prod.snd = _
    rw [if_pos htaken, List.map_append]
    rfl
  · show ((a.buffers.buffers.append sample timestampUs).2.counters.samplesCaptured,
      (a.buffers.buffers.append sample timestampUs).2.counters.samplesDropped) = _
    rw [hcaptured, hdropped]
    rfl

/-- **Frames for which there is room are all taken**, and get times that follow one another at the
interval.
SOURCE: vibration_fifo.cpp:44-59 -/
theorem appendFrames_of_room (words : List Int16) (first interval : UInt32) {remaining : ℕ}
    (index : ℕ) (h : RunSound a.buffers) (hroom : remaining ≤ room a.buffers.buffers)
    (hwords : (index + remaining) * kImuFifoWordsPerFrame ≤ words.length) :
    ∃ a', a.appendFrames words first interval index remaining = (true, a') ∧
      RunSound a'.buffers ∧
      capturedTimes a' = capturedTimes a ++ Clock.evenly first interval index remaining ∧
      frameCounts a' = ((frameCounts a).1 + UInt32.ofNat remaining, (frameCounts a).2) ∧
      (room a.buffers.buffers = remaining ∧ (room a'.buffers.buffers = 0 ∨
          room a'.buffers.buffers = kVibrationWindowSamples) ∨
        room a'.buffers.buffers + remaining = room a.buffers.buffers) := by
  induction remaining generalizing a index with
  | zero =>
    refine ⟨a, rfl, h, ?_, ?_, .inr rfl⟩
    · show _ = _ ++ []
      rw [List.append_nil]
    · show _ = ((frameCounts a).1 + 0, _)
      rw [UInt32.add_zero]
  | succ remaining ih =>
    have hframe : kImuFifoWordsPerFrame ≤ (words.drop (index * kImuFifoWordsPerFrame)).length := by
      rw [List.length_drop]
      have hsplit : (index + (remaining + 1)) * kImuFifoWordsPerFrame =
          index * kImuFifoWordsPerFrame + remaining * kImuFifoWordsPerFrame +
            kImuFifoWordsPerFrame := by ring
      omega
    obtain ⟨frame, hparse⟩ := exists_parseFifoFrame _ hframe
    obtain ⟨htaken, hsound, htimes, hcounts, htakes⟩ := offer_of_room h (by omega)
      (toImuRawSample frame) (first + UInt32.ofNat index * interval)
    obtain ⟨a', happend, hsound', htimes', hcounts', hroom'⟩ := ih (index + 1) hsound
      (by unfold TakesOne at htakes; omega)
      (by rw [show index + 1 + remaining = index + (remaining + 1) by omega]; exact hwords)
    refine ⟨a', ?_, hsound', ?_, ?_, ?_⟩
    · unfold FifoWindowAssembler.appendFrames
      rw [hparse]
      dsimp only
      rw [if_pos htaken]
      exact happend
    · rw [htimes', htimes, Clock.evenly_succ, List.append_assoc, List.singleton_append]
    · rw [hcounts', hcounts, UInt32.add_assoc, UInt32.add_comm 1, UInt32.ofNat_add]
      rfl
    · unfold TakesOne at htakes
      omega

/-- **A batch is taken whole or refused at its first frame.**
SOURCE: vibration_fifo.cpp:35-60 -/
theorem appendBatch_of_room {words : List Int16} (hlength : words.length = kBatchWords)
    (first interval : UInt32) (h : RunSound a.buffers)
    (hroom : kBatchFrames ∣ room a.buffers.buffers) (hnot : ¬ IsFull a.buffers.buffers) :
    ∃ a', a.appendBatch words first interval = (true, a') ∧ RunSound a'.buffers ∧
      kBatchFrames ∣ room a'.buffers.buffers ∧
      capturedTimes a' = capturedTimes a ++ Clock.evenly first interval 0 kBatchFrames ∧
      frameCounts a' = ((frameCounts a).1 + UInt32.ofNat kBatchFrames, (frameCounts a).2) := by
  have hpos : 0 < room a.buffers.buffers :=
    Nat.pos_of_ne_zero (mt (room_eq_zero_iff h).mp hnot)
  have hle := Nat.le_of_dvd hpos hroom
  obtain ⟨a', happend, hsound, htimes, hcounts, hleft⟩ := appendFrames_of_room words first interval 0 h
    hle (by rw [hlength]; decide)
  refine ⟨a', ?_, hsound, ?_, htimes, hcounts⟩
  · unfold FifoWindowAssembler.appendBatch
    rw [if_neg (by rw [hlength]; decide), hlength]
    exact happend
  · rcases hleft with ⟨-, hzero | hwhole⟩ | hleft
    · rw [hzero]
      exact Nat.dvd_zero _
    · rw [hwhole]
      decide
    · rw [← hleft] at hroom
      exact (Nat.dvd_add_left (dvd_refl _)).mp hroom

/-- The first frame of a batch for which there is no room is counted as dropped, and no other one is
counted.
SOURCE: vibration_fifo.cpp:53-56 -/
theorem appendBatch_of_isFull {words : List Int16} (hlength : words.length = kBatchWords)
    (first interval : UInt32) (h : RunSound a.buffers) (hfull : IsFull a.buffers.buffers) :
    ∃ a', a.appendBatch words first interval = (false, a') ∧ RunSound a'.buffers ∧
      room a'.buffers.buffers = room a.buffers.buffers ∧ capturedTimes a' = capturedTimes a ∧
      frameCounts a' = ((frameCounts a).1, (frameCounts a).2 + 1) := by
  obtain ⟨frame, hparse⟩ := exists_parseFifoFrame (words.drop (0 * kImuFifoWordsPerFrame))
    (by rw [List.length_drop, hlength]; decide)
  have hrefused := append_of_isFull hfull (toImuRawSample frame)
    (first + UInt32.ofNat 0 * interval)
  refine ⟨(a.offer (toImuRawSample frame) (first + UInt32.ofNat 0 * interval)).reject, ?_,
    h.append _ _, ?_, ?_, ?_⟩
  · unfold FifoWindowAssembler.appendBatch
    rw [if_neg (by rw [hlength]; decide), hlength]
    show a.appendFrames words first interval 0 (15 + 1) = _
    unfold FifoWindowAssembler.appendFrames
    rw [hparse]
    dsimp only
    rw [hrefused]
    rfl
  · show room (a.buffers.buffers.append _ _).2 = _
    rw [hrefused]
    rfl
  · show (if (a.buffers.buffers.append _ _).1 then _ else a.buffers.accepted).map Prod.snd = _
    rw [hrefused]
    rfl
  · show ((a.buffers.buffers.append _ _).2.counters.samplesCaptured,
      (a.buffers.buffers.append _ _).2.counters.samplesDropped) = _
    rw [hrefused]
    rfl

/-- A batch that is read goes to the assembler.
SOURCE: vibration_service.cpp:117-168 -/
theorem drainBatch_read {ρ : Type} (R : RateArithmetic ρ) (s : ProductionVibrationService ρ)
    (nowUs : UInt32) (words : Batch) : s.drainBatch R nowUs (some words) =
      (s.estimate R nowUs).appendBatch R words.val := by
  obtain ⟨frame, hparse⟩ :=
    exists_parseFifoFrame (words.val.drop (kBatchWords - kWordsPerFrame))
      (by rw [List.length_drop, words.property]; decide)
  unfold ProductionVibrationService.drainBatch
  dsimp only
  rw [hparse]

/-- The rate is estimated without the buffers. -/
theorem assembler_estimate {ρ : Type} (R : RateArithmetic ρ) (s : ProductionVibrationService ρ)
    (nowUs : UInt32) : (s.estimate R nowUs).assembler = s.assembler := by
  unfold ProductionVibrationService.estimate
  split
  · rfl
  · split
    · rfl
    · split
      · rfl
      · rfl

/-! ## Batches without times -/

/-- The frames go into the buffers as they do without times.
SOURCE: vibration_fifo.cpp:44-59 -/
theorem listed_appendFrames (a : FifoWindowAssembler) (words : List Int16)
    (first interval : UInt32) (index remaining : ℕ) :
    Model.Vibration.appendFrames (listed a.buffers.buffers)
        (words.drop (index * kImuFifoWordsPerFrame)) remaining =
      ((a.appendFrames words first interval index remaining).1,
        listed (a.appendFrames words first interval index remaining).2.buffers.buffers) := by
  induction remaining generalizing a index with
  | zero => rfl
  | succ remaining ih =>
    unfold Model.Vibration.appendFrames FifoWindowAssembler.appendFrames
    cases parseFifoFrame (words.drop (index * kImuFifoWordsPerFrame)) with
    | none => rfl
    | some frame =>
      dsimp only
      rw [listed_append a.buffers.buffers (toImuRawSample frame)
        (first + UInt32.ofNat index * interval)]
      cases htaken : (a.buffers.buffers.append (toImuRawSample frame)
        (first + UInt32.ofNat index * interval)).1 with
      | false => rfl
      | true =>
        dsimp only
        rw [if_pos rfl, List.drop_drop, ← Nat.succ_mul]
        exact ih (a.offer (toImuRawSample frame) (first + UInt32.ofNat index * interval)).accept
          (index + 1)

/-- SOURCE: vibration_fifo.cpp:35-60 -/
theorem listed_appendBatch (a : FifoWindowAssembler) (words : List Int16)
    (first interval : UInt32) :
    Model.Vibration.appendBatch (listed a.buffers.buffers) words =
      ((a.appendBatch words first interval).1,
        listed (a.appendBatch words first interval).2.buffers.buffers) := by
  unfold Model.Vibration.appendBatch FifoWindowAssembler.appendBatch
  split
  · rfl
  · have hframes := listed_appendFrames a words first interval 0
      (words.length / kImuFifoWordsPerFrame)
    rw [Nat.zero_mul, List.drop_zero] at hframes
    exact hframes

/-- Whether a batch is taken does not depend on the times. -/
theorem drainBatch_taken {ρ : Type} (R : RateArithmetic ρ) (s : ProductionVibrationService ρ)
    (nowUs : UInt32) (words : Batch) : (s.drainBatch R nowUs (some words)).1 =
      (Model.Vibration.appendBatch (listed s.assembler.buffers.buffers) words.val).1 := by
  rw [drainBatch_read, ← assembler_estimate R s nowUs, listed_appendBatch _ words.val
    (s.estimate R nowUs).nextSampleTimestampUs
    (R.intervalUs (s.estimate R nowUs).effectiveSampleRateHz)]
  unfold ProductionVibrationService.appendBatch
  dsimp only
  split
  · rename_i htaken
    exact htaken.symm
  · rename_i hrefused
    exact (Bool.eq_false_iff.mpr hrefused).symm

/-- What an event does to the buffers, without times. -/
def untimedNext (b : Model.Vibration.VibrationDoubleBuffer) :
    TimingEvent → Model.Vibration.VibrationDoubleBuffer
  | .drains _ none => b
  | .drains _ (some words) => (Model.Vibration.appendBatch b words.val).2
  | .acquires => b.acquireReady.2
  | .releases bufferIndex =>
    if h : bufferIndex.toNat < 2 then b.release ⟨bufferIndex.toNat, h⟩ else b

/-- **The buffers do not depend on the times**, nor on how rates are calculated. -/
theorem listed_next {ρ : Type} (R : RateArithmetic ρ) (s : ProductionVibrationService ρ)
    (e : TimingEvent) : listed (s.next R e).assembler.buffers.buffers =
      untimedNext (listed s.assembler.buffers.buffers) e := by
  cases e with
  | drains nowUs read =>
    cases read with
    | none => rfl
    | some words =>
      show listed (s.drainBatch R nowUs (some words)).2.assembler.buffers.buffers =
        (Model.Vibration.appendBatch (listed s.assembler.buffers.buffers) words.val).2
      rw [drainBatch_read, ← assembler_estimate R s nowUs, listed_appendBatch _ words.val
        (s.estimate R nowUs).nextSampleTimestampUs
        (R.intervalUs (s.estimate R nowUs).effectiveSampleRateHz)]
      unfold ProductionVibrationService.appendBatch
      dsimp only
      split
      · rfl
      · rfl
  | acquires =>
    show _ = (listed s.assembler.buffers.buffers).acquireReady.2
    rw [listed_acquireReady]
    rfl
  | releases bufferIndex =>
    show listed (s.assembler.buffers.buffers.release bufferIndex).2 = dite _ _ _
    split
    · rename_i hindex
      rw [listed_release]
      show _ = listed (s.assembler.buffers.buffers.release (UInt8.ofNat bufferIndex.toNat)).2
      rw [UInt8.ofNat_toNat]
    · rename_i hindex
      unfold VibrationDoubleBuffer.release
      rw [dif_neg hindex]

theorem listed_after {ρ : Type} (R : RateArithmetic ρ) (s : ProductionVibrationService ρ)
    (events : List TimingEvent) :
    listed (Runs.after (ProductionVibrationService.next R) s events).assembler.buffers.buffers =
      Runs.after untimedNext (listed s.assembler.buffers.buffers) events := by
  induction events generalizing s with
  | nil => rfl
  | cons e events ih =>
    rw [Runs.after_cons, Runs.after_cons, ih, listed_next]

/-- A batch of a sensor at rest. -/
def restingBatch : Batch := ⟨List.replicate kBatchWords 0, rfl⟩

end VibrationTiming

end SeedMg24.Analysis
