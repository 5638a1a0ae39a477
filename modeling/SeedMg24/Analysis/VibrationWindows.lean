import SeedMg24.Foundation.Runs
import SeedMg24.Model.VibrationService

/-!
# Contiguous vibration windows

A window that is published as valid is a stretch of the frames the sensor has produced.  Every
batch that is read in full carries the stretch on; a batch that is given up in the middle of a frame
is noticed by its pattern; but one that is given up between two frames leaves no trace, and a window
that was begun before it goes on behind the gap.
-/

set_option autoImplicit false

namespace SeedMg24.Analysis

open Foundation Foundation.Runs SeedMg24.Model.Vibration

variable {queue : ℕ → Int16}

/-! ## Stretches of frames -/

/-- A frame of the queue. -/
def frameAt (queue : ℕ → Int16) (frame : ℕ) : ImuRawSample where
  gyroX := queue (6 * frame)
  gyroY := queue (6 * frame + 1)
  gyroZ := queue (6 * frame + 2)
  accelX := queue (6 * frame + 3)
  accelY := queue (6 * frame + 4)
  accelZ := queue (6 * frame + 5)

/-- Frames that follow each other in the queue. -/
def framesFrom (queue : ℕ → Int16) (first count : ℕ) : List ImuRawSample :=
  (List.range count).map fun i => frameAt queue (first + i)

/-- A window of frames that follow each other in the queue. -/
def IsContiguous (queue : ℕ → Int16) (samples : List ImuRawSample) : Prop :=
  ∃ first, samples = framesFrom queue first kVibrationWindowSamples

@[simp] theorem length_framesFrom (first count : ℕ) :
    (framesFrom queue first count).length = count := by simp [framesFrom]

theorem framesFrom_succ (first count : ℕ) :
    framesFrom queue first (count + 1) =
      framesFrom queue first count ++ [frameAt queue (first + count)] := by
  simp [framesFrom, List.range_succ]

/-- Words that follow each other in the queue. -/
def wordsFrom (queue : ℕ → Int16) (start count : ℕ) : List Int16 :=
  (List.range count).map fun i => queue (start + i)

@[simp] theorem length_wordsFrom (start count : ℕ) :
    (wordsFrom queue start count).length = count := by simp [wordsFrom]

theorem wordsFrom_succ (start count : ℕ) :
    wordsFrom queue start (count + 1) = queue start :: wordsFrom queue (start + 1) count := by
  simp only [wordsFrom, List.range_succ_eq_map, List.map_cons, List.map_map, Nat.add_zero]
  congr 1
  apply List.map_congr_left
  intro i _
  show queue (start + (i + 1)) = queue (start + 1 + i)
  congr 1
  omega

/-- The first frame of words that begin with one. -/
theorem parseFifoFrame_wordsFrom (frame count : ℕ) :
    (parseFifoFrame (wordsFrom queue (6 * frame) (6 + count))).map toImuRawSample =
      some (frameAt queue frame) := by
  rw [show 6 + count = count + 1 + 1 + 1 + 1 + 1 + 1 by omega]
  simp only [wordsFrom_succ]
  rfl

theorem drop_wordsFrom (start k count : ℕ) :
    (wordsFrom queue start (k + count)).drop k = wordsFrom queue (start + k) count := by
  induction k generalizing start with
  | zero => simp
  | succ k ih =>
    rw [show k + 1 + count = k + count + 1 by omega, wordsFrom_succ, List.drop_succ_cons, ih]
    congr 1
    omega

/-! ## The words of a batch -/

/-- A batch is given up after some words: the read after them is the first that fails. -/
def FailsAfter (fails : ℕ → Bool) (words : ℕ) : Prop :=
  fails words = true ∧ ∀ i < words, fails i = false

/-- A batch is read in full, or given up after as many words as are popped. -/
theorem readWords_cases (fails : ℕ → Bool) (index popped remaining : ℕ) :
    (readWords queue fails index popped remaining =
        (some (wordsFrom queue popped remaining), popped + remaining)) ∨
      ∃ k < remaining, FailsAfter (fun i => fails (index + i)) k ∧
        readWords queue fails index popped remaining = (none, popped + k) := by
  induction remaining generalizing index popped with
  | zero => exact .inl rfl
  | succ remaining ih =>
    unfold readWords
    cases hfails : fails index with
    | true => exact .inr ⟨0, by omega, ⟨by simpa using hfails, by omega⟩, by simp⟩
    | false =>
      rcases ih (index + 1) (popped + 1) with hread | ⟨k, hk, ⟨hlast, hfirst⟩, hread⟩
      · left
        rw [hread, wordsFrom_succ, show popped + (remaining + 1) = popped + 1 + remaining by omega]
        rfl
      · right
        have hshift (i : ℕ) : index + (i + 1) = index + 1 + i := by omega
        refine ⟨k + 1, by omega, ⟨?_, ?_⟩, ?_⟩
        · show fails (index + (k + 1)) = true
          rw [hshift]
          exact hlast
        · rintro (_ | i) hi
          · exact hfails
          · show fails (index + (i + 1)) = false
            rw [hshift]
            exact hfirst i (by omega)
        · rw [hread, show popped + (k + 1) = popped + 1 + k by omega]
          rfl

/-! ## The buffers -/

namespace Buffers

variable {b : VibrationDoubleBuffer} {i j : Fin 2}

@[simp] theorem buffer_setBuffer (b : VibrationDoubleBuffer) (i j : Fin 2) (value : Buffer) :
    (b.setBuffer i value).buffer j = if j = i then value else b.buffer j := by
  fin_cases i <;> fin_cases j <;> rfl

@[simp] theorem fillingIndex_setBuffer (b : VibrationDoubleBuffer) (i : Fin 2) (value : Buffer) :
    (b.setBuffer i value).fillingIndex = b.fillingIndex := by
  fin_cases i <;> rfl

@[simp] theorem buffer_startFilling (b : VibrationDoubleBuffer) (i j : Fin 2) :
    (b.startFilling i).buffer j = if j = i then ⟨[], .filling⟩ else b.buffer j :=
  buffer_setBuffer b i j _

@[simp] theorem fillingIndex_startFilling (b : VibrationDoubleBuffer) (i : Fin 2) :
    (b.startFilling i).fillingIndex = some i := rfl

/-- Windows that are ready are contiguous, and the one that is filled is not full. -/
structure Sound (queue : ℕ → Int16) (b : VibrationDoubleBuffer) : Prop where
  ready : ∀ i, (b.buffer i).state = .ready → IsContiguous queue (b.buffer i).samples
  filling : ∀ i, b.fillingIndex = some i → (b.buffer i).state = .filling ∧
    (b.buffer i).samples.length < kVibrationWindowSamples

/-- The window that is filled is contiguous and goes up to the given frame. -/
def Joined (queue : ℕ → Int16) (frame : ℕ) (b : VibrationDoubleBuffer) : Prop :=
  ∀ i, b.fillingIndex = some i → ∃ first, first + (b.buffer i).samples.length = frame ∧
    (b.buffer i).samples = framesFrom queue first (b.buffer i).samples.length

/-- An empty window can go on anywhere. -/
theorem joined_of_empty (h : ∀ i, b.fillingIndex = some i → (b.buffer i).samples = [])
    (frame : ℕ) : Joined queue frame b := by
  intro i hi
  rw [h i hi]
  exact ⟨frame, rfl, rfl⟩

theorem Sound.startFilling (h : Sound queue b) (i : Fin 2) : Sound queue (b.startFilling i) where
  ready j hj := by
    rw [buffer_startFilling] at hj ⊢
    split at hj
    · cases hj
    · rename_i hne
      rw [if_neg hne]
      exact h.ready j hj
  filling j hj := by
    rw [fillingIndex_startFilling, Option.some_inj] at hj
    rw [buffer_startFilling, if_pos hj.symm]
    exact ⟨rfl, by decide⟩

theorem joined_startFilling (b : VibrationDoubleBuffer) (i : Fin 2) (frame : ℕ) :
    Joined queue frame (b.startFilling i) := by
  apply joined_of_empty
  intro j hj
  rw [fillingIndex_startFilling, Option.some_inj] at hj
  rw [buffer_startFilling, if_pos hj.symm]

theorem Sound.swap (h : Sound queue b) (hnone : b.fillingIndex = none) (frame : ℕ) :
    Sound queue b.swap ∧ Joined queue frame b.swap := by
  unfold VibrationDoubleBuffer.swap
  split
  · exact ⟨h.startFilling _, joined_startFilling _ _ _⟩
  · refine ⟨⟨h.ready, h.filling⟩, fun j hj => ?_⟩
    have hj : b.fillingIndex = some j := hj
    rw [hnone] at hj
    cases hj

/-- A sample that follows on the window carries it on, or completes it. -/
theorem Sound.store (h : Sound queue b) {frame : ℕ} (hi : b.fillingIndex = some i)
    (hjoined : Joined queue frame b) :
    Sound queue (b.store i (frameAt queue frame)) ∧
      Joined queue (frame + 1) (b.store i (frameAt queue frame)) := by
  obtain ⟨first, hframe, hsamples⟩ := hjoined i hi
  obtain ⟨hstate, hroom⟩ := h.filling i hi
  have hstored : (b.buffer i).samples ++ [frameAt queue frame] =
      framesFrom queue first ((b.buffer i).samples.length + 1) := by
    rw [framesFrom_succ, hframe, ← hsamples]
  have hlength : ((b.buffer i).samples ++ [frameAt queue frame]).length =
      (b.buffer i).samples.length + 1 := by simp
  have hbuffer (j : Fin 2) (value : Buffer) :
      (b.countSample.setBuffer i value).buffer j = if j = i then value else b.buffer j :=
    buffer_setBuffer b.countSample i j value
  have hindex (j : Fin 2) (value : Buffer)
      (hj : (b.countSample.setBuffer i value).fillingIndex = some j) : j = i := by
    rw [fillingIndex_setBuffer] at hj
    have hj : b.fillingIndex = some j := hj
    rw [hi, Option.some_inj] at hj
    exact hj.symm
  unfold VibrationDoubleBuffer.store
  dsimp only
  split
  · rename_i hopen
    refine ⟨⟨fun j hj => ?_, fun j hj => ?_⟩, fun j hj => ?_⟩
    · rw [hbuffer] at hj ⊢
      split at hj
      · dsimp only at hj
        rw [hstate] at hj
        cases hj
      · rename_i hne
        rw [if_neg hne]
        exact h.ready j hj
    · rw [hbuffer, if_pos (hindex j _ hj)]
      exact ⟨hstate, by dsimp only; omega⟩
    · rw [hbuffer, if_pos (hindex j _ hj)]
      dsimp only
      rw [hlength]
      exact ⟨first, by omega, hstored⟩
  · rename_i hfull
    rw [not_not, hlength] at hfull
    apply Sound.swap _ rfl
    refine ⟨fun j hj => ?_, nofun⟩
    have hvalue := hbuffer j ⟨(b.buffer i).samples ++ [frameAt queue frame], .ready⟩
    change ((b.countSample.setBuffer i _).buffer j).state = .ready at hj
    change IsContiguous queue ((b.countSample.setBuffer i _).buffer j).samples
    rw [hvalue] at hj ⊢
    split
    · exact ⟨first, by rw [← hfull]; exact hstored⟩
    · rename_i hne
      rw [if_neg hne] at hj
      exact h.ready j hj

/-- A sample is appended to the window, or it is dropped and there is no window to append it to. -/
theorem Sound.append (h : Sound queue b) {frame : ℕ} (hjoined : Joined queue frame b) :
    Sound queue (b.append (frameAt queue frame)).2 ∧
      ((b.append (frameAt queue frame)).1 = true →
        Joined queue (frame + 1) (b.append (frameAt queue frame)).2) ∧
      ((b.append (frameAt queue frame)).1 = false →
        ∀ later, Joined queue later (b.append (frameAt queue frame)).2) := by
  unfold VibrationDoubleBuffer.append
  cases hindex : b.fillingIndex with
  | some index =>
    obtain ⟨hsound, hnext⟩ := h.store hindex hjoined
    exact ⟨hsound, fun _ => hnext, nofun⟩
  | none =>
    dsimp only
    cases b.findFree with
    | none =>
      exact ⟨⟨h.ready, nofun⟩, nofun, fun _ _ => nofun⟩
    | some free =>
      obtain ⟨hsound, hnext⟩ := (h.startFilling free).store (fillingIndex_startFilling b free)
        (joined_startFilling b free frame)
      exact ⟨hsound, fun _ => hnext, nofun⟩

/-- The frames of a batch follow on the window, whether all of them are taken or not. -/
theorem Sound.appendFrames (h : Sound queue b) {frame : ℕ} (hjoined : Joined queue frame b)
    (frames : ℕ) :
    Sound queue (appendFrames b (wordsFrom queue (6 * frame) (6 * frames)) frames).2 ∧
      Joined queue (frame + frames)
        (Model.Vibration.appendFrames b (wordsFrom queue (6 * frame) (6 * frames)) frames).2 := by
  induction frames generalizing b frame with
  | zero => exact ⟨h, hjoined⟩
  | succ frames ih =>
    have hparsed := @parseFifoFrame_wordsFrom queue frame (6 * frames)
    rw [show 6 + 6 * frames = 6 * (frames + 1) by omega, Option.map_eq_some_iff] at hparsed
    obtain ⟨parsed, hparsed, hsample⟩ := hparsed
    have hrest : (wordsFrom queue (6 * frame) (6 * (frames + 1))).drop kImuFifoWordsPerFrame =
        wordsFrom queue (6 * (frame + 1)) (6 * frames) := by
      rw [show 6 * (frames + 1) = kImuFifoWordsPerFrame + 6 * frames by
        rw [kImuFifoWordsPerFrame]; omega, drop_wordsFrom]
      rfl
    obtain ⟨hsound, hnext, hdropped⟩ := h.append hjoined
    unfold Model.Vibration.appendFrames
    rw [hparsed]
    dsimp only
    rw [hsample, hrest]
    generalize b.append (frameAt queue frame) = appended at hsound hnext hdropped ⊢
    obtain ⟨accepted, after⟩ := appended
    cases accepted with
    | false => exact ⟨hsound, hdropped rfl _⟩
    | true =>
      rw [show frame + (frames + 1) = frame + 1 + frames by omega]
      exact ih hsound (hnext rfl)

/-- What is acquired is a window that is ready. -/
theorem acquireReady_cases (b : VibrationDoubleBuffer) :
    b.acquireReady = (none, b) ∨ ∃ i, (b.buffer i).state = .ready ∧
      b.acquireReady = (some (i, (b.buffer i).samples),
        b.setBuffer i { b.buffer i with state := .processing }) := by
  unfold VibrationDoubleBuffer.acquireReady
  split
  · exact .inr ⟨0, by assumption, rfl⟩
  split
  · exact .inr ⟨1, by assumption, rfl⟩
  · exact .inl rfl

/-- A buffer that is released after its window was processed is free or filled from the start. -/
theorem Sound.released (h : Sound queue b) (hready : (b.buffer i).state = .ready) :
    Sound queue ((b.setBuffer i { b.buffer i with state := .processing }).release i) ∧
      ∀ frame, Joined queue frame b →
        Joined queue frame ((b.setBuffer i { b.buffer i with state := .processing }).release i) := by
  have hother (j : Fin 2) (hj : b.fillingIndex = some j) : j ≠ i := by
    rintro rfl
    rw [(h.filling j hj).1] at hready
    cases hready
  generalize hfreed : (b.setBuffer i { b.buffer i with state := .processing }).markFree i = freed
  have hbuffer (j : Fin 2) (hj : j ≠ i) : freed.buffer j = b.buffer j := by
    rw [← hfreed]
    exact (buffer_setBuffer _ i j _).trans
      ((if_neg hj).trans ((buffer_setBuffer b i j _).trans (if_neg hj)))
  have hindex : freed.fillingIndex = b.fillingIndex := by
    rw [← hfreed]
    exact (fillingIndex_setBuffer _ i _).trans (fillingIndex_setBuffer b i _)
  have hfree : (freed.buffer i).state = .free := by
    rw [← hfreed]
    exact congrArg Buffer.state ((buffer_setBuffer _ i i _).trans (if_pos rfl))
  have hsound : Sound queue freed := by
    refine ⟨fun j hj => ?_, fun j hj => ?_⟩
    · have hne : j ≠ i := by
        intro heq
        rw [heq, hfree] at hj
        cases hj
      rw [hbuffer j hne] at hj ⊢
      exact h.ready j hj
    · rw [hindex] at hj
      rw [hbuffer j (hother j hj)]
      exact h.filling j hj
  unfold VibrationDoubleBuffer.release
  rw [if_neg (by simp), hfreed]
  split
  · exact ⟨hsound.startFilling i, fun frame _ => joined_startFilling freed i frame⟩
  · refine ⟨hsound, fun frame hjoined j hj => ?_⟩
    rw [hindex] at hj
    rw [hbuffer j (hother j hj)]
    exact hjoined j hj

theorem sound_reset : Sound queue .reset := by
  have hempty : Sound queue {} := by
    refine ⟨fun j hj => ?_, nofun⟩
    fin_cases j <;> cases hj
  exact hempty.startFilling 0

end Buffers

open Buffers

/-! ## The service -/

/-- What was published as valid is contiguous, and so are the windows in the buffers; at the
beginning of a frame the window that is filled goes up to it. -/
structure Acquires (queue : ℕ → Int16) (s : ProductionVibrationService) : Prop where
  latest : s.latest.validity = .valid → IsContiguous queue s.latest.samples
  sound : Sound queue s.buffers
  joined : ∀ frame, s.popped = 6 * frame → Joined queue frame s.buffers

variable {s : ProductionVibrationService}

/-- A fault is not published as valid, and leaves the windows as they are. -/
theorem Acquires.markFault (h : Acquires queue s) {fault : VibrationResultValidity}
    (hfault : fault ≠ .valid) (fatal : Bool) : Acquires queue (s.markFault fault fatal) :=
  ⟨fun hvalid => absurd hvalid hfault, h.sound, h.joined⟩

theorem Acquires.readFailed (h : Acquires queue s) : Acquires queue s.readFailed :=
  ⟨nofun, h.sound, h.joined⟩

theorem Acquires.overrunFailed (h : Acquires queue s) : Acquires queue s.overrunFailed :=
  ⟨nofun, h.sound, h.joined⟩

theorem Acquires.alignmentFailed (h : Acquires queue s) : Acquires queue s.alignmentFailed :=
  ⟨nofun, h.sound, h.joined⟩

/-- A window has been begun and is not complete. -/
def HasBegun (b : VibrationDoubleBuffer) : Prop :=
  ∃ i, b.fillingIndex = some i ∧ (b.buffer i).samples ≠ []

/-- A batch is given up between two of its frames, and the frames before that are missing from the
window that has been begun. -/
def LosesFrames (s : ProductionVibrationService) (fails : ℕ → Bool) : Prop :=
  HasBegun s.buffers ∧
    ∃ k, 0 < k ∧ k < kBatchWords ∧ kWordsPerFrame ∣ k ∧ FailsAfter fails k

/-- A batch that loses no frames keeps the windows contiguous. -/
theorem Acquires.drainBatch (h : Acquires queue s) {frame : ℕ} (hframe : s.popped = 6 * frame)
    {fails : ℕ → Bool} (hkeeps : ¬ LosesFrames s fails) :
    Acquires queue (s.drainBatch queue fails).2 := by
  unfold ProductionVibrationService.drainBatch
  rcases @readWords_cases queue fails 0 s.popped kBatchWords with
    hread | ⟨k, hk, hfails, hread⟩
  · have hwords : wordsFrom queue s.popped kBatchWords = wordsFrom queue (6 * frame) (6 * 16) := by
      rw [hframe]
      rfl
    have hlatest : ∃ latestFrame, parseFifoFrame ((wordsFrom queue (6 * frame) (6 * 16)).drop
        (kBatchWords - kWordsPerFrame)) = some latestFrame := by
      have hparsed := @parseFifoFrame_wordsFrom queue (frame + 15) 0
      have hdrop : (wordsFrom queue (6 * frame) (6 * 16)).drop (kBatchWords - kWordsPerFrame) =
          wordsFrom queue (6 * (frame + 15)) (6 + 0) := drop_wordsFrom (6 * frame) 90 6
      rw [← hdrop, Option.map_eq_some_iff] at hparsed
      obtain ⟨latestFrame, hlatest, -⟩ := hparsed
      exact ⟨latestFrame, hlatest⟩
    obtain ⟨latestFrame, hlatest⟩ := hlatest
    have hbatch : appendBatch s.buffers (wordsFrom queue (6 * frame) (6 * 16)) =
        appendFrames s.buffers (wordsFrom queue (6 * frame) (6 * 16)) 16 := by
      unfold appendBatch
      rw [length_wordsFrom]
      rfl
    obtain ⟨hsound, hjoined⟩ := h.sound.appendFrames (h.joined frame hframe) 16
    have hnext (later : ℕ) (hlater : s.popped + kBatchWords = 6 * later) : later = frame + 16 := by
      have hbatchWords : kBatchWords = 96 := rfl
      omega
    rw [hread, hwords]
    dsimp only
    rw [hlatest]
    dsimp only
    rw [hbatch]
    generalize appendFrames s.buffers (wordsFrom queue (6 * frame) (6 * 16)) 16 = appended at *
    obtain ⟨accepted, buffers⟩ := appended
    cases accepted with
    | false => exact ⟨nofun, hsound, fun later hlater => hnext later hlater ▸ hjoined⟩
    | true => exact ⟨h.latest, hsound, fun later hlater => hnext later hlater ▸ hjoined⟩
  · rw [hread]
    refine ⟨nofun, h.sound, fun later hlater => ?_⟩
    have hlater : s.popped + k = 6 * later := hlater
    rcases Nat.eq_zero_or_pos k with rfl | hpositive
    · exact h.joined later hlater
    · apply joined_of_empty
      intro i hi
      by_contra hne
      apply hkeeps
      refine ⟨⟨i, hi, hne⟩, k, hpositive, hk, ?_, by simpa using hfails⟩
      show 6 ∣ k
      omega

/-- A window that is processed was contiguous when it was acquired. -/
theorem Acquires.processReadyWindow (h : Acquires queue s) :
    Acquires queue s.processReadyWindow := by
  unfold ProductionVibrationService.processReadyWindow
  rcases acquireReady_cases s.buffers with hnone | ⟨i, hready, hacquired⟩
  · rw [hnone]
    exact h
  · rw [hacquired]
    obtain ⟨hsound, hjoined⟩ := h.sound.released hready
    dsimp only
    split
    · exact ⟨nofun, hsound, fun frame hframe => hjoined frame (h.joined frame hframe)⟩
    · exact ⟨fun _ => h.sound.ready i hready, hsound,
        fun frame hframe => hjoined frame (h.joined frame hframe)⟩

/-- The status lets a batch be drained: the FIFO has its words, and the next one begins a frame. -/
def Drains (s : ProductionVibrationService) (read : StatusRead) : Prop :=
  ∃ occupancy, s.readFifoStatus read = some (occupancy, 0, false) ∧ kBatchWords ≤ occupancy

/-- No batch that the loop of a call drains loses frames. -/
def KeepsFrames (queue : ℕ → Int16) (script : BusScript) (s : ProductionVibrationService)
    (batches : ℕ) : ℕ → Prop
  | 0 => True
  | remaining + 1 => Drains s (script.status batches) → ¬ LosesFrames s (script.fails batches) ∧
      ((s.drainBatch queue (script.fails batches)).1 = true →
        KeepsFrames queue script (s.drainBatch queue (script.fails batches)).2 (batches + 1)
          remaining)

/-- The state a loop ends in. -/
def loopState : ProductionVibrationService.LoopEnd → ProductionVibrationService
  | .returned s => s
  | .left s _ _ _ _ => s

/-- The pattern is the position in the frame. -/
theorem aligned_of_readFifoStatus {read : StatusRead} {occupancy pattern : ℕ} {overrun : Bool}
    (hstatus : s.readFifoStatus read = some (occupancy, pattern, overrun)) (hpattern : pattern = 0) :
    s.popped = 6 * (s.popped / 6) := by
  unfold ProductionVibrationService.readFifoStatus at hstatus
  split at hstatus
  · simp only [Option.some.injEq, Prod.mk.injEq] at hstatus
    have hposition : s.popped % 6 = pattern := hstatus.2.1
    omega
  · cases hstatus

theorem Acquires.drainLoop {script : BusScript} (h : Acquires queue s)
    (batches occupancy pattern : ℕ) (overrun : Bool) (remaining : ℕ)
    (hkeeps : KeepsFrames queue script s batches remaining) :
    Acquires queue
      (loopState (s.drainLoop queue script batches occupancy pattern overrun remaining)) := by
  induction remaining generalizing s batches occupancy pattern overrun with
  | zero => exact h
  | succ remaining ih =>
    unfold ProductionVibrationService.drainLoop
    cases hstatus : s.readFifoStatus (script.status batches) with
    | none => exact h.readFailed
    | some reading =>
      obtain ⟨occupancy, pattern, overrun⟩ := reading
      dsimp only
      cases overrun with
      | true => exact h.overrunFailed
      | false =>
        rw [if_neg Bool.false_ne_true]
        split
        · exact h
        rename_i hoccupancy
        split
        · exact h.alignmentFailed
        rename_i hpattern
        rw [not_not] at hpattern
        subst hpattern
        obtain ⟨hbatch, hothers⟩ := hkeeps ⟨occupancy, hstatus, by omega⟩
        have hdrained := h.drainBatch (aligned_of_readFifoStatus hstatus rfl) hbatch
        generalize s.drainBatch queue (script.fails batches) = drained at hothers hdrained ⊢
        obtain ⟨complete, after⟩ := drained
        cases complete with
        | false => exact hdrained
        | true => exact ih hdrained _ _ _ _ (hothers rfl)

theorem Acquires.afterLoop (h : Acquires queue s) (occupancy pattern : ℕ) (overrun : Bool) :
    Acquires queue (s.afterLoop occupancy pattern overrun) := by
  unfold ProductionVibrationService.afterLoop
  split
  · exact h.overrunFailed
  split
  · exact h.alignmentFailed
  split
  · exact h.processReadyWindow
  · exact h

/-- No call of the service loses frames. -/
def NoFramesLost (queue : ℕ → Int16) (s : ProductionVibrationService) : VibrationEvent → Prop
  | .begins _ _ => True
  | .services script => KeepsFrames queue script s 0 kMaximumBatchesPerService

/-- A call that loses no frames keeps the windows contiguous. -/
theorem Acquires.service {script : BusScript} (h : Acquires queue s)
    (hkeeps : KeepsFrames queue script s 0 kMaximumBatchesPerService) :
    Acquires queue (s.service queue script) := by
  unfold ProductionVibrationService.service
  split
  · exact h
  have hloop := h.drainLoop 0 0 0 false kMaximumBatchesPerService hkeeps
  generalize s.drainLoop queue script 0 0 0 false kMaximumBatchesPerService = result at hloop ⊢
  cases result with
  | returned after => exact hloop
  | left after batches occupancy pattern overrun =>
    have hafter : Acquires queue after := hloop
    dsimp only
    split
    · split
      · exact hafter.readFailed
      · exact hafter.afterLoop _ _ _
    · exact hafter.afterLoop _ _ _

theorem acquires_initial : Acquires queue {} :=
  ⟨nofun, sound_reset, fun frame _ => joined_startFilling _ 0 frame⟩

/-- The service begins with empty buffers, wherever the FIFO is. -/
theorem acquires_begin (s : ProductionVibrationService) (configured : Bool) (discarded : ℕ) :
    Acquires queue (s.begin configured discarded) := by
  have hreset : Acquires queue ({ popped := s.popped + discarded } : ProductionVibrationService) :=
    ⟨nofun, sound_reset, fun frame _ => joined_startFilling _ 0 frame⟩
  unfold ProductionVibrationService.begin
  cases configured with
  | true => exact ⟨hreset.latest, hreset.sound, hreset.joined⟩
  | false => exact hreset.markFault (by decide) true

/-- The last published window is valid only if its samples are frames that follow each other. -/
def PublishesContiguous (queue : ℕ → Int16) (s : ProductionVibrationService) : Prop :=
  s.latest.validity = .valid → IsContiguous queue s.latest.samples

/-- **Every window published as valid is contiguous**, in every run in which no batch is given up
between two of its frames while a window has been begun. -/
theorem published_contiguous (queue : ℕ → Int16) (events : List VibrationEvent)
    (h : Throughout (ProductionVibrationService.next queue) (NoFramesLost queue) {} events) :
    Always (ProductionVibrationService.next queue) (PublishesContiguous queue) {} events := by
  have hacquires : Always (ProductionVibrationService.next queue) (Acquires queue) {} events := by
    apply h.always _ acquires_initial
    rintro s (⟨configured, discarded⟩ | script) hs hkeeps
    · exact acquires_begin s configured discarded
    · exact hs.service hkeeps
  exact fun before hbefore => (hacquires before hbefore).latest

/-- A call without a failing read loses no frames. -/
theorem keepsFrames_of_reads {script : BusScript} (h : ∀ batch word, script.fails batch word = false)
    (s : ProductionVibrationService) (batches remaining : ℕ) :
    KeepsFrames queue script s batches remaining := by
  induction remaining generalizing s batches with
  | zero => trivial
  | succ remaining ih =>
    refine fun _ => ⟨?_, fun _ => ih _ _⟩
    rintro ⟨-, k, -, -, -, hfails, -⟩
    rw [h] at hfails
    cases hfails

/-- A bus on which the FIFO holds that many batches and no read fails. -/
def quietScript (batches : ℕ) : BusScript where
  status i := ⟨if i < batches then 96 else 0, true⟩
  fails _ _ := false

/-- The words of every frame are its number. -/
def numberedFrames (word : ℕ) : Int16 := Int16.ofNat (word / 6)

theorem published_contiguous_quiet :
    Always (ProductionVibrationService.next numberedFrames) (PublishesContiguous numberedFrames) {}
      [.begins true 0, .services (quietScript 16)] := by
  apply published_contiguous
  rw [throughout_cons, throughout_cons]
  exact ⟨trivial, keepsFrames_of_reads (fun _ _ => rfl) _ _ _, throughout_nil _ _ _⟩

/-- A bus on which the first batch is given up after its first frame. -/
def brokenScript : BusScript where
  status _ := ⟨96, true⟩
  fails _ word := word == 6

/-- One batch of a window, a batch that is given up, and the other batches of the window. -/
def gapEvents : List VibrationEvent :=
  [.begins true 0, .services (quietScript 1), .services brokenScript, .services (quietScript 15)]

/-- The service at the end of it. -/
def gapEnd : ProductionVibrationService :=
  after (ProductionVibrationService.next numberedFrames) {} gapEvents

/-- **A window with a gap is published as valid**: the frame that was read before the failure is
missing from it. -/
theorem not_published_contiguous :
    ¬ ∀ queue events, Always (ProductionVibrationService.next queue) (PublishesContiguous queue) {}
      events := by
  intro h
  have hlast : PublishesContiguous numberedFrames gapEnd := by
    rw [gapEnd]
    exact (h numberedFrames gapEvents).last
  obtain ⟨hvalid, hfirst, hgap⟩ : gapEnd.latest.validity = .valid ∧
      gapEnd.latest.samples[0]?.map (·.gyroX) = some 0 ∧
      gapEnd.latest.samples[16]?.map (·.gyroX) = some 17 := by decide +kernel
  obtain ⟨first, hsamples⟩ := hlast hvalid
  rw [hsamples] at hfirst hgap
  have hfirst : Int16.ofNat first = 0 := by
    simpa [framesFrom, frameAt, numberedFrames, kVibrationWindowSamples] using hfirst
  have hgap : Int16.ofNat first + 16 = 17 := by
    simpa [framesFrom, frameAt, numberedFrames, kVibrationWindowSamples] using hgap
  rw [hfirst] at hgap
  exact absurd hgap (by decide)
end SeedMg24.Analysis
