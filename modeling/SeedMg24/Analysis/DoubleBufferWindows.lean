import SeedMg24.Analysis.DoubleBufferBuffers

/-!
# Windows of the vibration double buffer

Nothing is written into a whole window before it is released, and the counters tell how many samples
were offered and how many windows are in the buffers.  Without the times the double buffer does what
the one of the vibration service does.
-/

set_option autoImplicit false

namespace SeedMg24.Analysis

open Foundation SeedMg24.Model.DoubleBuffer
open SeedMg24.Model.Vibration (ImuRawSample BufferState kVibrationWindowSamples)

namespace DoubleBuffer

variable {buffers : Fin 2 → Buffer} {r : DoubleBufferRun} {i : Fin 2}

/-! ## What no call touches -/

/-- A sample is written into no buffer but its own; another one is at most filled from the start. -/
theorem buffers_store_of_isBusy {v : VibrationDoubleBuffer} {j : Fin 2} (hne : j ≠ i)
    (hbusy : IsBusy (v.buffers j).state) (sample : ImuRawSample) (timestampUs : UInt32) :
    (v.store i sample timestampUs).buffers j = v.buffers j := by
  unfold VibrationDoubleBuffer.store
  dsimp only
  split
  · exact Function.update_of_ne hne _ _
  · have hmarked (value : Buffer) : (v.countSample.markReady i value).buffers j = v.buffers j :=
      Function.update_of_ne hne _ _
    unfold VibrationDoubleBuffer.swap
    split
    · rename_i free hfree
      have hother : j ≠ free := by
        rintro rfl
        rw [← hmarked, findFree_some hfree] at hbusy
        exact not_isBusy_free hbusy
      exact (Function.update_of_ne hother _ _).trans (hmarked _)
    · exact hmarked _

/-- **No append writes into a buffer with a whole window.**
SOURCE: vibration_double_buffer.cpp:30-64 -/
theorem RunSound.buffers_append (h : RunSound r) {j : Fin 2}
    (hbusy : IsBusy (r.buffers.buffers j).state) (sample : ImuRawSample) (timestampUs : UInt32) :
    (r.buffers.append sample timestampUs).2.buffers j = r.buffers.buffers j := by
  unfold VibrationDoubleBuffer.append
  cases hindex : r.buffers.fillingIndex with
  | some index =>
    refine buffers_store_of_isBusy ?_ hbusy sample timestampUs
    rintro rfl
    rw [(h.named j).mpr hindex] at hbusy
    exact not_isBusy_filling hbusy
  | none =>
    dsimp only
    cases hfree : r.buffers.findFree with
    | none => rfl
    | some free =>
      have hne : j ≠ free := by
        rintro rfl
        rw [findFree_some hfree] at hbusy
        exact not_isBusy_free hbusy
      have hstarted : (r.buffers.startFilling free).buffers j = r.buffers.buffers j :=
        Function.update_of_ne hne _ _
      rw [← hstarted] at hbusy ⊢
      exact buffers_store_of_isBusy hne hbusy sample timestampUs

/-- The call that gives a buffer back. -/
def Releases (i : Fin 2) (call : DoubleBufferCall) : Prop :=
  ∃ bufferIndex, call = .release bufferIndex ∧ bufferIndex.toNat = i.val

/-- A window that is processed is left alone by every call but its release. -/
theorem RunSound.buffers_next (h : RunSound r)
    (hprocessing : (r.buffers.buffers i).state = .processing) {call : DoubleBufferCall}
    (hkept : ¬ Releases i call) : (r.next call).buffers.buffers i = r.buffers.buffers i := by
  cases call with
  | append sample timestampUs => exact h.buffers_append (.inr hprocessing) sample timestampUs
  | acquireReady =>
    show r.buffers.acquireReady.2.buffers i = _
    obtain ⟨hnone, -⟩ | ⟨j, hready, -, hacquired⟩ := acquireReady_cases r.buffers
    · rw [hnone]
    · rw [hacquired]
      apply Function.update_of_ne
      rintro rfl
      rw [hready] at hprocessing
      cases hprocessing
  | release bufferIndex =>
    show (r.buffers.release bufferIndex).2.buffers i = _
    obtain hnot | ⟨j, hindex, -, hreleased⟩ := release_cases r.buffers bufferIndex
    · rw [hnot]
    · have hne : i ≠ j := by
        rintro rfl
        exact hkept ⟨bufferIndex, rfl, hindex⟩
      have hfreed : (r.buffers.markFree j).buffers i = r.buffers.buffers i :=
        Function.update_of_ne hne _ _
      rw [hreleased]
      dsimp only
      split
      · exact (Function.update_of_ne hne _ _).trans hfreed
      · exact hfreed

/-- An acquired window stays as it is until it is released. -/
theorem RunSound.buffers_after (h : RunSound r)
    (hprocessing : (r.buffers.buffers i).state = .processing) {calls : List DoubleBufferCall}
    (hkept : ∀ call ∈ calls, ¬ Releases i call) :
    (Runs.after DoubleBufferRun.next r calls).buffers.buffers i = r.buffers.buffers i := by
  induction calls generalizing r with
  | nil => rfl
  | cons call calls ih =>
    have hnext := h.buffers_next hprocessing (hkept call List.mem_cons_self)
    rw [Runs.after_cons, ih (h.next call) (by rw [hnext]; exact hprocessing)
      fun other hother => hkept other (List.mem_cons_of_mem call hother), hnext]

/-! ## The counters -/

/-- How many buffers hold a whole window. -/
def busyCount (buffers : Fin 2 → Buffer) : ℕ :=
  (if IsBusy (buffers 0).state then 1 else 0) + if IsBusy (buffers 1).state then 1 else 0

theorem busyCount_update (buffers : Fin 2 → Buffer) (i : Fin 2) (value : Buffer) :
    busyCount (Function.update buffers i value) +
        (if IsBusy (buffers i).state then 1 else 0) =
      busyCount buffers + if IsBusy value.state then 1 else 0 := by
  unfold busyCount
  fin_cases i
  · simp
    omega
  · simp
    omega

theorem busyCount_same {value : Buffer} (h : IsBusy value.state ↔ IsBusy (buffers i).state) :
    busyCount (Function.update buffers i value) = busyCount buffers := by
  have hcount := busyCount_update buffers i value
  simp only [h] at hcount
  omega

theorem busyCount_fill {value : Buffer} (hidle : ¬ IsBusy (buffers i).state)
    (hbusy : IsBusy value.state) :
    busyCount (Function.update buffers i value) = busyCount buffers + 1 := by
  have hcount := busyCount_update buffers i value
  rwa [if_neg hidle, if_pos hbusy] at hcount

theorem busyCount_free {value : Buffer} (hbusy : IsBusy (buffers i).state)
    (hidle : ¬ IsBusy value.state) :
    busyCount buffers = busyCount (Function.update buffers i value) + 1 := by
  have hcount := busyCount_update buffers i value
  rw [if_pos hbusy, if_neg hidle] at hcount
  exact hcount.symm

/-- The windows that were completed are those that were processed and those in the buffers. -/
def IsBalanced (v : VibrationDoubleBuffer) : Prop :=
  v.counters.windowsCompleted = v.counters.windowsProcessed + UInt32.ofNat (busyCount v.buffers)

theorem IsBalanced.setBuffer {v : VibrationDoubleBuffer} (h : IsBalanced v) {value : Buffer}
    (hstate : IsBusy value.state ↔ IsBusy (v.buffers i).state) :
    IsBalanced (v.setBuffer i value) := by
  unfold IsBalanced at h ⊢
  show _ = _ + UInt32.ofNat (busyCount (Function.update v.buffers i value))
  rw [busyCount_same hstate]
  exact h

theorem IsBalanced.startFilling {v : VibrationDoubleBuffer} (h : IsBalanced v)
    (hidle : ¬ IsBusy (v.buffers i).state) : IsBalanced (v.startFilling i) := by
  have hset : IsBalanced (v.setBuffer i { v.buffers i with timing := {}, state := .filling }) :=
    h.setBuffer ⟨fun hbusy => absurd hbusy not_isBusy_filling, fun hbusy => absurd hbusy hidle⟩
  exact hset

theorem IsBalanced.swap {v : VibrationDoubleBuffer} (h : IsBalanced v) : IsBalanced v.swap := by
  unfold VibrationDoubleBuffer.swap
  cases hfree : v.findFree with
  | none => exact h
  | some free =>
    apply h.startFilling
    rw [findFree_some hfree]
    exact not_isBusy_free

/-- A window that is completed is one more to be processed.
SOURCE: vibration_double_buffer.cpp:40-63 -/
theorem IsBalanced.store {v : VibrationDoubleBuffer} (h : IsBalanced v)
    (hfilling : (v.buffers i).state = .filling) (sample : ImuRawSample) (timestampUs : UInt32) :
    IsBalanced (v.store i sample timestampUs) := by
  unfold VibrationDoubleBuffer.store
  dsimp only
  split
  · exact IsBalanced.setBuffer (v := v.countSample) h Iff.rfl
  · apply IsBalanced.swap
    have hidle : ¬ IsBusy (v.buffers i).state := by
      rw [hfilling]
      exact not_isBusy_filling
    unfold IsBalanced at h ⊢
    show v.counters.windowsCompleted + 1 = v.counters.windowsProcessed + UInt32.ofNat (busyCount
      (Function.update v.buffers i ((v.buffers i).put sample timestampUs).complete))
    rw [busyCount_fill hidle (.inl rfl), h, UInt32.ofNat_add, UInt32.add_assoc]
    rfl

/-- A sample that is stored is counted once.
SOURCE: vibration_double_buffer.cpp:46 -/
theorem counters_store (v : VibrationDoubleBuffer) (i : Fin 2) (sample : ImuRawSample)
    (timestampUs : UInt32) :
    (v.store i sample timestampUs).counters.samplesCaptured = v.counters.samplesCaptured + 1 ∧
      (v.store i sample timestampUs).counters.samplesDropped = v.counters.samplesDropped := by
  unfold VibrationDoubleBuffer.store
  dsimp only
  split
  · exact ⟨rfl, rfl⟩
  · unfold VibrationDoubleBuffer.swap
    split
    · exact ⟨rfl, rfl⟩
    · exact ⟨rfl, rfl⟩

/-- What the counters tell of a run. -/
structure IsTallied (r : DoubleBufferRun) : Prop where
  offered : r.buffers.counters.samplesCaptured + r.buffers.counters.samplesDropped =
    UInt32.ofNat r.appends
  balanced : IsBalanced r.buffers

theorem IsTallied.append (h : IsTallied r) (hsound : RunSound r) (sample : ImuRawSample)
    (timestampUs : UInt32) : IsTallied (r.next (.append sample timestampUs)) := by
  have happends : UInt32.ofNat (r.appends + 1) = r.buffers.counters.samplesCaptured +
      r.buffers.counters.samplesDropped + 1 := by
    rw [h.offered]
    exact UInt32.ofNat_add _ 1
  suffices hcall : IsBalanced (r.buffers.append sample timestampUs).2 ∧
      (r.buffers.append sample timestampUs).2.counters.samplesCaptured +
          (r.buffers.append sample timestampUs).2.counters.samplesDropped =
        r.buffers.counters.samplesCaptured + r.buffers.counters.samplesDropped + 1 from
    ⟨hcall.2.trans happends.symm, hcall.1⟩
  unfold VibrationDoubleBuffer.append
  cases hindex : r.buffers.fillingIndex with
  | some index =>
    obtain ⟨hcaptured, hdropped⟩ := counters_store r.buffers index sample timestampUs
    refine ⟨h.balanced.store ((hsound.named index).mpr hindex) sample timestampUs, ?_⟩
    dsimp only
    rw [hcaptured, hdropped]
    ac_rfl
  | none =>
    dsimp only
    cases hfree : r.buffers.findFree with
    | none => exact ⟨h.balanced, (UInt32.add_assoc _ _ _).symm⟩
    | some free =>
      obtain ⟨hcaptured, hdropped⟩ :=
        counters_store (r.buffers.startFilling free) free sample timestampUs
      have hidle : ¬ IsBusy (r.buffers.buffers free).state := by
        rw [findFree_some hfree]
        exact not_isBusy_free
      refine ⟨(h.balanced.startFilling hidle).store (startFilling_self r.buffers free).1 sample
        timestampUs, ?_⟩
      dsimp only
      rw [hcaptured, hdropped]
      show r.buffers.counters.samplesCaptured + 1 + r.buffers.counters.samplesDropped = _
      ac_rfl

theorem IsTallied.acquireReady (h : IsTallied r) : IsTallied (r.next .acquireReady) := by
  suffices hcall : IsBalanced r.buffers.acquireReady.2 ∧
      r.buffers.acquireReady.2.counters = r.buffers.counters by
    refine ⟨?_, hcall.1⟩
    show r.buffers.acquireReady.2.counters.samplesCaptured +
      r.buffers.acquireReady.2.counters.samplesDropped = UInt32.ofNat r.appends
    rw [hcall.2]
    exact h.offered
  obtain ⟨hnone, -⟩ | ⟨i, hready, -, hacquired⟩ := acquireReady_cases r.buffers
  · rw [hnone]
    exact ⟨h.balanced, rfl⟩
  · rw [hacquired]
    refine ⟨h.balanced.setBuffer ?_, rfl⟩
    rw [hready]
    exact (by decide : IsBusy .processing ↔ IsBusy .ready)

/-- SOURCE: vibration_double_buffer.cpp:84-85 -/
theorem IsBalanced.markFree {v : VibrationDoubleBuffer} (h : IsBalanced v)
    (hprocessing : (v.buffers i).state = .processing) : IsBalanced (v.markFree i) := by
  have hcount : busyCount v.buffers =
      busyCount (Function.update v.buffers i { v.buffers i with state := .free }) + 1 :=
    busyCount_free (.inr hprocessing) not_isBusy_free
  unfold IsBalanced at h ⊢
  show v.counters.windowsCompleted = v.counters.windowsProcessed + 1 + UInt32.ofNat (busyCount
    (Function.update v.buffers i { v.buffers i with state := .free }))
  rw [h, hcount, UInt32.ofNat_add, UInt32.add_assoc, UInt32.add_comm 1]
  rfl

theorem IsTallied.release (h : IsTallied r) (bufferIndex : UInt8) :
    IsTallied (r.next (.release bufferIndex)) := by
  suffices hcall : IsBalanced (r.buffers.release bufferIndex).2 ∧
      (r.buffers.release bufferIndex).2.counters.samplesCaptured +
          (r.buffers.release bufferIndex).2.counters.samplesDropped =
        r.buffers.counters.samplesCaptured + r.buffers.counters.samplesDropped from
    ⟨hcall.2.trans h.offered, hcall.1⟩
  obtain hnot | ⟨i, -, hprocessing, hreleased⟩ := release_cases r.buffers bufferIndex
  · rw [hnot]
    exact ⟨h.balanced, rfl⟩
  · have hfreed := h.balanced.markFree hprocessing
    rw [hreleased]
    dsimp only
    split
    · refine ⟨hfreed.startFilling ?_, rfl⟩
      rw [markFree_self]
      exact not_isBusy_free
    · exact ⟨hfreed, rfl⟩

theorem IsTallied.next (h : IsTallied r) (hsound : RunSound r) (call : DoubleBufferCall) :
    IsTallied (r.next call) := by
  cases call with
  | append sample timestampUs => exact h.append hsound sample timestampUs
  | acquireReady => exact h.acquireReady
  | release bufferIndex => exact h.release bufferIndex

theorem isTallied_startedRun (memory : VibrationDoubleBuffer) :
    IsTallied (startedRun memory) := by
  refine ⟨rfl, IsBalanced.startFilling ?_ not_isBusy_free⟩
  rfl

/-! ## The representation invariant -/

/-- **The double buffer keeps its representation.**  Whatever is called after a reset: a buffer is
filled exactly if the index names it, and is not full; an append leaves every buffer with a whole
window, and such a window stays as it is until it is released; what is acquired are as many
samples as a window has, accepted one after the other, with the times of the first and the last;
the samples captured and dropped are the appends, and the windows completed and not processed are
those in the buffers.
SOURCE: vibration_double_buffer.cpp:7-88 -/
theorem doubleBuffer_representation (memory : VibrationDoubleBuffer)
    (calls : List DoubleBufferCall) :
    let r := Runs.after DoubleBufferRun.next (startedRun memory) calls
    (∀ i, (r.buffers.buffers i).state = .filling ↔ r.buffers.fillingIndex = some i) ∧
    (∀ i, (r.buffers.buffers i).state = .filling →
      (r.buffers.buffers i).timing.sampleCount < kVibrationWindowSamples) ∧
    (∀ i sample timestampUs, IsBusy (r.buffers.buffers i).state →
      (r.buffers.append sample timestampUs).2.buffers i = r.buffers.buffers i) ∧
    (∀ i more, (r.buffers.buffers i).state = .processing →
      (∀ call ∈ more, ¬ Releases i call) →
      (Runs.after DoubleBufferRun.next r more).buffers.buffers i = r.buffers.buffers i) ∧
    (∀ window after, r.buffers.acquireReady = (some window, after) →
      window.timing.sampleCount = kVibrationWindowSamples ∧
      r.first window.bufferIndex + kVibrationWindowSamples ≤ r.accepted.length ∧
      after.windowSamples window.bufferIndex = ((r.accepted.drop
        (r.first window.bufferIndex)).take kVibrationWindowSamples).map Prod.fst ∧
      (r.accepted[r.first window.bufferIndex]?).map Prod.snd =
        some window.timing.windowStartUs ∧
      (r.accepted[r.first window.bufferIndex + kVibrationWindowSamples - 1]?).map Prod.snd =
        some window.timing.windowEndUs) ∧
    r.buffers.counters.samplesCaptured + r.buffers.counters.samplesDropped =
      UInt32.ofNat r.appends ∧
    r.buffers.counters.windowsCompleted - r.buffers.counters.windowsProcessed =
      UInt32.ofNat (busyCount r.buffers.buffers) := by
  intro r
  obtain ⟨hsound, htallied⟩ : RunSound r ∧ IsTallied r := by
    apply Runs.after_invariant (I := fun r => RunSound r ∧ IsTallied r)
    · exact ⟨runSound_startedRun memory, isTallied_startedRun memory⟩
    · exact fun r call h => ⟨h.1.next call, h.2.next h.1 call⟩
  refine ⟨hsound.named, hsound.room, fun i sample timestampUs hbusy =>
    hsound.buffers_append hbusy sample timestampUs, fun i more hprocessing hkept =>
    hsound.buffers_after hprocessing hkept, fun window after hacquired => ?_, htallied.offered, ?_⟩
  · obtain ⟨hnone, -⟩ | ⟨i, hready, -, hsome⟩ := acquireReady_cases r.buffers
    · rw [hnone] at hacquired
      cases hacquired
    · rw [hsome] at hacquired
      cases hacquired
      obtain ⟨hcount, hholds⟩ := hsound.whole i (.inl hready)
      have hpos : 0 < (r.buffers.buffers i).timing.sampleCount := by
        rw [hcount]
        decide
      have hwithin := hholds.within
      have hsamples := hholds.samples
      have hends := hholds.ends hpos
      rw [hcount] at hwithin hsamples hends
      refine ⟨hcount, hwithin, ?_, hholds.starts hpos, hends⟩
      unfold VibrationDoubleBuffer.windowSamples
      show BoundedBuffer.entries ((r.buffers.acquire i).2.buffers i).samples _ = _
      rw [samples_acquire]
      exact hsamples
  · rw [htallied.balanced, UInt32.add_comm, UInt32.add_sub_cancel]

/-! ## The buffers as the service sees them -/

/-- A buffer without its times. -/
def listedBuffer (b : Buffer) : Model.Vibration.Buffer :=
  ⟨BoundedBuffer.entries b.samples b.timing.sampleCount, b.state⟩

/-- The double buffer without its times. -/
def listed (v : VibrationDoubleBuffer) : Model.Vibration.VibrationDoubleBuffer :=
  ⟨listedBuffer (v.buffers 0), listedBuffer (v.buffers 1), v.fillingIndex, v.counters⟩

theorem buffer_listed (v : VibrationDoubleBuffer) (i : Fin 2) :
    (listed v).buffer i = listedBuffer (v.buffers i) := by
  fin_cases i <;> rfl

theorem listed_setBuffer (v : VibrationDoubleBuffer) (i : Fin 2) (value : Buffer) :
    listed (v.setBuffer i value) = (listed v).setBuffer i (listedBuffer value) := by
  fin_cases i <;> rfl

theorem listed_startFilling (v : VibrationDoubleBuffer) (i : Fin 2) :
    listed (v.startFilling i) = (listed v).startFilling i := by
  fin_cases i <;> rfl

theorem findFree_listed (v : VibrationDoubleBuffer) : (listed v).findFree = v.findFree := rfl

theorem listed_swap (v : VibrationDoubleBuffer) : listed v.swap = (listed v).swap := by
  unfold VibrationDoubleBuffer.swap Model.Vibration.VibrationDoubleBuffer.swap
  rw [findFree_listed]
  cases v.findFree with
  | none => rfl
  | some free => exact listed_startFilling v free

theorem listed_markReady (v : VibrationDoubleBuffer) (i : Fin 2) (value : Buffer) :
    listed (v.markReady i value) = (listed v).markReady i (listedBuffer value).samples := by
  fin_cases i <;> rfl

theorem listed_put (b : Buffer) (sample : ImuRawSample) (timestampUs : UInt32) :
    listedBuffer (b.put sample timestampUs) =
      { listedBuffer b with samples := (listedBuffer b).samples ++ [sample] } := by
  unfold listedBuffer Buffer.put
  dsimp only
  rw [BoundedBuffer.entries_update]

theorem listed_store (v : VibrationDoubleBuffer) (i : Fin 2) (sample : ImuRawSample)
    (timestampUs : UInt32) :
    listed (v.store i sample timestampUs) = (listed v).store i sample := by
  have hput := listed_put (v.buffers i) sample timestampUs
  have hlength : ((listedBuffer (v.buffers i)).samples ++ [sample]).length =
      ((v.buffers i).put sample timestampUs).timing.sampleCount := by
    rw [List.length_append, List.length_singleton]
    show (BoundedBuffer.entries _ _).length + 1 = _
    rw [BoundedBuffer.length_entries]
    rfl
  unfold VibrationDoubleBuffer.store Model.Vibration.VibrationDoubleBuffer.store
  dsimp only
  rw [buffer_listed, hlength]
  split
  · rw [listed_setBuffer, hput]
    rfl
  · have hsamples := congrArg Model.Vibration.Buffer.samples hput
    rw [listed_swap, listed_markReady, hsamples]
    rfl

/-- The list does what the array does.
SOURCE: vibration_double_buffer.cpp:30-64 -/
theorem listed_append (v : VibrationDoubleBuffer) (sample : ImuRawSample)
    (timestampUs : UInt32) : (listed v).append sample =
      ((v.append sample timestampUs).1, listed (v.append sample timestampUs).2) := by
  unfold VibrationDoubleBuffer.append Model.Vibration.VibrationDoubleBuffer.append
  have hindex : (listed v).fillingIndex = v.fillingIndex := rfl
  have hfree := findFree_listed v
  cases hfilling : v.fillingIndex with
  | some index =>
    rw [hfilling] at hindex
    rw [hindex]
    dsimp only
    rw [listed_store]
  | none =>
    rw [hfilling] at hindex
    rw [hindex]
    dsimp only
    rw [hfree]
    cases v.findFree with
    | none => rfl
    | some free =>
      dsimp only
      rw [listed_store, listed_startFilling]

/-- SOURCE: vibration_double_buffer.cpp:66-78 -/
theorem listed_acquireReady (v : VibrationDoubleBuffer) : (listed v).acquireReady =
    (v.acquireReady.1.map fun window =>
        (window.bufferIndex, (listedBuffer (v.buffers window.bufferIndex)).samples),
      listed v.acquireReady.2) := by
  unfold VibrationDoubleBuffer.acquireReady Model.Vibration.VibrationDoubleBuffer.acquireReady
  show (if (v.buffers 0).state = .ready then _ else if (v.buffers 1).state = .ready then _ else _) =
    _
  split
  · rfl
  · split
    · rfl
    · rfl

/-- SOURCE: vibration_double_buffer.cpp:80-88 -/
theorem listed_release (v : VibrationDoubleBuffer) (i : Fin 2) :
    (listed v).release i = listed (v.release (UInt8.ofNat i)).2 := by
  have hindex : (UInt8.ofNat i).toNat < 2 := by fin_cases i <;> decide
  have hsame : (⟨(UInt8.ofNat i).toNat, hindex⟩ : Fin 2) = i := by fin_cases i <;> rfl
  have hfreed : listed (v.markFree i) = (listed v).markFree i := by fin_cases i <;> rfl
  have hfilling : (listed v).fillingIndex = v.fillingIndex := rfl
  have hstate : (listedBuffer (v.buffers i)).state = (v.buffers i).state := rfl
  unfold VibrationDoubleBuffer.release Model.Vibration.VibrationDoubleBuffer.release
  rw [dif_pos hindex, hsame, buffer_listed, hfilling, hstate]
  dsimp only
  split
  · rfl
  · split
    · rw [listed_startFilling, hfreed]
    · exact hfreed.symm

end DoubleBuffer

end SeedMg24.Analysis
