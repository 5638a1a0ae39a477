import SeedMg24.Analysis.DoubleBufferWindows

/-!
# The order of the windows

A window is acquired from the first buffer that is ready, not from the one that was ready first.
The windows come in order as long as nothing is acquired while both buffers are ready and the second
one was filled before the first one; otherwise the next window that is acquired is an earlier one.
-/

set_option autoImplicit false

namespace SeedMg24.Analysis

open Foundation SeedMg24.Model.DoubleBuffer
open SeedMg24.Model.Vibration (ImuRawSample BufferState kVibrationWindowSamples)

namespace DoubleBuffer

variable {r : DoubleBufferRun} {i j : Fin 2}

/-- The samples of every acquired window were accepted before those of the next ones. -/
def InOrder (r : DoubleBufferRun) : Prop :=
  r.acquired.Pairwise fun a b => a + kVibrationWindowSamples ≤ b

/-- If a window is acquired while both buffers are ready, the first one was filled first. -/
def TakesOldest (r : DoubleBufferRun) : DoubleBufferCall → Prop
  | .acquireReady => (r.buffers.buffers 0).state = .ready ∧ (r.buffers.buffers 1).state = .ready →
      r.first 0 < r.first 1
  | _ => True

/-- The acquired windows are in order, and before every one that may still be acquired. -/
structure AcquiresInOrder (r : DoubleBufferRun) : Prop where
  order : InOrder r
  ready : ∀ a ∈ r.acquired, ∀ i, (r.buffers.buffers i).state = .ready →
    a + kVibrationWindowSamples ≤ r.first i
  filling : ∀ a ∈ r.acquired, ∀ i, (r.buffers.buffers i).state = .filling →
    0 < (r.buffers.buffers i).timing.sampleCount → a + kVibrationWindowSamples ≤ r.first i
  accepted : ∀ a ∈ r.acquired, a + kVibrationWindowSamples ≤ r.accepted.length

/-! ## Appends -/

/-- Another buffer than the one a sample is stored in is left, or filled from the start. -/
theorem buffers_store_of_ne {v : VibrationDoubleBuffer} (hne : j ≠ i) (sample : ImuRawSample)
    (timestampUs : UInt32) : (v.store i sample timestampUs).buffers j = v.buffers j ∨
      ((v.store i sample timestampUs).buffers j).state = .filling ∧
        ((v.store i sample timestampUs).buffers j).timing.sampleCount = 0 := by
  unfold VibrationDoubleBuffer.store
  dsimp only
  split
  · exact .inl (Function.update_of_ne hne _ _)
  · have hmarked (value : Buffer) : (v.countSample.markReady i value).buffers j = v.buffers j :=
      Function.update_of_ne hne _ _
    unfold VibrationDoubleBuffer.swap
    split
    · rename_i free hfree
      by_cases hother : j = free
      · rw [hother]
        exact .inr (startFilling_self _ free)
      · exact .inl ((startFilling_of_ne _ hother).trans (hmarked _))
    · exact .inl (hmarked _)

/-- Where a buffer begins after a sample. -/
theorem firstAfter_cases (r : DoubleBufferRun) (j : Fin 2) :
    r.firstAfter j = r.first j ∨ r.firstAfter j = r.accepted.length := by
  have hupdate (index : Fin 2) : Function.update r.first index r.accepted.length j = r.first j ∨
      Function.update r.first index r.accepted.length j = r.accepted.length := by
    by_cases hne : j = index
    · exact .inr (by rw [hne, Function.update_self])
    · exact .inl (Function.update_of_ne hne _ _)
  unfold DoubleBufferRun.firstAfter
  cases r.buffers.fillingIndex with
  | some index =>
    dsimp only
    split
    · exact hupdate index
    · exact .inl rfl
  | none =>
    cases r.buffers.findFree with
    | some free => exact hupdate free
    | none => exact .inl rfl

/-- A buffer that is filled from its start begins with the sample. -/
theorem firstAfter_of_filling (h : RunSound r) (hj : (r.buffers.buffers j).state = .filling)
    (hempty : (r.buffers.buffers j).timing.sampleCount = 0) :
    r.firstAfter j = r.accepted.length := by
  unfold DoubleBufferRun.firstAfter
  rw [(h.named j).mp hj]
  dsimp only
  rw [if_pos hempty, Function.update_self]

/-- A buffer that was free begins with the sample, or is left, or is filled from the start next. -/
theorem append_of_free (h : RunSound r) (hj : (r.buffers.buffers j).state = .free)
    (sample : ImuRawSample) (timestampUs : UInt32) :
    r.firstAfter j = r.accepted.length ∨
      ((r.buffers.append sample timestampUs).2.buffers j).state = .free ∨
      (((r.buffers.append sample timestampUs).2.buffers j).state = .filling ∧
        ((r.buffers.append sample timestampUs).2.buffers j).timing.sampleCount = 0) := by
  unfold VibrationDoubleBuffer.append DoubleBufferRun.firstAfter
  cases hindex : r.buffers.fillingIndex with
  | some index =>
    have hne : j ≠ index := by
      rintro rfl
      rw [(h.named j).mpr hindex] at hj
      cases hj
    right
    rcases buffers_store_of_ne (v := r.buffers) hne sample timestampUs with hleft | hfilled
    · exact .inl (by dsimp only; rw [hleft, hj])
    · exact .inr hfilled
  | none =>
    dsimp only
    cases hfree : r.buffers.findFree with
    | none => exact .inr (.inl hj)
    | some free =>
      by_cases hne : j = free
      · exact .inl (by rw [hne]; exact Function.update_self _ _ _)
      · right
        rcases buffers_store_of_ne (v := r.buffers.startFilling free) hne sample timestampUs with
          hleft | hfilled
        · exact .inl (by dsimp only; rw [hleft, startFilling_of_ne _ hne, hj])
        · exact .inr hfilled

/-- A window that is ready or has begun after a sample begins with the sample, or was ready or had
begun before. -/
theorem first_append (h : RunSound r) (sample : ImuRawSample) (timestampUs : UInt32)
    (hj : ((r.buffers.append sample timestampUs).2.buffers j).state = .ready ∨
      ((r.buffers.append sample timestampUs).2.buffers j).state = .filling ∧
        0 < ((r.buffers.append sample timestampUs).2.buffers j).timing.sampleCount) :
    r.firstAfter j = r.accepted.length ∨
      r.firstAfter j = r.first j ∧ ((r.buffers.buffers j).state = .ready ∨
        (r.buffers.buffers j).state = .filling ∧
          0 < (r.buffers.buffers j).timing.sampleCount) := by
  rcases firstAfter_cases r j with hsame | hnew
  swap
  · exact .inl hnew
  cases hstate : (r.buffers.buffers j).state with
  | ready => exact .inr ⟨hsame, .inl rfl⟩
  | filling =>
    rcases Nat.eq_zero_or_pos (r.buffers.buffers j).timing.sampleCount with hempty | hpos
    · exact .inl (firstAfter_of_filling h hstate hempty)
    · exact .inr ⟨hsame, .inr ⟨rfl, hpos⟩⟩
  | processing =>
    rw [h.buffers_append (.inr hstate), hstate] at hj
    rcases hj with hready | ⟨hfilling, -⟩
    · cases hready
    · cases hfilling
  | free =>
    rcases append_of_free h hstate sample timestampUs with hnew | hfree | ⟨hfilling, hempty⟩
    · exact .inl hnew
    · rw [hfree] at hj
      rcases hj with hready | ⟨hfilling, -⟩
      · cases hready
      · cases hfilling
    · rcases hj with hready | ⟨-, hpos⟩
      · rw [hfilling] at hready
        cases hready
      · omega

/-! ## The calls -/

theorem AcquiresInOrder.append (h : AcquiresInOrder r) (hsound : RunSound r)
    (sample : ImuRawSample) (timestampUs : UInt32) :
    AcquiresInOrder (r.next (.append sample timestampUs)) := by
  have hafter (a : ℕ) (ha : a ∈ r.acquired) (j : Fin 2)
      (hj : ((r.buffers.append sample timestampUs).2.buffers j).state = .ready ∨
        ((r.buffers.append sample timestampUs).2.buffers j).state = .filling ∧
          0 < ((r.buffers.append sample timestampUs).2.buffers j).timing.sampleCount) :
      a + kVibrationWindowSamples ≤ r.firstAfter j := by
    rcases first_append hsound sample timestampUs hj with hnew | ⟨hsame, hready | ⟨hfilling, hpos⟩⟩
    · rw [hnew]
      exact h.accepted a ha
    · rw [hsame]
      exact h.ready a ha j hready
    · rw [hsame]
      exact h.filling a ha j hfilling hpos
  refine ⟨h.order, fun a ha j hready => hafter a ha j (.inl hready),
    fun a ha j hfilling hpos => hafter a ha j (.inr ⟨hfilling, hpos⟩), fun a ha => ?_⟩
  have haccepted := h.accepted a ha
  show _ ≤ (if _ then r.accepted ++ [(sample, timestampUs)] else r.accepted).length
  split
  · rw [List.length_append]
    omega
  · exact haccepted

/-- What a call of `acquireReady` leaves, if it acquires a window. -/
theorem next_acquireReady (hacquired : r.buffers.acquireReady =
    (some (r.buffers.acquire i).1, (r.buffers.acquire i).2)) :
    (r.next .acquireReady).acquired = r.acquired ++ [r.first i] ∧
      ((r.next .acquireReady).buffers.buffers i).state = .processing ∧
      ∀ j, j ≠ i → (r.next .acquireReady).buffers.buffers j = r.buffers.buffers j := by
  unfold DoubleBufferRun.next
  dsimp only
  rw [hacquired]
  refine ⟨rfl, ?_, fun j hj => Function.update_of_ne hj _ _⟩
  unfold VibrationDoubleBuffer.acquire VibrationDoubleBuffer.setBuffer
  dsimp only
  rw [Function.update_self]

theorem AcquiresInOrder.acquireReady (h : AcquiresInOrder r) (hsound : RunSound r)
    (holdest : TakesOldest r .acquireReady) : AcquiresInOrder (r.next .acquireReady) := by
  obtain ⟨hnone, -⟩ | ⟨i, hready, hfirst, hacquired⟩ := acquireReady_cases r.buffers
  · have hnext : r.next .acquireReady = r := by
      unfold DoubleBufferRun.next
      dsimp only
      rw [hnone, Option.map_none, Option.toList_none, List.append_nil]
    rw [hnext]
    exact h
  · obtain ⟨hacquires, hprocessing, hother⟩ := next_acquireReady hacquired
    have hne (j : Fin 2) (hj : ((r.next .acquireReady).buffers.buffers j).state ≠ .processing) :
        j ≠ i := by
      rintro rfl
      exact hj hprocessing
    have hlater (j : Fin 2) (hji : j ≠ i) (hj : (r.buffers.buffers j).state = .ready) :
        r.first i + kVibrationWindowSamples ≤ r.first j := by
      have hlt : i < j := by
        by_contra hge
        exact hfirst j (lt_of_le_of_ne (not_lt.mp hge) hji) hj
      obtain ⟨rfl, rfl⟩ : i = 0 ∧ j = 1 := by
        fin_cases i <;> fin_cases j <;> first | exact ⟨rfl, rfl⟩ | exact absurd hlt (by decide)
      have hbefore := holdest ⟨hready, hj⟩
      have hpos : 0 < kVibrationWindowSamples := by decide
      rcases hsound.apart 0 1 (by decide) (.inl hready) (.inl hj) with hle | hle
      · exact hle
      · omega
    constructor
    · unfold InOrder
      rw [hacquires, List.pairwise_append]
      refine ⟨h.order, List.pairwise_singleton _ _, fun a ha b hb => ?_⟩
      rw [List.mem_singleton.mp hb]
      exact h.ready a ha i hready
    · intro a ha j hj
      have hji := hne j (by rw [hj]; decide)
      rw [hother j hji] at hj
      rw [hacquires] at ha
      rcases List.mem_append.mp ha with hold | hnew
      · exact h.ready a hold j hj
      · rw [List.mem_singleton.mp hnew]
        exact hlater j hji hj
    · intro a ha j hj hpos
      have hji := hne j (by rw [hj]; decide)
      rw [hother j hji] at hj hpos
      rw [hacquires] at ha
      rcases List.mem_append.mp ha with hold | hnew
      · exact h.filling a hold j hj hpos
      · rw [List.mem_singleton.mp hnew]
        exact hsound.older i j (.inl hready) hj hpos
    · intro a ha
      rw [hacquires] at ha
      rcases List.mem_append.mp ha with hold | hnew
      · exact h.accepted a hold
      · obtain ⟨hcount, hholds⟩ := hsound.whole i (.inl hready)
        have hwithin := hholds.within
        rw [List.mem_singleton.mp hnew]
        rwa [hcount] at hwithin

theorem AcquiresInOrder.release (h : AcquiresInOrder r) (bufferIndex : UInt8) :
    AcquiresInOrder (r.next (.release bufferIndex)) := by
  obtain hnot | ⟨i, -, hprocessing, hreleased⟩ := release_cases r.buffers bufferIndex
  · have hnext : r.next (.release bufferIndex) = r := by
      unfold DoubleBufferRun.next
      dsimp only
      rw [hnot]
    rw [hnext]
    exact h
  · have hother (j : Fin 2) (hj : j ≠ i) :
        (r.next (.release bufferIndex)).buffers.buffers j = r.buffers.buffers j := by
      have hfreed : (r.buffers.markFree i).buffers j = r.buffers.buffers j :=
        Function.update_of_ne hj _ _
      unfold DoubleBufferRun.next
      dsimp only
      rw [hreleased]
      dsimp only
      split
      · rw [startFilling_of_ne _ hj, hfreed]
      · exact hfreed
    have hown : ((r.next (.release bufferIndex)).buffers.buffers i).state ≠ .ready ∧
        (((r.next (.release bufferIndex)).buffers.buffers i).state = .filling →
          ((r.next (.release bufferIndex)).buffers.buffers i).timing.sampleCount = 0) := by
      unfold DoubleBufferRun.next
      dsimp only
      rw [hreleased]
      dsimp only
      split
      · obtain ⟨hstate, hcount⟩ := startFilling_self (r.buffers.markFree i) i
        rw [hstate]
        exact ⟨by decide, fun _ => hcount⟩
      · rw [markFree_self]
        exact ⟨by decide, nofun⟩
    refine ⟨h.order, fun a ha j hj => ?_, fun a ha j hj hpos => ?_, h.accepted⟩
    · by_cases hji : j = i
      · subst hji
        exact absurd hj hown.1
      · rw [hother j hji] at hj
        exact h.ready a ha j hj
    · by_cases hji : j = i
      · subst hji
        have hempty := hown.2 hj
        omega
      · rw [hother j hji] at hj hpos
        exact h.filling a ha j hj hpos

theorem AcquiresInOrder.next (h : AcquiresInOrder r) (hsound : RunSound r)
    (call : DoubleBufferCall) (holdest : TakesOldest r call) : AcquiresInOrder (r.next call) := by
  cases call with
  | append sample timestampUs => exact h.append hsound sample timestampUs
  | acquireReady => exact h.acquireReady hsound holdest
  | release bufferIndex => exact h.release bufferIndex

/-- Whoever acquires the later window first gets the earlier one next. -/
theorem not_inOrder_of_not_takesOldest {call : DoubleBufferCall}
    (hnot : ¬ TakesOldest r call) : ¬ InOrder ((r.next call).next .acquireReady) := by
  cases call with
  | append sample timestampUs => exact absurd trivial hnot
  | release bufferIndex => exact absurd trivial hnot
  | acquireReady =>
    obtain ⟨⟨hzero, hone⟩, hle⟩ := Classical.not_imp.mp hnot
    have hacquired : r.buffers.acquireReady =
        (some (r.buffers.acquire 0).1, (r.buffers.acquire 0).2) := by
      unfold VibrationDoubleBuffer.acquireReady
      rw [if_pos hzero]
    obtain ⟨hfirst, hprocessing, hother⟩ := next_acquireReady hacquired
    have hone' : ((r.next .acquireReady).buffers.buffers 1).state = .ready := by
      rw [hother 1 (by decide)]
      exact hone
    have hacquired' : (r.next .acquireReady).buffers.acquireReady =
        (some ((r.next .acquireReady).buffers.acquire 1).1,
          ((r.next .acquireReady).buffers.acquire 1).2) := by
      rw [VibrationDoubleBuffer.acquireReady, if_neg (by rw [hprocessing]; decide), if_pos hone']
    obtain ⟨hsecond, -⟩ := next_acquireReady hacquired'
    have hstays : (r.next .acquireReady).first 1 = r.first 1 := rfl
    intro horder
    unfold InOrder at horder
    rw [hsecond, hfirst, hstays, List.pairwise_append] at horder
    have hpair := horder.2.2 (r.first 0) (by simp) (r.first 1) (by simp)
    have hpos : 0 < kVibrationWindowSamples := by decide
    omega

/-! ## Runs -/

/-- **When windows are handed out in order.**  If nothing is acquired while both buffers are ready
and the second one was filled first, the samples of every acquired window were accepted before those
of the next ones, all along the run; and as soon as something is, one more call acquires an earlier
window.
SOURCE: vibration_double_buffer.cpp:30-88 -/
theorem acquired_inOrder (memory : VibrationDoubleBuffer) (calls : List DoubleBufferCall) :
    (Runs.Throughout DoubleBufferRun.next TakesOldest (startedRun memory) calls →
      Runs.Always DoubleBufferRun.next InOrder (startedRun memory) calls) ∧
    (¬ Runs.Throughout DoubleBufferRun.next TakesOldest (startedRun memory) calls →
      ∃ before, before <+: calls ∧
        ¬ InOrder (Runs.after DoubleBufferRun.next (startedRun memory)
          (before ++ [.acquireReady]))) := by
  constructor
  · intro holdest
    have hboth : Runs.Always DoubleBufferRun.next (fun r => RunSound r ∧ AcquiresInOrder r)
        (startedRun memory) calls := by
      refine holdest.always DoubleBufferRun.next ⟨runSound_startedRun memory, ?_⟩
        fun r call h hcall => ⟨h.1.next call, h.2.next h.1 call hcall⟩
      exact ⟨List.Pairwise.nil, nofun, nofun, nofun⟩
    exact fun before hbefore => (hboth before hbefore).2.order
  · intro hnot
    unfold Runs.Throughout at hnot
    push Not at hnot
    obtain ⟨before, call, hbefore, hbad⟩ := hnot
    refine ⟨before ++ [call], hbefore, ?_⟩
    rw [Runs.after_snoc, Runs.after_snoc]
    exact not_inOrder_of_not_takesOldest hbad

/-- A sensor at rest. -/
def restingSample : ImuRawSample := ⟨0, 0, 0, 0, 0, 0⟩

def restingMemory : VibrationDoubleBuffer where
  buffers _ := { samples := fun _ => restingSample }

def restingAppends (count : ℕ) : List DoubleBufferCall :=
  List.replicate count (.append restingSample 0)

/-- Both buffers are filled, the first window is processed, the first buffer is filled again, and
two windows are acquired. -/
def bypassingCalls : List DoubleBufferCall :=
  restingAppends (2 * kVibrationWindowSamples) ++ [.acquireReady, .release 0] ++
    restingAppends kVibrationWindowSamples ++ [.acquireReady, .acquireReady]

/-- The third window is acquired before the second one. -/
theorem not_inOrder_bypassing : ¬ Runs.Always DoubleBufferRun.next InOrder
    (startedRun restingMemory) bypassingCalls := by
  intro h
  have hlast : InOrder (Runs.after DoubleBufferRun.next (startedRun restingMemory)
    bypassingCalls) := h bypassingCalls (List.prefix_refl _)
  have hacquired : (Runs.after DoubleBufferRun.next (startedRun restingMemory)
      bypassingCalls).acquired = [0, 512, 256] := by decide +kernel
  unfold InOrder at hlast
  rw [hacquired] at hlast
  revert hlast
  decide

end DoubleBuffer

end SeedMg24.Analysis
