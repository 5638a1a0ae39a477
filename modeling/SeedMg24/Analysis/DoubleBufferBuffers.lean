import SeedMg24.Foundation.Runs
import SeedMg24.Model.VibrationDoubleBuffer

/-!
# Buffers of the vibration double buffer

The buffer that is filled is the one the index names, and every other one is free or holds a whole
window: a stretch of the accepted samples with the times of its first and last sample.  The
stretches lie apart, and the one that is filled lies behind all others.  Every call keeps it so.
-/

set_option autoImplicit false

namespace SeedMg24.Analysis

open Foundation SeedMg24.Model.DoubleBuffer
open SeedMg24.Model.Vibration (ImuRawSample BufferState kVibrationWindowSamples)

namespace DoubleBuffer

/-! ## Stretches of accepted samples -/

/-- The samples of a buffer follow each other among the accepted ones from a place on, and its times
are those of the first and the last of them. -/
structure HoldsFrom (accepted : List (ImuRawSample × UInt32)) (first : ℕ) (b : Buffer) : Prop where
  within : first + b.timing.sampleCount ≤ accepted.length
  samples : BoundedBuffer.entries b.samples b.timing.sampleCount =
    ((accepted.drop first).take b.timing.sampleCount).map Prod.fst
  starts : 0 < b.timing.sampleCount →
    (accepted[first]?).map Prod.snd = some b.timing.windowStartUs
  ends : 0 < b.timing.sampleCount →
    (accepted[first + b.timing.sampleCount - 1]?).map Prod.snd = some b.timing.windowEndUs

variable {accepted : List (ImuRawSample × UInt32)} {first : ℕ} {b : Buffer}

/-- An empty buffer begins anywhere. -/
theorem holdsFrom_empty (h : b.timing.sampleCount = 0) (hfirst : first ≤ accepted.length) :
    HoldsFrom accepted first b := by
  refine ⟨by omega, ?_, fun hpos => by omega, fun hpos => by omega⟩
  rw [h]
  rfl

/-- A sample more is accepted, and the buffer is left. -/
theorem HoldsFrom.snoc (h : HoldsFrom accepted first b) (x : ImuRawSample × UInt32) :
    HoldsFrom (accepted ++ [x]) first b := by
  have hwithin := h.within
  refine ⟨by rw [List.length_append]; omega, ?_, fun hpos => ?_, fun hpos => ?_⟩
  · rw [h.samples, List.drop_append_of_le_length (by omega),
      List.take_append_of_le_length (by rw [List.length_drop]; omega)]
  · rw [List.getElem?_append_left (by omega)]
    exact h.starts hpos
  · rw [List.getElem?_append_left (by omega)]
    exact h.ends hpos

/-- A sample more is accepted, and written into the buffer that ends there. -/
theorem HoldsFrom.put (h : HoldsFrom accepted first b)
    (hend : first + b.timing.sampleCount = accepted.length) (sample : ImuRawSample)
    (timestampUs : UInt32) :
    HoldsFrom (accepted ++ [(sample, timestampUs)]) first (b.put sample timestampUs) := by
  have hcount : (b.put sample timestampUs).timing.sampleCount = b.timing.sampleCount + 1 := rfl
  refine ⟨?_, ?_, fun _ => ?_, fun _ => ?_⟩
  · rw [hcount, List.length_append, List.length_singleton]
    omega
  · rw [hcount]
    have hall : b.timing.sampleCount = (accepted.drop first).length := by
      rw [List.length_drop]
      omega
    have hsamples := h.samples
    rw [List.take_of_length_le hall.ge] at hsamples
    have hentries := BoundedBuffer.entries_update b.samples b.timing.sampleCount sample
    rw [hsamples] at hentries
    rw [List.drop_append_of_le_length (by omega), List.take_of_length_le (by
      rw [List.length_append, List.length_singleton, ← hall]), List.map_append]
    exact hentries
  · show _ = some (if b.timing.sampleCount = 0 then timestampUs else b.timing.windowStartUs)
    by_cases hempty : b.timing.sampleCount = 0
    · rw [if_pos hempty, show first = accepted.length by omega, List.getElem?_concat_length]
      rfl
    · rw [if_neg hempty, List.getElem?_append_left (by omega)]
      exact h.starts (Nat.pos_of_ne_zero hempty)
  · rw [hcount, show first + (b.timing.sampleCount + 1) - 1 = accepted.length by omega,
      List.getElem?_concat_length]
    rfl

/-! ## The representation -/

/-- A buffer with a whole window. -/
def IsBusy (state : BufferState) : Prop := state = .ready ∨ state = .processing

instance (state : BufferState) : Decidable (IsBusy state) :=
  inferInstanceAs (Decidable (state = .ready ∨ state = .processing))

/-- What holds of the buffers between two calls, with the samples accepted so far and where the
buffers begin among them. -/
structure IsSound (buffers : Fin 2 → Buffer) (fillingIndex : Option (Fin 2))
    (accepted : List (ImuRawSample × UInt32)) (first : Fin 2 → ℕ) : Prop where
  named : ∀ i, (buffers i).state = .filling ↔ fillingIndex = some i
  room : ∀ i, (buffers i).state = .filling →
    (buffers i).timing.sampleCount < kVibrationWindowSamples
  goesOn : ∀ i, (buffers i).state = .filling → 0 < (buffers i).timing.sampleCount →
    HoldsFrom accepted (first i) (buffers i) ∧
      first i + (buffers i).timing.sampleCount = accepted.length
  whole : ∀ i, IsBusy (buffers i).state →
    (buffers i).timing.sampleCount = kVibrationWindowSamples ∧
      HoldsFrom accepted (first i) (buffers i)
  apart : ∀ i j, i ≠ j → IsBusy (buffers i).state → IsBusy (buffers j).state →
    first i + kVibrationWindowSamples ≤ first j ∨ first j + kVibrationWindowSamples ≤ first i
  older : ∀ i j, IsBusy (buffers i).state → (buffers j).state = .filling →
    0 < (buffers j).timing.sampleCount → first i + kVibrationWindowSamples ≤ first j

variable {buffers buffers' : Fin 2 → Buffer} {fillingIndex : Option (Fin 2)}
variable {firsts firsts' : Fin 2 → ℕ} {i : Fin 2}

theorem not_isBusy_filling : ¬ IsBusy .filling := by decide

theorem not_isBusy_free : ¬ IsBusy .free := by decide

/-- A buffer that holds no window is filled from its start, if no other one is filled. -/
theorem IsSound.startFilling (h : IsSound buffers none accepted firsts)
    (hidle : ¬ IsBusy (buffers i).state) (hother : ∀ j, j ≠ i → buffers' j = buffers j)
    (hstate : (buffers' i).state = .filling) (hcount : (buffers' i).timing.sampleCount = 0) :
    IsSound buffers' (some i) accepted firsts := by
  have hnone (j : Fin 2) : (buffers j).state ≠ .filling := by
    rw [Ne, h.named]
    exact nofun
  have hbusy (j : Fin 2) (hj : IsBusy (buffers' j).state) : j ≠ i := by
    rintro rfl
    rw [hstate] at hj
    exact not_isBusy_filling hj
  have hfilling (j : Fin 2) (hj : (buffers' j).state = .filling) : j = i := by
    by_contra hne
    rw [hother j hne] at hj
    exact hnone j hj
  constructor
  · intro j
    rw [Option.some_inj]
    constructor
    · exact fun hj => (hfilling j hj).symm
    · rintro rfl
      exact hstate
  · intro j hj
    rw [hfilling j hj, hcount]
    decide
  · intro j hj hpos
    rw [hfilling j hj, hcount] at hpos
    exact absurd hpos (lt_irrefl 0)
  · intro j hj
    have hne := hbusy j hj
    rw [hother j hne] at hj ⊢
    exact h.whole j hj
  · intro j k hne hj hk
    rw [hother j (hbusy j hj)] at hj
    rw [hother k (hbusy k hk)] at hk
    exact h.apart j k hne hj hk
  · intro j k hj hk hpos
    rw [hfilling k hk, hcount] at hpos
    exact absurd hpos (lt_irrefl 0)

/-- The buffer that is filled begins behind every whole window. -/
theorem IsSound.older_of_end (h : IsSound buffers (some i) accepted firsts)
    (hend : first + (buffers i).timing.sampleCount = accepted.length) {j : Fin 2}
    (hj : IsBusy (buffers j).state) : firsts j + kVibrationWindowSamples ≤ first := by
  have hfilling := (h.named i).mpr rfl
  rcases Nat.eq_zero_or_pos (buffers i).timing.sampleCount with hempty | hpos
  · obtain ⟨hcount, hholds⟩ := h.whole j hj
    have hwithin := hholds.within
    rw [hcount] at hwithin
    omega
  · have hgoesOn := (h.goesOn i hfilling hpos).2
    have holder := h.older j i hj hfilling hpos
    omega

/-- The other buffers, when a sample is accepted into the one that is filled. -/
theorem IsSound.others (h : IsSound buffers (some i) accepted firsts)
    (hother : ∀ j, j ≠ i → buffers' j = buffers j) (hfirsts : ∀ j, j ≠ i → firsts' j = firsts j)
    (x : ImuRawSample × UInt32) {j : Fin 2} (hne : j ≠ i) (hj : IsBusy (buffers' j).state) :
    IsBusy (buffers j).state ∧ firsts' j = firsts j ∧
      (buffers' j).timing.sampleCount = kVibrationWindowSamples ∧
      HoldsFrom (accepted ++ [x]) (firsts' j) (buffers' j) := by
  rw [hother j hne] at hj ⊢
  obtain ⟨hcount, hholds⟩ := h.whole j hj
  refine ⟨hj, hfirsts j hne, hcount, ?_⟩
  rw [hfirsts j hne]
  exact hholds.snoc x

/-- A sample is accepted into the buffer that is filled, which is not full yet. -/
theorem IsSound.put (h : IsSound buffers (some i) accepted firsts)
    (hother : ∀ j, j ≠ i → buffers' j = buffers j) (hfirsts : ∀ j, j ≠ i → firsts' j = firsts j)
    {x : ImuRawSample × UInt32} (hstate : (buffers' i).state = .filling)
    (hcount : (buffers' i).timing.sampleCount = (buffers i).timing.sampleCount + 1)
    (hroom : (buffers' i).timing.sampleCount ≠ kVibrationWindowSamples)
    (hholds : HoldsFrom (accepted ++ [x]) (firsts' i) (buffers' i))
    (hend : firsts' i + (buffers i).timing.sampleCount = accepted.length) :
    IsSound buffers' (some i) (accepted ++ [x]) firsts' := by
  have hfilling := (h.named i).mpr rfl
  have hbusy (j : Fin 2) (hj : IsBusy (buffers' j).state) : j ≠ i := by
    rintro rfl
    rw [hstate] at hj
    exact not_isBusy_filling hj
  have honly (j : Fin 2) (hj : (buffers' j).state = .filling) : j = i := by
    by_contra hne
    rw [hother j hne, h.named, Option.some_inj] at hj
    exact hne hj.symm
  constructor
  · intro j
    rw [Option.some_inj]
    constructor
    · exact fun hj => (honly j hj).symm
    · rintro rfl
      exact hstate
  · intro j hj
    have hlt := h.room i hfilling
    rw [honly j hj]
    omega
  · intro j hj _
    rw [honly j hj]
    refine ⟨hholds, ?_⟩
    rw [List.length_append, List.length_singleton]
    omega
  · exact fun j hj => (h.others hother hfirsts x (hbusy j hj) hj).2.2
  · intro j k hne hj hk
    obtain ⟨hj, hfirst, -⟩ := h.others hother hfirsts x (hbusy j hj) hj
    obtain ⟨hk, hfirst', -⟩ := h.others hother hfirsts x (hbusy k hk) hk
    rw [hfirst, hfirst']
    exact h.apart j k hne hj hk
  · intro j k hj hk _
    obtain ⟨hj, hfirst, -⟩ := h.others hother hfirsts x (hbusy j hj) hj
    rw [hfirst, honly k hk]
    exact h.older_of_end hend hj

/-- A sample is accepted into the buffer that is filled, which is full then. -/
theorem IsSound.fill (h : IsSound buffers (some i) accepted firsts)
    (hother : ∀ j, j ≠ i → buffers' j = buffers j) (hfirsts : ∀ j, j ≠ i → firsts' j = firsts j)
    {x : ImuRawSample × UInt32} (hstate : (buffers' i).state = .ready)
    (hfull : (buffers' i).timing.sampleCount = kVibrationWindowSamples)
    (hholds : HoldsFrom (accepted ++ [x]) (firsts' i) (buffers' i))
    (hend : firsts' i + (buffers i).timing.sampleCount = accepted.length) :
    IsSound buffers' none (accepted ++ [x]) firsts' := by
  have hnone (j : Fin 2) : (buffers' j).state ≠ .filling := by
    intro hj
    by_cases hne : j = i
    · rw [hne, hstate] at hj
      cases hj
    · rw [hother j hne, h.named, Option.some_inj] at hj
      exact hne hj.symm
  have holder (j : Fin 2) (hne : j ≠ i) (hj : IsBusy (buffers' j).state) :
      firsts' j + kVibrationWindowSamples ≤ firsts' i := by
    obtain ⟨hj, hfirst, -⟩ := h.others hother hfirsts x hne hj
    rw [hfirst]
    exact h.older_of_end hend hj
  constructor
  · exact fun j => ⟨fun hj => absurd hj (hnone j), nofun⟩
  · exact fun j hj => absurd hj (hnone j)
  · exact fun j hj => absurd hj (hnone j)
  · intro j hj
    by_cases hne : j = i
    · rw [hne]
      exact ⟨hfull, hholds⟩
    · exact (h.others hother hfirsts x hne hj).2.2
  · intro j k hne hj hk
    by_cases hji : j = i
    · subst hji
      exact .inr (holder k hne.symm hk)
    · by_cases hki : k = i
      · subst hki
        exact .inl (holder j hji hj)
      · obtain ⟨hj, hfirst, -⟩ := h.others hother hfirsts x hji hj
        obtain ⟨hk, hfirst', -⟩ := h.others hother hfirsts x hki hk
        rw [hfirst, hfirst']
        exact h.apart j k hne hj hk
  · exact fun j k _ hk => absurd hk (hnone k)

/-- A window is acquired: it stays whole. -/
theorem IsSound.acquire (h : IsSound buffers fillingIndex accepted firsts)
    (hready : (buffers i).state = .ready) (hother : ∀ j, j ≠ i → buffers' j = buffers j)
    (hbuffer : buffers' i = { buffers i with state := .processing }) :
    IsSound buffers' fillingIndex accepted firsts := by
  have hbusy (j : Fin 2) : IsBusy (buffers' j).state ↔ IsBusy (buffers j).state := by
    by_cases hne : j = i
    · rw [hne, hbuffer, hready]
      exact (by decide : IsBusy .processing ↔ IsBusy .ready)
    · rw [hother j hne]
  have hfilling (j : Fin 2) :
      (buffers' j).state = .filling ↔ (buffers j).state = .filling := by
    by_cases hne : j = i
    · rw [hne, hbuffer, hready]
      exact (by decide : BufferState.processing = .filling ↔ BufferState.ready = .filling)
    · rw [hother j hne]
  have htiming (j : Fin 2) : (buffers' j).timing = (buffers j).timing := by
    by_cases hne : j = i
    · rw [hne, hbuffer]
    · rw [hother j hne]
  have hholds (j : Fin 2) (hj : HoldsFrom accepted (firsts j) (buffers j)) :
      HoldsFrom accepted (firsts j) (buffers' j) := by
    by_cases hne : j = i
    · subst hne
      rw [hbuffer]
      exact ⟨hj.within, hj.samples, hj.starts, hj.ends⟩
    · rw [hother j hne]
      exact hj
  constructor
  · exact fun j => (hfilling j).trans (h.named j)
  · intro j hj
    rw [htiming]
    exact h.room j ((hfilling j).mp hj)
  · intro j hj hpos
    rw [htiming] at hpos ⊢
    obtain ⟨hold, hend⟩ := h.goesOn j ((hfilling j).mp hj) hpos
    exact ⟨hholds j hold, hend⟩
  · intro j hj
    rw [htiming]
    obtain ⟨hcount, hold⟩ := h.whole j ((hbusy j).mp hj)
    exact ⟨hcount, hholds j hold⟩
  · exact fun j k hne hj hk => h.apart j k hne ((hbusy j).mp hj) ((hbusy k).mp hk)
  · intro j k hj hk hpos
    rw [htiming] at hpos
    exact h.older j k ((hbusy j).mp hj) ((hfilling k).mp hk) hpos

/-- A window is given back. -/
theorem IsSound.markFree (h : IsSound buffers fillingIndex accepted firsts)
    (hbusy : IsBusy (buffers i).state) (hother : ∀ j, j ≠ i → buffers' j = buffers j)
    (hstate : (buffers' i).state = .free) :
    IsSound buffers' fillingIndex accepted firsts := by
  have hne (j : Fin 2) (hj : (buffers' j).state ≠ .free) : j ≠ i := by
    rintro rfl
    exact hj hstate
  have hfilling (j : Fin 2) (hj : (buffers' j).state = .filling) : buffers' j = buffers j :=
    hother j (hne j (by rw [hj]; decide))
  have hwhole (j : Fin 2) (hj : IsBusy (buffers' j).state) : buffers' j = buffers j := by
    apply hother j (hne j _)
    rintro hfree
    rw [hfree] at hj
    exact not_isBusy_free hj
  constructor
  · intro j
    constructor
    · intro hj
      rw [hfilling j hj] at hj
      exact (h.named j).mp hj
    · intro hj
      have hold := (h.named j).mpr hj
      rw [hother j]
      · exact hold
      · rintro rfl
        rw [hold] at hbusy
        exact not_isBusy_filling hbusy
  · intro j hj
    have heq := hfilling j hj
    rw [heq] at hj ⊢
    exact h.room j hj
  · intro j hj hpos
    have heq := hfilling j hj
    rw [heq] at hj hpos ⊢
    exact h.goesOn j hj hpos
  · intro j hj
    have heq := hwhole j hj
    rw [heq] at hj ⊢
    exact h.whole j hj
  · intro j k hjk hj hk
    rw [hwhole j hj] at hj
    rw [hwhole k hk] at hk
    exact h.apart j k hjk hj hk
  · intro j k hj hk hpos
    have heq := hfilling k hk
    rw [hwhole j hj] at hj
    rw [heq] at hk hpos
    exact h.older j k hj hk hpos

/-! ## The calls -/

variable {r : DoubleBufferRun}

/-- The buffers of a run are as they should be. -/
def RunSound (r : DoubleBufferRun) : Prop :=
  IsSound r.buffers.buffers r.buffers.fillingIndex r.accepted r.first

theorem startFilling_self (v : VibrationDoubleBuffer) (i : Fin 2) :
    ((v.startFilling i).buffers i).state = .filling ∧
      ((v.startFilling i).buffers i).timing.sampleCount = 0 := by
  unfold VibrationDoubleBuffer.startFilling VibrationDoubleBuffer.setBuffer
  dsimp only
  rw [Function.update_self]
  exact ⟨rfl, rfl⟩

theorem startFilling_of_ne (v : VibrationDoubleBuffer) {j : Fin 2} (hne : j ≠ i) :
    (v.startFilling i).buffers j = v.buffers j := Function.update_of_ne hne _ _

theorem findFree_some {v : VibrationDoubleBuffer} (h : v.findFree = some i) :
    (v.buffers i).state = .free := by
  unfold VibrationDoubleBuffer.findFree at h
  split at h
  · rename_i hfree
    exact (Option.some_inj.mp h) ▸ hfree
  · split at h
    · rename_i hfree
      exact (Option.some_inj.mp h) ▸ hfree
    · cases h

/-- Another buffer is filled next, or none.
SOURCE: vibration_double_buffer.cpp:57-62 -/
theorem IsSound.swap {v : VibrationDoubleBuffer} (h : IsSound v.buffers none accepted firsts)
    (hindex : v.fillingIndex = none) :
    IsSound v.swap.buffers v.swap.fillingIndex accepted firsts := by
  unfold VibrationDoubleBuffer.swap
  cases hfree : v.findFree with
  | none =>
    show IsSound v.buffers v.fillingIndex accepted firsts
    rw [hindex]
    exact h
  | some free =>
    have hidle : ¬ IsBusy (v.buffers free).state := by
      rw [findFree_some hfree]
      exact not_isBusy_free
    exact h.startFilling hidle (fun j hj => startFilling_of_ne v hj) (startFilling_self v free).1
      (startFilling_self v free).2

/-- A sample is stored in the buffer that is filled.
SOURCE: vibration_double_buffer.cpp:40-63 -/
theorem IsSound.store {v : VibrationDoubleBuffer}
    (h : IsSound v.buffers (some i) accepted firsts) (hindex : v.fillingIndex = some i)
    (sample : ImuRawSample) (timestampUs : UInt32) :
    IsSound (v.store i sample timestampUs).buffers (v.store i sample timestampUs).fillingIndex
      (accepted ++ [(sample, timestampUs)])
      (if (v.buffers i).timing.sampleCount = 0 then Function.update firsts i accepted.length
        else firsts) := by
  have hfilling := (h.named i).mpr rfl
  generalize hfirsts : (if (v.buffers i).timing.sampleCount = 0 then
    Function.update firsts i accepted.length else firsts) = firsts'
  have hothers (j : Fin 2) (hj : j ≠ i) : firsts' j = firsts j := by
    rw [← hfirsts]
    split
    · exact Function.update_of_ne hj _ _
    · rfl
  -- the buffer goes on where it ends, or begins with the sample
  have hbuffer : HoldsFrom accepted (firsts' i) (v.buffers i) ∧
      firsts' i + (v.buffers i).timing.sampleCount = accepted.length := by
    rw [← hfirsts]
    by_cases hempty : (v.buffers i).timing.sampleCount = 0
    · rw [if_pos hempty, Function.update_self]
      exact ⟨holdsFrom_empty hempty (le_refl _), by omega⟩
    · rw [if_neg hempty]
      exact h.goesOn i hfilling (Nat.pos_of_ne_zero hempty)
  have hput := hbuffer.1.put hbuffer.2 sample timestampUs
  unfold VibrationDoubleBuffer.store
  dsimp only
  by_cases hroom : ((v.buffers i).put sample timestampUs).timing.sampleCount ≠
      kVibrationWindowSamples
  · rw [if_pos hroom]
    show IsSound (Function.update v.buffers i ((v.buffers i).put sample timestampUs))
      v.fillingIndex _ _
    rw [hindex]
    refine h.put (fun j hj => Function.update_of_ne hj _ _) hothers ?_ ?_ ?_ ?_ hbuffer.2
    · rw [Function.update_self]
      exact hfilling
    · rw [Function.update_self]
      rfl
    · rw [Function.update_self]
      exact hroom
    · rw [Function.update_self]
      exact hput
  · rw [if_neg hroom]
    rw [not_not] at hroom
    refine IsSound.swap (v := v.countSample.markReady i _) ?_ rfl
    refine h.fill (fun j hj => Function.update_of_ne hj _ _) hothers ?_ ?_ ?_ hbuffer.2
    · exact congrArg Buffer.state (Function.update_self i _ v.buffers)
    · exact (congrArg (fun b : Buffer => b.timing.sampleCount)
        (Function.update_self i _ v.buffers)).trans hroom
    · have hself := Function.update_self i ((v.buffers i).put sample timestampUs).complete v.buffers
      show HoldsFrom _ _ (Function.update v.buffers i
        ((v.buffers i).put sample timestampUs).complete i)
      rw [hself]
      exact ⟨hput.within, hput.samples, hput.starts, hput.ends⟩

/-- SOURCE: vibration_double_buffer.cpp:30-64 -/
theorem RunSound.append (h : RunSound r) (sample : ImuRawSample) (timestampUs : UInt32) :
    RunSound (r.next (.append sample timestampUs)) := by
  unfold RunSound DoubleBufferRun.next VibrationDoubleBuffer.append DoubleBufferRun.firstAfter at *
  dsimp only
  cases hindex : r.buffers.fillingIndex with
  | some index =>
    rw [hindex] at h
    exact h.store hindex sample timestampUs
  | none =>
    rw [hindex] at h
    dsimp only
    cases hfree : r.buffers.findFree with
    | none => exact h
    | some free =>
      have hidle : ¬ IsBusy (r.buffers.buffers free).state := by
        rw [findFree_some hfree]
        exact not_isBusy_free
      obtain ⟨hstate, hempty⟩ := startFilling_self r.buffers free
      have hstarted := h.startFilling hidle (fun j hj => startFilling_of_ne r.buffers hj) hstate
        hempty
      have hstored := hstarted.store rfl sample timestampUs
      rw [if_pos hempty] at hstored
      exact hstored

/-- What is acquired is the first buffer that is ready.
SOURCE: vibration_double_buffer.cpp:66-78 -/
theorem acquireReady_cases (v : VibrationDoubleBuffer) :
    (v.acquireReady = (none, v) ∧ ∀ i, (v.buffers i).state ≠ .ready) ∨
    ∃ i, (v.buffers i).state = .ready ∧ (∀ j, j < i → (v.buffers j).state ≠ .ready) ∧
      v.acquireReady = (some (v.acquire i).1, (v.acquire i).2) := by
  unfold VibrationDoubleBuffer.acquireReady
  by_cases hzero : (v.buffers 0).state = .ready
  · rw [if_pos hzero]
    exact .inr ⟨0, hzero, fun j hj => absurd hj (Fin.not_lt_zero j), rfl⟩
  · rw [if_neg hzero]
    by_cases hone : (v.buffers 1).state = .ready
    · rw [if_pos hone]
      refine .inr ⟨1, hone, fun j hj => ?_, rfl⟩
      fin_cases j
      · exact hzero
      · exact absurd hj (lt_irrefl _)
    · rw [if_neg hone]
      refine .inl ⟨rfl, fun i => ?_⟩
      fin_cases i
      · exact hzero
      · exact hone

theorem markFree_self (v : VibrationDoubleBuffer) (i : Fin 2) :
    ((v.markFree i).buffers i).state = .free := by
  unfold VibrationDoubleBuffer.markFree VibrationDoubleBuffer.setBuffer
  dsimp only
  rw [Function.update_self]

theorem samples_acquire (v : VibrationDoubleBuffer) (i : Fin 2) :
    ((v.acquire i).2.buffers i).samples = (v.buffers i).samples := by
  unfold VibrationDoubleBuffer.acquire VibrationDoubleBuffer.setBuffer
  dsimp only
  rw [Function.update_self]

/-- What is released is a buffer that is processed; it is filled next if no other one is.
SOURCE: vibration_double_buffer.cpp:80-88 -/
theorem release_cases (v : VibrationDoubleBuffer) (bufferIndex : UInt8) :
    v.release bufferIndex = (false, v) ∨
    ∃ i : Fin 2, bufferIndex.toNat = i.val ∧ (v.buffers i).state = .processing ∧
      v.release bufferIndex = (true, if v.fillingIndex = none then
        (v.markFree i).startFilling i else v.markFree i) := by
  unfold VibrationDoubleBuffer.release
  by_cases hindex : bufferIndex.toNat < 2
  · rw [dif_pos hindex]
    dsimp only
    by_cases hprocessing : (v.buffers ⟨bufferIndex.toNat, hindex⟩).state = .processing
    · refine .inr ⟨⟨bufferIndex.toNat, hindex⟩, rfl, hprocessing, ?_⟩
      rw [if_neg (not_not.mpr hprocessing)]
      split <;> rfl
    · exact .inl (if_pos hprocessing)
  · exact .inl (dif_neg hindex)

/-- SOURCE: vibration_double_buffer.cpp:66-78 -/
theorem RunSound.acquireReady (h : RunSound r) : RunSound (r.next .acquireReady) := by
  show IsSound r.buffers.acquireReady.2.buffers r.buffers.acquireReady.2.fillingIndex _ _
  obtain ⟨hnone, -⟩ | ⟨i, hready, -, hacquired⟩ := acquireReady_cases r.buffers
  · rw [hnone]
    exact h
  · rw [hacquired]
    exact IsSound.acquire h hready (fun j hj => Function.update_of_ne hj _ _)
      (Function.update_self i _ r.buffers.buffers)

/-- SOURCE: vibration_double_buffer.cpp:80-88 -/
theorem RunSound.release (h : RunSound r) (bufferIndex : UInt8) :
    RunSound (r.next (.release bufferIndex)) := by
  show IsSound (r.buffers.release bufferIndex).2.buffers
    (r.buffers.release bufferIndex).2.fillingIndex _ _
  obtain hnot | ⟨i, -, hprocessing, hreleased⟩ := release_cases r.buffers bufferIndex
  · rw [hnot]
    exact h
  · rw [hreleased]
    have hfreed : IsSound (r.buffers.markFree i).buffers r.buffers.fillingIndex r.accepted
        r.first :=
      IsSound.markFree h (.inr hprocessing) (fun j hj => Function.update_of_ne hj _ _)
        (markFree_self r.buffers i)
    dsimp only
    split
    · rename_i hindex
      rw [hindex] at hfreed
      have hidle : ¬ IsBusy ((r.buffers.markFree i).buffers i).state := by
        rw [markFree_self]
        exact not_isBusy_free
      exact hfreed.startFilling hidle (fun j hj => startFilling_of_ne _ hj)
        (startFilling_self _ i).1 (startFilling_self _ i).2
    · exact hfreed

theorem RunSound.next (h : RunSound r) (call : DoubleBufferCall) : RunSound (r.next call) := by
  cases call with
  | append sample timestampUs => exact h.append sample timestampUs
  | acquireReady => exact h.acquireReady
  | release bufferIndex => exact h.release bufferIndex

/-- SOURCE: vibration_double_buffer.cpp:7-15 -/
theorem runSound_startedRun (memory : VibrationDoubleBuffer) : RunSound (startedRun memory) := by
  have hidle : IsSound (fun index => { memory.buffers index with timing := {}, state := .free })
      none [] fun _ => 0 := by
    constructor
    · exact fun j => ⟨nofun, nofun⟩
    · exact nofun
    · exact nofun
    · exact fun j hj => absurd hj not_isBusy_free
    · exact fun j k _ hj => absurd hj not_isBusy_free
    · exact fun j k hj => absurd hj not_isBusy_free
  exact hidle.startFilling (i := 0) not_isBusy_free (fun j hj => Function.update_of_ne hj _ _)
    rfl rfl

end DoubleBuffer

end SeedMg24.Analysis
