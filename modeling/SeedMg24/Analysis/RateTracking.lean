import SeedMg24.Analysis.DoubleBufferOrder
import SeedMg24.Analysis.FifoBatches
import SeedMg24.Analysis.SampleRates

/-!
# The rate that is tracked

The rate is observed as the frames accepted since a reference over the time since then, and the
clock that measures this time comes round after 2^32 microseconds.  Until then the rate observed is
the mean rate; afterwards it is not, and the estimate stays where it is.
-/

set_option autoImplicit false

namespace SeedMg24.Analysis

open Foundation SeedMg24.Model.DoubleBuffer SeedMg24.Model.VibrationTiming
open SeedMg24.Model.Vibration (kBatchFrames)

namespace VibrationTiming

open DoubleBuffer (restingMemory listed)

/-! ## True times -/

/-- What happens to the service, and how long after what happened before. -/
inductive TimedEvent where
  | drains (waitUs : ℕ) (read : Option Batch)
  | acquires
  | releases (bufferIndex : UInt8)

/-- The service with rates calculated exactly, the microseconds that passed, when the first batch
was drained and how many frames were accepted. -/
structure TimedService where
  service : ProductionVibrationService ℚ
  timeUs : ℕ
  firstBatchUs : ℕ := 0
  accepted : ℕ := 0

namespace TimedService

/-- `micros()` after so many microseconds. -/
def micros (timeUs : ℕ) : UInt32 := UInt32.ofNat timeUs

def start (memory : VibrationDoubleBuffer) (timeUs : ℕ) : TimedService where
  service := .begin exactRates memory (micros timeUs)
  timeUs := timeUs

/-- A batch, drained at a time. -/
def drain (r : TimedService) (timeUs : ℕ) (read : Option Batch) : TimedService where
  service := (r.service.drainBatch exactRates (micros timeUs) read).2
  timeUs := timeUs
  firstBatchUs := if r.accepted = 0 then timeUs else r.firstBatchUs
  accepted := if (r.service.drainBatch exactRates (micros timeUs) read).1 then
    r.accepted + kBatchFrames else r.accepted

/-- One event. -/
def next (r : TimedService) : TimedEvent → TimedService
  | .drains waitUs read => r.drain (r.timeUs + waitUs) read
  | .acquires => { r with service := r.service.next exactRates .acquires }
  | .releases bufferIndex => { r with service := r.service.next exactRates (.releases bufferIndex) }

/-- The microseconds since the acquisition reference, which lies before the first batch. -/
def elapsedUs (r : TimedService) (timeUs : ℕ) : ℕ :=
  timeUs - r.firstBatchUs + exactRates.leadUs.toNat

/-- The mean rate since the acquisition reference, with a batch drained at a time. -/
def meanRateHz (r : TimedService) (timeUs : ℕ) : ℚ :=
  (r.accepted + kBatchFrames - 1 : ℕ) * 1000000 / r.elapsedUs timeUs

/-- What is observed at a batch after the first is the mean rate. -/
def ObservesMean (r : TimedService) : TimedEvent → Prop
  | .drains waitUs (some _) => r.accepted ≠ 0 →
      r.service.observed exactRates (micros (r.timeUs + waitUs)) =
        some (r.meanRateHz (r.timeUs + waitUs))
  | _ => True

/-- The rate lies strictly between 350 and 500 Hz. -/
def RateBetween (r : TimedService) : Prop :=
  350 < r.service.effectiveSampleRateHz ∧ r.service.effectiveSampleRateHz < 500

/-- Neither the time since the acquisition reference nor the count of the frames has come round. -/
def WithinTurn (r : TimedService) : TimedEvent → Prop
  | .drains waitUs (some _) => r.accepted ≠ 0 →
      r.elapsedUs (r.timeUs + waitUs) < 2 ^ 32 ∧ r.accepted < 2 ^ 32
  | _ => True

/-! ## Rates -/

/-- SOURCE: vibration_service.cpp:144-168 -/
theorem rate_drainBatch (s : ProductionVibrationService ℚ) (nowUs : UInt32) (read : Option Batch)
    (h : 350 < s.effectiveSampleRateHz ∧ s.effectiveSampleRateHz < 500) :
    350 < (s.drainBatch exactRates nowUs read).2.effectiveSampleRateHz ∧
      (s.drainBatch exactRates nowUs read).2.effectiveSampleRateHz < 500 := by
  cases read with
  | none => exact h
  | some words =>
    have hkept : (s.drainBatch exactRates nowUs (some words)).2.effectiveSampleRateHz =
        (s.estimate exactRates nowUs).effectiveSampleRateHz := by
      rw [drainBatch_read]
      unfold ProductionVibrationService.appendBatch
      dsimp only
      split
      · rfl
      · rfl
    rw [hkept]
    unfold ProductionVibrationService.estimate
    split
    · exact h
    · split
      · exact h
      · split
        · rename_i hplausible
          exact smoothed_exact h hplausible
        · exact h

/-- **The rate stays between 350 and 500 Hz**, whenever the batches come. -/
theorem rateBetween_after (memory : VibrationDoubleBuffer) (timeUs : ℕ)
    (events : List TimedEvent) :
    Runs.Always TimedService.next RateBetween (start memory timeUs) events := by
  intro before _
  apply Runs.after_invariant (I := RateBetween)
  · exact ⟨by norm_num [start, ProductionVibrationService.begin, exactRates],
      by norm_num [start, ProductionVibrationService.begin, exactRates]⟩
  · intro r e h
    cases e with
    | drains waitUs read => exact rate_drainBatch r.service _ read h
    | acquires => exact h
    | releases bufferIndex => exact h

/-! ## Times and counts -/

/-- What the service keeps are the true time of the reference and the true count, modulo 2^32, as
long as these have not come round. -/
structure IsTracked (r : TimedService) : Prop where
  counted : r.service.acceptedFrames = UInt32.ofNat r.accepted
  whole : kBatchFrames ∣ r.accepted
  bounded : r.accepted ≤ 2 ^ 32
  reference : r.accepted ≠ 0 → r.firstBatchUs ≤ r.timeUs ∧
    r.service.acquisitionReferenceUs = micros r.firstBatchUs - exactRates.leadUs

/-- The time that is measured is the true one modulo 2^32. -/
theorem micros_sub {first timeUs : ℕ} (h : first ≤ timeUs) (lead : UInt32) :
    micros timeUs - (micros first - lead) = UInt32.ofNat (timeUs - first + lead.toNat) := by
  obtain ⟨passed, rfl⟩ := Nat.exists_eq_add_of_le h
  have hsub : first + passed - first = passed := by omega
  unfold micros
  rw [hsub, UInt32.ofNat_add, UInt32.ofNat_add, UInt32.ofNat_toNat]
  grind

/-- The count the service keeps is not zero. -/
theorem IsTracked.acceptedFrames_ne_zero {r : TimedService} (h : IsTracked r)
    (hpos : r.accepted ≠ 0) (hlt : r.accepted < 2 ^ 32) : r.service.acceptedFrames ≠ 0 := by
  intro hzero
  have hnat := congrArg UInt32.toNat (h.counted.symm.trans hzero)
  rw [UInt32.toNat_ofNat_of_lt' hlt] at hnat
  exact hpos hnat

/-- What is observed at a batch, if the count has not come round. -/
theorem IsTracked.observed {r : TimedService} (h : IsTracked r) (hpos : r.accepted ≠ 0)
    (hlt : r.accepted < 2 ^ 32) (waitUs : ℕ) :
    r.service.observed exactRates (micros (r.timeUs + waitUs)) =
      if 0 < r.elapsedUs (r.timeUs + waitUs) % 2 ^ 32 then
        some (((r.accepted + kBatchFrames - 1 : ℕ) : ℚ) * 1000000 /
          (r.elapsedUs (r.timeUs + waitUs) % 2 ^ 32 : ℕ))
      else none := by
  obtain ⟨hle, hreference⟩ := h.reference hpos
  have helapsed : micros (r.timeUs + waitUs) - r.service.acquisitionReferenceUs =
      UInt32.ofNat (r.elapsedUs (r.timeUs + waitUs)) := by
    rw [hreference]
    exact micros_sub (by omega) exactRates.leadUs
  have hframes : (r.service.acceptedFrames + UInt32.ofNat kBatchFrames - 1).toNat =
      r.accepted + kBatchFrames - 1 := by
    have hbatch : kBatchFrames = 16 := rfl
    have hwhole := h.whole
    rw [h.counted, ← UInt32.ofNat_add, hbatch] at *
    rw [UInt32.toNat_sub, UInt32.toNat_ofNat']
    have hone : UInt32.toNat 1 = 1 := rfl
    rw [hone]
    omega
  have htoNat : (UInt32.ofNat (r.elapsedUs (r.timeUs + waitUs))).toNat =
      r.elapsedUs (r.timeUs + waitUs) % 2 ^ 32 := UInt32.toNat_ofNat'
  unfold ProductionVibrationService.observed
  rw [if_neg (h.acceptedFrames_ne_zero hpos hlt), helapsed]
  dsimp only
  have hpositive : UInt32.ofNat (r.elapsedUs (r.timeUs + waitUs)) > 0 ↔
      0 < r.elapsedUs (r.timeUs + waitUs) % 2 ^ 32 := by
    rw [gt_iff_lt, UInt32.lt_iff_toNat_lt, htoNat]
    exact Iff.rfl
  simp only [hpositive]
  split
  · unfold exactRates
    dsimp only
    rw [hframes, htoNat]
  · rfl

/-- **What is observed is the mean rate exactly as long as nothing has come round.** -/
theorem IsTracked.observesMean_iff {r : TimedService} (h : IsTracked r) (e : TimedEvent) :
    ObservesMean r e ↔ WithinTurn r e := by
  cases e with
  | acquires => exact Iff.rfl
  | releases bufferIndex => exact Iff.rfl
  | drains waitUs read =>
    cases read with
    | none => exact Iff.rfl
    | some words =>
      refine imp_congr_right fun hpos => ?_
      have hlead : 0 < r.elapsedUs (r.timeUs + waitUs) := by
        have hlead' : 0 < exactRates.leadUs.toNat := by decide +kernel
        unfold elapsedUs
        omega
      by_cases hlt : r.accepted < 2 ^ 32
      · rw [h.observed hpos hlt waitUs]
        unfold meanRateHz
        set frames := r.accepted + kBatchFrames - 1 with hframes
        have hframesPos : 0 < frames := by
          have hbatch : kBatchFrames = 16 := rfl
          omega
        set elapsed := r.elapsedUs (r.timeUs + waitUs)
        constructor
        · intro hmean
          refine ⟨?_, hlt⟩
          by_contra hge
          split at hmean
          · rename_i hmod
            have hrate := Option.some_inj.mp hmean
            have hnumerator : (frames : ℚ) * 1000000 ≠ 0 := by positivity
            have hcast : ((elapsed % 2 ^ 32 : ℕ) : ℚ) = elapsed := by
              rw [div_eq_div_iff (by positivity) (by positivity)] at hrate
              exact (mul_left_cancel₀ hnumerator hrate).symm
            have hnat : elapsed % 2 ^ 32 = elapsed := by exact_mod_cast hcast
            omega
          · cases hmean
        · rintro ⟨hturn, -⟩
          rw [Nat.mod_eq_of_lt hturn, if_pos hlead]
      · refine ⟨fun hmean => ?_, fun hturn => absurd hturn.2 hlt⟩
        -- the count is zero again, so this batch counts as the first one
        have hturn : r.accepted = 2 ^ 32 := le_antisymm h.bounded (not_lt.mp hlt)
        have hzero : r.service.acceptedFrames = 0 := by
          rw [h.counted, hturn]
          decide
        unfold ProductionVibrationService.observed at hmean
        rw [if_pos hzero] at hmean
        cases hmean

/-! ## Steps -/

/-- What a batch changes of the count and the reference.
SOURCE: vibration_service.cpp:144-168 -/
theorem drainBatch_counts (s : ProductionVibrationService ℚ) (nowUs : UInt32) (words : Batch) :
    (s.drainBatch exactRates nowUs (some words)).2.acquisitionReferenceUs =
        (if s.acceptedFrames = 0 then nowUs - exactRates.leadUs else s.acquisitionReferenceUs) ∧
      (s.drainBatch exactRates nowUs (some words)).2.acceptedFrames =
        if (s.drainBatch exactRates nowUs (some words)).1 then
          s.acceptedFrames + UInt32.ofNat kBatchFrames else s.acceptedFrames := by
  have hestimate : (s.estimate exactRates nowUs).acquisitionReferenceUs =
      (if s.acceptedFrames = 0 then nowUs - exactRates.leadUs else s.acquisitionReferenceUs) ∧
      (s.estimate exactRates nowUs).acceptedFrames = s.acceptedFrames := by
    unfold ProductionVibrationService.estimate
    split
    · exact ⟨rfl, rfl⟩
    · split
      · exact ⟨rfl, rfl⟩
      · split
        · exact ⟨rfl, rfl⟩
        · exact ⟨rfl, rfl⟩
  rw [drainBatch_read, ← hestimate.1, ← hestimate.2]
  unfold ProductionVibrationService.appendBatch
  dsimp only
  split
  · exact ⟨rfl, rfl⟩
  · exact ⟨rfl, rfl⟩

theorem IsTracked.drain {r : TimedService} (h : IsTracked r) {waitUs : ℕ} {words : Batch}
    (hturn : WithinTurn r (.drains waitUs (some words))) :
    IsTracked (r.drain (r.timeUs + waitUs) (some words)) := by
  obtain ⟨hreference, hcounted⟩ :=
    drainBatch_counts r.service (micros (r.timeUs + waitUs)) words
  have hbatch : kBatchFrames = 16 := rfl
  have hlt : r.accepted < 2 ^ 32 := by
    by_cases hpos : r.accepted = 0
    · omega
    · exact (hturn hpos).2
  constructor
  · unfold TimedService.drain
    dsimp only
    rw [hcounted, h.counted]
    split
    · rw [UInt32.ofNat_add]
    · rfl
  · unfold TimedService.drain
    dsimp only
    split
    · exact Nat.dvd_add h.whole (dvd_refl _)
    · exact h.whole
  · have hwhole := h.whole
    unfold TimedService.drain
    dsimp only
    rw [hbatch] at hwhole ⊢
    split
    · omega
    · omega
  · intro _
    unfold TimedService.drain
    dsimp only
    rw [hreference]
    by_cases hzero : r.accepted = 0
    · have hframes : r.service.acceptedFrames = 0 := by
        rw [h.counted, hzero]
        rfl
      rw [if_pos hzero, if_pos hframes]
      exact ⟨le_refl _, rfl⟩
    · obtain ⟨hle, hsame⟩ := h.reference hzero
      rw [if_neg hzero, if_neg (h.acceptedFrames_ne_zero hzero hlt)]
      exact ⟨by omega, hsame⟩

/-- The service is tracked until something comes round. -/
theorem IsTracked.next {r : TimedService} (h : IsTracked r) {e : TimedEvent}
    (hturn : WithinTurn r e) : IsTracked (r.next e) := by
  cases e with
  | drains waitUs read =>
    cases read with
    | some words => exact h.drain hturn
    | none =>
      refine ⟨h.counted, h.whole, h.bounded, fun (hpos : r.accepted ≠ 0) => ?_⟩
      have hreference := h.reference hpos
      show (if r.accepted = 0 then _ else _) ≤ _ ∧ _ = micros (if r.accepted = 0 then _ else _) - _
      rw [if_neg hpos]
      exact ⟨hreference.1.trans (Nat.le_add_right _ _), hreference.2⟩
  | acquires => exact ⟨h.counted, h.whole, h.bounded, h.reference⟩
  | releases bufferIndex => exact ⟨h.counted, h.whole, h.bounded, h.reference⟩

theorem isTracked_start (memory : VibrationDoubleBuffer) (timeUs : ℕ) :
    IsTracked (start memory timeUs) :=
  ⟨rfl, dvd_zero _, Nat.zero_le _, fun hpos => absurd rfl hpos⟩

/-! ## Runs -/

/-- What is observed all along a run are mean rates exactly if nothing comes round. -/
theorem throughout_observesMean (memory : VibrationDoubleBuffer) (timeUs : ℕ)
    (events : List TimedEvent) :
    Runs.Throughout TimedService.next ObservesMean (start memory timeUs) events ↔
      Runs.Throughout TimedService.next WithinTurn (start memory timeUs) events :=
  Runs.throughout_iff_throughout TimedService.next (isTracked_start memory timeUs)
    (fun _ _ h hturn => h.next hturn) (fun _ e h => h.observesMean_iff e)

/-- **When the estimate tracks the sensor.**  At every batch after the first the rate observed is the
mean rate since the acquisition reference, and the rate stays strictly between 350 and 500 Hz,
exactly if at every such batch neither the time since the reference nor the count of the accepted
frames has come round.
SOURCE: vibration_service.cpp:60-70, 144-168 -/
theorem rateTracked_iff (memory : VibrationDoubleBuffer) (timeUs : ℕ)
    (events : List TimedEvent) :
    Runs.Throughout TimedService.next ObservesMean (start memory timeUs) events ∧
        Runs.Always TimedService.next RateBetween (start memory timeUs) events ↔
      Runs.Throughout TimedService.next WithinTurn (start memory timeUs) events := by
  rw [throughout_observesMean]
  exact and_iff_left (rateBetween_after memory timeUs events)

/-- A batch of a sensor at rest after 40 milliseconds; what is ready is acquired and released. -/
def servedBatch : List TimedEvent :=
  [.drains 40000 (some restingBatch), .acquires, .releases 0, .releases 1]

def servedBatches (count : ℕ) : List TimedEvent := (List.replicate count servedBatch).flatten

theorem servedBatches_succ (count : ℕ) :
    servedBatches (count + 1) = servedBatches count ++ servedBatch := by
  unfold servedBatches
  rw [List.replicate_succ', List.flatten_concat]

/-- Later batches leave the time of the first. -/
theorem after_servedBatch {r : TimedService} (hpos : r.accepted ≠ 0) :
    (Runs.after TimedService.next r servedBatch).timeUs = r.timeUs + 40000 ∧
      (Runs.after TimedService.next r servedBatch).firstBatchUs = r.firstBatchUs ∧
      (Runs.after TimedService.next r servedBatch).accepted ≠ 0 := by
  refine ⟨rfl, if_neg hpos, ?_⟩
  show (if (r.service.drainBatch exactRates (micros (r.timeUs + 40000)) (some restingBatch)).1 then
    r.accepted + kBatchFrames else r.accepted) ≠ 0
  split
  · omega
  · exact hpos

theorem after_servedBatches (count : ℕ) :
    (Runs.after TimedService.next (start restingMemory 0)
        (servedBatches (count + 1))).timeUs = 40000 * (count + 1) ∧
      (Runs.after TimedService.next (start restingMemory 0)
        (servedBatches (count + 1))).firstBatchUs = 40000 ∧
      (Runs.after TimedService.next (start restingMemory 0)
        (servedBatches (count + 1))).accepted ≠ 0 := by
  induction count with
  | zero =>
    refine ⟨rfl, rfl, ?_⟩
    have htaken : (Model.Vibration.appendBatch (listed restingMemory.reset) restingBatch.val).1 =
        true := by decide +kernel
    show (if ((start restingMemory 0).service.drainBatch exactRates (micros (0 + 40000))
      (some restingBatch)).1 then 0 + kBatchFrames else 0) ≠ 0
    rw [drainBatch_taken, if_pos (by exact htaken)]
    decide
  | succ count ih =>
    obtain ⟨htime, hfirst, hpos⟩ := ih
    obtain ⟨htime', hfirst', hpos'⟩ := after_servedBatch hpos
    rw [servedBatches_succ (count + 1), Runs.after_append, htime', hfirst', htime, hfirst]
    exact ⟨by ring, rfl, hpos'⟩

/-- When the clock has come round, what is observed is not the mean rate. -/
theorem not_observesMean_servedBatches {count : ℕ}
    (h : 2 ^ 32 ≤ 40000 * (count + 1) + 37500) :
    ¬ Runs.Throughout TimedService.next ObservesMean (start restingMemory 0)
      (servedBatches (count + 2)) := by
  intro hmean
  have hturn := (throughout_observesMean restingMemory 0 (servedBatches (count + 2))).mp hmean
    (servedBatches (count + 1)) (.drains 40000 (some restingBatch))
    ⟨[.acquires, .releases 0, .releases 1], by
      rw [servedBatches_succ (count + 1), List.append_assoc]
      rfl⟩
  obtain ⟨htime, hfirst, hpos⟩ := after_servedBatches count
  have hlt := (hturn hpos).1
  unfold elapsedUs at hlt
  rw [htime, hfirst] at hlt
  have hlead : exactRates.leadUs.toNat = 37500 := by decide +kernel
  rw [hlead] at hlt
  omega

/-- After 72 minutes the rate observed is not the mean rate. -/
theorem not_rateTracked :
    ¬ (Runs.Throughout TimedService.next ObservesMean (start restingMemory 0)
        (servedBatches (107373 + 2)) ∧
      Runs.Always TimedService.next RateBetween (start restingMemory 0)
        (servedBatches (107373 + 2))) := by
  rintro ⟨hmean, -⟩
  exact not_observesMean_servedBatches (by norm_num) hmean

end TimedService

end VibrationTiming

end SeedMg24.Analysis
