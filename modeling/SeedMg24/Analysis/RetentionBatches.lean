import SeedMg24.Foundation.Runs
import SeedMg24.Model.TelemetryRetention

/-!
# What retention leaves behind

A call of the retention service deletes old windows first, and looks at the readings only when
there are none.  The loop takes a count below the batch size as a sign that nothing old is left:
this is wrong exactly when the call has deleted fewer windows than a batch and there are old
readings as well.
-/

set_option autoImplicit false

namespace SeedMg24.Analysis

open Foundation Foundation.Runs Model Model.TelemetryRetention

variable {service : TelemetryRetention} {tables : TelemetryTables} {now : ℤ} {days : ℕ}

/-- No row is older than a moment. -/
def NoneOlder (moment : ℤ) (tables : TelemetryTables) : Prop :=
  (∀ row ∈ tables.windows.rows, ¬ row.stamp < moment) ∧
    ∀ row ∈ tables.readings.rows, ¬ row.stamp < moment

/-- Every row from a moment on is kept. -/
def KeepsFrom (moment : ℤ) (before after : TelemetryTables) : Prop :=
  (∀ row ∈ before.windows.rows, ¬ row.stamp < moment → row ∈ after.windows.rows) ∧
    ∀ row ∈ before.readings.rows, ¬ row.stamp < moment → row ∈ after.readings.rows

/-- A call of the loop catches up: if the long sleep follows, no row older than its cutoff is left;
and it deletes no other row. -/
def CatchesUp (service : TelemetryRetention) (tables : TelemetryTables) : RetentionEvent → Prop
  | .cleanup now => ∀ days ∈ service.retentionDays,
      (service.sleepsLong (service.cleanupBatch now tables).1 →
        NoneOlder (cutoff now days) (service.cleanupBatch now tables).2) ∧
      KeepsFrom (cutoff now days) tables (service.cleanupBatch now tables).2
  | .elsewhere _ => True

/-- A call does not find both old readings and old windows, but fewer windows than a batch. -/
def NoPartialWindows (service : TelemetryRetention) (tables : TelemetryTables) :
    RetentionEvent → Prop
  | .cleanup now => ∀ days ∈ service.retentionDays,
      let old := isOlder (cutoff now days)
      ¬ (0 < tables.windows.count old ∧ tables.windows.count old < service.batchSize ∧
        0 < tables.readings.count old)
  | .elsewhere _ => True

/-! ## One call -/

/-- What a call deletes: old windows if there are any, else old readings. -/
theorem cleanupBatch_eq (hdays : service.retentionDays = some days) :
    service.cleanupBatch now tables =
      let old := isOlder (cutoff now days)
      if 0 < min service.batchSize (tables.windows.count old) then
        (min service.batchSize (tables.windows.count old), { tables with
          windows := tables.windows.delete (tables.windows.select old service.batchSize) })
      else
        (min service.batchSize (tables.readings.count old), { tables with
          readings := tables.readings.delete (tables.readings.select old service.batchSize) }) := by
  have hselect (t : Rows StampedRow StampedRow.id) (p : StampedRow → Bool) :
      t.select p service.batchSize = [] ↔ ¬ 0 < min service.batchSize (t.count p) := by
    rw [← List.length_eq_zero_iff, t.length_select]
    omega
  unfold TelemetryRetention.cleanupBatch
  rw [hdays]
  dsimp only
  by_cases hwindows : 0 < min service.batchSize (tables.windows.count (isOlder (cutoff now days)))
  · rw [if_pos hwindows, if_pos (mt (hselect _ _).mp (not_not.mpr hwindows)), Rows.length_select]
  · rw [if_neg hwindows, if_neg (not_not.mpr ((hselect _ _).mpr hwindows))]
    split
    · rename_i hreadings
      rw [hreadings, Rows.delete_nil, ← Rows.length_select, hreadings]
      rfl
    · rw [Rows.length_select]

/-- The long sleep follows exactly when the count is not the batch size. -/
theorem sleepsLong_iff (deleted : ℕ) :
    service.sleepsLong deleted ↔ deleted ≠ service.batchSize := by
  unfold TelemetryRetention.sleepsLong TelemetryRetention.sleepSeconds
  split
  · simp [*]
  · simp [*]

/-- Old rows are none exactly when their number is zero. -/
theorem count_isOlder_eq_zero_iff (t : Rows StampedRow StampedRow.id) (moment : ℤ) :
    t.count (isOlder moment) = 0 ↔ ∀ row ∈ t.rows, ¬ row.stamp < moment := by
  rw [Rows.count_eq_zero_iff]
  simp only [isOlder, decide_eq_false_iff_not]

/-- After a batch that was all there was, no old row is left. -/
theorem not_older_of_mem_delete {t : Rows StampedRow StampedRow.id} {moment : ℤ} {limit : ℕ}
    (h : t.count (isOlder moment) ≤ limit) :
    ∀ row ∈ (t.delete (t.select (isOlder moment) limit)).rows, ¬ row.stamp < moment := by
  intro row hrow
  have hnot := t.not_of_mem_delete_select _ _ h hrow
  simpa only [isOlder, decide_eq_false_iff_not] using hnot

/-- **No call deletes a row at or after its cutoff.** -/
theorem keepsFrom_cleanupBatch (hdays : service.retentionDays = some days) :
    KeepsFrom (cutoff now days) tables (service.cleanupBatch now tables).2 := by
  have hkept (t : Rows StampedRow StampedRow.id) (row : StampedRow) (hrow : row ∈ t.rows)
      (hnew : ¬ row.stamp < cutoff now days) :
      row ∈ (t.delete (t.select (isOlder (cutoff now days)) service.batchSize)).rows :=
    t.mem_delete_select _ _ hrow (by simpa only [isOlder, decide_eq_false_iff_not] using hnew)
  rw [cleanupBatch_eq hdays]
  dsimp only
  split
  · exact ⟨hkept tables.windows, fun row hrow _ => hrow⟩
  · exact ⟨fun row hrow _ => hrow, hkept tables.readings⟩

/-- Where the long sleep follows, nothing old is left, unless fewer windows than a batch were
deleted while there were old readings. -/
theorem noneOlder_iff (hdays : service.retentionDays = some days) :
    (service.sleepsLong (service.cleanupBatch now tables).1 →
      NoneOlder (cutoff now days) (service.cleanupBatch now tables).2) ↔
    ¬ (0 < tables.windows.count (isOlder (cutoff now days)) ∧
      tables.windows.count (isOlder (cutoff now days)) < service.batchSize ∧
      0 < tables.readings.count (isOlder (cutoff now days))) := by
  have hwindows := count_isOlder_eq_zero_iff tables.windows (cutoff now days)
  have hreadings := count_isOlder_eq_zero_iff tables.readings (cutoff now days)
  rw [cleanupBatch_eq hdays]
  dsimp only
  by_cases hany : 0 < min service.batchSize (tables.windows.count (isOlder (cutoff now days)))
  · rw [if_pos hany, sleepsLong_iff]
    dsimp only
    constructor
    · intro hlong ⟨_, hfew, hold⟩
      have hnone := (hlong (by omega)).2
      exact absurd (hreadings.mpr hnone) (by omega)
    · intro hfew hlong
      exact ⟨not_older_of_mem_delete (by omega), hreadings.mp (by omega)⟩
  · rw [if_neg hany, sleepsLong_iff]
    dsimp only
    refine iff_of_true (fun hlong => ?_) (by omega)
    exact ⟨hwindows.mp (by omega), not_older_of_mem_delete (by omega)⟩

/-- A call catches up exactly when it does not find both old readings and a partial batch of old
windows. -/
theorem catchesUp_iff (event : RetentionEvent) :
    CatchesUp service tables event ↔ NoPartialWindows service tables event := by
  cases event with
  | elsewhere => exact Iff.rfl
  | cleanup now =>
    refine forall_congr' fun days => forall_congr' fun hdays => ?_
    rw [noneOlder_iff hdays, and_iff_left (keepsFrom_cleanupBatch hdays)]

/-- **Retention catches up before every long sleep, and deletes no row from the cutoff on**, in a
run of the loop exactly when no call finds both old readings and old windows that are fewer than a
batch. -/
theorem catchesUp_throughout_iff (service : TelemetryRetention) (tables : TelemetryTables)
    (events : List RetentionEvent) :
    Throughout service.next (CatchesUp service) tables events ↔
      Throughout service.next (NoPartialWindows service) tables events := by
  constructor
  · intro h before e hbefore
    exact (catchesUp_iff e).mp (h before e hbefore)
  · intro h before e hbefore
    exact (catchesUp_iff e).mpr (h before e hbefore)

/-- One window and one reading, both a day too old. -/
def exampleTables : TelemetryTables where
  windows := ⟨[⟨1, 0⟩], by decide⟩
  readings := ⟨[⟨1, 0⟩], by decide⟩

/-- **A long sleep with an old reading left**: the call has deleted the one old window. -/
theorem not_catchesUp_exampleTables :
    ¬ ∀ service tables events, Throughout (TelemetryRetention.next service)
      (CatchesUp service) tables events := by
  intro h
  let service : TelemetryRetention := ⟨some 1, 100⟩
  have hcatches : CatchesUp service exampleTables (.cleanup (2 * day)) :=
    h service exampleTables [.cleanup (2 * day)] [] _ (List.prefix_refl _)
  have hnone := ((hcatches 1 rfl).1 ((sleepsLong_iff _).mpr (by decide))).2 ⟨1, 0⟩ (by decide)
  exact hnone (by decide)

end SeedMg24.Analysis
