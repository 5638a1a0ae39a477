import Mathlib.Tactic

/-!
# Times of a clock that wraps

A clock of 32 bits comes round after `2 ^ 32` ticks.  A time is ahead of another one when it is
reached from it in less than half a turn; times of which each is ahead of the one before do not
repeat within a turn.
-/

set_option autoImplicit false

namespace Foundation

namespace Clock

/-- A time is reached from another one in less than half a turn of the clock. -/
def Ahead (a b : UInt32) : Prop := 0 < (b - a).toNat ∧ (b - a).toNat < 2 ^ 31

instance (a b : UInt32) : Decidable (Ahead a b) := inferInstanceAs (Decidable (_ ∧ _))

/-- How many ticks pass from the first time to the last. -/
def span : List UInt32 → ℕ
  | a :: b :: rest => (b - a).toNat + span (b :: rest)
  | _ => 0

/-- Each time is ahead of the one before it, and within a turn of the clock none repeats. -/
structure Advances (times : List UInt32) : Prop where
  ahead : times.IsChain Ahead
  distinct : ∀ block, block <:+: times → span block < 2 ^ 32 → block.Nodup

/-- What a time is after so many ticks. -/
theorem ahead_add {a : UInt32} {ticks : UInt32} (hpos : 0 < ticks.toNat)
    (hlt : ticks.toNat < 2 ^ 31) : Ahead a (a + ticks) := by
  unfold Ahead
  rw [UInt32.add_comm, UInt32.add_sub_cancel]
  exact ⟨hpos, hlt⟩

/-- A later time of a block is reached in as many ticks as pass up to it. -/
theorem exists_ticks {a : UInt32} {rest : List UInt32} (h : (a :: rest).IsChain Ahead)
    {x : UInt32} (hx : x ∈ rest) :
    ∃ ticks : ℕ, 0 < ticks ∧ ticks ≤ span (a :: rest) ∧ x = a + UInt32.ofNat ticks := by
  induction rest generalizing a with
  | nil => cases hx
  | cons b rest ih =>
    obtain ⟨hfirst, hrest⟩ := List.isChain_cons_cons.mp h
    have hb : b = a + UInt32.ofNat (b - a).toNat := by
      rw [UInt32.ofNat_toNat, UInt32.add_comm, UInt32.sub_add_cancel]
    rcases List.mem_cons.mp hx with rfl | hlater
    · exact ⟨(x - a).toNat, hfirst.1, Nat.le_add_right _ _, hb⟩
    · obtain ⟨ticks, hpos, hle, rfl⟩ := ih hrest hlater
      refine ⟨(b - a).toNat + ticks, by omega, Nat.add_le_add_left hle _, ?_⟩
      rw [UInt32.ofNat_add, ← UInt32.add_assoc, ← hb]

/-- Times that are each ahead of the one before do not repeat within a turn. -/
theorem nodup_of_span_lt {block : List UInt32} (h : block.IsChain Ahead)
    (hspan : span block < 2 ^ 32) : block.Nodup := by
  induction block with
  | nil => exact List.nodup_nil
  | cons a rest ih =>
    have hrest : span rest < 2 ^ 32 := by
      cases rest with
      | nil => exact hspan
      | cons b rest => exact lt_of_le_of_lt (Nat.le_add_left _ _) hspan
    refine List.nodup_cons.mpr ⟨fun hmem => ?_, ih h.tail hrest⟩
    obtain ⟨ticks, hpos, hle, heq⟩ := exists_ticks h hmem
    have hzero : UInt32.ofNat ticks = 0 := by
      have hself : a + UInt32.ofNat ticks = a + 0 := by rw [← heq, UInt32.add_zero]
      exact (UInt32.add_right_inj a).mp hself
    have hnat := congrArg UInt32.toNat hzero
    rw [UInt32.toNat_ofNat_of_lt' (show ticks < UInt32.size by
      have hsize : UInt32.size = 2 ^ 32 := rfl
      omega)] at hnat
    exact hpos.ne' hnat

/-- Times advance when each is ahead of the one before. -/
theorem advances_iff {times : List UInt32} : Advances times ↔ times.IsChain Ahead := by
  refine ⟨fun h => h.ahead, fun h => ⟨h, fun block hblock hspan => ?_⟩⟩
  have hchain := h.infix hblock
  exact nodup_of_span_lt hchain hspan

/-- Times that follow one another at a fixed distance. -/
def evenly (start step : UInt32) (index count : ℕ) : List UInt32 :=
  (List.range' index count).map fun j => start + UInt32.ofNat j * step

theorem evenly_succ (start step : UInt32) (index count : ℕ) :
    evenly start step index (count + 1) =
      (start + UInt32.ofNat index * step) :: evenly start step (index + 1) count := by
  unfold evenly
  rw [List.range'_succ, List.map_cons]

/-- The next of evenly spaced times. -/
theorem evenly_next (start step : UInt32) (index : ℕ) :
    start + UInt32.ofNat (index + 1) * step = start + UInt32.ofNat index * step + step := by
  rw [UInt32.ofNat_add]
  show start + (UInt32.ofNat index + 1) * step = _
  rw [UInt32.add_mul, UInt32.one_mul, UInt32.add_assoc]

/-- Evenly spaced times are each ahead of the one before. -/
theorem isChain_evenly {step : UInt32} (hpos : 0 < step.toNat) (hlt : step.toNat < 2 ^ 31)
    (start : UInt32) (index count : ℕ) : (evenly start step index count).IsChain Ahead := by
  induction count generalizing index with
  | zero => exact List.isChain_nil
  | succ count ih =>
    rw [evenly_succ]
    cases count with
    | zero => exact List.isChain_singleton _
    | succ count =>
      rw [evenly_succ]
      refine List.isChain_cons_cons.mpr ⟨?_, ?_⟩
      · rw [evenly_next]
        exact ahead_add hpos hlt
      · rw [← evenly_succ]
        exact ih (index + 1)

/-- The last of evenly spaced times. -/
theorem getLast?_evenly (start step : UInt32) (index count : ℕ) :
    (evenly start step index (count + 1)).getLast? =
      some (start + UInt32.ofNat (index + count) * step) := by
  unfold evenly
  rw [List.getLast?_map, List.getLast?_range']
  simp

theorem head?_evenly (start step : UInt32) (count : ℕ) :
    (evenly start step 0 (count + 1)).head? = some start := by
  rw [evenly_succ, List.head?_cons]
  show some (start + 0 * step) = some start
  rw [UInt32.zero_mul, UInt32.add_zero]

end Clock

end Foundation
